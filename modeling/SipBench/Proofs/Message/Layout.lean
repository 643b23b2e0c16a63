import SipBench.Proofs.Message.Draft
import SipBench.Proofs.Message.Length

/-!
# How a header is written

Every header of a message that was read from a text stands somewhere in that text: its name, with
white space around it and perhaps folded, a colon, and the segments of its value, the first one
behind the colon and each other one behind a line end and a blank.

* `Segments`, `Layout` : the value of a header and all that is around its segments
* `exists_group` : the lines that an unfolded line comes from
* `Message.exists_layout` : the layout of a header
-/

namespace SipBench

/-- The value of a header as it is written: what stands behind the colon and what stands on each
continuation. -/
structure Segments where
  first : List Char
  more : List (List Char)

/-- The words of a value. -/
def Segments.words (v : Segments) : List (List Char) :=
  Text.words v.first ++ v.more.flatMap Text.words

/-- A text around the segments of a header value. -/
structure Layout where
  /-- The lines above. -/
  above : List Char
  /-- The name with the white space around it. -/
  name : List Char
  /-- The line ends and the blank in front of each continuation. -/
  folds : List (List Char)
  /-- What follows the last segment. -/
  below : List Char

/-- Continuations, each with what is in front of it. -/
def continued (folds more : List (List Char)) : List Char := (folds.zipWith (· ++ ·) more).flatten

@[simp]
theorem continued_cons (fold segment : List Char) (folds more : List (List Char)) :
    continued (fold :: folds) (segment :: more) = fold ++ (segment ++ continued folds more) := by
  simp [continued]

/-- The text with a value in its place. -/
def Layout.text (l : Layout) (v : Segments) : List Char :=
  l.above ++ (l.name ++ ':' :: (v.first ++ (continued l.folds v.more ++ l.below)))

/-- Line ends and a blank, in front of a continuation. -/
def IsFold (fold : List Char) : Prop :=
  ∃ ends blank, fold = ends ++ ['\n', blank] ∧ (∀ c ∈ ends, c = '\r' ∨ c = '\n') ∧
    (blank = ' ' ∨ blank = '\t')

/-- A layout in which a header can be read: no other colon comes first, and each continuation is
one. -/
structure Layout.IsHeader (l : Layout) : Prop where
  colon : ':' ∉ l.name
  folds : ∀ fold ∈ l.folds, IsFold fold

/-- The name and the value of a header in its layout, word for word. -/
structure Layout.Spells (l : Layout) (v : Segments) (name value : List Char) : Prop where
  header : l.IsHeader
  length : v.more.length = l.folds.length
  clear : ∀ segment ∈ v.first :: v.more, '\n' ∉ segment
  name : Text.words l.name = Text.words name
  value : v.words = Text.words value

/-- A value with as many segments as there are places, each on one line. -/
structure Layout.Fits (l : Layout) (v : Segments) : Prop where
  length : v.more.length = l.folds.length
  first : IsOneLine v.first
  more : ∀ segment ∈ v.more, IsOneLine segment

/-! ### The lines of a text -/

/-- Lines, each behind a line end. -/
def written (lines : List (LineStyle × List Char)) : List Char :=
  lines.flatMap fun (style, line) => style.ending '\r' '\n' ++ line

theorem written_append (lines more : List (LineStyle × List Char)) :
    written (lines ++ more) = written lines ++ written more :=
  List.flatMap_append

theorem written_cons (style : LineStyle) (line : List Char) (more : List (LineStyle × List Char)) :
    written ((style, line) :: more) = style.ending '\r' '\n' ++ line ++ written more :=
  List.flatMap_cons

/-- Every text is made up of its lines and of line ends in front of all but the first. -/
theorem exists_written (cs : List Char) :
    ∃ first lines, cs = first ++ written lines ∧ headLines cs = first :: lines.map Prod.snd := by
  unfold headLines
  fun_induction joinLineEnds cs with
  | case1 cs ih =>
    obtain ⟨first, lines, rfl, hlines⟩ := ih
    refine ⟨[], (.crlf, first) :: lines, ?_, ?_⟩
    · rw [written_cons]
      rfl
    · rw [Text.splitAt, if_pos rfl, hlines]
      rfl
  | case2 c cs hend ih =>
    obtain ⟨first, lines, rfl, hlines⟩ := ih
    by_cases hc : c = '\n'
    · subst hc
      refine ⟨[], (.lf, first) :: lines, ?_, ?_⟩
      · rw [written_cons]
        rfl
      · rw [Text.splitAt, if_pos rfl, hlines]
        rfl
    · refine ⟨c :: first, lines, rfl, ?_⟩
      rw [Text.splitAt, if_neg hc, hlines]
  | case3 => exact ⟨[], [], rfl, rfl⟩

/-! ### The lines of an unfolded line -/

/-- Where an unfolded line comes from: a line and the continuations after it, with empty lines
between them, and the lines after those. -/
def IsGroup (lines : List (LineStyle × List Char)) (unfolded : List Char)
    (after : List (LineStyle × List Char)) : Prop :=
  ∃ before style line group, lines = before ++ (style, line) :: (group ++ after) ∧
    (∀ l ∈ group, l.2 = [] ∨ isContinuation l.2 = true) ∧
    unfolded = joined line ((group.map Prod.snd).filter isContinuation)

section

variable {lines after : List (LineStyle × List Char)} {unfolded : List Char}

theorem IsGroup.extend (h : IsGroup lines unfolded after) (l : LineStyle × List Char) :
    IsGroup (lines ++ [l]) unfolded (after ++ [l]) := by
  obtain ⟨before, style, line, group, rfl, hgroup, rfl⟩ := h
  exact ⟨before, style, line, group, by simp, hgroup, rfl⟩

theorem isGroup_line (lines : List (LineStyle × List Char)) (l : LineStyle × List Char) :
    IsGroup (lines ++ [l]) l.2 [] :=
  ⟨lines, l.1, l.2, [], by simp, by simp, by simp [joined]⟩

theorem IsGroup.continue (h : IsGroup lines unfolded []) {l : LineStyle × List Char}
    (hl : isContinuation l.2 = true) :
    IsGroup (lines ++ [l]) (unfolded ++ ' ' :: Text.trim l.2) [] := by
  obtain ⟨before, style, line, group, rfl, hgroup, rfl⟩ := h
  refine ⟨before, style, line, group ++ [l], by simp, ?_, by simp [joined, hl]⟩
  exact List.forall_mem_append.2 ⟨hgroup, List.forall_mem_singleton.2 (.inr hl)⟩

theorem IsGroup.skip (h : IsGroup lines unfolded []) {l : LineStyle × List Char} (hl : l.2 = []) :
    IsGroup (lines ++ [l]) unfolded [] := by
  obtain ⟨before, style, line, group, rfl, hgroup, rfl⟩ := h
  refine ⟨before, style, line, group ++ [l], by simp, ?_, by simp [hl, isContinuation]⟩
  exact List.forall_mem_append.2 ⟨hgroup, List.forall_mem_singleton.2 (.inl hl)⟩

/-- Adding a line completes the groups of all unfolded lines but the last one. -/
theorem isGroup_addLine {acc : List (List Char)} (hacc : ∀ u ∈ acc, ∃ after, IsGroup lines u after)
    (hlast : ∀ u ∈ acc.head?, IsGroup lines u []) (l : LineStyle × List Char) :
    (∀ u ∈ addLine acc l.2, ∃ after, IsGroup (lines ++ [l]) u after) ∧
      ∀ u ∈ (addLine acc l.2).head?, IsGroup (lines ++ [l]) u [] := by
  have hextend : ∀ u ∈ acc, ∃ after, IsGroup (lines ++ [l]) u after := fun u hu =>
    (hacc u hu).imp' (· ++ [l]) fun _ h => h.extend l
  have hnew : ∀ u ∈ l.2 :: acc, ∃ after, IsGroup (lines ++ [l]) u after :=
    List.forall_mem_cons.2 ⟨⟨[], isGroup_line lines l⟩, hextend⟩
  cases acc with
  | nil =>
    rw [addLine]
    split_ifs
    · exact ⟨by simp, by simp⟩
    · exact ⟨hnew, by rintro _ ⟨⟩; exact isGroup_line lines l⟩
  | cons last before =>
    obtain ⟨-, hbefore⟩ := List.forall_mem_cons.1 hextend
    have hlast := hlast last rfl
    rw [addLine]
    split_ifs with hcontinues hempty
    · have hmore := hlast.continue hcontinues
      exact ⟨List.forall_mem_cons.2 ⟨⟨[], hmore⟩, hbefore⟩, by rintro _ ⟨⟩; exact hmore⟩
    · have hskip := hlast.skip (List.isEmpty_iff.1 hempty)
      exact ⟨hextend, by rintro _ ⟨⟩; exact hskip⟩
    · exact ⟨hnew, by rintro _ ⟨⟩; exact isGroup_line lines l⟩

theorem exists_group (h : unfolded ∈ unfold (lines.map Prod.snd)) :
    ∃ after, IsGroup lines unfolded after := by
  have hfold : (∀ u ∈ (lines.map Prod.snd).foldl addLine [], ∃ after, IsGroup lines u after) ∧
      ∀ u ∈ ((lines.map Prod.snd).foldl addLine []).head?, IsGroup lines u [] := by
    clear h
    induction lines using List.reverseRecOn with
    | nil => exact ⟨by simp, by simp⟩
    | append_singleton lines l ih =>
      rw [List.map_append, List.foldl_append]
      exact isGroup_addLine ih.1 ih.2 l
  exact hfold.1 unfolded (List.mem_reverse.1 h)

end

/-! ### Continuations -/

theorem isBlank_of_continues {c : Char} (hc : c = ' ' ∨ c = '\t') : Text.isBlank c = true := by
  obtain rfl | rfl := hc
  · decide
  · decide

theorem mem_ending (style : LineStyle) :
    ∀ c ∈ style.ending '\r' '\n', c = '\r' ∨ c = '\n' := by
  cases style with
  | crlf => simp [LineStyle.ending]
  | lf => simp [LineStyle.ending]

theorem isFold_ending (style : LineStyle) {c : Char} (hc : c = ' ' ∨ c = '\t') :
    IsFold (style.ending '\r' '\n' ++ [c]) := by
  cases style with
  | crlf => exact ⟨['\r'], c, rfl, List.forall_mem_singleton.2 (.inl rfl), hc⟩
  | lf => exact ⟨[], c, rfl, nofun, hc⟩

theorem IsFold.ending {fold : List Char} (h : IsFold fold) (style : LineStyle) :
    IsFold (style.ending '\r' '\n' ++ fold) := by
  obtain ⟨ends, blank, rfl, hends, hblank⟩ := h
  refine ⟨style.ending '\r' '\n' ++ ends, blank, by simp, ?_, hblank⟩
  exact List.forall_mem_append.2 ⟨mem_ending style, hends⟩

theorem IsFold.ne_nil {fold : List Char} (h : IsFold fold) : fold ≠ [] := by
  obtain ⟨ends, blank, rfl, -⟩ := h
  simp

theorem IsFold.isBlank {fold : List Char} (h : IsFold fold) :
    ∀ c ∈ fold, Text.isBlank c = true := by
  obtain ⟨ends, blank, rfl, hends, hblank⟩ := h
  refine List.forall_mem_append.2 ⟨fun c hc => ?_, List.forall_mem_cons.2
    ⟨by decide, List.forall_mem_singleton.2 (isBlank_of_continues hblank)⟩⟩
  obtain rfl | rfl := hends c hc
  · decide
  · decide

/-- The lines of a group behind the first one are continuations, and empty lines after the last
of them. -/
theorem exists_continued {group : List (LineStyle × List Char)}
    (h : ∀ l ∈ group, l.2 = [] ∨ isContinuation l.2 = true) (hclear : ∀ l ∈ group, '\n' ∉ l.2) :
    ∃ folds more below, written group = continued folds more ++ below ∧
      more.length = folds.length ∧ (∀ fold ∈ folds, IsFold fold) ∧ (∀ s ∈ more, '\n' ∉ s) ∧
      ((group.map Prod.snd).filter isContinuation).map Text.trim = more.map Text.trim := by
  induction group with
  | nil => exact ⟨[], [], [], rfl, rfl, nofun, nofun, rfl⟩
  | cons l group ih =>
    obtain ⟨hl, hgroup⟩ := List.forall_mem_cons.1 h
    obtain ⟨hlclear, hgclear⟩ := List.forall_mem_cons.1 hclear
    obtain ⟨folds, more, below, hwritten, hlength, hfolds, hmore, htrim⟩ := ih hgroup hgclear
    obtain ⟨style, line⟩ := l
    cases line with
    | nil =>
      have htrim' : (((style, []) :: group).map Prod.snd).filter isContinuation =
          (group.map Prod.snd).filter isContinuation := rfl
      rw [written_cons, hwritten, htrim', htrim, List.append_nil]
      -- the end of an empty line goes to the continuation that follows
      cases folds with
      | nil =>
        obtain rfl := List.length_eq_zero_iff.1 hlength
        exact ⟨[], [], _, rfl, rfl, nofun, nofun, rfl⟩
      | cons fold folds =>
        obtain ⟨segment, more, rfl⟩ := List.exists_cons_of_length_eq_add_one hlength
        obtain ⟨hfold, hfolds⟩ := List.forall_mem_cons.1 hfolds
        exact ⟨(style.ending '\r' '\n' ++ fold) :: folds, segment :: more, below,
          by simp, hlength, List.forall_mem_cons.2 ⟨hfold.ending style, hfolds⟩, hmore,
          rfl⟩
    | cons c segment =>
      have hcontinues : isContinuation (c :: segment) = true := hl.resolve_left (by simp)
      have hc : c = ' ' ∨ c = '\t' := by simpa [isContinuation] using hcontinues
      refine ⟨(style.ending '\r' '\n' ++ [c]) :: folds, segment :: more, below, ?_, ?_, ?_, ?_, ?_⟩
      · rw [written_cons, hwritten]
        simp
      · rw [List.length_cons, List.length_cons, hlength]
      · exact List.forall_mem_cons.2 ⟨isFold_ending style hc, hfolds⟩
      · exact List.forall_mem_cons.2 ⟨fun hmem => hlclear (List.mem_cons_of_mem c hmem), hmore⟩
      · rw [List.map_cons, List.filter_cons_of_pos hcontinues, List.map_cons, List.map_cons, htrim,
          Text.trim_cons_blank (isBlank_of_continues hc)]

/-! ### The name and the value -/

theorem joined_cons (line next : List Char) (more : List (List Char)) :
    joined line (next :: more) = line ++ ' ' :: joined (Text.trim next) more := by
  simp [joined]

theorem joined_congr {more other : List (List Char)}
    (h : more.map Text.trim = other.map Text.trim) (line : List Char) :
    joined line more = joined line other := by
  have hflat (more : List (List Char)) : (more.flatMap fun l => ' ' :: Text.trim l) =
      (more.map Text.trim).flatMap (' ' :: ·) := by rw [List.flatMap_map]
  rw [joined, joined, hflat, hflat, h]

theorem words_joined (line : List Char) (more : List (List Char)) :
    Text.words (joined line more) = Text.words line ++ more.flatMap Text.words := by
  induction more generalizing line with
  | nil => simp [joined]
  | cons next more ih =>
    rw [joined_cons, Text.words_append_cons (by decide), ih, Text.words_trim, List.flatMap_cons]

section

variable {line first name value : List Char} {folds more : List (List Char)}

theorem spells_of_mem (hcolon : ':' ∈ line) (hline : Text.Padded line first)
    (hlength : more.length = folds.length) (hfolds : ∀ fold ∈ folds, IsFold fold)
    (hclear : ∀ s ∈ first :: more, '\n' ∉ s)
    (hjoined : joined line more = name ++ ':' :: value) (hname : ':' ∉ name)
    (above below : List Char) :
    ∃ (l : Layout) (v : Segments), l.above = above ∧ l.Spells v name value ∧
      l.text v = above ++ (first ++ (continued folds more ++ below)) := by
  obtain ⟨a, b, rfl, ha⟩ := List.eq_append_cons_of_mem hcolon
  obtain ⟨a', b', rfl, hpada, hpadb⟩ := hline.split
  have hcut : joined (a ++ ':' :: b) more = a ++ ':' :: joined b more := by simp [joined]
  obtain ⟨rfl, rfl⟩ := Text.append_separator_inj ha hname (hcut ▸ hjoined)
  obtain ⟨hfirst, hmore⟩ := List.forall_mem_cons.1 hclear
  have hb' : '\n' ∉ b' := fun hmem =>
    hfirst (List.mem_append_right a' (List.mem_cons_of_mem ':' hmem))
  refine ⟨⟨above, a', folds, below⟩, ⟨b', more⟩, rfl,
    ⟨⟨hpada.not_mem (by decide) ha, hfolds⟩, hlength, List.forall_mem_cons.2 ⟨hb', hmore⟩,
      hpada.words_eq, ?_⟩, by simp [Layout.text]⟩
  rw [Segments.words, words_joined, hpadb.words_eq]

/-- Where an unfolded line has its first colon, so has what it comes from. -/
theorem exists_spells (hline : Text.Padded line first)
    (hlength : more.length = folds.length) (hfolds : ∀ fold ∈ folds, IsFold fold)
    (hclear : ∀ s ∈ first :: more, '\n' ∉ s)
    (hjoined : joined line more = name ++ ':' :: value) (hname : ':' ∉ name)
    (above below : List Char) :
    ∃ (l : Layout) (v : Segments), l.above = above ∧ l.Spells v name value ∧
      l.text v = above ++ (first ++ (continued folds more ++ below)) := by
  induction more generalizing line first folds name above with
  | nil =>
    have hself : joined line [] = line := by simp [joined]
    have hcolon : ':' ∈ line := by
      rw [← hself, hjoined]
      exact List.mem_append_right name List.mem_cons_self
    exact spells_of_mem hcolon hline hlength hfolds hclear hjoined hname above below
  | cons segment more ih =>
    by_cases hcolon : ':' ∈ line
    · exact spells_of_mem hcolon hline hlength hfolds hclear hjoined hname above below
    obtain ⟨fold, folds, rfl⟩ := List.exists_cons_of_length_eq_add_one hlength.symm
    obtain ⟨hfold, hrest⟩ := List.forall_mem_cons.1 hfolds
    -- the colon is on a continuation, so what stands before it belongs to the name
    rw [joined_cons] at hjoined
    have hmem : ':' ∈ joined (Text.trim segment) more := by
      have hall : ':' ∈ line ++ ' ' :: joined (Text.trim segment) more := by
        rw [hjoined]
        exact List.mem_append_right name List.mem_cons_self
      exact List.mem_of_ne_of_mem (by decide) ((List.mem_append.1 hall).resolve_left hcolon)
    obtain ⟨name', value', hsplit, hname'⟩ := List.eq_append_cons_of_mem hmem
    have hline' : ':' ∉ line ++ ' ' :: name' := by simp [hcolon, hname']
    rw [hsplit, ← List.cons_append, ← List.append_assoc] at hjoined
    obtain ⟨rfl, rfl⟩ := Text.append_separator_inj hline' hname hjoined
    obtain ⟨l, v, habove, hspells, htext⟩ := ih (Text.padded_trim segment) (Nat.succ.inj hlength)
      hrest (List.forall_mem_cons.1 hclear).2 hsplit hname' above
    have hfoldcolon : ':' ∉ fold := fun hmem => absurd (hfold.isBlank _ hmem) (by decide)
    refine ⟨{ l with name := first ++ (fold ++ l.name) }, v, habove,
      ⟨⟨?_, hspells.header.folds⟩, hspells.length, hspells.clear, ?_, hspells.value⟩, ?_⟩
    · simp [hline.not_mem (by decide) hcolon, hfoldcolon, hspells.header.colon]
    · rw [Text.words_append_blanks hfold.ne_nil hfold.isBlank, hline.words_eq, hspells.name,
        Text.words_append_cons (by decide)]
    · rw [Layout.text, habove, List.append_cancel_left_eq] at htext
      simp [Layout.text, habove, htext]

end

/-! ### Headers of a message -/

theorem RawMessage.exists_head (s : String) :
    ∃ above below, s.toList = above ++ ((text s).split.1 ++ below) := by
  have hcut := cutAtEmptyLine_splitHead (by decide : '\r' ≠ '\n')
    (s.toList.dropWhile fun c => c == '\r' || c == '\n')
  have hall := s.toList.takeWhile_append_dropWhile (p := fun c => c == '\r' || c == '\n')
  cases hcut with
  | found style h _ => exact ⟨_, _, by rw [← hall, h]; rfl⟩
  | missing h _ _ => exact ⟨_, [], by rw [← hall, List.append_nil, h]; rfl⟩

namespace Message

variable {s : String} {source : Value} {m : Message}

/-- **Every header of a message stands in its text**, word for word, on a line below another one and
on the continuations that follow. -/
theorem exists_layout (hparse : parse (.text s) source = .ok m) {h : Header}
    (hmem : h ∈ m.headers) :
    ∃ (l : Layout) (v : Segments) (name : List Char), ['\n'] <:+ l.above ∧ s.toList = l.text v ∧
      l.Spells v name h.value.toList ∧ h.name = canonicalName (String.ofList name) := by
  obtain ⟨-, hheaders, -⟩ := parse_eq_ok_iff.1 hparse
  obtain ⟨start, lines, hhead, hlines⟩ := exists_written (RawMessage.text s).split.1
  obtain ⟨unfolded, hunfolded, hread⟩ := exists_of_mem_mapM hheaders hmem
  rw [hlines, List.tail_cons] at hunfolded
  obtain ⟨after, before, style, line, group, rfl, hgroup, rfl⟩ := exists_group hunfolded
  obtain ⟨name, value, hjoined, hcolon, -, hname, hvalue⟩ := Header.parse_eq_ok hread
  have hclear : ∀ l ∈ (style, line) :: group, '\n' ∉ l.2 := by
    intro l hl
    refine not_mem_of_mem_headLines (hlines ▸ List.mem_cons_of_mem start ?_)
    refine List.mem_map_of_mem (List.mem_append_right before ?_)
    exact List.mem_append_left after hl
  obtain ⟨hline, hgroupclear⟩ := List.forall_mem_cons.1 hclear
  obtain ⟨folds, more, below, hwritten, hlength, hfolds, hmore, htrim⟩ :=
    exists_continued hgroup hgroupclear
  rw [joined_congr htrim] at hjoined
  obtain ⟨above, rest, hs⟩ := RawMessage.exists_head s
  obtain ⟨l, v, habove, hspells, htext⟩ := exists_spells (.refl line) hlength hfolds
    (List.forall_mem_cons.2 ⟨hline, hmore⟩) hjoined hcolon
    (above ++ (start ++ (written before ++ style.ending '\r' '\n')))
    (below ++ (written after ++ rest))
  refine ⟨l, v, name, ?_, ?_, ?_, hname⟩
  · rw [habove]
    cases style with
    | crlf => exact ⟨above ++ (start ++ (written before ++ ['\r'])), by simp [LineStyle.ending]⟩
    | lf => exact ⟨above ++ (start ++ written before), by simp [LineStyle.ending]⟩
  · rw [hs, hhead, htext, written_append, written_cons, written_append, hwritten]
    simp
  · rw [hvalue, String.toList_ofList]
    exact { hspells with value := by rw [hspells.value, Text.words_trim] }

end Message

end SipBench
