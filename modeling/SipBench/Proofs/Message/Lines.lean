import Mathlib.Data.List.Infix
import SipBench.Message.Parser
import SipBench.Proofs.Text.Blank

/-!
# Lines that are written and read

Lines that are joined by line ends and followed by an empty line are found again: the empty line is
the first one, the lines between the line ends are those that were joined, and each continuation
goes to the line in front of it.

* `LineStyle` : the two styles of line ends, for characters and for octets
* `splitHead_intercalate` : the head and what follows it
* `headLines_intercalate` : the lines of the head
* `unfold_groups` : the unfolded lines
-/

namespace SipBench

/-- Carriage return and line feed. -/
def lineEnd : List Char := ['\r', '\n']

/-- The style in which the lines of a message end. -/
inductive LineStyle where
  | crlf
  | lf
  deriving DecidableEq

/-- The end of a line: carriage return and line feed, or a line feed alone. -/
def LineStyle.ending {α : Type} (cr lf : α) : LineStyle → List α
  | .crlf => [cr, lf]
  | .lf => [lf]

theorem ending_crlf : LineStyle.crlf.ending '\r' '\n' = lineEnd := rfl

/-- A line that can be written in a style: nothing in it can be taken for a part of a line end. -/
structure LineStyle.Fits {α : Type} (style : LineStyle) (cr lf : α) (line : List α) : Prop where
  no_lf : lf ∉ line
  no_cr : style = .lf → cr ∉ line

/-- A line of a text with both characters in every line end may hold carriage returns. -/
theorem fits_crlf {α : Type} {cr lf : α} {line : List α} (h : lf ∉ line) :
    LineStyle.crlf.Fits cr lf line :=
  ⟨h, nofun⟩

/-- A place at which no line ends. -/
structure NoLineEnd {α : Type} (cr lf : α) (cs : List α) : Prop where
  no_lf : ¬ [lf] <+: cs
  no_crlf : ¬ [cr, lf] <+: cs

theorem LineStyle.Fits.noLineEnd {α : Type} {cr lf : α} {style : LineStyle} (hcrlf : cr ≠ lf)
    {c : α} {cs : List α} (h : style.Fits cr lf (c :: cs)) (rest : List α) :
    NoLineEnd cr lf (c :: (cs ++ (style.ending cr lf ++ rest))) := by
  obtain ⟨hc, hcs⟩ := not_or.1 (mt List.mem_cons.2 h.no_lf)
  refine ⟨fun hbegins => hc (List.cons_prefix_cons.1 hbegins).1, fun hbegins => ?_⟩
  obtain ⟨hcr, hbegins⟩ := List.cons_prefix_cons.1 hbegins
  -- a carriage return at the end of the line is followed by the line end
  cases cs with
  | nil =>
    cases style with
    | crlf => exact hcrlf (List.cons_prefix_cons.1 hbegins).1.symm
    | lf => exact h.no_cr rfl (hcr ▸ List.mem_cons_self)
  | cons d cs =>
    have hd : lf = d := (List.cons_prefix_cons.1 hbegins).1
    exact hcs (hd ▸ List.mem_cons_self)

/-! ### The first empty line -/

section

variable {α : Type} [BEq α] {cr lf : α}

theorem splitHead_of_afterEmptyLine? {cs rest : List α}
    (h : afterEmptyLine? cr lf cs = some rest) : splitHead cr lf cs = ([], rest) := by
  cases cs with
  | nil => cases h
  | cons c cs => rw [splitHead, h]

theorem splitHead_cons {c : α} {cs : List α} (h : afterEmptyLine? cr lf (c :: cs) = none) :
    splitHead cr lf (c :: cs) = (c :: (splitHead cr lf cs).1, (splitHead cr lf cs).2) := by
  rw [splitHead, h]

/-- What stands before a place is passed over if no empty line begins in it. -/
theorem splitHead_append {before rest : List α}
    (h : ∀ c cs, c :: cs <:+ before → afterEmptyLine? cr lf (c :: (cs ++ rest)) = none) :
    splitHead cr lf (before ++ rest) =
      (before ++ (splitHead cr lf rest).1, (splitHead cr lf rest).2) := by
  induction before with
  | nil => rfl
  | cons c cs ih =>
    rw [List.cons_append, splitHead_cons (h c cs List.suffix_rfl),
      ih fun d ds hds => h d ds (hds.trans (List.suffix_cons c cs))]
    rfl

variable [LawfulBEq α] {style : LineStyle}

theorem afterEmptyLine?_eq_none_iff {cs : List α} :
    afterEmptyLine? cr lf cs = none ↔ ¬ [cr, lf, cr, lf] <+: cs ∧ ¬ [lf, lf] <+: cs := by
  rw [← List.isPrefixOf_iff_prefix, ← List.isPrefixOf_iff_prefix, afterEmptyLine?]
  split_ifs with h₁ h₂
  · simp [h₁]
  · simp [h₂]
  · simp [h₁, h₂]

theorem NoLineEnd.afterEmptyLine? {cs : List α} (h : NoLineEnd cr lf cs) :
    afterEmptyLine? cr lf cs = none := by
  refine afterEmptyLine?_eq_none_iff.2 ⟨fun hbegins => h.no_crlf ?_, fun hbegins => h.no_lf ?_⟩
  · exact (List.prefix_append [cr, lf] [cr, lf]).trans hbegins
  · exact (List.prefix_append [lf] [lf]).trans hbegins

theorem splitHead_line (hcrlf : cr ≠ lf) {line : List α} (h : style.Fits cr lf line)
    (rest : List α) :
    splitHead cr lf (line ++ (style.ending cr lf ++ rest)) =
      (line ++ (splitHead cr lf (style.ending cr lf ++ rest)).1,
        (splitHead cr lf (style.ending cr lf ++ rest)).2) := by
  refine splitHead_append fun c cs hsuffix => ?_
  have hfits : style.Fits cr lf (c :: cs) :=
    ⟨fun hmem => h.no_lf (hsuffix.subset hmem), fun hs hmem => h.no_cr hs (hsuffix.subset hmem)⟩
  exact (hfits.noLineEnd hcrlf rest).afterEmptyLine?

/-- A line end is no empty line if no other one follows. -/
theorem splitHead_ending (style : LineStyle) (hcrlf : cr ≠ lf) {rest : List α}
    (h : NoLineEnd cr lf rest) :
    splitHead cr lf (style.ending cr lf ++ rest) =
      (style.ending cr lf ++ (splitHead cr lf rest).1, (splitHead cr lf rest).2) := by
  have hlf : afterEmptyLine? cr lf (lf :: rest) = none := by
    refine afterEmptyLine?_eq_none_iff.2 ⟨fun hbegins => ?_, fun hbegins => ?_⟩
    · exact hcrlf (List.cons_prefix_cons.1 hbegins).1
    · exact h.no_lf (List.cons_prefix_cons.1 hbegins).2
  have hcr : afterEmptyLine? cr lf (cr :: lf :: rest) = none := by
    refine afterEmptyLine?_eq_none_iff.2 ⟨fun hbegins => h.no_crlf ?_, fun hbegins => ?_⟩
    · exact (List.cons_prefix_cons.1 (List.cons_prefix_cons.1 hbegins).2).2
    · exact hcrlf (List.cons_prefix_cons.1 hbegins).1.symm
  cases style with
  | crlf => exact (splitHead_cons hcr).trans (by rw [splitHead_cons hlf]; rfl)
  | lf => exact splitHead_cons hlf

theorem afterEmptyLine?_ending (hcrlf : cr ≠ lf) (rest : List α) :
    afterEmptyLine? cr lf (style.ending cr lf ++ (style.ending cr lf ++ rest)) = some rest := by
  cases style <;> simp [afterEmptyLine?, LineStyle.ending, hcrlf]

omit [BEq α] [LawfulBEq α] in
theorem intercalate_append_eq (ending line : List α) (lines : List (List α)) (rest : List α) :
    ∃ more, ending.intercalate (line :: lines) ++ (ending ++ rest) =
      line ++ (ending ++ more) := by
  cases lines with
  | nil => exact ⟨rest, by rw [List.intercalate_singleton]⟩
  | cons next lines =>
    refine ⟨ending.intercalate (next :: lines) ++ (ending ++ rest), ?_⟩
    rw [List.intercalate_cons_cons, List.append_assoc, List.append_assoc]

/-- Lines that are joined by line ends, an empty line and more are split into the lines and what
follows the empty line. -/
theorem splitHead_intercalate (hcrlf : cr ≠ lf) {lines : List (List α)} (hne : lines ≠ [])
    (h : ∀ line ∈ lines, line ≠ [] ∧ style.Fits cr lf line) (body : List α) :
    splitHead cr lf ((style.ending cr lf).intercalate lines ++
        (style.ending cr lf ++ (style.ending cr lf ++ body))) =
      ((style.ending cr lf).intercalate lines, body) := by
  induction lines with
  | nil => exact absurd rfl hne
  | cons line lines ih =>
    obtain ⟨-, hline⟩ := h line List.mem_cons_self
    cases lines with
    | nil =>
      rw [List.intercalate_singleton, splitHead_line hcrlf hline,
        splitHead_of_afterEmptyLine? (afterEmptyLine?_ending hcrlf body), List.append_nil]
    | cons next lines =>
      have hlines : ∀ line ∈ next :: lines, line ≠ [] ∧ style.Fits cr lf line := fun line hmem =>
        h line (List.mem_cons_of_mem _ hmem)
      obtain ⟨hnext, hfits⟩ := hlines next List.mem_cons_self
      obtain ⟨c, cs, rfl⟩ := List.exists_cons_of_ne_nil hnext
      -- the next line stands between this line end and the empty line
      obtain ⟨more, hmore⟩ := intercalate_append_eq (style.ending cr lf) (c :: cs) lines
        (style.ending cr lf ++ body)
      have hend := splitHead_ending style hcrlf (hfits.noLineEnd hcrlf more)
      rw [← List.cons_append, ← hmore, ih (by simp) hlines] at hend
      rw [List.intercalate_cons_cons, List.append_assoc, List.append_assoc,
        splitHead_line hcrlf hline, hend, List.append_assoc]

end

/-! ### The lines of a head -/

theorem joinLineEnds_cons {c : Char} {cs : List Char} (h : ¬ lineEnd <+: c :: cs) :
    joinLineEnds (c :: cs) = c :: joinLineEnds cs := by
  rw [joinLineEnds]
  rintro rest rfl rfl
  exact h ⟨rest, rfl⟩

theorem joinLineEnds_of_not_mem {line : List Char} (h : '\n' ∉ line) :
    joinLineEnds line = line := by
  induction line with
  | nil => rfl
  | cons c cs ih =>
    rw [joinLineEnds_cons, ih fun hmem => h (List.mem_cons_of_mem c hmem)]
    exact fun hbegins => h (hbegins.subset (by decide))

section

variable {style : LineStyle}

theorem joinLineEnds_line {line : List Char} (h : style.Fits '\r' '\n' line) (rest : List Char) :
    joinLineEnds (line ++ (style.ending '\r' '\n' ++ rest)) =
      line ++ '\n' :: joinLineEnds rest := by
  induction line with
  | nil => cases style <;> rfl
  | cons c cs ih =>
    have hcs : style.Fits '\r' '\n' cs := ⟨fun hmem => h.no_lf (List.mem_cons_of_mem c hmem),
      fun hs hmem => h.no_cr hs (List.mem_cons_of_mem c hmem)⟩
    rw [List.cons_append, joinLineEnds_cons (h.noLineEnd (by decide) rest).no_crlf, ih hcs,
      List.cons_append]

theorem headLines_of_not_mem {line : List Char} (h : '\n' ∉ line) : headLines line = [line] := by
  rw [headLines, joinLineEnds_of_not_mem h, Text.splitAt_of_not_mem h]

theorem headLines_line {line : List Char} (h : style.Fits '\r' '\n' line) (rest : List Char) :
    headLines (line ++ (style.ending '\r' '\n' ++ rest)) = line :: headLines rest := by
  rw [headLines, joinLineEnds_line h, Text.splitAt_append h.no_lf]
  rfl

theorem headLines_intercalate {lines : List (List Char)} (hne : lines ≠ [])
    (h : ∀ line ∈ lines, style.Fits '\r' '\n' line) :
    headLines ((style.ending '\r' '\n').intercalate lines) = lines := by
  induction lines with
  | nil => exact absurd rfl hne
  | cons line lines ih =>
    have hline := h line List.mem_cons_self
    cases lines with
    | nil => rw [List.intercalate_singleton, headLines_of_not_mem hline.no_lf]
    | cons next lines =>
      rw [List.intercalate_cons_cons, List.append_assoc, headLines_line hline]
      exact congrArg _ (ih (by simp) fun line hmem => h line (List.mem_cons_of_mem _ hmem))

end

theorem not_mem_of_mem_headLines {head line : List Char} (h : line ∈ headLines head) :
    '\n' ∉ line :=
  fun hmem => (Text.mem_of_mem_splitAt h hmem).2 rfl

/-! ### Unfolded lines -/

theorem addLine_eq_cons {line : List Char} (hne : line ≠ []) (h : isContinuation line = false)
    (unfolded : List (List Char)) : addLine unfolded line = line :: unfolded := by
  cases unfolded <;> simp [addLine, hne, h]

/-- A line with the lines that continue it: each adds a blank and what is left of it when it is
trimmed. -/
def joined (line : List Char) (more : List (List Char)) : List Char :=
  line ++ more.flatMap fun l => ' ' :: Text.trim l

theorem foldl_addLine_continuations {more : List (List Char)}
    (h : ∀ l ∈ more, isContinuation l = true) (line : List Char) (before : List (List Char)) :
    more.foldl addLine (line :: before) = joined line more :: before := by
  induction more generalizing line with
  | nil => simp [joined]
  | cons l more ih =>
    have hl : addLine (line :: before) l = (line ++ ' ' :: Text.trim l) :: before := by
      rw [addLine, if_pos (h l List.mem_cons_self)]
    rw [List.foldl_cons, hl, ih fun l hmem => h l (List.mem_cons_of_mem _ hmem)]
    simp [joined]

/-- Each continuation goes to the line in front of it. -/
theorem unfold_groups (groups : List (List Char × List (List Char)))
    (h : ∀ g ∈ groups, g.1 ≠ [] ∧ isContinuation g.1 = false ∧ ∀ l ∈ g.2, isContinuation l = true) :
    unfold (groups.flatMap fun g => g.1 :: g.2) = groups.map fun g => joined g.1 g.2 := by
  have hfold : ∀ unfolded, (groups.flatMap fun g => g.1 :: g.2).foldl addLine unfolded =
      (groups.map fun g => joined g.1 g.2).reverse ++ unfolded := by
    induction groups with
    | nil => exact fun _ => rfl
    | cons g groups ih =>
      intro unfolded
      obtain ⟨hne, hline, hmore⟩ := h g List.mem_cons_self
      rw [List.flatMap_cons, List.foldl_append, List.foldl_cons, addLine_eq_cons hne hline,
        foldl_addLine_continuations hmore, ih fun g hmem => h g (List.mem_cons_of_mem _ hmem),
        List.map_cons, List.reverse_cons, List.append_assoc, List.singleton_append]
  rw [unfold, hfold, List.append_nil, List.reverse_reverse]

theorem unfold_eq_self {lines : List (List Char)}
    (h : ∀ line ∈ lines, line ≠ [] ∧ isContinuation line = false) : unfold lines = lines := by
  have hgroups := unfold_groups (lines.map fun line => (line, [])) fun g hg => by
    obtain ⟨line, hmem, rfl⟩ := List.mem_map.1 hg
    exact ⟨(h line hmem).1, (h line hmem).2, by simp⟩
  simpa [List.flatMap_map, joined, Function.comp_def] using hgroups

theorem unfold_concat (lines : List (List Char)) (line : List Char) :
    unfold (lines ++ [line]) = (addLine (unfold lines).reverse line).reverse := by
  simp [unfold]

theorem unfold_concat_nil (lines : List (List Char)) : unfold (lines ++ [[]]) = unfold lines := by
  rw [unfold_concat]
  cases hlines : (unfold lines).reverse with
  | nil => simpa [addLine] using hlines.symm
  | cons last before => simpa [addLine, isContinuation] using (List.reverse_eq_iff.1 hlines).symm

theorem unfold_concat_own {lines : List (List Char)} {line : List Char} (hne : line ≠ [])
    (h : unfold lines = [] ∨ isContinuation line = false) :
    unfold (lines ++ [line]) = unfold lines ++ [line] := by
  rw [unfold_concat]
  rcases h with h | h
  · simp [h, addLine, hne]
  · rw [addLine_eq_cons hne h, List.reverse_cons, List.reverse_reverse]

theorem unfold_concat_continuation {lines before : List (List Char)} {last line : List Char}
    (hlines : unfold lines = before ++ [last]) (h : isContinuation line = true) :
    unfold (lines ++ [line]) = before ++ [last ++ ' ' :: Text.trim line] := by
  rw [unfold_concat, hlines]
  simp [addLine, h]

theorem unfold_concat_ne_nil (lines : List (List Char)) {line : List Char} (h : line ≠ []) :
    unfold (lines ++ [line]) ≠ [] := by
  rw [unfold_concat]
  cases (unfold lines).reverse with
  | nil => simp [addLine, h]
  | cons last before =>
    rw [addLine]
    split_ifs <;> simp

theorem isContinuation_append {line : List Char} (h : line ≠ []) (more : List Char) :
    isContinuation (line ++ more) = isContinuation line := by
  obtain ⟨c, cs, rfl⟩ := List.exists_cons_of_ne_nil h
  rfl

/-- Lines that follow change no unfolded line but the last one. -/
theorem isPrefix_unfold_append (lines more : List (List Char)) :
    (unfold lines).dropLast <+: unfold (lines ++ more) := by
  have hadd (unfolded : List (List Char)) (line : List Char) :
      unfolded.tail <:+ (addLine unfolded line).tail := by
    cases unfolded with
    | nil => exact List.nil_suffix
    | cons last before =>
      rw [addLine]
      split_ifs
      · exact List.suffix_rfl
      · exact List.suffix_rfl
      · exact List.suffix_cons last before
  have hfold : ∀ unfolded, unfolded.tail <:+ (more.foldl addLine unfolded).tail := by
    induction more with
    | nil => exact fun _ => List.suffix_rfl
    | cons line more ih => exact fun unfolded => (hadd unfolded line).trans (ih _)
  rw [unfold, unfold, List.foldl_append, List.dropLast_reverse, List.reverse_prefix]
  exact (hfold _).trans (List.tail_suffix _)

theorem not_mem_of_mem_addLine {unfolded : List (List Char)} {line : List Char}
    (hunfolded : ∀ l ∈ unfolded, '\n' ∉ l) (hline : '\n' ∉ line) :
    ∀ l ∈ addLine unfolded line, '\n' ∉ l := by
  have hcons : ∀ l ∈ line :: unfolded, '\n' ∉ l := List.forall_mem_cons.2 ⟨hline, hunfolded⟩
  cases unfolded with
  | nil =>
    rw [addLine]
    split_ifs
    · exact hunfolded
    · exact hcons
  | cons last before =>
    rw [addLine]
    split_ifs
    · obtain ⟨hlast, hbefore⟩ := List.forall_mem_cons.1 hunfolded
      refine List.forall_mem_cons.2 ⟨fun hmem => ?_, hbefore⟩
      obtain hmem | hmem := List.mem_append.1 hmem
      · exact hlast hmem
      · exact hline (Text.mem_of_mem_trim (List.mem_of_ne_of_mem (by decide) hmem))
    · exact hunfolded
    · exact hcons

theorem not_mem_of_mem_unfold {lines : List (List Char)} (h : ∀ line ∈ lines, '\n' ∉ line) :
    ∀ line ∈ unfold lines, '\n' ∉ line := by
  have hfold : ∀ unfolded, (∀ line ∈ unfolded, '\n' ∉ line) →
      ∀ line ∈ lines.foldl addLine unfolded, '\n' ∉ line := by
    induction lines with
    | nil => exact fun _ hunfolded => hunfolded
    | cons line lines ih =>
      intro unfolded hunfolded
      rw [List.foldl_cons]
      exact ih (fun line hmem => h line (List.mem_cons_of_mem _ hmem)) _
        (not_mem_of_mem_addLine hunfolded (h line List.mem_cons_self))
  exact fun line hmem => hfold [] (by simp) line (List.mem_reverse.1 hmem)

end SipBench
