import SipBench.Proofs.Log.CredentialName
import SipBench.Proofs.Message.Layout

/-!
# Folded credentials

The value of a header is masked on the line of its name, and only where the colon follows the name
at once.  A reader of messages also takes white space before the colon and continuations, and there
the value shows.

* `Layout.IsCredential` : the header of a credential in a text
* `Redaction.exists_maskAll_quote` : a quote keeps the parameters before and after it apart
* `Redaction.redactChars_text_iff` : the layouts in which the value leaves no trace
* `Redaction.logged_credential` : the credentials of a message in a log
-/

namespace SipBench

namespace Redaction

/-! ### Quotes -/

theorem quote_not_mem : ∀ word ∈ parameterNames, Text.foldLetter '"' ∉ word.toList := by decide

theorem exists_of_append_quote {rest tail more : List Char} (hne : rest ≠ ['='])
    (h : rest ++ '"' :: tail = '=' :: '"' :: more) : ∃ value, rest = '=' :: '"' :: value := by
  match rest with
  | [] => simp at h
  | [c] => simp_all
  | c :: d :: value =>
    simp only [List.cons_append, List.cons.injEq] at h
    exact ⟨value, by rw [h.1, h.2.1]⟩

/-- What follows a quote without an equals sign in front has no part in which value is found before
it, and the value ends there at the latest. -/
theorem findParameter_append_quote {cs : List Char} (h : cs.getLast? ≠ some '=') :
    ∃ found : Option Mask, (∀ tail, findParameter (cs ++ '"' :: tail) = found) ∧
      ∀ mask ∈ found, mask.size ≤ cs.length + 1 := by
  have hcut (tail : List Char) := cutWord?_append fun word hword =>
    afterWord?_append_cons (quote_not_mem word hword) cs tail
  cases hword : cutWord? parameterNames cs with
  | none => exact ⟨none, fun tail => by rw [findParameter, hcut, hword]; rfl, nofun⟩
  | some cut =>
    obtain ⟨name, rest⟩ := cut
    have hcs : name ++ rest = cs := cutWord?_eq_some hword
    have hfind (tail : List Char) : cutWord? parameterNames (cs ++ '"' :: tail) =
        some (name, rest ++ '"' :: tail) := by
      rw [hcut, hword]
      rfl
    by_cases hvalue : ∃ value, rest = '=' :: '"' :: value
    · obtain ⟨value, rfl⟩ := hvalue
      have hle := (List.takeWhile_prefix (l := value) (· != '"')).length_le
      refine ⟨some ⟨name ++ parameterMask, name.length + 3 + (value.takeWhile (· != '"')).length⟩,
        fun tail => ?_, ?_⟩
      · have hstop : (value ++ '"' :: tail).takeWhile (· != '"') = value.takeWhile (· != '"') :=
          Text.takeWhile_append_stop (by simp) value tail
        have hclosed : (value.takeWhile (· != '"')).length < (value ++ '"' :: tail).length := by
          rw [List.length_append, List.length_cons]
          omega
        rw [findParameter, hfind]
        simp only [List.cons_append, hstop, if_pos hclosed]
      · rintro mask ⟨⟩
        simp only [← hcs, List.length_append, List.length_cons]
        omega
    · have hequals : rest ≠ ['='] := fun heq => h (by rw [← hcs, heq]; simp)
      refine ⟨none, fun tail => ?_, nofun⟩
      rw [findParameter, hfind]
      split
      · rename_i heq
        exact absurd (exists_of_append_quote hequals (Prod.mk.inj (Option.some.inj heq)).2) hvalue
      · rfl

/-- A quote that no equals sign precedes keeps the parts before and after it apart. -/
theorem exists_maskAll_quote {cs : List Char} (h : cs.getLast? ≠ some '=') {skip : ℕ}
    (hskip : skip ≤ cs.length + 1) (afterWord : Bool) :
    ∃ masked, ∀ tail, maskAll findParameter skip afterWord (cs ++ '"' :: tail) =
      masked ++ maskAll findParameter 0 false tail := by
  have hword : Text.isWord '"' = false := by decide
  induction cs generalizing skip afterWord with
  | nil =>
    match skip with
    | 0 =>
      refine ⟨['"'], fun tail => ?_⟩
      have hnone : findParameter ('"' :: tail) = none := rfl
      simp only [List.nil_append, maskAll, hnone, ite_self, hword, List.singleton_append]
    | 1 => exact ⟨[], fun tail => by rw [List.nil_append, maskAll, hword]; rfl⟩
  | cons c cs ih =>
    have hrest : cs.getLast? ≠ some '=' := fun hlast => h (by rw [List.getLast?_cons, hlast]; rfl)
    cases skip with
    | succ skip => exact ih hrest (Nat.le_of_succ_le_succ hskip) _
    | zero =>
      obtain ⟨found, hfound, hsize⟩ := findParameter_append_quote h
      simp only [List.cons_append] at hfound
      cases hmask : if afterWord then none else found with
      | none =>
        obtain ⟨masked, hmasked⟩ := ih hrest (Nat.zero_le _) (Text.isWord c)
        refine ⟨c :: masked, fun tail => ?_⟩
        simp only [List.cons_append, maskAll, hfound, hmask, hmasked]
      | some mask =>
        have hle : mask.size ≤ (c :: cs).length + 1 := by
          refine hsize mask ?_
          split_ifs at hmask
          exact hmask
        obtain ⟨masked, hmasked⟩ := ih hrest (Nat.sub_le_of_le_add hle) (Text.isWord c)
        refine ⟨mask.written ++ masked, fun tail => ?_⟩
        simp only [List.cons_append, maskAll, hfound, hmask, hmasked, List.append_assoc]

/-! ### What shows -/

/-- Text in which no header is found stays as it is, up to a quote. -/
theorem maskAll_of_findHeader {line rest : List Char}
    (h : ∀ c cs, c :: cs <:+ line → findHeader (c :: (cs ++ '"' :: rest)) = none)
    (afterWord : Bool) :
    maskAll findHeader 0 afterWord (line ++ '"' :: rest) =
      line ++ '"' :: maskAll findHeader 0 false rest := by
  induction line generalizing afterWord with
  | nil =>
    have hnone : findHeader ('"' :: rest) = none := rfl
    have hword : Text.isWord '"' = false := by decide
    simp only [List.nil_append, maskAll, hnone, ite_self, hword]
  | cons c line ih =>
    have hnone := h c line List.suffix_rfl
    have hline := ih (fun d cs hcs => h d cs (hcs.trans (List.suffix_cons c line))) (Text.isWord c)
    simp only [List.cons_append, maskAll, hnone, ite_self, hline]

/-- What follows a quote shows if no header is found before the quote on its line. -/
theorem redactChars_ne {above line below : List Char} (hline : line.getLast? ≠ some '=')
    (h : ∀ c cs, c :: cs <:+ line → ∀ rest, findHeader (c :: (cs ++ '"' :: rest)) = none) :
    redactChars (above ++ '\n' :: (line ++ '"' :: '<' :: below)) ≠
      redactChars (above ++ '\n' :: (line ++ '"' :: '>' :: below)) := by
  have hheaders (rest : List Char) :
      maskAll findHeader 0 false (above ++ '\n' :: (line ++ '"' :: rest)) =
        (maskAll findHeader 0 false above ++ '\n' :: line) ++
          '"' :: maskAll findHeader 0 false rest := by
    rw [maskAll_append_line (by decide) (Nat.zero_le _),
      maskAll_of_findHeader (fun c cs hcs => h c cs hcs rest), List.append_assoc, List.cons_append]
  have hlast : (maskAll findHeader 0 false above ++ '\n' :: line).getLast? ≠ some '=' := by
    rw [List.getLast?_append, List.getLast?_cons]
    cases hl : line.getLast? with
    | none => simp
    | some c => simpa [hl] using hline
  obtain ⟨masked, hmasked⟩ := exists_maskAll_quote hlast (Nat.zero_le _) false
  intro heq
  rw [redactChars, redactChars, hheaders, hheaders, hmasked, hmasked] at heq
  have hshown := (List.cons.inj (List.append_cancel_left heq)).1
  exact absurd hshown (by decide)

/-! ### The name of a header before white space -/

/-- If the text up to the first colon is found to be a name, its letters are those of the name. -/
theorem map_of_afterWord? {letters cs rest more : List Char} (hletters : ':' ∉ letters)
    (hcs : ':' ∉ cs) (h : afterWord? (letters ++ [':']) (cs ++ ':' :: rest) = some more) :
    cs.map Text.foldLetter = letters := by
  induction letters generalizing cs with
  | nil =>
    cases cs with
    | nil => rfl
    | cons c cs =>
      simp only [List.nil_append, List.cons_append, afterWord?] at h
      split_ifs at h with hc
      exact absurd (Text.eq_colon_of_foldLetter hc ▸ List.mem_cons_self) hcs
  | cons w letters ih =>
    obtain ⟨hw, hletters⟩ := not_or.1 (mt List.mem_cons.2 hletters)
    cases cs with
    | nil =>
      simp only [List.nil_append, List.cons_append, afterWord?] at h
      split_ifs at h with hc
      exact absurd hc hw
    | cons c cs =>
      obtain ⟨-, hcs⟩ := not_or.1 (mt List.mem_cons.2 hcs)
      simp only [List.cons_append, afterWord?] at h
      split_ifs at h with hc
      rw [List.map_cons, hc, ih hletters hcs h]

theorem findHeader_of_blank {cs : List Char} (hcs : ':' ∉ cs)
    (hlast : ∀ c ∈ cs.getLast?, Text.isBlank c = true) (rest : List Char) :
    findHeader (cs ++ ':' :: rest) = none := by
  refine Option.map_eq_none_iff.2 (List.findSome?_eq_none_iff.2 fun word hword => ?_)
  refine Option.map_eq_none_iff.2 (Option.eq_none_iff_forall_not_mem.2 fun more hmore => ?_)
  obtain ⟨letters, hletters, hcolon⟩ := headerNames_colon word hword
  rw [hcolon] at hmore
  have hmap := map_of_afterWord? hletters hcs hmore
  have hn : (cs.map Text.foldLetter).getLast? = some 'n' := by
    have hnames : ∀ word ∈ headerNames, word.toList.dropLast.getLast? = some 'n' := by decide
    have hword := hnames word hword
    rwa [hcolon, List.dropLast_concat, ← hmap] at hword
  rw [List.getLast?_map, Option.map_eq_some_iff] at hn
  obtain ⟨c, hc, hfold⟩ := hn
  have hblank := hlast c hc
  rw [Text.foldLetter_of_isBlank hblank] at hfold
  exact absurd (hfold ▸ hblank) (by decide)

end Redaction

/-! ### Layouts -/

/-- The layout of a credential: the name begins a line and is stored under the canonical name of a
header with credentials. -/
structure Layout.IsCredential (l : Layout) : Prop extends l.IsHeader where
  above : ['\n'] <:+ l.above
  credential : canonicalName (String.ofList l.name) ∈ credentialNames

/-- The layout in a longer text. -/
def Layout.within (l : Layout) (before after : List Char) : Layout :=
  ⟨before ++ l.above, l.name, l.folds, l.below ++ after⟩

namespace Layout

variable {l : Layout}

theorem text_within (l : Layout) (before after : List Char) (v : Segments) :
    (l.within before after).text v = before ++ (l.text v ++ after) := by
  simp [text, within]

theorem fits_within (before after : List Char) {v : Segments} :
    (l.within before after).Fits v ↔ l.Fits v :=
  ⟨fun h => ⟨h.length, h.first, h.more⟩, fun h => ⟨h.length, h.first, h.more⟩⟩

theorem IsCredential.within (h : l.IsCredential) (before after : List Char) :
    (l.within before after).IsCredential where
  colon := h.colon
  folds := h.folds
  above := h.above.trans (List.suffix_append before l.above)
  credential := h.credential

end Layout

namespace Redaction

variable {l : Layout}

/-- In front of the name of a credential is the end of a line, or white space. -/
theorem exists_name (hl : l.IsCredential) (hname : Text.trimEnd l.name = l.name) :
    ∃ before name, l.above ++ l.name = before ++ name ∧ IsHeaderName name ∧
      ∀ c ∈ before.getLast?, Text.isWord c = false := by
  obtain ⟨before, after, hpadded, hbefore, hafter⟩ := Text.padded_trim l.name
  have hnil : after = [] := by
    obtain hnil | ⟨after, c, rfl⟩ := List.eq_nil_or_concat after
    · exact hnil
    · have hlast : l.name.getLast? = some c := by
        rw [hpadded, List.concat_eq_append, ← List.append_assoc, ← List.append_assoc]
        exact List.getLast?_concat
      have hblank := hafter c (by simp)
      rw [Text.trimEnd_eq_self_iff.1 hname c hlast] at hblank
      cases hblank
  rw [hnil, List.append_nil] at hpadded
  refine ⟨l.above ++ before, Text.trim l.name, ?_, isHeaderName_trim hl.credential,
    fun c hc => Text.isWord_of_isBlank ?_⟩
  · rw [List.append_assoc, ← hpadded]
  · obtain ⟨lines, habove⟩ := hl.above
    rw [List.getLast?_append, ← habove, List.getLast?_concat] at hc
    cases hlast : before.getLast? with
    | none =>
      rw [hlast] at hc
      cases hc
      decide
    | some d =>
      rw [hlast] at hc
      cases hc
      exact hbefore c (List.mem_of_getLast? hlast)

theorem isLineEnd_eq_false {cs : List Char} (h : IsOneLine cs) : ∀ c ∈ cs, isLineEnd c = false := by
  intro c hc
  obtain ⟨hcr, hlf⟩ := h c hc
  simp [isLineEnd, hcr, hlf]

/-- On the line of its name, behind the colon, the value leaves no trace. -/
theorem redactChars_text (hl : l.IsCredential) (hname : Text.trimEnd l.name = l.name)
    (hfolds : l.folds = []) {v w : Segments} (hv : l.Fits v) (hw : l.Fits w) :
    redactChars (l.text v) = redactChars (l.text w) := by
  obtain ⟨before, name, hsplit, hheader, hbefore⟩ := exists_name hl hname
  -- the value reaches to the end of its line
  have hrest : ∀ c ∈ (l.below.dropWhile (!isLineEnd ·)).head?, isLineEnd c = true := by
    intro c hc
    have hstop := List.head?_dropWhile_not (!isLineEnd ·) l.below
    rw [Option.mem_def.1 hc] at hstop
    simpa using hstop
  have hmask {u : Segments} (hu : l.Fits u) : maskAll findHeader 0 false (l.text u) =
      maskAll findHeader 0 false
        (before ++ (name ++ [':']) ++ l.below.dropWhile (!isLineEnd ·)) := by
    have htext : l.text u = before ++ (name ++ [':']) ++
        (u.first ++ l.below.takeWhile (!isLineEnd ·)) ++ l.below.dropWhile (!isLineEnd ·) := by
      rw [Layout.text, ← List.append_assoc l.above, hsplit, hfolds]
      simp [continued]
    rw [htext]
    refine maskAll_header hbefore hheader (List.forall_mem_append.2
      ⟨isLineEnd_eq_false hu.first, fun c hc => ?_⟩) hrest
    simpa using List.mem_takeWhile_imp hc
  rw [redactChars, redactChars, hmask hv, hmask hw]

theorem isOneLine_quote {c : Char} (hc : c ≠ '\r' ∧ c ≠ '\n') : IsOneLine ['"', c] :=
  .cons (by decide) (.cons hc nofun)

theorem isOneLine_of_replicate (n : ℕ) : ∀ segment ∈ List.replicate n [], IsOneLine segment := by
  intro segment hsegment
  rw [(List.mem_replicate.1 hsegment).2]
  exact nofun

theorem exists_ne_of_fold (hl : l.IsCredential) (h : l.folds ≠ []) :
    ∃ v w, l.Fits v ∧ l.Fits w ∧ redactChars (l.text v) ≠ redactChars (l.text w) := by
  obtain ⟨fold, folds, hfolds⟩ := List.exists_cons_of_ne_nil h
  obtain ⟨ends, blank, hfold, -, hblank⟩ := hl.folds fold (hfolds ▸ List.mem_cons_self)
  let value (c : Char) : Segments := ⟨[], ['"', c] :: List.replicate folds.length []⟩
  have hfits {c : Char} (hc : c ≠ '\r' ∧ c ≠ '\n') : l.Fits (value c) :=
    ⟨by simp [value, hfolds], nofun,
      List.forall_mem_cons.2 ⟨isOneLine_quote hc, isOneLine_of_replicate _⟩⟩
  have htext (c : Char) : l.text (value c) =
      (l.above ++ (l.name ++ ':' :: ends)) ++ '\n' :: ([blank] ++ '"' :: c ::
        (continued folds (List.replicate folds.length []) ++ l.below)) := by
    simp [Layout.text, value, hfolds, hfold]
  refine ⟨value '<', value '>', hfits (by decide), hfits (by decide), ?_⟩
  rw [htext, htext]
  refine redactChars_ne ?_ fun c cs hsuffix rest => ?_
  · obtain rfl | rfl := hblank
    · decide
    · decide
  · obtain h | h := List.suffix_cons_iff.1 hsuffix
    · obtain ⟨rfl, rfl⟩ := List.cons.inj h
      -- no name begins with a blank
      obtain rfl | rfl := hblank
      · rfl
      · rfl
    · cases List.suffix_nil.1 h

theorem exists_ne_of_blank (hl : l.IsCredential) (h : Text.trimEnd l.name ≠ l.name) :
    ∃ v w, l.Fits v ∧ l.Fits w ∧ redactChars (l.text v) ≠ redactChars (l.text w) := by
  obtain ⟨lines, habove⟩ := hl.above
  have hlast : ∀ c ∈ l.name.getLast?, Text.isBlank c = true := by
    intro c hc
    by_contra hblank
    refine h (Text.trimEnd_eq_self_iff.2 fun d hd => ?_)
    rwa [Option.mem_unique hd hc, Bool.eq_false_iff]
  let value (c : Char) : Segments := ⟨['"', c], List.replicate l.folds.length []⟩
  have hfits {c : Char} (hc : c ≠ '\r' ∧ c ≠ '\n') : l.Fits (value c) :=
    ⟨by simp [value], isOneLine_quote hc, isOneLine_of_replicate _⟩
  have htext (c : Char) : l.text (value c) =
      lines ++ '\n' :: ((l.name ++ [':']) ++ '"' :: c ::
        (continued l.folds (List.replicate l.folds.length []) ++ l.below)) := by
    simp [Layout.text, value, ← habove]
  refine ⟨value '<', value '>', hfits (by decide), hfits (by decide), ?_⟩
  rw [htext, htext]
  refine redactChars_ne (by simp) fun c cs hsuffix rest => ?_
  obtain h | ⟨name, h, hname⟩ := List.suffix_concat_iff.1 hsuffix
  · cases h
  · rw [← List.cons_append, h, List.append_assoc]
    refine findHeader_of_blank (fun hmem => hl.colon (hname.subset hmem)) (fun d hd => ?_) _
    obtain ⟨before, hbefore⟩ := hname
    refine hlast d ?_
    rw [← hbefore, List.getLast?_append, Option.mem_def.1 hd]
    rfl

/-- Values leave no trace if the colon follows the name at once and nothing is folded, and in no
other layout. -/
theorem redactChars_text_iff (hl : l.IsCredential) {v : Segments} (hv : l.Fits v) :
    (∀ w, l.Fits w → redactChars (l.text w) = redactChars (l.text v)) ↔
      Text.trimEnd l.name = l.name ∧ l.folds = [] := by
  refine ⟨fun h => ?_, fun ⟨hname, hfolds⟩ w hw => redactChars_text hl hname hfolds hw hv⟩
  have hshown : ¬ ∃ v w, l.Fits v ∧ l.Fits w ∧ redactChars (l.text v) ≠ redactChars (l.text w) :=
    fun ⟨u, w, hu, hw, hne⟩ => hne ((h u hu).trans (h w hw).symm)
  exact ⟨by_contra fun hname => hshown (exists_ne_of_blank hl hname),
    by_contra fun hfolds => hshown (exists_ne_of_fold hl hfolds)⟩

/-! ### Log entries -/

theorem write_testEntry (text : String) :
    LogFormat.write { redact := false } (testEntry text) = .ok text := by
  have hwrite : LogFormat.write { redact := false } (testEntry text) =
      .ok (String.ofList (Placeholder.pad ⟨[], 0, none, 's'⟩ text.toList ++ [])) := by
    with_unfolding_all rfl
  have hpad : Placeholder.pad ⟨[], 0, none, 's'⟩ text.toList = text.toList := by
    simp [Placeholder.pad]
  rw [hwrite, hpad, List.append_nil, String.ofList_toList]

theorem write_testEntry_masked (text : String) :
    LogFormat.write {} (testEntry text) = .ok (redact text) :=
  @write_of_plain {} rfl (testEntry text) text (write_testEntry text)

theorem redact_eq_redact_iff {s t : String} :
    redact s = redact t ↔ redactChars s.toList = redactChars t.toList :=
  String.ofList_inj

/-- With redaction, the log does not tell which one of two texts an entry holds. -/
def LogAlike (cs ds : List Char) : Prop :=
  ∀ (f : LogFormat) (e e' : RawEntry), f.redact = true →
    LogFormat.write { f with redact := false } e = .ok (String.ofList cs) →
    LogFormat.write { f with redact := false } e' = .ok (String.ofList ds) → f.write e = f.write e'

theorem logAlike_iff {cs ds : List Char} : LogAlike cs ds ↔ redactChars cs = redactChars ds := by
  constructor
  · intro h
    have hwritten := h {} (testEntry (String.ofList cs)) (testEntry (String.ofList ds)) rfl
      (write_testEntry _) (write_testEntry _)
    rw [write_testEntry_masked, write_testEntry_masked] at hwritten
    simpa only [String.toList_ofList] using redact_eq_redact_iff.1 (Except.ok.inj hwritten)
  · intro h f e e' hf he he'
    rw [write_of_plain hf he, write_of_plain hf he', redact_eq_redact_iff.2]
    rwa [String.toList_ofList, String.toList_ofList]

/-- **Which credentials survive in a log.**  Every header of a message with the name of a credential
stands in the text of the message, its value on the line of the name and on any number of
continuations.  Whatever is logged around the text, the log does not depend on the segments of the
value exactly if the colon follows the name at once and the value has no continuation. -/
theorem logged_credential {s : String} {source : Value} {m : Message}
    (hparse : Message.parse (.text s) source = .ok m) :
    (∀ h ∈ m.headers, h.name ∈ credentialNames → ∃ (l : Layout) (v : Segments),
      l.IsCredential ∧ s.toList = l.text v ∧ canonicalName (String.ofList l.name) = h.name ∧
        l.Spells v l.name h.value.toList) ∧
    ∀ (l : Layout) (v : Segments), l.IsCredential → l.Fits v → s.toList = l.text v →
      ∀ before after : List Char,
        (∀ w, l.Fits w →
          LogAlike (before ++ (l.text w ++ after)) (before ++ (s.toList ++ after))) ↔
        Text.trimEnd l.name = l.name ∧ l.folds = [] := by
  refine ⟨fun h hmem hname => ?_, fun l v hl hv hs before after => ?_⟩
  · obtain ⟨l, v, name, habove, hs, hspells, hcanonical⟩ := Message.exists_layout hparse hmem
    have hwritten : canonicalName (String.ofList l.name) = h.name :=
      (canonicalName_of_words hspells.name (hcanonical ▸ hname)).trans hcanonical.symm
    have hcredential : canonicalName (String.ofList l.name) ∈ credentialNames := by
      rwa [hwritten]
    exact ⟨l, v, ⟨hspells.header, habove, hcredential⟩, hs, hwritten, { hspells with name := rfl }⟩
  · have hiff := redactChars_text_iff (hl.within before after)
      ((Layout.fits_within before after).2 hv)
    simp only [Layout.text_within, Layout.fits_within] at hiff
    simp only [hs, logAlike_iff]
    exact hiff

/-- A request around the value of its credential. -/
def registration : Layout where
  above := "REGISTER sip:a SIP/2.0\r\n".toList
  name := "Authorization".toList
  folds := []
  below := "\r\n\r\n".toList

theorem isCredential_registration : registration.IsCredential where
  colon := by decide
  folds := nofun
  above := ⟨"REGISTER sip:a SIP/2.0\r".toList, by decide⟩
  credential := by decide

def plainRegistration : String := "REGISTER sip:a SIP/2.0\r\nAuthorization: Digest x\r\n\r\n"

/-- A request whose credential stands on the line of its name. -/
theorem logged_credential_registration : ∃ m : Message,
    Message.parse (.text plainRegistration) .none = .ok m ∧
    m.headers = [⟨"Authorization", "Digest x"⟩] ∧
    ∀ value, IsOneLine value →
      LogAlike (registration.text ⟨value, []⟩) plainRegistration.toList := by
  have hparse : Message.parse (.text plainRegistration) .none =
      .ok ⟨.request "REGISTER" "sip:a", [⟨"Authorization", "Digest x"⟩], [], .none⟩ := by
    with_unfolding_all rfl
  have hfits {value : List Char} (h : IsOneLine value) : registration.Fits ⟨value, []⟩ :=
    ⟨rfl, h, nofun⟩
  have hlog := (logged_credential hparse).2 registration ⟨" Digest x".toList, []⟩
    isCredential_registration (hfits (by decide)) (by decide) [] []
  refine ⟨_, hparse, rfl, fun value hvalue => ?_⟩
  simpa using hlog.2 (by decide) ⟨value, []⟩ (hfits hvalue)

/-- The same request with the value continued. -/
def continuedRegistration : Layout := { registration with folds := ["\r\n ".toList] }

/-- A value with a user on its continuation. -/
def digestOf (user : String) : Segments := ⟨" Digest".toList, [user.toList]⟩

def registrationOfAlice : String :=
  "REGISTER sip:a SIP/2.0\r\nAuthorization: Digest\r\n alice\r\n\r\n"

def registrationOfBob : String :=
  "REGISTER sip:a SIP/2.0\r\nAuthorization: Digest\r\n bob\r\n\r\n"

/-- A continued value shows: two requests that differ in it alone are logged differently. -/
theorem logged_credential_continued :
    registrationOfAlice.toList = continuedRegistration.text (digestOf "alice") ∧
    registrationOfBob.toList = continuedRegistration.text (digestOf "bob") ∧
    Message.parse (.text registrationOfAlice) .none =
      .ok ⟨.request "REGISTER" "sip:a", [⟨"Authorization", "Digest alice"⟩], [], .none⟩ ∧
    Message.parse (.text registrationOfBob) .none =
      .ok ⟨.request "REGISTER" "sip:a", [⟨"Authorization", "Digest bob"⟩], [], .none⟩ ∧
    LogFormat.write {} (testEntry registrationOfAlice) ≠
      LogFormat.write {} (testEntry registrationOfBob) := by
  refine ⟨by decide, by decide, ?_, ?_, ?_⟩
  · with_unfolding_all rfl
  · with_unfolding_all rfl
  · rw [write_testEntry_masked, write_testEntry_masked]
    have hne : redactChars registrationOfAlice.toList ≠ redactChars registrationOfBob.toList := by
      decide +kernel
    exact fun heq => hne (redact_eq_redact_iff.1 (Except.ok.inj heq))

end Redaction

end SipBench
