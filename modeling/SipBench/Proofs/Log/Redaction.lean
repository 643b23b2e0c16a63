import Mathlib.Data.List.Induction
import SipBench.Log.Template
import SipBench.Proofs.Text.Blank

/-!
# Masked credentials

The lines of a text are masked one by one, and what stands behind the name of an authorization
header leaves no trace in its line.  The parameters are masked only afterwards, so that they cannot
bring it back.

* `Redaction.maskAll_append_line` : the lines of a text
* `Redaction.maskAll_header` : the line of a header
* `Redaction.redact_credentials` : two credentials give the same masked text
-/

namespace SipBench.Redaction

/-! ### Words at the beginning of a text -/

section

variable {word cs rest : List Char}

theorem afterWord?_eq_some (h : afterWord? word cs = some rest) :
    word.length ≤ cs.length ∧ cs.drop word.length = rest := by
  induction word generalizing cs with
  | nil =>
    cases h
    exact ⟨Nat.zero_le _, rfl⟩
  | cons w word ih =>
    cases cs with
    | nil => cases h
    | cons c cs =>
      rw [afterWord?] at h
      split_ifs at h
      obtain ⟨hlength, hdrop⟩ := ih h
      exact ⟨Nat.succ_le_succ hlength, hdrop⟩

/-- A character that is in no spelling of a word ends the search for it. -/
theorem afterWord?_append_cons {c : Char} (hc : Text.foldLetter c ∉ word) (cs rest : List Char) :
    afterWord? word (cs ++ c :: rest) = (afterWord? word cs).map (· ++ c :: rest) := by
  induction word generalizing cs with
  | nil => rfl
  | cons w word ih =>
    obtain ⟨hne, hword⟩ := not_or.1 (mt List.mem_cons.2 hc)
    cases cs with
    | nil => exact if_neg hne
    | cons d cs =>
      rw [List.cons_append, afterWord?, afterWord?]
      split_ifs
      · exact ih hword cs
      · rfl

/-- So does a colon, for a word with no other one than at its end. -/
theorem afterWord?_append_of_colon (hword : ':' ∉ word) (hcs : ':' ∈ cs) (rest : List Char) :
    afterWord? (word ++ [':']) (cs ++ rest) =
      (afterWord? (word ++ [':']) cs).map (· ++ rest) := by
  induction word generalizing cs with
  | nil =>
    obtain ⟨c, cs, rfl⟩ := List.exists_cons_of_ne_nil (List.ne_nil_of_mem hcs)
    simp only [List.nil_append, List.cons_append, afterWord?]
    split_ifs <;> rfl
  | cons w word ih =>
    obtain ⟨hne, hword⟩ := not_or.1 (mt List.mem_cons.2 hword)
    obtain ⟨c, cs, rfl⟩ := List.exists_cons_of_ne_nil (List.ne_nil_of_mem hcs)
    simp only [List.cons_append, afterWord?]
    split_ifs with hc
    · -- the colon is no character of the word, so it comes later
      refine ih hword ((List.mem_cons.1 hcs).resolve_left ?_)
      rintro rfl
      exact hne hc
    · rfl

variable {words : List String}

theorem cutWord?_eq_some {name : List Char} (h : cutWord? words cs = some (name, rest)) :
    name ++ rest = cs := by
  obtain ⟨word, -, hcut⟩ := List.exists_of_findSome?_eq_some h
  obtain ⟨more, hmore, hpair⟩ := Option.map_eq_some_iff.1 hcut
  obtain ⟨rfl, rfl⟩ := Prod.mk.inj hpair
  rw [← (afterWord?_eq_some hmore).2, String.length_toList, List.take_append_drop]

/-- If what follows has no part in whether a text begins with one of some words, it has none in
which of them it is. -/
theorem cutWord?_append (h : ∀ word ∈ words,
      afterWord? word.toList (cs ++ rest) = (afterWord? word.toList cs).map (· ++ rest)) :
    cutWord? words (cs ++ rest) =
      (cutWord? words cs).map fun (name, more) => (name, more ++ rest) := by
  unfold cutWord?
  induction words with
  | nil => rfl
  | cons word words ih =>
    obtain ⟨hword, hwords⟩ := List.forall_mem_cons.1 h
    rw [List.findSome?_cons, List.findSome?_cons, hword]
    cases hmore : afterWord? word.toList cs with
    | none => exact ih hwords
    | some more =>
      have hlength := (afterWord?_eq_some hmore).1
      rw [String.length_toList] at hlength
      simp only [Option.map_some, List.take_append_of_le_length hlength]

end

/-! ### The lines of a text -/

theorem foldLetter_not_mem {c : Char} (hc : isLineEnd c = true) :
    ∀ word ∈ headerNames, Text.foldLetter c ∉ word.toList := by
  obtain h | h := Bool.or_eq_true_iff.1 hc
  · rw [eq_of_beq h]
    decide
  · rw [eq_of_beq h]
    decide

theorem findHeader_append_line {c : Char} (hc : isLineEnd c = true) (cs rest : List Char) :
    findHeader (cs ++ c :: rest) = findHeader cs := by
  have hcut := cutWord?_append fun word hword =>
    afterWord?_append_cons (foldLetter_not_mem hc word hword) cs rest
  rw [findHeader, findHeader, hcut]
  cases cutWord? headerNames cs with
  | none => rfl
  | some cut =>
    have hvalue : (cut.2 ++ c :: rest).takeWhile (!isLineEnd ·) =
        cut.2.takeWhile (!isLineEnd ·) := Text.takeWhile_append_stop (by simp [hc]) cut.2 rest
    simp only [Option.map_some, hvalue]

theorem size_of_findHeader {cs : List Char} {mask : Mask} (h : findHeader cs = some mask) :
    mask.size ≤ cs.length := by
  obtain ⟨⟨name, rest⟩, hcut, rfl⟩ := Option.map_eq_some_iff.1 h
  rw [← cutWord?_eq_some hcut, List.length_append]
  exact Nat.add_le_add_left (List.takeWhile_prefix _).length_le _

/-- A piece that reaches to the end of a text leaves nothing of it. -/
theorem maskAll_of_length_le (find : List Char → Option Mask) {skip : ℕ} {cs : List Char}
    (h : cs.length ≤ skip) (afterWord : Bool) : maskAll find skip afterWord cs = [] := by
  induction cs generalizing skip afterWord with
  | nil => rfl
  | cons c cs ih =>
    obtain ⟨skip, rfl⟩ : ∃ n, skip = n + 1 :=
      Nat.exists_eq_add_one.2 (Nat.lt_of_lt_of_le (Nat.succ_pos _) h)
    exact ih (Nat.le_of_succ_le_succ h) _

theorem isWord_of_isLineEnd {c : Char} (hc : isLineEnd c = true) : Text.isWord c = false := by
  obtain h | h := Bool.or_eq_true_iff.1 hc
  · rw [eq_of_beq h]
    decide
  · rw [eq_of_beq h]
    decide

/-- **The headers of each line are masked by themselves.** -/
theorem maskAll_append_line {c : Char} (hc : isLineEnd c = true) {skip : ℕ} {cs : List Char}
    (hskip : skip ≤ cs.length) (afterWord : Bool) (rest : List Char) :
    maskAll findHeader skip afterWord (cs ++ c :: rest) =
      maskAll findHeader skip afterWord cs ++ c :: maskAll findHeader 0 false rest := by
  induction cs generalizing skip afterWord with
  | nil =>
    obtain rfl := Nat.le_zero.1 hskip
    have hnone : findHeader (c :: rest) = none := findHeader_append_line hc [] rest
    simp only [List.nil_append, maskAll, hnone, ite_self, isWord_of_isLineEnd hc]
  | cons d cs ih =>
    cases skip with
    | succ skip => exact ih (Nat.le_of_succ_le_succ hskip) _
    | zero =>
      have hfind : findHeader (d :: (cs ++ c :: rest)) = findHeader (d :: cs) :=
        findHeader_append_line hc (d :: cs) rest
      simp only [List.cons_append, maskAll, hfind]
      split
      · rename_i mask hmask
        have hsize : mask.size ≤ (d :: cs).length := by
          refine size_of_findHeader ?_
          split_ifs at hmask
          exact hmask
        rw [ih (Nat.sub_le_of_le_add hsize), List.append_assoc]
      · rw [ih (Nat.zero_le _), List.cons_append]

/-- What begins with the end of a line is masked by itself. -/
theorem maskAll_append {rest : List Char} (hrest : ∀ c ∈ rest.head?, isLineEnd c = true)
    (afterWord : Bool) (cs : List Char) :
    maskAll findHeader 0 afterWord (cs ++ rest) =
      maskAll findHeader 0 afterWord cs ++ maskAll findHeader 0 false rest := by
  cases rest with
  | nil => rw [List.append_nil, maskAll, List.append_nil]
  | cons c rest =>
    have hc := hrest c rfl
    rw [maskAll_append_line hc (Nat.zero_le _)]
    exact congrArg _ (maskAll_append_line hc (Nat.zero_le [].length) false rest).symm

theorem exists_lastLine (cs : List Char) :
    (∀ c ∈ cs, isLineEnd c = false) ∨
    ∃ before c line, cs = before ++ c :: line ∧ isLineEnd c = true ∧
      ∀ d ∈ line, isLineEnd d = false := by
  induction cs using List.reverseRecOn with
  | nil => exact .inl nofun
  | append_singleton cs c ih =>
    cases hc : isLineEnd c with
    | true => exact .inr ⟨cs, c, [], rfl, hc, nofun⟩
    | false =>
      obtain hcs | ⟨before, d, line, rfl, hd, hline⟩ := ih
      · exact .inl (List.forall_mem_append.2 ⟨hcs, List.forall_mem_singleton.2 hc⟩)
      · exact .inr ⟨before, d, line ++ [c], by simp, hd,
          List.forall_mem_append.2 ⟨hline, List.forall_mem_singleton.2 hc⟩⟩

/-! ### The line of a header -/

/-- A spelling of the name of an authorization header, in any letter case and without its colon. -/
def IsHeaderName (name : List Char) : Prop :=
  ∃ word ∈ headerNames, (name ++ [':']).map Text.foldLetter = word.toList

theorem headerNames_colon :
    ∀ word ∈ headerNames, ∃ letters, ':' ∉ letters ∧ word.toList = letters ++ [':'] :=
  List.forall_mem_cons.2 ⟨⟨"proxy-authorization".toList, by decide, by decide⟩,
    List.forall_mem_singleton.2 ⟨"authorization".toList, by decide, by decide⟩⟩

/-- Behind a colon, what follows has no part in which header it is. -/
theorem cutWord?_append_of_colon {cs : List Char} (hcs : ':' ∈ cs) (rest : List Char) :
    cutWord? headerNames (cs ++ rest) =
      (cutWord? headerNames cs).map fun (name, more) => (name, more ++ rest) := by
  refine cutWord?_append fun word hword => ?_
  obtain ⟨letters, hletters, heq⟩ := headerNames_colon word hword
  rw [heq]
  exact afterWord?_append_of_colon hletters hcs rest

theorem afterWord?_of_map {word cs : List Char} (h : cs.map Text.foldLetter = word) :
    afterWord? word cs = some [] := by
  induction cs generalizing word with
  | nil => rw [← h]; rfl
  | cons c cs ih =>
    rw [← h, List.map_cons, afterWord?, if_pos rfl]
    exact ih rfl

theorem exists_cutWord? {words : List String} {word : String} (hword : word ∈ words)
    {name : List Char} (h : name.map Text.foldLetter = word.toList) :
    ∃ cut, cutWord? words name = some cut := by
  refine Option.isSome_iff_exists.1 (List.findSome?_isSome_iff.2 ⟨word, hword, ?_⟩)
  rw [afterWord?_of_map h]
  rfl

theorem IsHeaderName.cutWord? {name : List Char} (h : IsHeaderName name) :
    ∃ cut, cutWord? headerNames (name ++ [':']) = some cut := by
  obtain ⟨word, hword, hmap⟩ := h
  exact exists_cutWord? hword hmap

/-- On a single line, the mask of a header takes the place of all that is left of the line. -/
theorem maskAll_of_cutWord? {cs value name more : List Char} (hcolon : ':' ∈ cs)
    (hline : ∀ c ∈ cs ++ value, isLineEnd c = false)
    (hcut : cutWord? headerNames cs = some (name, more)) :
    maskAll findHeader 0 false (cs ++ value) = name ++ headerMask := by
  have hmore : ∀ c ∈ more ++ value, (!isLineEnd c) = true := by
    intro c hc
    rw [← cutWord?_eq_some hcut, List.append_assoc] at hline
    rw [hline c (List.mem_append_right name hc), Bool.not_false]
  have hsize : name.length + ((more ++ value).takeWhile (!isLineEnd ·)).length =
      (cs ++ value).length := by
    rw [List.takeWhile_eq_self_iff.2 hmore, ← List.length_append, ← List.append_assoc,
      cutWord?_eq_some hcut]
  have hfind : findHeader (cs ++ value) = some ⟨name ++ headerMask, (cs ++ value).length⟩ := by
    rw [findHeader, cutWord?_append_of_colon hcolon, hcut, ← hsize]
    rfl
  obtain ⟨c, cs, rfl⟩ := List.exists_cons_of_ne_nil (List.ne_nil_of_mem hcolon)
  rw [List.cons_append] at hfind ⊢
  simp only [maskAll, Bool.false_eq_true, ↓reduceIte, hfind]
  rw [maskAll_of_length_le, List.append_nil]
  exact Nat.le_of_eq (Nat.add_sub_cancel _ 1).symm

/-- Whether a word character precedes what follows some characters. -/
def endsInWord (afterWord : Bool) (cs : List Char) : Bool :=
  cs.foldl (fun _ c => Text.isWord c) afterWord

theorem endsInWord_eq_false {cs : List Char} (h : ∀ c ∈ cs.getLast?, Text.isWord c = false) :
    endsInWord false cs = false := by
  induction cs using List.reverseRecOn with
  | nil => rfl
  | append_singleton cs c =>
    rw [endsInWord, List.foldl_append]
    exact h c (by simp)

theorem maskAll_value {name value : List Char} (hname : IsHeaderName name) {before : List Char}
    {afterWord : Bool} (hbefore : endsInWord afterWord before = false)
    (hline : ∀ c ∈ before ++ (name ++ [':']) ++ value, isLineEnd c = false) :
    maskAll findHeader 0 afterWord (before ++ (name ++ [':']) ++ value) =
      maskAll findHeader 0 afterWord (before ++ (name ++ [':'])) := by
  -- a header that is found before the name masks the name with all that follows
  have hfound : ∀ {cs : List Char}, ':' ∈ cs → (∀ c ∈ cs ++ value, isLineEnd c = false) →
      ∀ cut, cutWord? headerNames cs = some cut →
        maskAll findHeader 0 false (cs ++ value) = maskAll findHeader 0 false cs := by
    intro cs hcolon hline cut hcut
    have halone : ∀ c ∈ cs ++ [], isLineEnd c = false := fun c hc =>
      hline c (List.mem_append_left _ (List.append_nil cs ▸ hc))
    rw [maskAll_of_cutWord? hcolon hline hcut, ← maskAll_of_cutWord? hcolon halone hcut,
      List.append_nil]
  have hcolon (before : List Char) : ':' ∈ before ++ (name ++ [':']) := by simp
  induction before generalizing afterWord with
  | nil =>
    obtain rfl : afterWord = false := hbefore
    obtain ⟨cut, hcut⟩ := hname.cutWord?
    exact hfound (hcolon []) hline cut hcut
  | cons c before ih =>
    have hbefore : endsInWord (Text.isWord c) before = false := hbefore
    have hrest := ih hbefore fun d hd => hline d (List.mem_cons_of_mem c hd)
    cases afterWord with
    | true => exact congrArg (c :: ·) hrest
    | false =>
      cases hcut : cutWord? headerNames (c :: before ++ (name ++ [':'])) with
      | some cut => exact hfound (hcolon (c :: before)) hline cut hcut
      | none =>
        have hnone : findHeader (c :: (before ++ (name ++ [':']))) = none :=
          congrArg (Option.map _) hcut
        have hnone' : findHeader (c :: (before ++ (name ++ [':']) ++ value)) = none := by
          have happend := cutWord?_append_of_colon (hcolon (c :: before)) value
          rw [hcut] at happend
          exact congrArg (Option.map _) happend
        simp only [List.cons_append, maskAll, hnone, hnone', ite_self, hrest]

theorem IsHeaderName.isLineEnd {name : List Char} (h : IsHeaderName name) :
    ∀ c ∈ name ++ [':'], isLineEnd c = false := by
  obtain ⟨word, hword, hmap⟩ := h
  refine fun c hc => Bool.eq_false_iff.2 fun hend => foldLetter_not_mem hend word hword ?_
  exact hmap ▸ List.mem_map_of_mem hc

/-- **The value of a header leaves no trace**, wherever in a text the header stands. -/
theorem maskAll_header {before name value rest : List Char}
    (hbefore : ∀ c ∈ before.getLast?, Text.isWord c = false) (hname : IsHeaderName name)
    (hvalue : ∀ c ∈ value, isLineEnd c = false)
    (hrest : ∀ c ∈ rest.head?, isLineEnd c = true) :
    maskAll findHeader 0 false (before ++ (name ++ [':']) ++ value ++ rest) =
      maskAll findHeader 0 false (before ++ (name ++ [':']) ++ rest) := by
  rw [maskAll_append hrest, maskAll_append hrest]
  refine congrArg (· ++ _) ?_
  obtain hline | ⟨above, c, line, rfl, hc, hline⟩ := exists_lastLine before
  · exact maskAll_value hname (endsInWord_eq_false hbefore)
      (List.forall_mem_append.2 ⟨List.forall_mem_append.2 ⟨hline, hname.isLineEnd⟩, hvalue⟩)
  -- only the last line before the name counts
  · have hlast : ∀ d ∈ line.getLast?, Text.isWord d = false := fun d hd =>
      hbefore d (by rw [List.getLast?_append, List.getLast?_cons, hd]; rfl)
    have hmask := maskAll_value hname (endsInWord_eq_false hlast)
      (List.forall_mem_append.2 ⟨List.forall_mem_append.2 ⟨hline, hname.isLineEnd⟩, hvalue⟩)
    simp only [List.append_assoc, List.cons_append] at hmask ⊢
    rw [maskAll_append_line hc (Nat.zero_le _), maskAll_append_line hc (Nat.zero_le _), hmask]

/-! ### Log entries -/

/-- With redaction, a log entry is written as it would be without, and then masked. -/
theorem write_of_plain {f : LogFormat} (hf : f.redact = true) {e : RawEntry} {text : String}
    (h : LogFormat.write { f with redact := false } e = .ok text) :
    f.write e = .ok (redact text) := by
  unfold LogFormat.write at h ⊢
  cases hmessage : Template.fill e.text e.values with
  | error fault => rw [hmessage] at h; cases h
  | ok message =>
    cases hfilled : Template.fillNamed f.template (LogFormat.fields e message) with
    | error fault => rw [hmessage] at h; simp [bind, Except.bind, hfilled] at h
    | ok filled =>
      have hplain : filled = text := by
        simpa [hmessage, bind, Except.bind, hfilled, pure, Except.pure] using h
      simp [bind, Except.bind, hfilled, hf, pure, Except.pure, hplain]

/-- **A masked text does not depend on the credential.**  Take the name of an authorization header
in any letter case, at the beginning of a text or after anything but a word character, and any two
values that stay on its line: the masked texts are the same, whatever stands before the name and
after the line; and so are the log entries that are written as these texts. -/
theorem redact_credentials {before name rest : List Char}
    (hbefore : ∀ c ∈ before.getLast?, Text.isWord c = false) (hname : IsHeaderName name)
    (hrest : ∀ c ∈ rest.head?, isLineEnd c = true) {v w : List Char}
    (hv : ∀ c ∈ v, isLineEnd c = false) (hw : ∀ c ∈ w, isLineEnd c = false) :
    let text (value : List Char) :=
      String.ofList (before ++ (name ++ [':']) ++ value ++ rest)
    redact (text v) = redact (text w) ∧
    ∀ (f : LogFormat) (e e' : RawEntry), f.redact = true →
      LogFormat.write { f with redact := false } e = .ok (text v) →
      LogFormat.write { f with redact := false } e' = .ok (text w) →
      ∃ masked, f.write e = .ok masked ∧ f.write e' = .ok masked := by
  intro text
  have hmasked : redact (text v) = redact (text w) := by
    simp only [text, redact, redactChars, String.toList_ofList]
    rw [maskAll_header hbefore hname hv hrest, maskAll_header hbefore hname hw hrest]
  refine ⟨hmasked, fun f e e' hf he he' => ⟨redact (text v), write_of_plain hf he, ?_⟩⟩
  rw [hmasked]
  exact write_of_plain hf he'

/-- An entry of a test program, to be written without anything before it. -/
def testEntry (text : String) : RawEntry := { logger := "test", level := 20, text }

/-- Two credentials behind other text on the same line, the first one with a quote that is closed on
the next line. -/
theorem redact_open_quote : ∃ masked,
    LogFormat.write {} (testEntry "re: proxy-AUTHORIZATION: Digest nonce=\"7\r\nTo: \"b\"") =
      .ok masked ∧
    LogFormat.write {} (testEntry "re: proxy-AUTHORIZATION: Basic cnonce=\r\nTo: \"b\"") =
      .ok masked := by
  have hrest : ∀ c ∈ "\r\nTo: \"b\"".toList.head?, isLineEnd c = true := by
    rintro _ ⟨⟩
    rfl
  have hbefore : ∀ c ∈ "re: proxy-".toList.getLast?, Text.isWord c = false := by
    rintro _ ⟨⟩
    decide
  have hname : IsHeaderName "AUTHORIZATION".toList := ⟨"authorization:", by decide, by decide⟩
  have hdigest : ∀ c ∈ " Digest nonce=\"7".toList, isLineEnd c = false := by simp [isLineEnd]
  have hbasic : ∀ c ∈ " Basic cnonce=".toList, isLineEnd c = false := by simp [isLineEnd]
  refine (redact_credentials hbefore hname hrest hdigest hbasic).2 {} _ _ rfl ?_ ?_
  · with_unfolding_all rfl
  · with_unfolding_all rfl

end SipBench.Redaction
