import Mathlib.Data.List.Basic
import SipBench.Message.Parser
import SipBench.Proofs.Text.Blank
import SipBench.Proofs.Text.Integer

/-!
# Start lines that are written and read

What was read from a start line is written so that it is read again: the method, the address and
the code hold no blank, and a phrase, which may hold any, does not end in one.

* `StartLine.parse_eq_ok` : what a start line that was read looks like
* `StartLine.parse_startText` : writing and reading
-/

namespace SipBench.StartLine

open Message (statusLine startText sipVersion)

theorem parse_eq_ok {line : List Char} {start : StartLine} (h : parse line = .ok start) :
    (∃ first second third code, isVersion first = true ∧ ' ' ∉ first ∧
      (line = first ++ ' ' :: second ∧ third = [] ∨
        line = first ++ ' ' :: (second ++ ' ' :: third)) ∧
      Text.readInteger (String.ofList second) = .ok code ∧
      start = statusLine (.int code) (String.ofList third)) ∨
    ∃ first second version, isVersion first = false ∧ isVersion version = true ∧ ' ' ∉ first ∧
      ' ' ∉ second ∧ line = first ++ ' ' :: (second ++ ' ' :: version) ∧
      start = .request (String.ofList first) (String.ofList second) := by
  unfold parse at h
  simp only at h
  split at h
  · cases h
  split at h
  · cases h
  rename_i first rest hfirst
  obtain ⟨hline, hspace⟩ := Text.cutAt_eq_some hfirst
  cases hsecond : Text.cutAt ' ' rest with
  | mk second third =>
    simp only [hsecond] at h
    split at h
    · rename_i hversion
      split at h
      · cases h
      · rename_i code hcode
        cases h
        refine .inl ⟨first, second, third.getD [], code, hversion, hspace, ?_, hcode, rfl⟩
        cases third with
        | none => exact .inl ⟨by rw [hline, (Text.cutAt_eq_none hsecond).1], rfl⟩
        | some third => exact .inr (by rw [hline, (Text.cutAt_eq_some hsecond).1]; rfl)
    · rename_i hfirstVersion
      split at h
      · rename_i version
        split at h
        · rename_i hversion
          cases h
          obtain ⟨hrest, hsecondSpace⟩ := Text.cutAt_eq_some hsecond
          exact .inr ⟨first, second, version, Bool.not_eq_true _ ▸ hfirstVersion, hversion, hspace,
            hsecondSpace, by rw [hline, hrest], rfl⟩
        · cases h
      · cases h

/-! ### Requests -/

theorem parse_request {first second version : List Char} (hfirst : isVersion first = false)
    (hspace : ' ' ∉ first) (hsecond : ' ' ∉ second) (hversion : isVersion version = true) :
    parse (first ++ ' ' :: (second ++ ' ' :: version)) =
      .ok (.request (String.ofList first) (String.ofList second)) := by
  simp [parse, Text.cutAt_append hspace, Text.cutAt_append hsecond, hfirst, hversion]

/-! ### Responses -/

theorem parse_response {first second : List Char} {code : Int} (hfirst : isVersion first = true)
    (hspace : ' ' ∉ first) (hsecond : ' ' ∉ second)
    (hcode : Text.readInteger (String.ofList second) = .ok code) (reason : List Char) :
    parse (first ++ ' ' :: (second ++ ' ' :: reason)) =
      .ok (statusLine (.int code) (String.ofList reason)) := by
  simp [parse, Text.cutAt_append hspace, Text.cutAt_append hsecond, hfirst, hcode]

theorem parse_response_no_reason {first second : List Char} {code : Int}
    (hfirst : isVersion first = true) (hspace : ' ' ∉ first) (hsecond : ' ' ∉ second)
    (hcode : Text.readInteger (String.ofList second) = .ok code) :
    parse (first ++ ' ' :: second) = .ok (statusLine (.int code) "") := by
  simp [parse, Text.cutAt_append hspace, Text.cutAt_of_not_mem hsecond, hfirst, hcode]

/-- A status line with the phrase that it was given stays as it is. -/
theorem statusLine_eq (status : Value) (reason : String) :
    ∃ phrase, statusLine status reason = .response status phrase ∧
      statusLine status phrase = .response status phrase ∧
      (phrase = reason ∨ phrase = reasonPhrase status) := by
  unfold statusLine
  split_ifs with h
  · refine ⟨reasonPhrase status, rfl, ?_, .inr rfl⟩
    split_ifs <;> rfl
  · exact ⟨reason, rfl, by rw [if_neg h], .inl rfl⟩

/-- A text that can stand at the end of a line. -/
structure IsPhrase (cs : List Char) : Prop where
  clear : '\n' ∉ cs
  last : ∀ c ∈ cs.getLast?, Text.isBlank c = false

theorem isPhrase_iff {cs : List Char} :
    IsPhrase cs ↔ '\n' ∉ cs ∧ cs.getLast?.all (!Text.isBlank ·) = true := by
  simp only [Option.all_eq_true, Bool.not_eq_true']
  exact ⟨fun h => ⟨h.clear, h.last⟩, fun ⟨hclear, hlast⟩ => ⟨hclear, hlast⟩⟩

instance (cs : List Char) : Decidable (IsPhrase cs) := decidable_of_iff' _ isPhrase_iff

theorem isPhrase_reasonPhrase (status : Value) : IsPhrase (reasonPhrase status).toList := by
  have hregistry : ∀ s ∈ StatusCode.registry, IsPhrase s.phrase.toList := by decide +kernel
  have hempty : IsPhrase "".toList := by decide
  rw [reasonPhrase]
  cases hfind : StatusCode.find? status with
  | none => exact hempty
  | some s => exact hregistry s (List.mem_of_find?_eq_some hfind)

/-! ### Writing and reading -/

/-- A text that can stand on the first line of a message. -/
structure IsFirstLine (cs : List Char) : Prop where
  clear : '\n' ∉ cs
  head : ∃ c ∈ cs.head?, Text.isBlank c = false

theorem trim_line {first rest : List Char} (hfirst : ∃ c ∈ first.head?, Text.isBlank c = false)
    (hrest : ∃ c ∈ rest.getLast?, Text.isBlank c = false) :
    Text.trim (first ++ ' ' :: rest) = first ++ ' ' :: rest := by
  obtain ⟨c, hc, hcblank⟩ := hfirst
  obtain ⟨d, hd, hdblank⟩ := hrest
  refine Text.trimBy_eq_self (fun e he => ?_) fun e he => ?_
  · rw [List.head?_append, Option.mem_def.1 hc] at he
    cases he
    exact hcblank
  · rw [List.getLast?_append, List.getLast?_cons, Option.mem_def.1 hd] at he
    cases he
    exact hdblank

theorem getLast?_append_cons {third : List Char} (h : ∃ c ∈ third.getLast?, Text.isBlank c = false)
    (second : List Char) :
    ∃ c ∈ (second ++ ' ' :: third).getLast?, Text.isBlank c = false := by
  obtain ⟨c, hc, hblank⟩ := h
  exact ⟨c, by rw [List.getLast?_append, List.getLast?_cons, Option.mem_def.1 hc]; rfl, hblank⟩

theorem isVersion_sipVersion : isVersion sipVersion.toList = true := by decide

theorem head?_sipVersion : ∃ c ∈ sipVersion.toList.head?, Text.isBlank c = false :=
  ⟨'S', by decide, by decide⟩

theorem getLast?_sipVersion : ∃ c ∈ sipVersion.toList.getLast?, Text.isBlank c = false :=
  ⟨'0', by decide, by decide⟩

theorem parse_startText_request {first second : List Char} (hfirst : isVersion first = false)
    (hspace : ' ' ∉ first) (hsecond : ' ' ∉ second) (hclear : '\n' ∉ first ++ second)
    (hhead : ∃ c ∈ first.head?, Text.isBlank c = false) :
    ∃ text, startText (.request (String.ofList first) (String.ofList second)) = some text ∧
      IsFirstLine text.toList ∧
      parse (Text.trim text.toList) =
        .ok (.request (String.ofList first) (String.ofList second)) := by
  have htext : (String.ofList first ++ " " ++ String.ofList second ++ " " ++ sipVersion).toList =
      first ++ ' ' :: (second ++ ' ' :: sipVersion.toList) := by
    simp
  refine ⟨_, rfl, ?_⟩
  rw [htext, trim_line hhead (getLast?_append_cons getLast?_sipVersion second),
    parse_request hfirst hspace hsecond isVersion_sipVersion]
  refine ⟨⟨?_, ?_⟩, rfl⟩
  · have hversion : '\n' ∉ sipVersion.toList := by decide
    simp only [List.mem_append, List.mem_cons, not_or] at hclear ⊢
    exact ⟨hclear.1, by decide, hclear.2, by decide, hversion⟩
  · obtain ⟨c, hc, hblank⟩ := hhead
    exact ⟨c, by rw [List.head?_append, Option.mem_def.1 hc]; rfl, hblank⟩

theorem getLast?_toString (code : Int) :
    ∃ c ∈ (toString code).toList.getLast?, Text.isBlank c = false := by
  obtain ⟨c, hc⟩ := Option.ne_none_iff_exists'.1
    (mt List.getLast?_eq_none_iff.1 (Text.toList_toString_ne_nil code))
  exact ⟨c, hc, Text.isBlank_of_mem_toString (List.mem_of_getLast? hc)⟩

theorem parse_startText_response {code : Int} {phrase : String}
    (hcode : code.natAbs < 10 ^ Text.maxDigits) (hphrase : IsPhrase phrase.toList)
    (hsame : statusLine (.int code) phrase = .response (.int code) phrase) :
    ∃ text, startText (.response (.int code) phrase) = some text ∧
      IsFirstLine text.toList ∧
      parse (Text.trim text.toList) = .ok (.response (.int code) phrase) := by
  have hspace : ' ' ∉ (toString code).toList := fun hmem =>
    absurd (Text.isBlank_of_mem_toString hmem) (by decide)
  have hclear : '\n' ∉ (toString code).toList := fun hmem =>
    absurd (Text.isBlank_of_mem_toString hmem) (by decide)
  have hread : Text.readInteger (String.ofList (toString code).toList) = .ok code := by
    rw [String.ofList_toList, Text.readInteger_toString hcode]
  have hversion : ' ' ∉ sipVersion.toList ∧ '\n' ∉ sipVersion.toList := by decide
  have htext : (sipVersion ++ " " ++ (Value.int code).shown ++ " " ++ phrase).toList =
      sipVersion.toList ++ ' ' :: ((toString code).toList ++ ' ' :: phrase.toList) := by
    have hshown : (Value.int code).shown = toString code := rfl
    simp [hshown]
  refine ⟨_, rfl, ?_⟩
  rw [htext]
  refine ⟨⟨?_, ?_⟩, ?_⟩
  · simp only [List.mem_append, List.mem_cons, not_or]
    exact ⟨hversion.2, by decide, hclear, by decide, hphrase.clear⟩
  · exact ⟨'S', by rw [List.head?_append]; rfl, by decide⟩
  by_cases hempty : phrase.toList = []
  -- the blank after the code is trimmed when the line is read
  · obtain rfl := String.toList_eq_nil_iff.1 hempty
    have hend : sipVersion.toList ++ ' ' :: ((toString code).toList ++ [' ']) =
        (sipVersion.toList ++ ' ' :: (toString code).toList) ++ [' '] := by simp
    rw [String.toList_empty, hend, Text.trim_append_blank (by decide),
      trim_line head?_sipVersion (getLast?_toString code),
      parse_response_no_reason isVersion_sipVersion hversion.1 hspace hread, hsame]
  · obtain ⟨c, hc⟩ := Option.ne_none_iff_exists'.1 (mt List.getLast?_eq_none_iff.1 hempty)
    rw [trim_line head?_sipVersion (getLast?_append_cons ⟨c, hc, hphrase.last c hc⟩ _),
      parse_response isVersion_sipVersion hversion.1 hspace hread, String.ofList_toList, hsame]

/-- **What was read from a start line is written so that it is read again.** -/
theorem parse_startText {line : List Char} {start : StartLine} (hclear : '\n' ∉ line)
    (htrim : Text.trim line = line) (h : parse line = .ok start) :
    ∃ text, startText start = some text ∧ IsFirstLine text.toList ∧
      parse (Text.trim text.toList) = .ok start := by
  obtain ⟨hhead, hlast⟩ := Text.trimBy_eq_self_iff.1 htrim
  obtain ⟨first, second, third, code, -, -, hline, hcode, rfl⟩ |
    ⟨first, second, version, hfirst, hversion, hspace, hsecond, rfl, rfl⟩ := parse_eq_ok h
  · obtain ⟨phrase, hstart, hsame, hphrase⟩ := statusLine_eq (.int code) (String.ofList third)
    rw [hstart]
    refine parse_startText_response (Text.natAbs_lt_of_readInteger hcode) ?_ hsame
    obtain rfl | rfl := hphrase
    -- a phrase that stood on the line ended it, and the line ended in no blank
    · rw [String.toList_ofList]
      obtain ⟨-, rfl⟩ | rfl := hline
      · exact ⟨by simp, by simp⟩
      · refine ⟨fun hmem => hclear (by simp [hmem]), fun c hc => hlast c ?_⟩
        rw [List.getLast?_append, List.getLast?_cons, List.getLast?_append, List.getLast?_cons,
          Option.mem_def.1 hc]
        rfl
    · exact isPhrase_reasonPhrase _
  · refine parse_startText_request hfirst hspace hsecond (fun hmem => hclear ?_) ?_
    · obtain hmem | hmem := List.mem_append.1 hmem <;> simp [hmem]
    · cases first with
      | nil => exact absurd (hhead ' ' rfl) (by decide)
      | cons c cs => exact ⟨c, rfl, hhead c rfl⟩

end SipBench.StartLine
