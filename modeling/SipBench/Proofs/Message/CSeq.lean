import SipBench.Message.Basic
import SipBench.Proofs.Message.StartLine
import SipBench.Proofs.Text.Numeral

/-!
# CSeq values as they are written

A header value stands for a CSeq exactly if it consists of a numeral and one more word.  The text of
a CSeq is such a value, and it is read back, also out of a message that it was added to.

* `Message.cseq?_eq_some_iff` : the CSeq of a message
* `CSeq.parse_eq_ok_iff` : the values that stand for a CSeq
* `CSeq.parse_eq_error` : how all others are refused
* `CSeq.parse_and_text` : writing and reading
-/

namespace SipBench

open Text (Numeral)

theorem Message.cseq?_eq_some_iff {m : Message} {c : CSeq} :
    m.cseq? = some c ↔ ∃ value, m.headerValue? "CSeq" = some value ∧ CSeq.parse value = .ok c := by
  rw [cseq?, Option.bind_eq_some_iff]
  refine exists_congr fun value => and_congr_right fun _ => ?_
  cases CSeq.parse value <;> simp [Except.toOption]

namespace CSeq

/-! ### Reading -/

theorem readInteger_word_iff {word : List Char} (h : IsWord word) {i : Int} :
    Text.readInteger (String.ofList word) = .ok i ↔
      ∃ n : Numeral, word = n.text ∧ n.digits.length ≤ Text.maxDigits ∧ n.value = i := by
  have hblank : ∀ c, Text.isNumeralBlank c = true → Text.isBlank c := fun c hc =>
    (Bool.and_eq_true_iff.1 hc).1
  rw [Text.readInteger_eq_ok_iff, String.toList_ofList, h.trimBy hblank]

/-- **The values that stand for a CSeq**: a numeral and a method, two words. -/
theorem parse_eq_ok_iff {value : String} {c : CSeq} :
    parse value = .ok c ↔ ∃ n : Numeral, IsPairOf n.text c.method.toList value.toList ∧
      n.digits.length ≤ Text.maxDigits ∧ n.value = c.number := by
  constructor
  · intro h
    unfold parse at h
    split at h
    · rename_i number method hwords
      obtain ⟨i, hi, rfl⟩ : ∃ i, Text.readInteger (String.ofList number) = .ok i ∧
          ⟨i, String.ofList method⟩ = c := by
        split at h
        · exact ⟨_, ‹_›, Except.ok.inj h⟩
        · cases h
      have hpair := words_eq_pair_iff.1 hwords
      obtain ⟨n, rfl, hlength, hvalue⟩ := (readInteger_word_iff hpair.1).1 hi
      exact ⟨n, by simpa using hpair, hlength, hvalue⟩
    · cases h
  · rintro ⟨n, hpair, hlength, hvalue⟩
    have hread := (readInteger_word_iff hpair.1).2 ⟨n, rfl, hlength, hvalue⟩
    simp [parse, words_eq_pair_iff.2 hpair, hread]

/-- **How all other values are refused.** -/
theorem parse_eq_error {value : String} (h : ∀ c, parse value ≠ .ok c) :
    parse value = .error (.malformedCSeq value) ∨
      ∃ reason, parse value = .error (.invalidCSeqNumber value reason) := by
  unfold parse at h ⊢
  split
  · rename_i number method hwords
    simp only [hwords] at h
    split
    · rename_i i hi
      exact absurd (by rw [hi]) (h ⟨i, String.ofList method⟩)
    · exact .inr ⟨_, rfl⟩
  · exact .inl rfl

/-! ### Writing -/

theorem toList_text (c : CSeq) :
    c.text.toList = (toString c.number).toList ++ ' ' :: c.method.toList := by
  rw [text, String.toList_append, String.toList_append, List.append_assoc]
  rfl

theorem isWord_toString (i : Int) : IsWord (toString i).toList :=
  ⟨Text.toList_toString_ne_nil i, fun _ => Text.isBlank_of_mem_toString⟩

theorem isPairOf_text {c : CSeq} (h : IsWord c.method.toList) :
    IsPairOf (toString c.number).toList c.method.toList c.text.toList :=
  ⟨isWord_toString _, h, [], [' '], [], by simp [toList_text], by simp,
    List.forall_mem_singleton.2 (by decide)⟩

theorem trimmed_text {c : CSeq} (h : IsWord c.method.toList) : Text.trimmed c.text = c.text := by
  rw [Text.trimmed, toList_text, StartLine.trim_line (isWord_toString _).head h.last, ← toList_text,
    String.ofList_toList]

/-- **What is written is read back.** -/
theorem parse_text_eq_ok {c : CSeq} (hnumber : c.number.natAbs < 10 ^ Text.maxDigits)
    (hmethod : IsWord c.method.toList) : parse c.text = .ok c := by
  have hwords := words_eq_pair_iff.2 (isPairOf_text hmethod)
  simp only [parse, hwords, String.ofList_toList, Text.readInteger_toString hnumber]

/-- What was read is written so that it is read again. -/
theorem parse_text_of_parse {value : String} {c : CSeq} (h : parse value = .ok c) :
    parse c.text = .ok c := by
  obtain ⟨n, hpair, hlength, hvalue⟩ := parse_eq_ok_iff.1 h
  have hread := (readInteger_word_iff hpair.1).2 ⟨n, rfl, hlength, hvalue⟩
  exact parse_text_eq_ok (Text.natAbs_lt_of_readInteger hread) hpair.2.1

theorem headerValue?_withHeader {m : Message} (h : m.headersNamed "CSeq" = []) (value : String) :
    (m.withHeader "cseq" value).headerValue? "CSeq" = some (Text.trimmed value) := by
  have hname : canonicalName "cseq" = canonicalName "CSeq" := by decide
  rw [Message.headersNamed] at h
  rw [Message.headerValue?, Message.header?, Message.headersNamed, Message.withHeader,
    List.filter_append, h]
  simp [Message.Header.canonical, hname]

theorem cseq?_withHeader {m : Message} (h : m.headersNamed "CSeq" = []) {c : CSeq}
    (hnumber : c.number.natAbs < 10 ^ Text.maxDigits) (hmethod : IsWord c.method.toList) :
    (m.withHeader "cseq" c.text).cseq? = some c := by
  refine Message.cseq?_eq_some_iff.2 ⟨c.text, ?_, parse_text_eq_ok hnumber hmethod⟩
  rw [headerValue?_withHeader h, trimmed_text hmethod]

/-- **Writing and reading a CSeq.**  The text of a CSeq whose number has no more digits than are
accepted and whose method is a word is read back, by itself and out of a message without a CSeq
header that it was added to.  A header value stands for a CSeq exactly if it consists of two words
with white space between them and around them, the first of which is a numeral: a sign or none, and
groups of digits of any script with single underscores between them, no more digits than are
accepted.  What was read is then written so that it is read again.  All other values are refused,
and a message with such a CSeq header has no CSeq. -/
theorem parse_and_text :
    (∀ c : CSeq, (Nat.toDigits 10 c.number.natAbs).length ≤ Text.maxDigits →
      IsWord c.method.toList →
      parse c.text = .ok c ∧ ∀ m : Message, m.headersNamed "CSeq" = [] →
        (m.withHeader "cseq" c.text).cseq? = some c) ∧
    ∀ value : String,
      (∀ c, parse value = .ok c ↔ ∃ n : Numeral, IsPairOf n.text c.method.toList value.toList ∧
        n.digits.length ≤ Text.maxDigits ∧ n.value = c.number) ∧
      (∀ c, parse value = .ok c → parse c.text = .ok c) ∧
      ((∀ c, parse value ≠ .ok c) →
        (parse value = .error (.malformedCSeq value) ∨
          ∃ reason, parse value = .error (.invalidCSeqNumber value reason)) ∧
        ∀ m : Message, m.headerValue? "CSeq" = some value → m.cseq? = none) := by
  refine ⟨fun c hlength hmethod => ?_, fun value => ⟨fun c => parse_eq_ok_iff,
    fun c => parse_text_of_parse, fun h => ⟨parse_eq_error h, fun m hvalue => ?_⟩⟩⟩
  · have hnumber := (Nat.length_toDigits_le_iff (by decide) (by decide)).1 hlength
    exact ⟨parse_text_eq_ok hnumber hmethod, fun m hm => cseq?_withHeader hm hnumber hmethod⟩
  · refine Option.eq_none_iff_forall_ne_some.2 fun c hc => ?_
    obtain ⟨value', hvalue', hparse⟩ := Message.cseq?_eq_some_iff.1 hc
    obtain rfl := Option.some.inj (hvalue.symm.trans hvalue')
    exact h c hparse

/-- Digits of two scripts, and a number below zero. -/
theorem parse_and_text_scripts :
    parse " +٣_4\tACK" = .ok ⟨34, "ACK"⟩ ∧
      (Message.withHeader { start := .request "ACK" "sip:a" } "cseq"
        (text ⟨-7, "INVITE"⟩)).cseq? = some ⟨-7, "INVITE"⟩ := by
  have hblank : ∀ c ∈ [' ', '\t'], Text.isBlank c = true :=
    List.forall_mem_cons.2 ⟨by decide, List.forall_mem_singleton.2 (by decide)⟩
  refine ⟨((parse_and_text.2 _).1 _).2 ⟨⟨['+'], [['٣'], ['4']], by simp, by simp, by simp,
      List.forall_mem_cons.2 ⟨List.forall_mem_singleton.2 (by decide),
        List.forall_mem_singleton.2 (List.forall_mem_singleton.2 (by decide))⟩⟩,
    ⟨by decide, by decide, [' '], ['\t'], [], by decide, by decide, hblank⟩, by decide,
    by decide⟩, ?_⟩
  exact (parse_and_text.1 ⟨-7, "INVITE"⟩ (by decide) (by decide)).2 _ (by decide)

end CSeq

end SipBench
