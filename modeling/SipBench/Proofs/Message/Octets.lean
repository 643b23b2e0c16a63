import SipBench.Proofs.Message.Lines
import SipBench.Proofs.Text.Utf8

/-!
# Messages as text and as octets

A message may come as text or as the octets of that text.  UTF-8 hides no line end in a character of
several octets, so that both are cut at the same place; each part of the octets is well formed, and
the body of a text is turned into the octets that were there from the beginning.

* `afterEmptyLine?_encode` : both forms begin with an empty line or neither does
* `splitHead_encode` : the cut
* `Message.parse_encode` : reading
-/

namespace SipBench

/-! ### Line ends in octets -/

theorem encode_ending (style : LineStyle) :
    Text.Utf8.encode (style.ending '\r' '\n') = style.ending 0x0d 0x0a := by
  cases style <;> decide

theorem LineStyle.Fits.encode {style : LineStyle} {line : List Char}
    (h : style.Fits '\r' '\n' line) : style.Fits 0x0d 0x0a (Text.Utf8.encode line) :=
  ⟨fun hmem => h.no_lf (Text.Utf8.mem_of_mem_encode (by decide) hmem),
    fun hs hmem => h.no_cr hs (Text.Utf8.mem_of_mem_encode (by decide) hmem)⟩

theorem afterEmptyLine?_of_ne {α : Type} [BEq α] [LawfulBEq α] {cr lf c : α} (hcr : cr ≠ c)
    (hlf : lf ≠ c) (cs : List α) : afterEmptyLine? cr lf (c :: cs) = none := by
  refine afterEmptyLine?_eq_none_iff.2 ⟨fun hbegins => ?_, fun hbegins => ?_⟩
  · exact hcr (List.cons_prefix_cons.1 hbegins).1
  · exact hlf (List.cons_prefix_cons.1 hbegins).1

theorem afterEmptyLine?_encode (cs : List Char) :
    afterEmptyLine? 0x0d 0x0a (Text.Utf8.encode cs) =
      (afterEmptyLine? '\r' '\n' cs).map Text.Utf8.encode := by
  have hcrlf : Text.Utf8.encode ['\r', '\n', '\r', '\n'] = [0x0d, 0x0a, 0x0d, 0x0a] := by decide
  have hlf : Text.Utf8.encode ['\n', '\n'] = [0x0a, 0x0a] := by decide
  have hbegins (ps : List Char) :
      (Text.Utf8.encode ps).isPrefixOf (Text.Utf8.encode cs) = ps.isPrefixOf cs := by
    rw [Bool.eq_iff_iff, List.isPrefixOf_iff_prefix, List.isPrefixOf_iff_prefix,
      Text.Utf8.encode_prefix_iff]
  rw [afterEmptyLine?, afterEmptyLine?, ← hcrlf, ← hlf, hbegins, hbegins]
  split_ifs with h₁ h₂
  · obtain ⟨rest, rfl⟩ := List.isPrefixOf_iff_prefix.1 h₁
    rw [Text.Utf8.encode_append, hcrlf]
    rfl
  · obtain ⟨rest, rfl⟩ := List.isPrefixOf_iff_prefix.1 h₂
    rw [Text.Utf8.encode_append, hlf]
    rfl
  · rfl

/-- A suffix of the octets of a character is all of them or begins with no ASCII octet. -/
theorem suffix_encodeChar {c : Char} {b : UInt8} {bs : List UInt8}
    (h : b :: bs <:+ String.utf8EncodeChar c) :
    b :: bs = String.utf8EncodeChar c ∨ 0x80 ≤ b.toNat := by
  obtain ⟨-, hsingle⟩ | ⟨-, hhigh⟩ := Text.Utf8.encodeChar_cases c
  · left
    rw [hsingle] at h ⊢
    exact h.eq_of_length_le (by simp)
  · exact .inr (hhigh b (h.subset List.mem_cons_self))

/-- **A text and its octets are cut at the same place.** -/
theorem splitHead_encode (cs : List Char) :
    splitHead 0x0d 0x0a (Text.Utf8.encode cs) =
      (Text.Utf8.encode (splitHead '\r' '\n' cs).1, Text.Utf8.encode (splitHead '\r' '\n' cs).2) := by
  induction cs with
  | nil => rfl
  | cons c cs ih =>
    have hbegins := afterEmptyLine?_encode (c :: cs)
    cases hempty : afterEmptyLine? '\r' '\n' (c :: cs) with
    | some rest =>
      rw [hempty] at hbegins
      rw [splitHead_of_afterEmptyLine? hbegins, splitHead_of_afterEmptyLine? hempty]
      rfl
    | none =>
      rw [hempty] at hbegins
      -- no empty line begins at the first octet of the character, nor at a later one
      have hpassed : ∀ b bs, b :: bs <:+ String.utf8EncodeChar c →
          afterEmptyLine? 0x0d 0x0a (b :: (bs ++ Text.Utf8.encode cs)) = none := by
        intro b bs hsuffix
        obtain hall | hhigh := suffix_encodeChar hsuffix
        · rw [← List.cons_append, hall, ← Text.Utf8.encode_cons]
          exact hbegins
        · refine afterEmptyLine?_of_ne ?_ ?_ _ <;> rintro rfl <;> exact absurd hhigh (by decide)
      rw [Text.Utf8.encode_cons, splitHead_append hpassed, ih, splitHead_cons hempty,
        Text.Utf8.encode_cons]

/-- Where a text does not begin with a line end, its octets do not. -/
theorem dropWhile_encode_append {c : Char} (hc : c ≠ '\r' ∧ c ≠ '\n') (cs : List Char)
    (bs : List UInt8) :
    (Text.Utf8.encode (c :: cs) ++ bs).dropWhile (fun b => b == 0x0d || b == 0x0a) =
      Text.Utf8.encode (c :: cs) ++ bs := by
  obtain ⟨b, more, hoctets, hfirst⟩ := Text.Utf8.encodeChar_eq_cons c
  have hkept : (b == 0x0d || b == 0x0a) = false := by
    refine Bool.or_eq_false_iff.2 ⟨beq_false_of_ne ?_, beq_false_of_ne ?_⟩
    · rintro rfl
      exact hc.1 (hfirst (by decide)).symm
    · rintro rfl
      exact hc.2 (hfirst (by decide)).symm
  rw [Text.Utf8.encode_cons, hoctets, List.cons_append, List.cons_append,
    List.dropWhile_cons_of_neg (by simp [hkept])]

theorem dropWhile_encode (cs : List Char) :
    (Text.Utf8.encode cs).dropWhile (fun b => b == 0x0d || b == 0x0a) =
      Text.Utf8.encode (cs.dropWhile fun c => c == '\r' || c == '\n') := by
  induction cs with
  | nil => rfl
  | cons c cs ih =>
    by_cases hc : c = '\r' ∨ c = '\n'
    · obtain rfl | rfl := hc
      · exact ih
      · exact ih
    · rw [List.dropWhile_cons_of_neg (by simpa using hc)]
      simpa using dropWhile_encode_append (not_or.1 hc) cs []

namespace RawMessage

theorem split_octets_encode (s : String) :
    (octets (Text.Utf8.encode s.toList)).split = (text s).split := by
  simp only [split]
  rw [dropWhile_encode, splitHead_encode, Text.Utf8.decodeLossy_encode]

end RawMessage

namespace Message

/-- **Text and octets are read alike**: the octets of a text stand for the message that the text
stands for, or are refused for the same reason. -/
theorem parse_encode (s : String) (source : Value) :
    parse (.octets (Text.Utf8.encode s.toList)) source = parse (.text s) source := by
  rw [parse, parse, RawMessage.split_octets_encode]

end Message

end SipBench
