import Mathlib.Tactic.SplitIfs
import SipBench.Text.Utf8

/-!
# Decoding what was encoded

The decoder reads the octets of a text back as the text.  Each form of a character, of one octet to
four, is followed through the states of the machine.

* `Utf8.decodeFrom_encodeChar` : the octets of one character
* `Utf8.decodeLossy_encode` : the octets of a text
* `Utf8.encodeChar_cases` : no octet of a character of several octets is an ASCII one
* `Utf8.encode_prefix_iff` : octets begin with those of a text only if the text begins with it
-/

namespace SipBench.Text.Utf8

/-! ### The states of the machine -/

theorem toNat_ofNat {n : Nat} (h : n < 256) : (UInt8.ofNat n).toNat = n := by
  rw [UInt8.toNat_ofNat', Nat.mod_eq_of_lt h]

theorem decodeFrom_last {low high : UInt8} {bits x : Nat} (hx : x < 64)
    (hlow : low ≤ UInt8.ofNat (x + 0x80)) (hhigh : UInt8.ofNat (x + 0x80) ≤ high)
    (bs : List UInt8) :
    decodeFrom (some ⟨1, low, high, bits⟩) (UInt8.ofNat (x + 0x80) :: bs) =
      some (Char.ofNat (bits * 64 + x)) :: decodeFrom none bs := by
  have hsub : (UInt8.ofNat (x + 0x80)).toNat - 0x80 = x := by
    rw [toNat_ofNat (by omega)]; omega
  simp only [decodeFrom, hlow, hhigh, decide_true, Bool.and_self, ↓reduceIte, hsub]

/-- An octet in its range that is not the last one is followed by one in the full range. -/
theorem decodeFrom_more {missing : Nat} {low high : UInt8} {bits x : Nat} (hx : x < 64)
    (hlow : low ≤ UInt8.ofNat (x + 0x80)) (hhigh : UInt8.ofNat (x + 0x80) ≤ high)
    (bs : List UInt8) :
    decodeFrom (some ⟨missing + 2, low, high, bits⟩) (UInt8.ofNat (x + 0x80) :: bs) =
      decodeFrom (some ⟨missing + 1, 0x80, 0xbf, bits * 64 + x⟩) bs := by
  have hsub : (UInt8.ofNat (x + 0x80)).toNat - 0x80 = x := by
    rw [toNat_ofNat (by omega)]; omega
  have hmissing : missing + 2 ≠ 1 := by omega
  simp only [decodeFrom, hlow, hhigh, decide_true, Bool.and_self, ↓reduceIte, hsub, hmissing,
    Nat.add_one_sub_one]

theorem full_range {x : Nat} (hx : x < 64) :
    0x80 ≤ UInt8.ofNat (x + 0x80) ∧ UInt8.ofNat (x + 0x80) ≤ 0xbf := by
  rw [UInt8.le_iff_toNat_le, UInt8.le_iff_toNat_le, toNat_ofNat (by omega)]
  exact ⟨by simp, by simp; omega⟩

/-! ### The first octets -/

theorem beginning_one {v : Nat} (h : v < 0x80) :
    beginning (UInt8.ofNat v) = .char (Char.ofNat v) := by
  simp only [beginning, toNat_ofNat (show v < 256 by omega), h, ↓reduceIte]

theorem beginning_two {q : Nat} (hlow : 2 ≤ q) (hhigh : q < 32) :
    beginning (UInt8.ofNat (q + 0xc0)) = .sequence ⟨1, 0x80, 0xbf, q⟩ := by
  simp only [beginning, toNat_ofNat (show q + 0xc0 < 256 by omega)]
  rw [if_neg (by omega), if_neg (by omega), if_pos (by omega), Nat.add_sub_cancel]

/-- The range of the second octet of three keeps out the overlong forms and the surrogates. -/
theorem beginning_three {q x : Nat} (hq : q < 16) (hx : x < 64) (hlong : q = 0 → 32 ≤ x)
    (hsurrogate : q = 13 → x < 32) :
    ∃ low high, beginning (UInt8.ofNat (q + 0xe0)) = .sequence ⟨2, low, high, q⟩ ∧
      low ≤ UInt8.ofNat (x + 0x80) ∧ UInt8.ofNat (x + 0x80) ≤ high := by
  simp only [UInt8.le_iff_toNat_le, toNat_ofNat (show x + 0x80 < 256 by omega)]
  by_cases h₀ : q = 0
  · subst h₀
    exact ⟨0xa0, 0xbf, rfl, by simp; omega, by simp; omega⟩
  by_cases h₁₃ : q = 13
  · subst h₁₃
    exact ⟨0x80, 0x9f, rfl, by simp, by simp; omega⟩
  refine ⟨0x80, 0xbf, ?_, by simp, by simp; omega⟩
  simp only [beginning, toNat_ofNat (show q + 0xe0 < 256 by omega)]
  rw [if_neg (by omega), if_neg (by omega), if_neg (by omega), if_neg (by omega), if_neg (by omega),
    if_pos (by omega), Nat.add_sub_cancel]

/-- The range of the second octet of four keeps out the overlong forms and all that lies beyond the
last code point. -/
theorem beginning_four {q x : Nat} (hq : q < 5) (hx : x < 64) (hlong : q = 0 → 16 ≤ x)
    (hbeyond : q = 4 → x < 16) :
    ∃ low high, beginning (UInt8.ofNat (q + 0xf0)) = .sequence ⟨3, low, high, q⟩ ∧
      low ≤ UInt8.ofNat (x + 0x80) ∧ UInt8.ofNat (x + 0x80) ≤ high := by
  simp only [UInt8.le_iff_toNat_le, toNat_ofNat (show x + 0x80 < 256 by omega)]
  by_cases h₀ : q = 0
  · subst h₀
    exact ⟨0x90, 0xbf, rfl, by simp; omega, by simp; omega⟩
  by_cases h₄ : q = 4
  · subst h₄
    exact ⟨0x80, 0x8f, rfl, by simp, by simp; omega⟩
  refine ⟨0x80, 0xbf, ?_, by simp, by simp; omega⟩
  simp only [beginning, toNat_ofNat (show q + 0xf0 < 256 by omega)]
  rw [if_neg (by omega), if_neg (by omega), if_neg (by omega), if_neg (by omega), if_neg (by omega),
    if_neg (by omega), if_neg (by omega), if_pos (by omega), Nat.add_sub_cancel]

/-! ### Texts -/

theorem decodeFrom_sequence {b : UInt8} {s : Incomplete} (h : beginning b = .sequence s)
    (bs : List UInt8) : decodeFrom none (b :: bs) = decodeFrom (some s) bs := by
  simp only [decodeFrom, h]

theorem encode_cons (c : Char) (cs : List Char) :
    encode (c :: cs) = String.utf8EncodeChar c ++ encode cs :=
  List.flatMap_cons

theorem encode_append (cs ds : List Char) : encode (cs ++ ds) = encode cs ++ encode ds :=
  List.flatMap_append

theorem encode_intercalate (separator : List Char) (lines : List (List Char)) :
    encode (separator.intercalate lines) =
      (encode separator).intercalate (lines.map encode) := by
  induction lines with
  | nil => rfl
  | cons line lines ih =>
    cases lines with
    | nil => simp
    | cons next lines =>
      rw [List.map_cons] at ih ⊢
      rw [List.map_cons, List.intercalate_cons_cons, List.intercalate_cons_cons, encode_append,
        encode_append, ih]

theorem decodeFrom_encodeChar (c : Char) (bs : List UInt8) :
    decodeFrom none (String.utf8EncodeChar c ++ bs) = some c :: decodeFrom none bs := by
  have hc : Char.ofNat c.val.toNat = c := Char.ofNat_toNat c
  have hvalid : c.val.toNat < 0xd800 ∨ 0xdfff < c.val.toNat ∧ c.val.toNat < 0x110000 := c.valid
  generalize hv : c.val.toNat = v at hc hvalid
  simp only [String.utf8EncodeChar, hv]
  -- one, two, three and four octets; the bits are put together again by division with remainder
  split_ifs with h₁ h₂ h₃
  · simp only [List.cons_append, List.nil_append, decodeFrom,
      beginning_one (show v < 0x80 by omega), hc]
  · have hq : v / 64 % 32 = v / 64 := by omega
    have hx : v % 64 < 64 := by omega
    simp only [List.cons_append, List.nil_append, hq]
    rw [decodeFrom_sequence (beginning_two (by omega) (by omega)),
      decodeFrom_last hx (full_range hx).1 (full_range hx).2,
      show v / 64 * 64 + v % 64 = v by omega, hc]
  · have hq : v / 4096 % 16 = v / 4096 := by omega
    have hx : v / 64 % 64 < 64 := by omega
    have hy : v % 64 < 64 := by omega
    obtain ⟨low, high, hfirst, hlow, hhigh⟩ :=
      beginning_three (q := v / 4096) (by omega) hx (by omega) (by omega)
    simp only [List.cons_append, List.nil_append, hq]
    rw [decodeFrom_sequence hfirst, decodeFrom_more hx hlow hhigh,
      decodeFrom_last hy (full_range hy).1 (full_range hy).2,
      show (v / 4096 * 64 + v / 64 % 64) * 64 + v % 64 = v by omega, hc]
  · have hq : v / 262144 % 8 = v / 262144 := by omega
    have hx : v / 4096 % 64 < 64 := by omega
    have hy : v / 64 % 64 < 64 := by omega
    have hz : v % 64 < 64 := by omega
    obtain ⟨low, high, hfirst, hlow, hhigh⟩ :=
      beginning_four (q := v / 262144) (by omega) hx (by omega) (by omega)
    simp only [List.cons_append, List.nil_append, hq]
    rw [decodeFrom_sequence hfirst, decodeFrom_more hx hlow hhigh,
      decodeFrom_more hy (full_range hy).1 (full_range hy).2,
      decodeFrom_last hz (full_range hz).1 (full_range hz).2,
      show ((v / 262144 * 64 + v / 4096 % 64) * 64 + v / 64 % 64) * 64 + v % 64 = v by omega, hc]

/-- The octets of a text are read as that text, whatever follows them. -/
theorem decodeFrom_encode_append (cs : List Char) (bs : List UInt8) :
    decodeFrom none (encode cs ++ bs) = cs.map some ++ decodeFrom none bs := by
  induction cs with
  | nil => rfl
  | cons c cs ih =>
    rw [encode_cons, List.append_assoc, decodeFrom_encodeChar, ih, List.map_cons, List.cons_append]

theorem decodeFrom_encode (cs : List Char) : decodeFrom none (encode cs) = cs.map some := by
  simpa [decodeFrom] using decodeFrom_encode_append cs []

theorem decodeLossy_encode (cs : List Char) : decodeLossy (encode cs) = cs := by
  rw [decodeLossy, decodeFrom_encode, List.map_map]
  exact List.map_id cs

/-! ### ASCII octets -/

/-- A character below 0x80 is a single octet, and every octet of another one is from 0x80 on. -/
theorem encodeChar_cases (c : Char) :
    (c.toNat < 0x80 ∧ String.utf8EncodeChar c = [UInt8.ofNat c.toNat]) ∨
      (0x80 ≤ c.toNat ∧ ∀ b ∈ String.utf8EncodeChar c, 0x80 ≤ b.toNat) := by
  have hc : c.toNat = c.val.toNat := rfl
  simp only [String.utf8EncodeChar, hc]
  generalize c.val.toNat = v
  -- one, two, three and four octets
  split_ifs with h₁ h₂ h₃
  · exact .inl ⟨by omega, rfl⟩
  · refine .inr ⟨by omega, ?_⟩
    simp
    omega
  · refine .inr ⟨by omega, ?_⟩
    simp
    omega
  · refine .inr ⟨by omega, ?_⟩
    simp
    omega

/-- The first octet of a character is the character itself if it is an ASCII one. -/
theorem encodeChar_eq_cons (c : Char) : ∃ b bs, String.utf8EncodeChar c = b :: bs ∧
    (b.toNat < 0x80 → Char.ofNat b.toNat = c) := by
  obtain ⟨hlow, hsingle⟩ | ⟨-, hhigh⟩ := encodeChar_cases c
  · refine ⟨_, _, hsingle, fun _ => ?_⟩
    rw [toNat_ofNat (by omega), Char.ofNat_toNat]
  · cases hoctets : String.utf8EncodeChar c with
    | nil => exact absurd hoctets (by simp only [String.utf8EncodeChar]; split_ifs <;> simp)
    | cons b bs =>
      refine ⟨b, bs, rfl, fun hb => ?_⟩
      exact absurd (hhigh b (hoctets ▸ List.mem_cons_self)) (by omega)

theorem encode_eq_nil {cs : List Char} : encode cs = [] ↔ cs = [] := by
  refine ⟨fun h => ?_, fun h => h ▸ rfl⟩
  cases cs with
  | nil => rfl
  | cons c cs =>
    obtain ⟨b, bs, hoctets, -⟩ := encodeChar_eq_cons c
    rw [encode_cons, hoctets] at h
    cases h

/-- An ASCII octet stands for its character wherever it occurs. -/
theorem mem_of_mem_encode {b : UInt8} {cs : List Char} (hb : b.toNat < 0x80) (h : b ∈ encode cs) :
    Char.ofNat b.toNat ∈ cs := by
  obtain ⟨c, hc, hmem⟩ := List.mem_flatMap.1 h
  obtain ⟨hlow, hsingle⟩ | ⟨-, hhigh⟩ := encodeChar_cases c
  · rw [hsingle, List.mem_singleton] at hmem
    rw [hmem, toNat_ofNat (by omega), Char.ofNat_toNat]
    exact hc
  · exact absurd (hhigh b hmem) (by omega)

/-- The octets of a text begin with those of another one only if the text begins with it. -/
theorem encode_prefix_iff {ps cs : List Char} : encode ps <+: encode cs ↔ ps <+: cs := by
  constructor
  · rintro ⟨rest, h⟩
    have hdecoded : ps.map some ++ decodeFrom none rest = cs.map some := by
      rw [← decodeFrom_encode_append, h, decodeFrom_encode]
    have hmap : ps.map some <+: cs.map some := ⟨_, hdecoded⟩
    exact (List.prefix_map_iff_of_injective fun _ _ => Option.some.inj).1 hmap
  · rintro ⟨rest, rfl⟩
    exact ⟨encode rest, (encode_append ps rest).symm⟩

end SipBench.Text.Utf8
