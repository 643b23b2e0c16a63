import Mathlib.Algebra.Order.Ring.Nat
import Mathlib.Data.List.Basic
import SipBench.Proofs.Text.Blank
import SipBench.Text.Integer

/-!
# Integers as they are written

An integer that has no more digits than are accepted is read back from its decimal text, and an
integer that was read has no more digits than that.

* `Text.readInteger_toString` : writing and reading
* `Text.natAbs_lt_of_readInteger` : the size of what was read
-/

namespace SipBench.Text

/-! ### Digits -/

theorem digitValue?_of_isDigit {c : Char} (h : c.isDigit = true) :
    digitValue? c = some (c.toNat - '0'.toNat) := by
  obtain ⟨hlow, hhigh⟩ := Char.isDigit_iff_toNat.1 h
  simp only [Char.reduceToNat] at hlow hhigh ⊢
  simp [digitValue?, digitZeros, hlow, hhigh]

theorem digitValue?_le_nine {c : Char} {d : Nat} (h : digitValue? c = some d) : d ≤ 9 := by
  obtain ⟨first, hfirst, rfl⟩ := Option.map_eq_some_iff.1 h
  have hrange := List.find?_some hfirst
  simp only [Bool.and_eq_true, decide_eq_true_eq] at hrange
  omega

theorem foldl_digits_lt {digits : List Nat} (h : ∀ d ∈ digits, d ≤ 9) (n : Nat) :
    digits.foldl (fun n d => 10 * n + d) n < (n + 1) * 10 ^ digits.length := by
  induction digits generalizing n with
  | nil => simp
  | cons d digits ih =>
    have hd : d ≤ 9 := h d List.mem_cons_self
    have hrest : ∀ d ∈ digits, d ≤ 9 := fun d hd => h d (List.mem_cons_of_mem _ hd)
    calc digits.foldl (fun n d => 10 * n + d) (10 * n + d)
        < (10 * n + d + 1) * 10 ^ digits.length := ih hrest _
      _ ≤ ((n + 1) * 10) * 10 ^ digits.length := Nat.mul_le_mul_right _ (by omega)
      _ = (n + 1) * 10 ^ (digits.length + 1) := by rw [Nat.pow_succ']; exact Nat.mul_assoc ..

theorem ofDigits_lt {digits : List Nat} (h : ∀ d ∈ digits, d ≤ 9) :
    ofDigits digits < 10 ^ digits.length := by
  simpa [ofDigits] using foldl_digits_lt h 0

theorem ofDigits_map {cs : List Char} :
    ofDigits (cs.map fun c => c.toNat - '0'.toNat) = Nat.ofDigitChars 10 cs 0 := by
  rw [ofDigits, List.foldl_map, Nat.ofDigitChars_eq_foldl]

theorem isDigit_of_mem_toDigits {n : Nat} {c : Char} (h : c ∈ Nat.toDigits 10 n) :
    c.isDigit = true :=
  Nat.isDigit_of_mem_toDigits (by decide) (by decide) h

theorem isBlank_of_isDigit {c : Char} (h : c.isDigit = true) : isBlank c = false := by
  obtain ⟨hlow, hhigh⟩ := Char.isDigit_iff_toNat.1 h
  simp only [Char.reduceToNat] at hlow hhigh
  simp only [isBlank, Bool.or_eq_false_iff, Bool.and_eq_false_iff, decide_eq_false_iff_not,
    beq_eq_false_iff_ne]
  omega

theorem isNumeralBlank_of_isDigit {c : Char} (h : c.isDigit = true) : isNumeralBlank c = false := by
  rw [isNumeralBlank, isBlank_of_isDigit h, Bool.false_and]

/-! ### Numerals -/

theorem wellSpaced_of_not_mem {cs : List Char} (h : '_' ∉ cs) (hne : cs ≠ []) (afterDigit : Bool) :
    wellSpaced afterDigit cs = true := by
  induction cs generalizing afterDigit with
  | nil => exact absurd rfl hne
  | cons c cs ih =>
    obtain ⟨hc, hcs⟩ := not_or.1 (mt List.mem_cons.2 h)
    rw [wellSpaced]
    · cases cs with
      | nil => rfl
      | cons d cs => exact ih hcs (by simp) true
    · rintro rfl
      exact hc rfl

theorem takeSign_of_isDigit {cs : List Char} (h : ∀ c ∈ cs, c.isDigit = true) :
    takeSign cs = (false, cs) := by
  unfold takeSign
  split
  · exact absurd (h '-' List.mem_cons_self) (by decide)
  · exact absurd (h '+' List.mem_cons_self) (by decide)
  · rfl

/-- The value of an integer text is that of its digits. -/
theorem readInteger_of_isDigit {text : String} {negative : Bool} {cs : List Char}
    (h : takeSign (trimBy isNumeralBlank text.toList) = (negative, cs)) (hne : cs ≠ [])
    (hcs : ∀ c ∈ cs, c.isDigit = true) (hlength : cs.length ≤ maxDigits) :
    readInteger text = .ok (if negative then -(Nat.ofDigitChars 10 cs 0 : Int)
      else Nat.ofDigitChars 10 cs 0) := by
  have hvalue : ∀ c ∈ cs, digitValue? c = some (c.toNat - '0'.toNat) := fun c hc =>
    digitValue?_of_isDigit (hcs c hc)
  have hnumeral : ∀ c ∈ cs, ((digitValue? c).isSome || c == '_') = true :=
    fun c hc => by rw [hvalue c hc]; rfl
  have htake : cs.takeWhile (fun c => (digitValue? c).isSome || c == '_') = cs :=
    List.takeWhile_eq_self_iff.2 hnumeral
  have hdrop : cs.dropWhile (fun c => (digitValue? c).isSome || c == '_') = [] :=
    List.dropWhile_eq_nil_iff.2 hnumeral
  have hdigits : cs.filterMap digitValue? = cs.map fun c => c.toNat - '0'.toNat :=
    List.filterMap_eq_map_iff_forall_eq_some.2 hvalue
  have hunderscore : '_' ∉ cs := fun hmem => absurd (hcs '_' hmem) (by decide)
  simp only [readInteger, h, htake, hdrop, hdigits, List.length_map, Nat.not_lt.2 hlength,
    wellSpaced_of_not_mem hunderscore hne, ofDigits_map]
  rfl

theorem readInteger_digits {text : String} (hne : text ≠ "")
    (h : ∀ c ∈ text.toList, c.isDigit = true) (hlength : text.toList.length ≤ maxDigits) :
    readInteger text = .ok (Nat.ofDigitChars 10 text.toList 0 : Int) := by
  have hsigned : takeSign (trimBy isNumeralBlank text.toList) = (false, text.toList) := by
    rw [trimBy_of_forall fun c hc => isNumeralBlank_of_isDigit (h c hc), takeSign_of_isDigit h]
  exact readInteger_of_isDigit hsigned (by simpa using hne) h hlength

/-! ### Writing and reading -/

theorem toList_toString (i : Int) :
    (toString i).toList =
      if 0 ≤ i then Nat.toDigits 10 i.natAbs else '-' :: Nat.toDigits 10 i.natAbs := by
  rw [Int.toString_eq_repr, Int.repr_eq_if]
  split_ifs with h
  · rw [Nat.toList_repr, show i.toNat = i.natAbs by omega]
  · rw [String.toList_append, Nat.toList_repr, show (-i).toNat = i.natAbs by omega]
    rfl

theorem toList_toString_ne_nil (i : Int) : (toString i).toList ≠ [] := by
  rw [toList_toString]
  split_ifs
  · exact Nat.toDigits_ne_nil
  · simp

theorem isBlank_of_mem_toString {i : Int} {c : Char} (h : c ∈ (toString i).toList) :
    isBlank c = false := by
  have hdigit : c ∈ Nat.toDigits 10 i.natAbs → isBlank c = false := fun hc =>
    isBlank_of_isDigit (isDigit_of_mem_toDigits hc)
  rw [toList_toString] at h
  split_ifs at h
  · exact hdigit h
  · obtain rfl | h := List.mem_cons.1 h
    · decide
    · exact hdigit h

/-- What is written is read back. -/
theorem readInteger_toString {i : Int} (h : i.natAbs < 10 ^ maxDigits) :
    readInteger (toString i) = .ok i := by
  have hdigits : ∀ c ∈ Nat.toDigits 10 i.natAbs, c.isDigit = true := fun c =>
    isDigit_of_mem_toDigits
  have hblank : ∀ c ∈ Nat.toDigits 10 i.natAbs, isNumeralBlank c = false := fun c hc =>
    isNumeralBlank_of_isDigit (hdigits c hc)
  have hlength : (Nat.toDigits 10 i.natAbs).length ≤ maxDigits :=
    (Nat.length_toDigits_le_iff (by decide) (by decide)).2 h
  by_cases hi : 0 ≤ i
  · have hsigned : takeSign (trimBy isNumeralBlank (toString i).toList) =
        (false, Nat.toDigits 10 i.natAbs) := by
      rw [toList_toString, if_pos hi, trimBy_of_forall hblank, takeSign_of_isDigit hdigits]
    rw [readInteger_of_isDigit hsigned Nat.toDigits_ne_nil hdigits hlength, if_neg (by decide),
      Nat.ofDigitChars_ten_toDigits, Int.natAbs_of_nonneg hi]
  · have hsigned : takeSign (trimBy isNumeralBlank (toString i).toList) =
        (true, Nat.toDigits 10 i.natAbs) := by
      rw [toList_toString, if_neg hi, trimBy_of_forall]
      · rfl
      · exact List.forall_mem_cons.2 ⟨by decide, hblank⟩
    rw [readInteger_of_isDigit hsigned Nat.toDigits_ne_nil hdigits hlength, if_pos rfl,
      Nat.ofDigitChars_ten_toDigits, Int.ofNat_natAbs_of_nonpos (Int.le_of_not_le hi), Int.neg_neg]

/-- What was read has digits, and no more than are accepted. -/
theorem readInteger_eq_ok {text : String} {i : Int} (h : readInteger text = .ok i) :
    ∃ digits, (∀ d ∈ digits, d ≤ 9) ∧ digits.length ≤ maxDigits ∧ i.natAbs = ofDigits digits := by
  simp only [readInteger] at h
  split at h
  · cases h
  split at h
  · cases h
  rename_i hlength
  split at h
  · cases h
  cases h
  refine ⟨_, fun d hd => ?_, Nat.not_lt.1 hlength, ?_⟩
  · obtain ⟨c, -, hc⟩ := List.mem_filterMap.1 hd
    exact digitValue?_le_nine hc
  · split
    · rw [Int.natAbs_neg, Int.natAbs_natCast]
    · rw [Int.natAbs_natCast]

theorem natAbs_lt_of_readInteger {text : String} {i : Int} (h : readInteger text = .ok i) :
    i.natAbs < 10 ^ maxDigits := by
  obtain ⟨digits, hdigits, hlength, hi⟩ := readInteger_eq_ok h
  rw [hi]
  exact Nat.lt_of_lt_of_le (ofDigits_lt hdigits) (Nat.pow_le_pow_right (by decide) hlength)

end SipBench.Text
