import SipBench.Proofs.Text.Integer
import SipBench.Proofs.Text.Line

/-!
# Numerals

The texts that are read as integers: a sign or none, and then groups of decimal digits of any
script, with a single underscore between two groups.

* `Text.Numeral` : a numeral by its parts
* `Text.readInteger_eq_ok_iff` : what is read as an integer is a numeral with white space around it
-/

namespace SipBench.Text

/-- A numeral by its parts. -/
structure Numeral where
  sign : List Char
  groups : List (List Char)
  sign_mem : sign ∈ [[], ['+'], ['-']]
  groups_ne_nil : groups ≠ []
  ne_nil : ∀ g ∈ groups, g ≠ []
  isDigit : ∀ g ∈ groups, ∀ c ∈ g, (digitValue? c).isSome = true

namespace Numeral

/-- The numeral as it is written. -/
def text (n : Numeral) : List Char := n.sign ++ ['_'].intercalate n.groups

/-- The values of its digits, the most significant first. -/
def digits (n : Numeral) : List Nat := n.groups.flatten.filterMap digitValue?

/-- The integer that it stands for. -/
def value (n : Numeral) : Int :=
  if n.sign = ['-'] then -(ofDigits n.digits : Int) else ofDigits n.digits

end Numeral

/-! ### Groups of digits -/

/-- Underscores are well spaced if no group between them is empty; where a digit precedes, the first
group may be. -/
theorem wellSpaced_iff (cs : List Char) :
    (wellSpaced false cs = true ↔ ∀ g ∈ splitAt '_' cs, g ≠ []) ∧
      (wellSpaced true cs = true ↔ ∀ g ∈ (splitAt '_' cs).tail, g ≠ []) := by
  induction cs with
  | nil => simp [wellSpaced, splitAt]
  | cons c cs ih =>
    by_cases hc : c = '_'
    · subst hc
      simp [wellSpaced, splitAt, ih.1]
    · have hne : splitAt '_' cs ≠ [] := by
        rw [splitAt_eq_splitOn]
        exact List.splitOn_ne_nil _ _
      obtain ⟨piece, pieces, hsplit⟩ := List.exists_cons_of_ne_nil hne
      have hspaced (afterDigit : Bool) : wellSpaced afterDigit (c :: cs) = wellSpaced true cs := by
        rw [wellSpaced]
        rintro rfl
        exact hc rfl
      rw [hsplit, List.tail_cons] at ih
      simp [hspaced, splitAt, hc, hsplit, ih.2]

theorem digitValue?_underscore : digitValue? '_' = none := by decide

/-- Underscores do not count among the digits. -/
theorem filterMap_intercalate (groups : List (List Char)) :
    (['_'].intercalate groups).filterMap digitValue? = groups.flatten.filterMap digitValue? := by
  induction groups with
  | nil => rfl
  | cons g groups ih =>
    cases groups with
    | nil => simp [List.intercalate_singleton]
    | cons g' groups =>
      rw [List.intercalate_cons_cons, List.filterMap_append, List.filterMap_append, ih,
        List.flatten_cons, List.filterMap_append]
      simp [digitValue?_underscore]

/-! ### Signs -/

theorem takeSign_eq {cs rest : List Char} {negative : Bool} (h : takeSign cs = (negative, rest)) :
    ∃ sign ∈ [[], ['+'], ['-']], cs = sign ++ rest ∧ negative = decide (sign = ['-']) := by
  unfold takeSign at h
  split at h <;> obtain ⟨rfl, rfl⟩ := Prod.mk.inj h
  · exact ⟨['-'], by simp, rfl, rfl⟩
  · exact ⟨['+'], by simp, rfl, rfl⟩
  · exact ⟨[], by simp, rfl, rfl⟩

theorem takeSign_append {sign cs : List Char} (hsign : sign ∈ [[], ['+'], ['-']])
    (hcs : ∀ c ∈ cs.head?, c ≠ '+' ∧ c ≠ '-') :
    takeSign (sign ++ cs) = (decide (sign = ['-']), cs) := by
  simp only [List.mem_cons, List.not_mem_nil, or_false] at hsign
  obtain rfl | rfl | rfl := hsign
  · rw [List.nil_append, takeSign.eq_3]
    · rfl
    · rintro rest rfl
      exact (hcs '-' rfl).2 rfl
    · rintro rest rfl
      exact (hcs '+' rfl).1 rfl
  · rfl
  · rfl

/-! ### Reading -/

/-- A digit or an underscore. -/
def isNumeralChar (c : Char) : Bool := (digitValue? c).isSome || c == '_'

/-- What follows the sign of an integer has well-spaced digits, no more of them than are accepted,
and nothing else. -/
theorem readInteger_eq_ok_iff_takeSign {text : String} {i : Int} {negative : Bool}
    {rest : List Char} (h : takeSign (trimBy isNumeralBlank text.toList) = (negative, rest)) :
    readInteger text = .ok i ↔ (∀ c ∈ rest, isNumeralChar c = true) ∧
      wellSpaced false rest = true ∧ (rest.filterMap digitValue?).length ≤ maxDigits ∧
      (if negative then -(ofDigits (rest.filterMap digitValue?) : Int)
        else ofDigits (rest.filterMap digitValue?)) = i := by
  by_cases hrest : ∀ c ∈ rest, isNumeralChar c = true
  · have htake : rest.takeWhile (fun c => (digitValue? c).isSome || c == '_') = rest :=
      List.takeWhile_eq_self_iff.2 hrest
    have hdrop : rest.dropWhile (fun c => (digitValue? c).isSome || c == '_') = [] :=
      List.dropWhile_eq_nil_iff.2 hrest
    simp only [readInteger, h, htake, hdrop]
    by_cases hspaced : wellSpaced false rest = true
    · by_cases hlength : (rest.filterMap digitValue?).length ≤ maxDigits
      · simp [eq_true hrest, hspaced, hlength, Nat.not_lt.2 hlength]
      · simp [hspaced, hlength, Nat.lt_of_not_le hlength]
    · simp [hspaced]
  · have hdrop : rest.dropWhile (fun c => (digitValue? c).isSome || c == '_') ≠ [] :=
      fun hnil => hrest (List.dropWhile_eq_nil_iff.1 hnil)
    simp only [readInteger, h, hrest, false_and, iff_false]
    split
    · simp
    split
    · simp
    · simp [hdrop]

namespace Numeral

variable (n : Numeral)

theorem isNumeralChar_of_mem :
    ∀ c ∈ ['_'].intercalate n.groups, isNumeralChar c = true := by
  rw [forall_mem_intercalate (List.forall_mem_singleton.2 (by decide))]
  intro g hg c hc
  rw [isNumeralChar, n.isDigit g hg c hc, Bool.true_or]

theorem splitAt_groups : splitAt '_' (['_'].intercalate n.groups) = n.groups := by
  rw [splitAt_eq_splitOn, List.splitOn_intercalate _ _ n.groups_ne_nil]
  intro g hg hmem
  have hdigit := n.isDigit g hg '_' hmem
  rw [digitValue?_underscore] at hdigit
  cases hdigit

theorem takeSign_text :
    takeSign n.text = (decide (n.sign = ['-']), ['_'].intercalate n.groups) := by
  refine takeSign_append n.sign_mem fun c hc => ?_
  have hchar := n.isNumeralChar_of_mem c (List.mem_of_mem_head? hc)
  constructor <;> rintro rfl <;> exact absurd hchar (by decide)

end Numeral

/-- **What is read as an integer**: numerals with no more digits than are accepted, with white space
around them. -/
theorem readInteger_eq_ok_iff {text : String} {i : Int} :
    readInteger text = .ok i ↔ ∃ n : Numeral, trimBy isNumeralBlank text.toList = n.text ∧
      n.digits.length ≤ maxDigits ∧ n.value = i := by
  constructor
  · intro h
    cases hsigned : takeSign (trimBy isNumeralBlank text.toList) with
    | mk negative rest =>
      obtain ⟨hchars, hspaced, hlength, rfl⟩ := (readInteger_eq_ok_iff_takeSign hsigned).1 h
      obtain ⟨sign, hsign, htext, rfl⟩ := takeSign_eq hsigned
      have hdigits := filterMap_intercalate (splitAt '_' rest)
      rw [intercalate_splitAt] at hdigits
      have hne : splitAt '_' rest ≠ [] := splitAt_eq_splitOn '_' rest ▸ List.splitOn_ne_nil _ _
      refine ⟨⟨sign, splitAt '_' rest, hsign, hne, (wellSpaced_iff rest).1.1 hspaced,
        fun g hg c hc => ?_⟩, ?_, ?_, ?_⟩
      · obtain ⟨hmem, hne⟩ := mem_of_mem_splitAt hg hc
        simpa [isNumeralChar, hne] using hchars c hmem
      · rw [Numeral.text, intercalate_splitAt]
        exact htext
      · rwa [Numeral.digits, ← hdigits]
      · simp only [Numeral.value, Numeral.digits, ← hdigits, decide_eq_true_eq]
  · rintro ⟨n, htext, hlength, rfl⟩
    have hsigned := n.takeSign_text
    rw [← htext] at hsigned
    rw [readInteger_eq_ok_iff_takeSign hsigned, (wellSpaced_iff _).1, n.splitAt_groups,
      filterMap_intercalate]
    refine ⟨n.isNumeralChar_of_mem, n.ne_nil, hlength, ?_⟩
    simp only [Numeral.value, Numeral.digits, decide_eq_true_eq]

end SipBench.Text
