import SipBench.Proofs.Text.Integer
import SipBench.Proofs.Text.Line
import SipBench.Value

/-!
# Values on one line

A number is shown with digits, signs and letters, and quoted text has a backslash and a letter in
place of every line end.  So whatever is shown inside a message stays on one line; only a text that
is shown by itself may span several.

* `Text.isOneLine_quote`, `Text.isOneLine_quoteBytes` : quoted text
* `Double.isOneLine_text`, `Double.isOneLine_fixed` : doubles
* `Value.isOneLine_quoted` : a value inside a message
* `Value.isOneLine_shown_iff` : a value by itself
-/

namespace SipBench

theorem isOneLine_replicate {c : Char} (hc : c ≠ '\r' ∧ c ≠ '\n') (n : ℕ) :
    IsOneLine (List.replicate n c) := by
  intro d hd
  rwa [List.eq_of_mem_replicate hd]

/-! ### Digits -/

theorem isOneLine_digitChar : ∀ d < 16, IsOneLine [Nat.digitChar d] := by decide

/-- A natural is written on one line, in decimal and in hexadecimal digits. -/
theorem isOneLine_toDigits {base : ℕ} (hbase : 1 < base) (hle : base ≤ 16) (n : ℕ) :
    IsOneLine (Nat.toDigits base n) := by
  induction n using Nat.strong_induction_on with
  | _ n ih =>
    rw [Nat.toDigits_eq_if hbase]
    split_ifs with h
    · exact isOneLine_digitChar n (by omega)
    · have hlt : n / base < n := Nat.div_lt_self (by omega) hbase
      have hdigit : n % base < 16 := Nat.lt_of_lt_of_le (Nat.mod_lt n (by omega)) hle
      exact (ih _ hlt).append (isOneLine_digitChar _ hdigit)

theorem isOneLine_toString (i : ℤ) : IsOneLine (toString i).toList :=
  isOneLine_of_isBlank fun _ => Text.isBlank_of_mem_toString

namespace Text

/-! ### Quoted text -/

theorem isOneLine_hexDigits (width n : ℕ) : IsOneLine (hexDigits width n) :=
  (isOneLine_replicate (by decide) _).append (isOneLine_toDigits (by decide) (by decide) n)

theorem quoteMark_ne (hasSingle hasDouble : Bool) :
    quoteMark hasSingle hasDouble ≠ '\r' ∧ quoteMark hasSingle hasDouble ≠ '\n' := by
  unfold quoteMark
  split_ifs <;> decide

theorem isOneLine_escape {mark : Char} (hmark : mark ≠ '\r' ∧ mark ≠ '\n') (c : Char) :
    IsOneLine (escape mark c) := by
  unfold escape
  split_ifs with hquote hlf hcr
  · obtain rfl | rfl := hquote
    · simp [hmark]
    · decide
  · decide
  · decide
  · decide
  · simp [hlf, hcr]
  all_goals simp [isOneLine_hexDigits]

theorem isOneLine_flatMap {α : Type} {f : α → List Char} (h : ∀ x, IsOneLine (f x)) (xs : List α) :
    IsOneLine (xs.flatMap f) := by
  intro c hc
  obtain ⟨x, -, hx⟩ := List.mem_flatMap.1 hc
  exact h x c hx

theorem isOneLine_between {mark : Char} (hmark : mark ≠ '\r' ∧ mark ≠ '\n') {cs : List Char}
    (h : IsOneLine cs) : IsOneLine (mark :: cs ++ [mark]) :=
  .append (.cons hmark h) (.cons hmark nofun)

theorem isOneLine_quote (s : String) : IsOneLine (quote s).toList := by
  have hmark := quoteMark_ne (s.toList.contains '\'') (s.toList.contains '"')
  simp only [quote, String.toList_ofList]
  exact isOneLine_between hmark (isOneLine_flatMap (isOneLine_escape hmark) _)

theorem isOneLine_quoteBytes (bytes : List UInt8) : IsOneLine (quoteBytes bytes).toList := by
  have hmark := quoteMark_ne (bytes.contains 0x27) (bytes.contains 0x22)
  have hbyte : ∀ b, IsOneLine (escapeByte (quoteMark (bytes.contains 0x27)
      (bytes.contains 0x22)) b) := by
    intro b
    simp only [escapeByte]
    split_ifs
    · exact isOneLine_escape hmark _
    · simp [isOneLine_hexDigits]
  simp only [quoteBytes, String.toList_ofList]
  exact .cons (by decide) (isOneLine_between hmark (isOneLine_flatMap hbyte _))

end Text

/-! ### Numbers -/

namespace Double

theorem isOneLine_signed {cs : List Char} (h : IsOneLine cs) (negative : Bool) :
    IsOneLine (signed negative cs).toList := by
  unfold signed
  split_ifs <;> simp [h]

theorem isOneLine_shortest (m : ℕ) (e : ℤ) : IsOneLine (shortest m e).1 := by
  simp only [shortest]
  split
  · decide
  · rename_i digits _
    have hdigits := isOneLine_toDigits (show 1 < 10 by decide) (by decide) digits
    refine hdigits.subset fun c hc => ?_
    exact List.mem_reverse.1 ((List.dropWhile_sublist _).subset (List.mem_reverse.1 hc))

variable {digits : List Char}

theorem isOneLine_take (h : IsOneLine digits) (n : ℕ) : IsOneLine (digits.take n) :=
  h.subset (List.take_subset _ _)

theorem isOneLine_drop (h : IsOneLine digits) (n : ℕ) : IsOneLine (digits.drop n) :=
  h.subset (List.drop_subset _ _)

theorem isOneLine_positional (h : IsOneLine digits) (point : ℤ) :
    IsOneLine (positional digits point) := by
  have hzeros (n : ℕ) : IsOneLine (List.replicate n '0') := isOneLine_replicate (by decide) n
  simp only [positional]
  split_ifs <;> simp [h, hzeros, isOneLine_take h, isOneLine_drop h]

theorem isOneLine_scientific (h : IsOneLine digits) (point : ℤ) :
    IsOneLine (scientific digits point) := by
  have hzeros (n : ℕ) : IsOneLine (List.replicate n '0') := isOneLine_replicate (by decide) n
  have hpower (n : ℕ) : IsOneLine (Nat.toDigits 10 n) :=
    isOneLine_toDigits (by decide) (by decide) n
  have hrest := isOneLine_drop h 1
  simp only [scientific]
  split <;> split_ifs <;> simp_all [isOneLine_take h]

theorem isOneLine_text (x : Double) : IsOneLine x.text.toList := by
  cases x with
  | nan => decide
  | infinite negative => exact isOneLine_signed (by decide) negative
  | finite negative m e =>
    have hdigits := isOneLine_shortest m e
    simp only [text]
    split_ifs
    · exact isOneLine_signed (by decide) negative
    · exact isOneLine_signed (isOneLine_positional hdigits _) negative
    · exact isOneLine_signed (isOneLine_scientific hdigits _) negative

theorem isOneLine_fixedQuotient (places num den : ℕ) :
    IsOneLine (fixedQuotient places num den) := by
  have hdigits : IsOneLine (padded (places + 1) (roundQuotient (num * tenTo places) den)) :=
    (isOneLine_replicate (by decide) _).append (isOneLine_toDigits (by decide) (by decide) _)
  simp only [fixedQuotient]
  split_ifs
  · exact hdigits
  · simp [isOneLine_take hdigits, isOneLine_drop hdigits]

theorem isOneLine_fixed (places : ℕ) (x : Double) : IsOneLine (x.fixed places).toList := by
  cases x with
  | nan =>
    rw [fixed]
    decide
  | infinite negative => exact isOneLine_signed (by decide) negative
  | finite negative m e =>
    refine isOneLine_signed ?_ negative
    split_ifs
    · exact isOneLine_fixedQuotient places m _
    · exact isOneLine_fixedQuotient places _ 1

end Double

theorem Number.isOneLine_text (n : Number) : IsOneLine n.text.toList := by
  cases n with
  | flag b => cases b <;> decide
  | whole i => exact isOneLine_toString i
  | real x => exact x.isOneLine_text

/-! ### Values -/

namespace Value

/-- Texts that are put together with a comma are one line if each of them is. -/
theorem isOneLine_commas {texts : List String} (h : ∀ t ∈ texts, IsOneLine t.toList) :
    IsOneLine (", ".toList.intercalate (texts.map String.toList)) := by
  rw [isOneLine_intercalate (by decide)]
  simpa using h

mutual

/-- **A value inside a message is on one line.** -/
theorem isOneLine_quoted : ∀ v : Value, IsOneLine v.quoted.toList
  | .none => by simp [quoted]
  | .number n => n.isOneLine_text
  | .text s => Text.isOneLine_quote s
  | .bytes b => Text.isOneLine_quoteBytes b
  | .list items => by
    have hitems := isOneLine_commas (isOneLine_quotedItems items)
    simpa [quoted] using hitems
  | .table fields => by
    have hfields := isOneLine_commas (isOneLine_quotedFields fields)
    simpa [quoted] using hfields

theorem isOneLine_quotedItems : ∀ items : List Value, ∀ t ∈ quotedItems items, IsOneLine t.toList
  | [] => nofun
  | v :: vs => by
    rw [quotedItems]
    exact List.forall_mem_cons.2 ⟨isOneLine_quoted v, isOneLine_quotedItems vs⟩

theorem isOneLine_quotedFields :
    ∀ fields : List (String × Value), ∀ t ∈ quotedFields fields, IsOneLine t.toList
  | [] => nofun
  | (k, v) :: fields => by
    rw [quotedFields]
    refine List.forall_mem_cons.2 ⟨?_, isOneLine_quotedFields fields⟩
    simp [Text.isOneLine_quote, isOneLine_quoted v]

end

/-- **A value by itself is on one line** exactly if it is no text of several lines. -/
theorem isOneLine_shown_iff (v : Value) :
    IsOneLine v.shown.toList ↔ ∀ s, v = .text s → IsOneLine s.toList := by
  cases v with
  | text s => simp [shown]
  | none | number | bytes | list | table => simpa [shown] using isOneLine_quoted _

end Value

end SipBench
