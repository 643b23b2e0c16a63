import Mathlib.Algebra.Order.Ring.Int
import Mathlib.Tactic.SplitIfs
import SipBench.Fault.Basic

/-!
# Showing values

Whole numbers with too many digits cannot be shown.  What is told of values fails if there is such a
number among them, and only then.

* `Writes` : something is told exactly under a condition
* `Value.isWritable_int_iff` : the whole numbers that can be shown
* `Number.isWritable_of_less` : those between two others that can be shown
-/

namespace SipBench

/-! ### Telling something -/

/-- Something is told if it can be, and else there are too many digits. -/
structure Writes {α : Type} (can : Prop) (told : Except Fault α) : Prop where
  tells (h : can) : ∃ a, told = .ok a
  refuses (h : ¬ can) : told = .error .tooManyDigits

namespace Writes

variable {α β : Type} {can can' : Prop} {x : Except Fault α} {f : α → Except Fault β}

theorem ok (a : α) : Writes True (.ok a : Except Fault α) :=
  ⟨fun _ => ⟨a, rfl⟩, fun h => absurd ⟨⟩ h⟩

theorem of_iff (hx : Writes can x) (h : can ↔ can') : Writes can' x :=
  ⟨fun hcan => hx.tells (h.2 hcan), fun hnot => hx.refuses fun hcan => hnot (h.1 hcan)⟩

/-- What is told in two parts can be told if both can. -/
theorem bind (hx : Writes can x) (hf : ∀ a, Writes can' (f a)) : Writes (can ∧ can') (x >>= f) := by
  constructor
  · rintro ⟨hcan, hcan'⟩
    obtain ⟨a, rfl⟩ := hx.tells hcan
    exact (hf a).tells hcan'
  · intro hnot
    by_cases hcan : can
    · obtain ⟨a, rfl⟩ := hx.tells hcan
      exact (hf a).refuses fun hcan' => hnot ⟨hcan, hcan'⟩
    · rw [hx.refuses hcan]
      rfl

/-- What is told last may be put in other words. -/
theorem map (hx : Writes can x) (g : α → β) : Writes can (x >>= fun a => pure (g a)) :=
  (hx.bind fun a => ok (g a)).of_iff (iff_of_eq (and_true can))

theorem write (v : Value) : Writes (v.isWritable = true) v.write := by
  rw [Value.write]
  split_ifs with h
  · exact (ok v.shown).of_iff (iff_of_true ⟨⟩ h)
  · exact ⟨fun hcan => absurd hcan h, fun _ => rfl⟩

theorem mapM (values : List Value) :
    Writes (∀ v ∈ values, v.isWritable = true) (values.mapM Value.write) := by
  induction values with
  | nil => exact (ok []).of_iff (iff_of_true ⟨⟩ nofun)
  | cons v values ih =>
    rw [List.mapM_cons]
    exact ((write v).bind fun text => ih.map (text :: ·)).of_iff
      (List.forall_mem_cons (p := fun v : Value => v.isWritable = true)).symm

end Writes

/-! ### Digits -/

theorem Value.isWritable_int_iff (i : ℤ) :
    (Value.int i).isWritable = true ↔ i.natAbs < 10 ^ Text.maxDigits := by
  rw [Value.isWritable, Number.isWritable, decide_eq_true_eq]
  exact Nat.length_toDigits_le_iff (by decide) (by decide)

theorem Number.compare?_whole (i j : ℤ) : compare? (.whole i) (.whole j) = some (compare i j) := by
  have hone : (Double.twoTo 0 : ℤ) = 1 := rfl
  simp [compare?, place, Double.align, hone]

theorem Number.atMost_whole {i j : ℤ} (h : atMost (.whole i) (.whole j) = true) : i ≤ j := by
  rw [atMost, less, same, compare?_whole, Bool.or_eq_true, beq_iff_eq, beq_iff_eq,
    Option.some.injEq, Option.some.injEq, Int.compare_eq_lt, Int.compare_eq_eq] at h
  omega

theorem Number.less_whole {i j : ℤ} (h : less (.whole i) (.whole j) = true) : i < j := by
  rwa [less, compare?_whole, beq_iff_eq, Option.some.injEq, Int.compare_eq_lt] at h

/-- A number between two whole numbers can be shown if the upper one can. -/
theorem Number.isWritable_of_less {n : Number} {low high : ℤ}
    (hlow : atMost (.whole low) n = true) (hhigh : n.less (.whole high) = true) (hsign : 0 ≤ low)
    (hwrite : (Value.int high).isWritable = true) : n.isWritable = true := by
  cases n with
  | whole i =>
    have hlow := atMost_whole hlow
    have hhigh := less_whole hhigh
    have hsize : i.natAbs ≤ high.natAbs := by omega
    exact (Value.isWritable_int_iff i).2
      (Nat.lt_of_le_of_lt hsize ((Value.isWritable_int_iff high).1 hwrite))
  | _ => rfl

theorem Value.not_isWritable_pow {n : ℕ} (h : Text.maxDigits ≤ n) :
    ¬ (Value.int (10 ^ n)).isWritable = true := by
  rw [Value.isWritable_int_iff, Int.natAbs_pow, Nat.not_lt]
  exact Nat.pow_le_pow_right (by decide) h

end SipBench
