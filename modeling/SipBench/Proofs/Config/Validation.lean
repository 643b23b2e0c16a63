import SipBench.Config.Validation
import SipBench.Proofs.Await.Outcome

/-!
# What a checked configuration is like

A configuration that has passed its checks can be used: every await can poll with its pair, whose
interval does not exceed the timeout, and its level has one of the known names.

* `Number.le_of_not_lt` : finite numbers are ordered
* `Polling.Sound`, `Config.Sound` : what the checks guarantee
* `Config.pollingPair_sound`, `Config.check_sound` : that they do
-/

namespace SipBench

/-! ### The order of numbers -/

namespace Number

theorem compare?_swap (a b : Number) : compare? b a = (compare? a b).map Ordering.swap := by
  have hnot (x y : Bool) : (compare (!x) (!y)).swap = compare (!y) (!x) := by
    cases x <;> cases y <;> rfl
  unfold compare?
  cases a.place <;> cases b.place <;> simp only [Option.map_none, Option.map_some, hnot]
  · split <;> rfl
  · split <;> rfl
  · rename_i m₁ e₁ m₂ e₂
    simp only [Double.align, Int.min_comm e₂ e₁, Int.compare_swap]

theorem place_of_isFinite {a : Number} (h : a.isFinite = true) : ∃ m e, a.place = .at m e := by
  cases a with
  | flag b => exact ⟨_, _, rfl⟩
  | whole i => exact ⟨_, _, rfl⟩
  | real x =>
    cases x with
    | nan => cases h
    | infinite negative => cases h
    | finite negative m e => exact ⟨_, _, rfl⟩

theorem le_of_not_lt {a b : Number} (ha : a.isFinite = true) (hb : b.isFinite = true)
    (h : ¬ b < a) : a ≤ b := by
  obtain ⟨m₁, e₁, hplace₁⟩ := place_of_isFinite ha
  obtain ⟨m₂, e₂, hplace₂⟩ := place_of_isFinite hb
  obtain ⟨order, horder⟩ : ∃ order, compare? a b = some order := by
    simp [compare?, hplace₁, hplace₂]
  have hless : (compare? b a == some .lt) = false := Bool.eq_false_iff.2 h
  rw [compare?_swap, horder] at hless
  show atMost a b = true
  rw [atMost, less, same, horder]
  cases order <;> simp_all

theorem not_lt_of_le {a b : Number} (h : a ≤ b) : ¬ b < a := by
  intro hless
  have hgreater : compare? a b = some .gt := by
    rw [compare?_swap, eq_of_beq hless]
    rfl
  have hatMost : atMost a b = true := h
  simp [atMost, less, same, hgreater] at hatMost

end Number

/-! ### Fields and sections -/

/-- What the checks guarantee of a polling pair: every await can use it, and its interval is at most
its timeout unless that is zero. -/
structure Polling.Sound (p : Polling Double) : Prop where
  usable : Polling.Usable ⟨.real p.interval, .real p.timeout⟩
  within : (Number.real p.timeout).same (.whole 0) = false →
    Number.real p.interval ≤ .real p.timeout

/-- The interval is not longer than the timeout, unless that is zero. -/
def Polling.InProportion (p : Polling Double) : Prop :=
  (Number.real p.timeout).same (.whole 0) = false → ¬ Number.real p.timeout < .real p.interval

theorem Polling.sound_iff {p : Polling Double} :
    p.Sound ↔ (p.interval.isFinite = true ∧ Number.whole 0 < .real p.interval) ∧
      (p.timeout.isFinite = true ∧ Number.whole 0 ≤ .real p.timeout) ∧ p.InProportion := by
  constructor
  · rintro ⟨⟨hfinite, hpositive, hfinite', hnonneg⟩, hwithin⟩
    exact ⟨⟨hfinite, hpositive⟩, ⟨hfinite', hnonneg⟩,
      fun hzero => Number.not_lt_of_le (hwithin hzero)⟩
  · rintro ⟨⟨hfinite, hpositive⟩, ⟨hfinite', hnonneg⟩, hproportion⟩
    exact ⟨⟨hfinite, hpositive, hfinite', hnonneg⟩,
      fun hzero => Number.le_of_not_lt hfinite hfinite' (hproportion hzero)⟩

/-- What the checks guarantee of a configuration. -/
structure Config.Sound (c : Config) : Prop where
  polling : c.polling.Sound
  level : c.logging.level.name ∈ ["DEBUG", "INFO", "WARNING", "ERROR", "CRITICAL"]

namespace Config

theorem both_eq_ok {α β : Type} {a : Checked α} {b : Checked β} {x : α} {y : β} :
    both a b = .ok (x, y) ↔ a = .ok x ∧ b = .ok y := by
  cases a <;> cases b <;> simp [both]

/-- A field that has passed holds its default or a value that has passed its check. -/
theorem field_eq_ok {α : Type} {fields : List (String × Value)} {name : String} {standard x : α}
    {check : Value → Except Flaw α} (h : field fields name standard check = .ok x) :
    x = standard ∨ ∃ v, check v = .ok x := by
  unfold field at h
  split at h
  · cases h
    exact .inl rfl
  · split at h
    · rename_i hcheck
      cases h
      exact .inr ⟨_, hcheck⟩
    · cases h

theorem field_eq_ok_iff {α : Type} {fields : List (String × Value)} {name : String} {v : Value}
    (h : fields.lookup name = some v) {standard x : α} {check : Value → Except Flaw α} :
    field fields name standard check = .ok x ↔ check v = .ok x := by
  unfold field
  simp only [h]
  cases check v <;> simp

variable {v : Validator}

theorem sectionOf_eq_ok {α : Type} {fields : List (String × Value)} {name kind : String}
    {check : List (String × Value) → Checked α} {x : α}
    (h : sectionOf v fields name kind check = .ok x) : ∃ inner, check inner = .ok x := by
  unfold sectionOf at h
  simp only at h
  split at h
  · rename_i hchecked
    cases h
    split at hchecked
    · exact ⟨_, hchecked⟩
    · exact ⟨_, hchecked⟩
    · cases hchecked
  · cases h

theorem finiteSeconds_eq_ok_iff {fits : Number → Bool} {otherwise : Flaw} {value : Value}
    {x : Double} : finiteSeconds v fits otherwise value = .ok x ↔
      v.number value = .ok x ∧ x.isFinite = true ∧ fits (.real x) = true := by
  unfold finiteSeconds
  cases v.number value with
  | error flaw => simp
  | ok y =>
    simp only [Except.ok.injEq]
    split_ifs with hfinite hfits
    · refine iff_of_false nofun ?_
      rintro ⟨rfl, hx, -⟩
      rw [hx] at hfinite
      cases hfinite
    · refine ⟨fun h => ?_, fun h => congrArg _ h.1⟩
      obtain rfl := Except.ok.inj h
      exact ⟨rfl, by simpa using hfinite, hfits⟩
    · refine iff_of_false nofun ?_
      rintro ⟨rfl, -, hx⟩
      exact hfits hx

theorem interval_of_field {fields : List (String × Value)} {name : String} {x : Double}
    (h : field fields name Polling.standard.interval (interval v) = .ok x) :
    x.isFinite = true ∧ Number.whole 0 < .real x := by
  obtain rfl | ⟨value, hvalue⟩ := field_eq_ok h
  · decide +kernel
  · exact (finiteSeconds_eq_ok_iff.1 hvalue).2

theorem timeout_of_field {fields : List (String × Value)} {name : String} {x : Double}
    (h : field fields name Polling.standard.timeout (timeout v) = .ok x) :
    x.isFinite = true ∧ Number.whole 0 ≤ .real x := by
  obtain rfl | ⟨value, hvalue⟩ := field_eq_ok h
  · decide +kernel
  · exact (finiteSeconds_eq_ok_iff.1 hvalue).2

theorem pollingPair_eq_ok_iff {fields : List (String × Value)} {p : Polling Double} :
    pollingPair v fields = .ok p ↔
      field fields "poll_interval" Polling.standard.interval (interval v) = .ok p.interval ∧
      field fields "timeout" Polling.standard.timeout (timeout v) = .ok p.timeout ∧
      p.InProportion := by
  unfold pollingPair
  simp only
  split
  · rename_i issues hboth
    refine iff_of_false nofun fun ⟨hinterval, htimeout, _⟩ => ?_
    rw [both_eq_ok.2 ⟨hinterval, htimeout⟩] at hboth
    cases hboth
  · rename_i interval timeout hboth
    obtain ⟨hinterval, htimeout⟩ := both_eq_ok.1 hboth
    rw [hinterval, htimeout, Except.ok.injEq, Except.ok.injEq]
    have hproportion : (!(Number.real timeout).same (.whole 0) &&
        (Number.real timeout).less (.real interval)) = true ↔
        ¬ Polling.InProportion ⟨interval, timeout⟩ := by
      simp [Polling.InProportion, LT.lt]
    split_ifs with hlong
    · refine iff_of_false nofun ?_
      rintro ⟨rfl, rfl, h⟩
      exact hproportion.1 hlong h
    · rw [Except.ok.injEq]
      refine ⟨?_, fun ⟨hi, ht, _⟩ => by rw [hi, ht]⟩
      rintro rfl
      exact ⟨rfl, rfl, Classical.not_not.1 fun h => hlong (hproportion.2 h)⟩

theorem pollingPair_sound {fields : List (String × Value)} {p : Polling Double}
    (h : pollingPair v fields = .ok p) : p.Sound := by
  obtain ⟨hinterval, htimeout, hproportion⟩ := pollingPair_eq_ok_iff.1 h
  exact Polling.sound_iff.2
    ⟨interval_of_field hinterval, timeout_of_field htimeout, hproportion⟩

theorem name_mem (l : Level) : l.name ∈ ["DEBUG", "INFO", "WARNING", "ERROR", "CRITICAL"] := by
  cases l <;> decide

/-- The polling pair of a configuration that has passed its checks has passed its own. -/
theorem exists_pollingPair_of_check {fields : List (String × Value)} {c : Config}
    (h : check v fields = .ok c) : ∃ inner, pollingPair v inner = .ok c.polling := by
  unfold check at h
  split at h
  · cases h
  rename_i polling logging hboth
  cases h
  exact sectionOf_eq_ok (both_eq_ok.1 hboth).1

/-- **A configuration that has passed its checks is sound.** -/
theorem check_sound {fields : List (String × Value)} {c : Config} (h : check v fields = .ok c) :
    c.Sound := by
  obtain ⟨inner, hinner⟩ := exists_pollingPair_of_check h
  exact ⟨pollingPair_sound hinner, name_mem c.logging.level⟩

end Config

end SipBench
