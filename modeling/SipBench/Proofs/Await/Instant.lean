import Mathlib.Algebra.Order.Floor.Semiring
import Mathlib.Data.Rat.Floor
import Mathlib.Tactic.Linarith
import SipBench.Proofs.Await.Outcome
import SipBench.Proofs.Timeline

/-!
# The instants of an await on a timeline

With exact times, a sleep that takes exactly its time and evaluations that take none, an await
evaluates its condition at its start, then after every interval, and last of all at its deadline.
What it sees there is the state after all that was due by then.

* `Await.instant` : the times of the evaluations
* `Await.timeline` : a world in which only what is due changes the state
* `Await.run_timeline` : when and how an await on a timeline ends
-/

namespace SipBench

namespace Await

variable {α β ω : Type}

/-! ### The times of the evaluations -/

/-- The time of evaluation `k`, counted from zero: so many intervals after the start, but not after
the deadline. -/
def instant (start : ℚ) (p : Polling ℚ) (k : ℕ) : ℚ :=
  min (start + k * p.interval) (start + p.timeout)

theorem instant_zero (start : ℚ) {p : Polling ℚ} (hT : 0 ≤ p.timeout) :
    instant start p 0 = start := by
  simp [instant, hT]

theorem instant_le_deadline (start : ℚ) (p : Polling ℚ) (k : ℕ) :
    instant start p k ≤ start + p.timeout :=
  min_le_right _ _

/-- After as many intervals as the timeout holds, the next evaluation is that at the deadline. -/
theorem instant_of_ceil_le (start : ℚ) {p : Polling ℚ} (hp : 0 < p.interval) {k : ℕ}
    (hk : ⌈p.timeout / p.interval⌉₊ ≤ k) : instant start p k = start + p.timeout := by
  have hle : p.timeout / p.interval ≤ k := (Nat.le_ceil _).trans (Nat.cast_le.2 hk)
  rw [div_le_iff₀ hp] at hle
  exact min_eq_right (by linarith)

theorem instant_add_pause {start : ℚ} {p : Polling ℚ} {k : ℕ}
    (h : ¬ start + p.timeout ≤ instant start p k) :
    instant start p k + pause p.interval (start + p.timeout - instant start p k) =
      instant start p (k + 1) := by
  have hk : instant start p k = start + k * p.interval := by
    unfold instant at h ⊢
    exact min_eq_left (by rw [min_def] at h; split_ifs at h with hmin <;> linarith)
  rw [hk] at h ⊢
  unfold pause instant
  push_cast
  split_ifs with hlast
  · rw [min_eq_right] <;> linarith
  · rw [min_eq_left] <;> linarith

theorem pause_nonneg {interval left : ℚ} (hi : 0 ≤ interval) (hl : 0 ≤ left) :
    0 ≤ pause interval left := by
  unfold pause
  split_ifs
  · exact hl
  · exact hi

/-! ### An await on a timeline -/

/-- The world of a timeline whose state is changed by nothing but what is due. -/
def timeline (step : α → ω → ω) (spare : ℕ) : World (Timeline ℚ α ω) ℚ :=
  Timeline.world (Timeline.applying step) spare (fun _ state => state) fun _ state => state

/-- The condition that says something about the state of a timeline, which it does not change. -/
def onState (evaluate : ω → Except Fault (Option β)) : Condition (Timeline ℚ α ω) β :=
  fun t => (evaluate t.state, t)

section

variable (step : α → ω → ω) (evaluate : ω → Except Fault (Option β)) (t₀ : Timeline ℚ α ω)
  (p : Polling ℚ) (arrived : ℚ → Prop)

/-- What the condition says on a timeline depends only on the time: it holds when something has
arrived, and does not hold yet before. -/
structure Tells : Prop where
  yes : ∀ t, Timeline.Since step t₀ t → arrived t.now → ∃ v, evaluate t.state = .ok (some v)
  no : ∀ t, Timeline.Since step t₀ t → ¬ arrived t.now → NotYet (evaluate t.state)

/-- The end of an await at its evaluation `k`, the first one after the arrival or the one at the
deadline. -/
structure EndsAt (k : ℕ) (ending : Ending ℚ β) (t : Timeline ℚ α ω) : Prop where
  since : Timeline.Since step t₀ t
  now : t.now = instant t₀.now p k
  before : ∀ j < k, ¬ arrived (instant t₀.now p j)
  ending :
    (arrived t.now ∧ ∃ v, evaluate t.state = .ok (some v) ∧ ending = .satisfied v) ∨
    (¬ arrived t.now ∧ t.now = t₀.now + p.timeout ∧ NotYet (evaluate t.state) ∧
      ending = .timedOut p.timeout (k + 1) (fault? (evaluate t.state)))

variable {step evaluate t₀ p arrived}

theorem verdict_of_notYet {r : Except Fault (Option β)} (h : NotYet r) :
    Verdict.of r = .notYet (fault? r) := by
  cases r with
  | ok held => rw [show held = none from h]; rfl
  | error f => simp only [Verdict.of, Fault.severity_eq_retry_iff.2 h, ↓reduceIte, fault?]

theorem noteNotYet_timeline (spare attempt : ℕ) (fault : Option Fault) (t : Timeline ℚ α ω) :
    noteNotYet (timeline step spare) attempt fault t = t := by
  cases fault <;> rfl

theorem poll_timeline_of_holds {t : Timeline ℚ α ω} {v : β} (h : evaluate t.state = .ok (some v))
    (spare : ℕ) (interval start deadline : ℚ) (fuel attempts : ℕ) :
    poll (timeline step spare) interval (onState evaluate) start deadline (fuel + 1) attempts t =
      (.satisfied v, t) := by
  simp only [poll, onState, h]
  rfl

theorem poll_timeline_of_notYet {t : Timeline ℚ α ω} (h : NotYet (evaluate t.state))
    (spare : ℕ) (interval start deadline : ℚ) (fuel attempts : ℕ) :
    poll (timeline step spare) interval (onState evaluate) start deadline (fuel + 1) attempts t =
      if deadline ≤ t.now then
        (.timedOut (t.now - start) (attempts + 1) (fault? (evaluate t.state)), t)
      else
        poll (timeline step spare) interval (onState evaluate) start deadline fuel (attempts + 1)
          (t.advance (Timeline.applying step) (t.agenda.length + spare)
            (pause interval (deadline - t.now))) := by
  simp only [poll, onState, verdict_of_notYet h, noteNotYet_timeline]
  rfl

/-- Every poll leads to the end that the await has to have. -/
theorem poll_timeline (hp : 0 < p.interval) (h : Tells step evaluate t₀ arrived) (spare fuel : ℕ) :
    ∀ (k : ℕ) (t : Timeline ℚ α ω), Timeline.Since step t₀ t → t.now = instant t₀.now p k →
      (∀ j < k, ¬ arrived (instant t₀.now p j)) →
      k ≤ ⌈p.timeout / p.interval⌉₊ → ⌈p.timeout / p.interval⌉₊ < fuel + k →
      ∃ n ending after,
        poll (timeline step spare) p.interval (onState evaluate) t₀.now (t₀.now + p.timeout)
          fuel k t = (ending, after) ∧ EndsAt step evaluate t₀ p arrived n ending after := by
  induction fuel with
  | zero => intro k t _ _ _ hk hfuel; omega
  | succ fuel ih =>
    intro k t hsince hnow hbefore hk hfuel
    -- something has arrived, or the deadline is reached, or a sleep leads to the next instant
    by_cases harrived : arrived t.now
    · obtain ⟨v, hv⟩ := h.yes t hsince harrived
      exact ⟨k, _, _, poll_timeline_of_holds hv _ _ _ _ _ _,
        hsince, hnow, hbefore, .inl ⟨harrived, v, hv, rfl⟩⟩
    · have hnot := h.no t hsince harrived
      have hdeadline : t.now ≤ t₀.now + p.timeout := hnow ▸ instant_le_deadline _ _ _
      rw [poll_timeline_of_notYet hnot]
      split_ifs with hd
      · have hlast : t.now = t₀.now + p.timeout := le_antisymm hdeadline hd
        have helapsed : t.now - t₀.now = p.timeout := by rw [hlast]; ring
        exact ⟨k, _, _, rfl, hsince, hnow, hbefore,
          .inr ⟨harrived, hlast, hnot, by rw [helapsed]⟩⟩
      · have hnext : t.now + pause p.interval (t₀.now + p.timeout - t.now) =
            instant t₀.now p (k + 1) := by
          rw [hnow] at hd ⊢
          exact instant_add_pause hd
        have hpause : 0 ≤ pause p.interval (t₀.now + p.timeout - t.now) :=
          pause_nonneg hp.le (sub_nonneg.2 hdeadline)
        have hbefore' : ∀ j < k + 1, ¬ arrived (instant t₀.now p j) := by
          intro j hj
          obtain hj | rfl := Nat.lt_succ_iff_lt_or_eq.1 hj
          · exact hbefore j hj
          · rwa [← hnow]
        -- the instants before the deadline are fewer than the fuel
        have hk' : k < ⌈p.timeout / p.interval⌉₊ := by
          by_contra hge
          exact hd (hnow ▸ (instant_of_ceil_le t₀.now hp (not_lt.1 hge)).ge)
        exact ih (k + 1) _ (hsince.advance hpause (Nat.le_add_right _ spare)) hnext hbefore' hk'
          (by omega)

/-- **When an await on a timeline ends**: at the first of its instants by which something has
arrived, or else at the deadline. -/
theorem run_timeline (hp : 0 < p.interval) (hT : 0 ≤ p.timeout)
    (hlater : ∀ a ∈ t₀.agenda, t₀.now < a.time) (h : Tells step evaluate t₀ arrived) (spare : ℕ)
    {fuel : ℕ} (hfuel : ⌈p.timeout / p.interval⌉₊ < fuel) :
    ∃ n ending after, run (timeline step spare) fuel p (onState evaluate) t₀ = (ending, after) ∧
      EndsAt step evaluate t₀ p arrived n ending after :=
  poll_timeline hp h spare fuel 0 t₀ (.refl hlater) (instant_zero _ hT).symm nofun (Nat.zero_le _)
    hfuel

end

end Await

end SipBench
