import Mathlib.Data.Nat.Notation
import Mathlib.Tactic.SplitIfs
import SipBench.Await.Call

/-!
# The history of an await

What an await does to its world and sees of it, as a list of events.  The history is written by the
await itself, in a world that keeps a record; keeping it changes nothing else.

* `Await.history`, `Await.callHistory` : the history of an await, and of a call of one
* `Await.run_recording`, `Await.call_recording` : the record does not disturb the await
* `Await.Course` : the histories that an await can have, one rule for each way an evaluation can end
* `Await.course_run` : every history is one of them
-/

namespace SipBench

/-- A fault that says that something does not hold yet: a failed assertion or an unmet condition, or
something derived from one. -/
def Fault.IsNotYet (f : Fault) : Prop :=
  f.kind.origin ∈ [FaultKind.assertion, .sipAssertion, .awaitTimeout, .conditionNotMet]

theorem Fault.severity_eq_retry_iff {f : Fault} : f.severity = .retry ↔ f.IsNotYet := by
  have h : f.kind.isRetryable = true ↔ f.IsNotYet := by
    simp only [FaultKind.isRetryable, List.contains_iff_mem, IsNotYet]
  rw [← h]
  unfold severity
  split_ifs with hretry <;> simp [hretry]

theorem Fault.not_isNotYet {f : Fault} {severity : Severity} (h : f.severity = severity)
    (hne : severity ≠ .retry) : ¬ f.IsNotYet :=
  fun hf => hne (h.symm.trans (severity_eq_retry_iff.2 hf))

namespace Await

variable {σ τ ρ α : Type}

/-- Something that an await does or sees; an evaluation has seen something of type `ρ`. -/
inductive Event (τ ρ : Type) where
  | evaluated (seen : ρ)
  | read (time : τ)
  | slept (duration : τ)
  | noted (note : Note τ)

/-- The world with a record of what is done to it and seen of it. -/
def World.recording (world : World σ τ) : World (σ × List (Event τ ρ)) τ where
  now := fun (s, h) => ((world.now s).1, (world.now s).2, h ++ [.read (world.now s).1])
  sleep := fun duration (s, h) => (world.sleep duration s, h ++ [.slept duration])
  note := fun note (s, h) => (world.note note s, h ++ [.noted note])

@[simp]
theorem World.recording_now (world : World σ τ) (s : σ) (h : List (Event τ ρ)) :
    world.recording.now (s, h) =
      ((world.now s).1, (world.now s).2, h ++ [.read (world.now s).1]) := rfl

@[simp]
theorem World.recording_sleep (world : World σ τ) (duration : τ) (s : σ) (h : List (Event τ ρ)) :
    world.recording.sleep duration (s, h) = (world.sleep duration s, h ++ [.slept duration]) := rfl

@[simp]
theorem World.recording_note (world : World σ τ) (note : Note τ) (s : σ) (h : List (Event τ ρ)) :
    world.recording.note note (s, h) = (world.note note s, h ++ [.noted note]) := rfl

/-- A look at the state with a record of what was seen. -/
def recorded (look : σ → ρ × σ) : σ × List (Event τ ρ) → ρ × (σ × List (Event τ ρ)) :=
  fun (s, h) => ((look s).1, (look s).2, h ++ [.evaluated (look s).1])

section

variable [Add τ] [Sub τ] [LT τ] [LE τ] [DecidableLT τ] [DecidableLE τ]

/-- An await that keeps a record of what it does and sees. -/
def recordedRun (world : World σ τ) (fuel : ℕ) (polling : Polling τ)
    (judge : ρ → Except Fault (Option α)) (look : σ → ρ × σ) (s : σ) :
    Ending τ α × (σ × List (Event τ ρ)) :=
  run world.recording fuel polling (.judged judge (recorded look)) (s, [])

/-- What an await does and sees, in this order. -/
def history (world : World σ τ) (fuel : ℕ) (polling : Polling τ)
    (judge : ρ → Except Fault (Option α)) (look : σ → ρ × σ) (s : σ) : List (Event τ ρ) :=
  (recordedRun world fuel polling judge look s).2.2

end

/-- A call of an await that keeps such a record. -/
def recordedCall (world : World σ Number) (fuel : Polling Number → ℕ) (defaults : Polling Double)
    (interval timeout what : Value) (judge : ρ → Except Fault (Option α)) (look : σ → ρ × σ)
    (s : σ) : Except Fault α × (σ × List (Event Number ρ)) :=
  call world.recording fuel defaults interval timeout what (.judged judge (recorded look)) (s, [])

/-- What a call of an await does and sees, in this order. -/
def callHistory (world : World σ Number) (fuel : Polling Number → ℕ) (defaults : Polling Double)
    (interval timeout what : Value) (judge : ρ → Except Fault (Option α)) (look : σ → ρ × σ)
    (s : σ) : List (Event Number ρ) :=
  (recordedCall world fuel defaults interval timeout what judge look s).2.2

/-! ### The record does not disturb -/

/-- The world `upper` lies over another one: what `f` forgets has no part in what happens. -/
structure World.Over {π : Type} (f : π → σ) (upper : World π τ) (world : World σ τ) : Prop where
  now : ∀ r, world.now (f r) = ((upper.now r).1, f (upper.now r).2)
  sleep : ∀ duration r, world.sleep duration (f r) = f (upper.sleep duration r)
  note : ∀ note r, world.note note (f r) = f (upper.note note r)

section

variable {π : Type} {f : π → σ} {upper : World π τ} {world : World σ τ}

theorem noteNotYet_over (h : World.Over f upper world) (attempt : ℕ) (fault : Option Fault)
    (r : π) :
    noteNotYet world attempt fault (f r) = f (noteNotYet upper attempt fault r) := by
  cases fault with
  | none => rfl
  | some fault => exact h.note _ r

variable [Sub τ]

theorem satisfied_over (h : World.Over f upper world) (start : τ) (attempts : ℕ) (value : α)
    (r : π) :
    satisfied world start attempts value (f r) =
      (satisfied upper start attempts value r).map id f := by
  simp only [satisfied, elapsed, h.now, h.note, Prod.map_apply, id_eq]

theorem failed_over (h : World.Over f upper world) (start : τ) (attempts : ℕ) (fault : Fault)
    (r : π) :
    failed (α := α) world start attempts fault (f r) =
      (failed upper start attempts fault r).map id f := by
  unfold failed
  split
  · rfl
  · simp only [elapsed, h.now, h.note, Prod.map_apply, id_eq]

theorem timedOut_over (h : World.Over f upper world) (start : τ) (attempts : ℕ)
    (last : Option Fault) (r : π) :
    timedOut (α := α) world start attempts last (f r) =
      (timedOut upper start attempts last r).map id f := by
  simp only [timedOut, elapsed, h.now, h.note, Prod.map_apply, id_eq]

variable [LT τ] [LE τ] [DecidableLT τ] [DecidableLE τ]

theorem poll_over (h : World.Over f upper world) {above : Condition π α} {condition : Condition σ α}
    (hc : ∀ r, condition (f r) = (above r).map id f) (interval start deadline : τ)
    (fuel : ℕ) : ∀ (attempts : ℕ) (r : π),
      poll world interval condition start deadline fuel attempts (f r) =
        (poll upper interval above start deadline fuel attempts r).map id f := by
  induction fuel with
  | zero => intro attempts r; rfl
  | succ fuel ih =>
    intro attempts r
    simp only [poll, hc, Prod.map_fst, Prod.map_snd, id_eq]
    -- both awaits see the same verdict and take the same branch
    cases Verdict.of (above r).1 with
    | holds value => exact satisfied_over h start _ value _
    | ended fault => exact failed_over h start _ fault _
    | notYet last =>
      simp only [noteNotYet_over h, h.now]
      split
      · exact timedOut_over h start _ last _
      · rw [h.sleep]; exact ih _ _

theorem run_over [Add τ] (h : World.Over f upper world) {above : Condition π α}
    {condition : Condition σ α} (hc : ∀ r, condition (f r) = (above r).map id f) (fuel : ℕ)
    (polling : Polling τ) (r : π) :
    run world fuel polling condition (f r) = (run upper fuel polling above r).map id f := by
  simp only [run, h.now, h.note]
  exact poll_over h hc _ _ _ _ _ _

end

theorem World.over_recording (world : World σ τ) :
    World.Over Prod.fst (world.recording (ρ := ρ)) world :=
  ⟨fun _ => rfl, fun _ _ => rfl, fun _ _ => rfl⟩

section

variable [Add τ] [Sub τ] [LT τ] [LE τ] [DecidableLT τ] [DecidableLE τ]

/-- **The record does not disturb the await**: it ends in the same way and in the same state. -/
theorem run_recording (world : World σ τ) (fuel : ℕ) (polling : Polling τ)
    (judge : ρ → Except Fault (Option α)) (look : σ → ρ × σ) (s : σ) :
    run world fuel polling (.judged judge look) s =
      (recordedRun world fuel polling judge look s).map id Prod.fst :=
  run_over world.over_recording (fun _ => rfl) fuel polling (s, [])

end

theorem call_recording (world : World σ Number) (fuel : Polling Number → ℕ)
    (defaults : Polling Double) (interval timeout what : Value)
    (judge : ρ → Except Fault (Option α)) (look : σ → ρ × σ) (s : σ) :
    call world fuel defaults interval timeout what (.judged judge look) s =
      (recordedCall world fuel defaults interval timeout what judge look s).map id Prod.fst := by
  unfold recordedCall call
  cases Polling.resolve defaults interval timeout with
  | error fault => rfl
  | ok polling =>
    have h := run_recording world (fuel polling) polling judge look s
    simp only [h]
    rfl

theorem callHistory_of_error {defaults : Polling Double} {interval timeout : Value} {fault : Fault}
    (h : Polling.resolve defaults interval timeout = .error fault) (world : World σ Number)
    (fuel : Polling Number → ℕ) (what : Value) (judge : ρ → Except Fault (Option α))
    (look : σ → ρ × σ) (s : σ) :
    callHistory world fuel defaults interval timeout what judge look s = [] := by
  simp only [callHistory, recordedCall, call, h]

theorem callHistory_of_ok {defaults : Polling Double} {interval timeout : Value}
    {polling : Polling Number} (h : Polling.resolve defaults interval timeout = .ok polling)
    (world : World σ Number) (fuel : Polling Number → ℕ) (what : Value)
    (judge : ρ → Except Fault (Option α)) (look : σ → ρ × σ) (s : σ) :
    callHistory world fuel defaults interval timeout what judge look s =
      history world (fuel polling) polling judge look s := by
  simp only [callHistory, recordedCall, call, h, history, recordedRun]

/-! ### The histories that there can be -/

/-- The note on an evaluation that has failed in a way that may still change. -/
def notYetNotes (attempt : ℕ) (fault : Option Fault) : List (Event τ ρ) :=
  (fault.map fun f => .noted (.notYet attempt f)).toList

/-- What can happen from an evaluation on, and the ending that it leads to; `fuel` evaluations are
allowed and `attempts` ones have been made. -/
inductive Course [Sub τ] [LT τ] [LE τ] [DecidableLT τ] (judge : ρ → Except Fault (Option α))
    (interval start deadline : τ) : (fuel attempts : ℕ) → List (Event τ ρ) → Ending τ α → Prop
  | stop (attempts : ℕ) : Course judge interval start deadline 0 attempts [] .unfinished
  | holds {fuel attempts : ℕ} {seen : ρ} {value : α} (hv : judge seen = .ok (some value)) (t : τ) :
    Course judge interval start deadline (fuel + 1) attempts
      [.evaluated seen, .read t, .noted (.satisfied (t - start) (attempts + 1))] (.satisfied value)
  | interrupted {fuel attempts : ℕ} {seen : ρ} {f : Fault} (hf : judge seen = .error f)
      (hs : f.severity = .interruption) :
    Course judge interval start deadline (fuel + 1) attempts [.evaluated seen] (.failed f)
  | failed {fuel attempts : ℕ} {seen : ρ} {f : Fault} (hf : judge seen = .error f)
      (hs : f.severity = .fatal) (t : τ) :
    Course judge interval start deadline (fuel + 1) attempts
      [.evaluated seen, .read t, .noted (.failed (t - start) (attempts + 1) f)] (.failed f)
  | timedOut {fuel attempts : ℕ} {seen : ρ} {last : Option Fault}
      (hv : Verdict.of (judge seen) = .notYet last) {now : τ} (hd : deadline ≤ now) (t : τ) :
    Course judge interval start deadline (fuel + 1) attempts
      (.evaluated seen :: notYetNotes (attempts + 1) last ++
        [.read now, .read t, .noted (.timedOut (t - start) (attempts + 1))])
      (.timedOut (t - start) (attempts + 1) last)
  | again {fuel attempts : ℕ} {seen : ρ} {last : Option Fault}
      (hv : Verdict.of (judge seen) = .notYet last) {now : τ} (hd : ¬ deadline ≤ now)
      {rest : List (Event τ ρ)} {ending : Ending τ α}
      (hrest : Course judge interval start deadline fuel (attempts + 1) rest ending) :
    Course judge interval start deadline (fuel + 1) attempts
      (.evaluated seen :: notYetNotes (attempts + 1) last ++
        .read now :: .slept (pause interval (deadline - now)) :: rest)
      ending

theorem verdict_holds {r : Except Fault (Option α)} {value : α} (h : Verdict.of r = .holds value) :
    r = .ok (some value) := by
  unfold Verdict.of at h
  split at h
  · cases h; rfl
  · cases h
  · split at h <;> cases h

theorem verdict_ended {r : Except Fault (Option α)} {f : Fault} (h : Verdict.of r = .ended f) :
    r = .error f ∧ ¬ f.IsNotYet := by
  unfold Verdict.of at h
  split at h
  · cases h
  · cases h
  · split_ifs at h with hs
    cases h
    exact ⟨rfl, fun hf => hs (Fault.severity_eq_retry_iff.mpr hf)⟩

theorem verdict_notYet {r : Except Fault (Option α)} {last : Option Fault}
    (h : Verdict.of r = .notYet last) :
    (r = .ok none ∧ last = none) ∨ ∃ f, r = .error f ∧ f.IsNotYet ∧ last = some f := by
  unfold Verdict.of at h
  split at h
  · cases h
  · cases h; exact .inl ⟨rfl, rfl⟩
  · split_ifs at h with hs
    cases h
    exact .inr ⟨_, rfl, Fault.severity_eq_retry_iff.mp hs, rfl⟩

theorem noteNotYet_recording (world : World σ τ) (attempt : ℕ) (fault : Option Fault) (s : σ)
    (h : List (Event τ ρ)) :
    noteNotYet world.recording attempt fault (s, h) =
      (noteNotYet world attempt fault s, h ++ notYetNotes attempt fault) := by
  cases fault with
  | none => simp [noteNotYet, notYetNotes]
  | some f => rfl

section

variable [Sub τ] [LT τ] [LE τ] [DecidableLT τ] [DecidableLE τ]

theorem course_poll (world : World σ τ) (judge : ρ → Except Fault (Option α)) (look : σ → ρ × σ)
    (interval start deadline : τ) (fuel : ℕ) : ∀ (attempts : ℕ) (s : σ) (h : List (Event τ ρ)),
      ∃ rest,
        (poll world.recording interval (.judged judge (recorded look)) start deadline fuel attempts
          (s, h)).2.2 = h ++ rest ∧
        Course judge interval start deadline fuel attempts rest
          (poll world.recording interval (.judged judge (recorded look)) start deadline fuel
            attempts (s, h)).1 := by
  -- for every record so far, since a round adds to it before the next one begins
  induction fuel with
  | zero => intro attempts s h; exact ⟨[], (List.append_nil h).symm, .stop attempts⟩
  | succ fuel ih =>
    intro attempts s h
    simp only [poll, Condition.judged, recorded]
    cases hv : Verdict.of (judge (look s).1) with
    | holds value =>
      simp only [Await.satisfied, elapsed, World.recording_now, World.recording_note]
      exact ⟨_, by simp only [List.append_assoc]; rfl, .holds (verdict_holds hv) _⟩
    | ended f =>
      obtain ⟨hf, hn⟩ := verdict_ended hv
      simp only [Await.failed, elapsed, World.recording_now, World.recording_note]
      split_ifs with hs
      · exact ⟨_, rfl, .interrupted hf hs⟩
      · have hfatal : f.severity = .fatal := by
          cases hsev : f.severity with
          | retry => exact absurd (Fault.severity_eq_retry_iff.mp hsev) hn
          | interruption => exact absurd hsev hs
          | fatal => rfl
        exact ⟨_, by simp only [List.append_assoc]; rfl, .failed hf hfatal _⟩
    | notYet last =>
      simp only [noteNotYet_recording, World.recording_now, World.recording_sleep]
      split_ifs with hd
      · simp only [Await.timedOut, elapsed, World.recording_now, World.recording_note]
        exact ⟨_, by simp only [List.append_assoc]; rfl, .timedOut hv hd _⟩
      · obtain ⟨rest, hrest, hcourse⟩ := ih (attempts + 1) _ _
        exact ⟨_, by rw [hrest]; simp only [List.append_assoc]; rfl, .again hv hd hcourse⟩

/-- **The shape of every history**: a reading of the clock, the note that the await has begun, and
one of the courses from there to the end. -/
theorem course_run [Add τ] (world : World σ τ) (fuel : ℕ) (polling : Polling τ)
    (judge : ρ → Except Fault (Option α)) (look : σ → ρ × σ) (s : σ) :
    ∃ start rest,
      history world fuel polling judge look s = .read start :: .noted (.begun polling) :: rest ∧
      Course judge polling.interval start (start + polling.timeout) fuel 0 rest
        (run world fuel polling (.judged judge look) s).1 := by
  obtain ⟨rest, hrest, hcourse⟩ := course_poll world judge look polling.interval (world.now s).1
    ((world.now s).1 + polling.timeout) fuel 0 (world.note (.begun polling) (world.now s).2)
    ([.read (world.now s).1, .noted (.begun polling)] : List (Event τ ρ))
  refine ⟨_, rest, hrest, ?_⟩
  rw [run_recording]
  exact hcourse

end

end Await

end SipBench
