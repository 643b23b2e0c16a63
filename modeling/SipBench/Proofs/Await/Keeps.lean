import SipBench.Proofs.Await.History

/-!
# What an await keeps

A property of the state that the clock, the sleeps, the notes and the evaluations keep is true at
the end of an await.  If the record of an await belongs to the state, such a property relates what
has happened to what it has led to.

* `Await.World.Keeps` : the clock, the sleeps and the notes keep a property
* `Await.poll_keeps`, `Await.run_keeps` : so does an await
* `Await.recordedRun_keeps` : so does an await that keeps a record
-/

namespace SipBench

namespace Await

variable {σ τ α : Type}

/-- A property of the state that nothing but an evaluation can end. -/
structure World.Keeps (world : World σ τ) (P : σ → Prop) : Prop where
  now : ∀ s, P s → P (world.now s).2
  sleep : ∀ duration s, P s → P (world.sleep duration s)
  note : ∀ note s, P s → P (world.note note s)

theorem World.beside_keeps {ρ : Type} (world : World σ τ) (P : ρ → Prop) :
    (world.beside ρ).Keeps fun s => P s.1 :=
  ⟨fun _ h => h, fun _ _ h => h, fun _ _ h => h⟩

theorem World.Keeps.beside {world : World σ τ} {P : σ → Prop} (h : world.Keeps P) (ρ : Type) :
    (world.beside ρ).Keeps fun s => P s.2 :=
  ⟨fun s => h.now s.2, fun duration s => h.sleep duration s.2, fun note s => h.note note s.2⟩

section

variable {world : World σ τ} {P : σ → Prop}

theorem noteNotYet_keeps (h : world.Keeps P) (attempt : ℕ) (fault : Option Fault) {s : σ}
    (hs : P s) : P (noteNotYet world attempt fault s) := by
  cases fault with
  | none => exact hs
  | some f => exact h.note _ _ hs

variable [Sub τ]

theorem satisfied_keeps (h : world.Keeps P) (start : τ) (attempts : ℕ) (value : α) {s : σ}
    (hs : P s) : P (satisfied world start attempts value s).2 :=
  h.note _ _ (h.now _ hs)

theorem failed_keeps (h : world.Keeps P) (start : τ) (attempts : ℕ) (fault : Fault) {s : σ}
    (hs : P s) : P (failed (α := α) world start attempts fault s).2 := by
  unfold failed
  split
  · exact hs
  · exact h.note _ _ (h.now _ hs)

theorem timedOut_keeps (h : world.Keeps P) (start : τ) (attempts : ℕ) (last : Option Fault) {s : σ}
    (hs : P s) : P (timedOut (α := α) world start attempts last s).2 :=
  h.note _ _ (h.now _ hs)

variable [LT τ] [LE τ] [DecidableLT τ] [DecidableLE τ] {condition : Condition σ α}
  {interval start deadline : τ} {fuel : ℕ}

theorem poll_of_verdict (h : world.Keeps P) {attempts : ℕ} {s : σ} {last : Option Fault}
    (hverdict : Verdict.of (condition s).1 = .notYet last) (hs : P (condition s).2) :
    (∃ t after, poll world interval condition start deadline (fuel + 1) attempts s =
      (.timedOut t (attempts + 1) last, after)) ∨
    ∃ next, P next ∧ poll world interval condition start deadline (fuel + 1) attempts s =
      poll world interval condition start deadline fuel (attempts + 1) next := by
  have hnow := h.now _ (noteNotYet_keeps h (attempts + 1) last hs)
  rw [poll]
  simp only [hverdict]
  split_ifs
  · exact .inl ⟨_, _, rfl⟩
  · exact .inr ⟨_, h.sleep _ _ hnow, rfl⟩

/-- What is true after an evaluation is true at the end if the rounds that follow keep it. -/
theorem poll_round (h : world.Keeps P) {attempts : ℕ} {s : σ} (hs : P (condition s).2)
    (hrest : ∀ s, P s → P (poll world interval condition start deadline fuel (attempts + 1) s).2) :
    P (poll world interval condition start deadline (fuel + 1) attempts s).2 := by
  rw [poll]
  simp only
  cases Verdict.of (condition s).1 with
  | holds value => exact satisfied_keeps h start _ value hs
  | ended fault => exact failed_keeps h start _ fault hs
  | notYet last =>
    have hnow := h.now _ (noteNotYet_keeps h (attempts + 1) last hs)
    simp only
    split_ifs
    · exact timedOut_keeps h start _ last hnow
    · exact hrest _ (h.sleep _ _ hnow)

theorem poll_keeps (h : world.Keeps P) (hcondition : ∀ s, P s → P (condition s).2)
    (attempts : ℕ) {s : σ} (hs : P s) :
    P (poll world interval condition start deadline fuel attempts s).2 := by
  induction fuel generalizing attempts s with
  | zero => exact hs
  | succ fuel ih => exact poll_round h (hcondition s hs) fun s hs => ih (attempts + 1) hs

theorem run_keeps [Add τ] (h : world.Keeps P) (hcondition : ∀ s, P s → P (condition s).2)
    (fuel : ℕ) (polling : Polling τ) {s : σ} (hs : P s) :
    P (run world fuel polling condition s).2 :=
  poll_keeps h hcondition 0 (h.note _ _ (h.now _ hs))

end

/-! ### Properties of the record -/

section

variable {ρ : Type} [Add τ] [Sub τ] [LT τ] [LE τ] [DecidableLT τ] [DecidableLE τ]
  {world : World σ τ} {P : σ × List (Event τ ρ) → Prop}

theorem recordedRun_keeps (h : world.recording.Keeps P) {look : σ → ρ × σ}
    (hlook : ∀ s, P s → P (recorded look s).2) (fuel : ℕ) (polling : Polling τ)
    (judge : ρ → Except Fault (Option α)) {s : σ} (hs : P (s, [])) :
    P (recordedRun world fuel polling judge look s).2 :=
  run_keeps h hlook fuel polling hs

theorem evaluated_mem_history (world : World σ τ) {Q : ρ → Prop} {look : σ → ρ × σ}
    (hlook : ∀ s, Q (look s).1) (fuel : ℕ) (polling : Polling τ)
    (judge : ρ → Except Fault (Option α)) (s : σ) :
    ∀ seen, .evaluated seen ∈ history world fuel polling judge look s → Q seen := by
  have hother : ∀ {h : List (Event τ ρ)} {e : Event τ ρ}, (∀ seen, e = .evaluated seen → Q seen) →
      (∀ seen, .evaluated seen ∈ h → Q seen) → ∀ seen, .evaluated seen ∈ h ++ [e] → Q seen := by
    intro h e he hh seen hmem
    obtain hmem | hmem := List.mem_append.1 hmem
    · exact hh seen hmem
    · exact he seen (List.mem_singleton.1 hmem).symm
  refine recordedRun_keeps (P := fun s => ∀ seen, .evaluated seen ∈ s.2 → Q seen)
    ⟨fun s => hother (e := .read (world.now s.1).1) nofun,
      fun d s => hother (e := .slept d) nofun, fun n s => hother (e := .noted n) nofun⟩
    (fun s => hother ?_) fuel polling judge nofun
  rintro seen ⟨⟩
  exact hlook s.1

end

end Await

end SipBench
