import SipBench.Proofs.Await.Keeps

/-!
# Programs that run awaits

Test code may run awaits, and so may the conditions of those awaits, to any depth.  A run of it is
recorded as a tree: the calls that it has made, each with what it has done and seen, the evaluations
of its condition among that, which have made calls of their own.

* `Await.Program`, `Await.Program.run` : test code that runs awaits, and its run
* `Await.CallRecord`, `Await.EvaluationRecord` : the calls and evaluations of a run, as a tree
* `Await.Program.run_eq_recorded` : the record does not disturb the run
* `Await.Program.recorded_log` : the log of a run is that of its record
-/

namespace SipBench

namespace Await

variable {σ : Type}

/-! ### Running a program -/

/-- Test code that runs awaits.  The condition of an await is such code, too, and what follows may
depend on the state and on how an await has ended. -/
inductive Program (σ : Type) where
  | ends (result : Except Fault Value)
  | acts (act : σ → σ) (next : σ → Program σ)
  | awaits (interval timeout what : Value) (condition : Program σ)
      (next : Except Fault Unit → Program σ)

/-- The world with a log beside its state, to which the notes of an await on `what` are written. -/
def World.logging (world : World σ Number) (what : Value) :
    World (σ × List LogEntry) Number where
  now := fun (s, log) => ((world.now s).1, (world.now s).2, log)
  sleep := fun duration (s, log) => (world.sleep duration s, log)
  note := fun note (s, log) => (world.note note s, log ++ [note.entry what])

/-- The result of a program, its state and its log. -/
def Program.run (world : World σ Number) (fuel : Polling Number → ℕ) (defaults : Polling Double) :
    Program σ → σ × List LogEntry → Except Fault Value × (σ × List LogEntry)
  | ends result, s => (result, s)
  | acts act next, (s, log) => run world fuel defaults (next (act s)) (act s, log)
  | awaits interval timeout what condition next, s =>
    let (answer, s) := call (world.logging what) fuel defaults interval timeout what
      (.ofCall (run world fuel defaults condition)) s
    run world fuel defaults (next (answer.map fun _ => ())) s

/-! ### The tree of a run -/

mutual

/-- A call of an await: its polling pair or why it cannot be used, what it has done and seen, its
answer and what has been written to the log meanwhile. -/
structure CallRecord where
  what : Value
  polling : Except Fault (Polling Number)
  history : List (Event Number EvaluationRecord)
  answer : Except Fault Unit
  entries : List LogEntry

/-- An evaluation of a condition: the calls that it has made and its result. -/
structure EvaluationRecord where
  calls : List CallRecord
  result : Except Fault Value

end

/-- Whether the condition holds, by the result of the evaluation. -/
def EvaluationRecord.held (e : EvaluationRecord) : Except Fault (Option Value) :=
  e.result.map heldValue

/-- What has been written to the log in the course of an evaluation. -/
def EvaluationRecord.entries (e : EvaluationRecord) : List LogEntry := e.calls.flatMap (·.entries)

section

variable (world : World σ Number) (fuel : Polling Number → ℕ) (defaults : Polling Double)

/-- A call that gives its record, where `look` is an evaluation that gives its own. -/
def recordCall (interval timeout what : Value)
    (look : σ × List LogEntry → EvaluationRecord × (σ × List LogEntry)) (s : σ × List LogEntry) :
    CallRecord × (σ × List LogEntry) :=
  let (answer, after, history) := recordedCall (world.logging what) fuel defaults interval timeout
    what EvaluationRecord.held look s
  ({ what, polling := Polling.resolve defaults interval timeout, history
     answer := answer.map fun _ => (), entries := after.2.drop s.2.length }, after)

/-- A run that gives its record; the run as a whole is recorded like an evaluation. -/
def Program.recorded : Program σ → σ × List LogEntry → EvaluationRecord × (σ × List LogEntry)
  | ends result, s => (⟨[], result⟩, s)
  | acts act next, (s, log) => recorded (next (act s)) (act s, log)
  | awaits interval timeout what condition next, s =>
    let (c, s) := recordCall world fuel defaults interval timeout what (recorded condition) s
    let (rest, s) := recorded (next c.answer) s
    (⟨c :: rest.calls, rest.result⟩, s)

/-- The record does not disturb the run. -/
theorem Program.run_eq_recorded (program : Program σ) (s : σ × List LogEntry) :
    program.run world fuel defaults s =
      (program.recorded world fuel defaults s).map EvaluationRecord.result id := by
  induction program generalizing s with
  | ends result => rfl
  | acts act next ih => exact ih (act s.1) (act s.1, s.2)
  | awaits interval timeout what condition next ihc ihn =>
    have hcondition : Condition.ofCall (condition.run world fuel defaults) =
        .judged EvaluationRecord.held (condition.recorded world fuel defaults) := by
      funext s
      simp only [Condition.ofCall, Condition.judged, ihc]
      rfl
    simp only [run, hcondition, call_recording]
    exact ihn _ _

/-! ### The log of a run -/

/-- What an event of an await on `what` writes to the log. -/
def Event.entries (what : Value) : Event Number EvaluationRecord → List LogEntry
  | .evaluated e => e.entries
  | .noted note => [note.entry what]
  | .read _ | .slept _ => []

variable {look : σ × List LogEntry → EvaluationRecord × (σ × List LogEntry)}

theorem recordedCall_log (hlook : ∀ s, (look s).2.2 = s.2 ++ (look s).1.entries)
    (interval timeout what : Value) (judge : EvaluationRecord → Except Fault (Option Value))
    (s : σ × List LogEntry) :
    let after := (recordedCall (world.logging what) fuel defaults interval timeout what judge look
      s).2
    after.1.2 = s.2 ++ after.2.flatMap (Event.entries what) := by
  unfold recordedCall call
  cases Polling.resolve defaults interval timeout with
  | error fault => exact (List.append_nil s.2).symm
  | ok polling =>
    let P (r : (σ × List LogEntry) × List (Event Number EvaluationRecord)) : Prop :=
      r.1.2 = s.2 ++ r.2.flatMap (Event.entries what)
    have hwrites : ∀ {r s' e}, s'.2 = r.1.2 ++ Event.entries what e → P r → P (s', r.2 ++ [e]) := by
      intro r s' e hs' hr
      simp only [P, hs', List.flatMap_append, List.flatMap_singleton, ← List.append_assoc]
      rw [show r.1.2 = _ from hr]
    have hkeeps : (world.logging what).recording.Keeps P :=
      { now := fun r => hwrites (List.append_nil _).symm
        sleep := fun duration r => hwrites (List.append_nil _).symm
        note := fun note r => hwrites rfl }
    exact recordedRun_keeps hkeeps (fun r => hwrites (hlook r.1)) (fuel polling) polling judge
      (List.append_nil s.2).symm

theorem recordCall_log (hlook : ∀ s, (look s).2.2 = s.2 ++ (look s).1.entries)
    (interval timeout what : Value) (s : σ × List LogEntry) :
    let r := recordCall world fuel defaults interval timeout what look s
    r.1.entries = r.1.history.flatMap (Event.entries what) ∧ r.2.2 = s.2 ++ r.1.entries := by
  have hlog := recordedCall_log world fuel defaults hlook interval timeout what
    EvaluationRecord.held s
  have hentries : (recordCall world fuel defaults interval timeout what look s).1.entries = _ :=
    (congrArg (List.drop s.2.length) hlog).trans List.drop_left
  exact ⟨hentries, hlog.trans (congrArg (s.2 ++ ·) hentries.symm)⟩

theorem Program.recorded_log (program : Program σ) (s : σ × List LogEntry) :
    (program.recorded world fuel defaults s).2.2 =
      s.2 ++ (program.recorded world fuel defaults s).1.entries := by
  induction program generalizing s with
  | ends result => exact (List.append_nil s.2).symm
  | acts act next ih => exact ih (act s.1) (act s.1, s.2)
  | awaits interval timeout what condition next ihc ihn =>
    obtain ⟨-, hcall⟩ := recordCall_log world fuel defaults ihc interval timeout what s
    simp only [recorded, EvaluationRecord.entries, List.flatMap_cons, ← List.append_assoc]
    exact (ihn _ _).trans (congrArg (· ++ _) hcall)

end

end Await

end SipBench
