import SipBench.Fault.Basic
import SipBench.Polling

/-!
# Awaits

An await evaluates a condition at once and then, as long as it does not hold, after every sleep
until the deadline.  A fault that says that something does not hold yet counts as not holding; an
interruption passes through without a note, and every other fault ends the await.

The world of an await is a state `σ` with a clock in `τ`; reading the clock may change the state, as
a real clock moves on, and what happens during a sleep is up to the world.  A condition may itself
run further awaits on the same state.

* `Await.run` : an await, which ends in one of three ways, or is given up after `fuel` evaluations
* `Await.Note` : what it reports about itself
-/

namespace SipBench.Await

/-- What an await reports about itself. -/
inductive Note (τ : Type) where
  /-- It has begun. -/
  | begun (polling : Polling τ)
  /-- An evaluation has failed in a way that may still change. -/
  | notYet (attempt : Nat) (fault : Fault)
  /-- The condition has held. -/
  | satisfied (duration : τ) (attempts : Nat)
  /-- The deadline has passed. -/
  | timedOut (duration : τ) (attempts : Nat)
  /-- An evaluation has failed for good. -/
  | failed (duration : τ) (attempts : Nat) (fault : Fault)

/-- What an await needs of its world: a clock, a way to sleep and a place for its notes. -/
structure World (σ τ : Type) where
  now : σ → τ × σ
  sleep : τ → σ → σ
  note : Note τ → σ → σ

/-- The world with something beside its state that it neither reads nor changes. -/
def World.beside {σ τ : Type} (ρ : Type) (world : World σ τ) : World (ρ × σ) τ where
  now := fun (r, s) => let (t, s) := world.now s; (t, r, s)
  sleep := fun duration (r, s) => (r, world.sleep duration s)
  note := fun note (r, s) => (r, world.note note s)

/-- One evaluation: `some` value if the condition holds, `none` if it does not hold yet. -/
abbrev Condition (σ α : Type) := σ → Except Fault (Option α) × σ

/-- What a call says by the value it gives: the condition holds unless the value is false. -/
def heldValue (v : Value) : Option Value := if v.isFalse then none else some v

namespace Condition

variable {σ α ρ : Type}

/-- The condition that looks at the state and makes something of what it has seen. -/
def judged (judge : ρ → Except Fault (Option α)) (look : σ → ρ × σ) : Condition σ α :=
  fun s => let (seen, s) := look s; (judge seen, s)

/-- A call that gives a value or fails, as a condition. -/
def ofCall (call : σ → Except Fault Value × σ) : Condition σ Value :=
  judged (·.map heldValue) call

end Condition

/-- How an await ends. -/
inductive Ending (τ α : Type) where
  /-- The last evaluation held with a value. -/
  | satisfied (value : α)
  /-- The last evaluation failed for good, or was interrupted. -/
  | failed (fault : Fault)
  /-- No evaluation held before the deadline; `last` is the fault of the last one, if it had one. -/
  | timedOut (elapsed : τ) (attempts : Nat) (last : Option Fault)
  /-- More evaluations were needed than were allowed. -/
  | unfinished

/-- What an evaluation means for the await. -/
inductive Verdict (α : Type) where
  | holds (value : α)
  | notYet (fault : Option Fault)
  | ended (fault : Fault)

/-- What the result of an evaluation means. -/
def Verdict.of {α : Type} : Except Fault (Option α) → Verdict α
  | .ok (some value) => .holds value
  | .ok none => .notYet none
  | .error fault => if fault.severity = .retry then .notYet (some fault) else .ended fault

variable {σ τ α : Type}

/-- The time since `start`. -/
def elapsed [Sub τ] (world : World σ τ) (start : τ) (s : σ) : τ × σ :=
  let (now, s) := world.now s
  (now - start, s)

/-- The end of an await whose condition has held. -/
def satisfied [Sub τ] (world : World σ τ) (start : τ) (attempts : Nat) (value : α) (s : σ) :
    Ending τ α × σ :=
  let (duration, s) := elapsed world start s
  (.satisfied value, world.note (.satisfied duration attempts) s)

/-- The end of an await by a fault, which is noted unless it is an interruption. -/
def failed [Sub τ] (world : World σ τ) (start : τ) (attempts : Nat) (fault : Fault) (s : σ) :
    Ending τ α × σ :=
  if fault.severity = .interruption then (.failed fault, s)
  else
    let (duration, s) := elapsed world start s
    (.failed fault, world.note (.failed duration attempts fault) s)

/-- The end of an await at its deadline. -/
def timedOut [Sub τ] (world : World σ τ) (start : τ) (attempts : Nat) (last : Option Fault)
    (s : σ) : Ending τ α × σ :=
  let (duration, s) := elapsed world start s
  (.timedOut duration attempts last, world.note (.timedOut duration attempts) s)

/-- The state after a failed evaluation has been noted. -/
def noteNotYet (world : World σ τ) (attempt : Nat) (fault : Option Fault) (s : σ) : σ :=
  match fault with
  | some f => world.note (.notYet attempt f) s
  | none => s

/-- The length of a sleep: the interval, or what is left to the deadline if that is less. -/
def pause [LT τ] [DecidableLT τ] (interval left : τ) : τ :=
  if left < interval then left else interval

/-- The evaluations after the first `attempts` ones. -/
def poll [Sub τ] [LT τ] [LE τ] [DecidableLT τ] [DecidableLE τ] (world : World σ τ) (interval : τ)
    (condition : Condition σ α) (start deadline : τ) :
    (fuel attempts : Nat) → σ → Ending τ α × σ
  | 0, _, s => (.unfinished, s)
  | fuel + 1, attempts, s =>
    let attempts := attempts + 1
    let (result, s) := condition s
    match Verdict.of result with
    | .holds value => satisfied world start attempts value s
    | .ended fault => failed world start attempts fault s
    | .notYet last =>
      let (now, s) := world.now (noteNotYet world attempts last s)
      if deadline ≤ now then timedOut world start attempts last s
      else poll world interval condition start deadline fuel attempts
        (world.sleep (pause interval (deadline - now)) s)

/-- Waits until a condition holds. -/
def run [Add τ] [Sub τ] [LT τ] [LE τ] [DecidableLT τ] [DecidableLE τ] (world : World σ τ)
    (fuel : Nat) (polling : Polling τ) (condition : Condition σ α) (s : σ) : Ending τ α × σ :=
  let (start, s) := world.now s
  poll world polling.interval condition start (start + polling.timeout) fuel 0
    (world.note (.begun polling) s)

end SipBench.Await
