/-!
# Timelines

A timeline is a state with a clock that stands still until time is spent, and with an agenda of
events that are due at given times.  Spending time runs, in order of their times, all events that
are due by then, each with the clock at its time unless the clock is already later.

* `Timeline.schedule` : one more event
* `Timeline.advance` : time spent
-/

namespace SipBench

/-- An event and the time at which it is due. -/
structure Appointment (τ α : Type) where
  time : τ
  event : α

/-- A state `ω` with a clock and an agenda. -/
structure Timeline (τ α ω : Type) where
  now : τ
  agenda : List (Appointment τ α) := []
  state : ω

namespace Timeline

variable {τ α ω : Type}

/-- Puts an event on the agenda, behind those that were put there before. -/
def schedule (t : Timeline τ α ω) (time : τ) (event : α) : Timeline τ α ω :=
  { t with agenda := t.agenda ++ [⟨time, event⟩] }

/-- The first appointment of an agenda with the least time, and the rest of the agenda. -/
def takeFirst [LT τ] [DecidableLT τ] :
    List (Appointment τ α) → Option (Appointment τ α × List (Appointment τ α))
  | [] => none
  | a :: rest =>
    match takeFirst rest with
    | none => some (a, rest)
    | some (b, others) => if b.time < a.time then some (b, a :: others) else some (a, rest)

/-- The first appointment that is due by a time, and the rest of the agenda. -/
def takeDue [LT τ] [LE τ] [DecidableLT τ] [DecidableLE τ] (limit : τ)
    (agenda : List (Appointment τ α)) : Option (Appointment τ α × List (Appointment τ α)) :=
  match takeFirst agenda with
  | some (a, rest) => if a.time ≤ limit then some (a, rest) else none
  | none => none

/-- Runs what is due by a time, at most `fuel` events. -/
def runDue [LT τ] [LE τ] [DecidableLT τ] [DecidableLE τ]
    (run : α → Timeline τ α ω → Timeline τ α ω) (limit : τ) :
    (fuel : Nat) → Timeline τ α ω → Timeline τ α ω
  | 0, t => t
  | fuel + 1, t =>
    match takeDue limit t.agenda with
    | none => t
    | some (a, rest) =>
      let now := if t.now < a.time then a.time else t.now
      runDue run limit fuel (run a.event { t with now, agenda := rest })

/-- Spends time: runs what is due by its end, at most `fuel` events, and moves the clock there. -/
def advance [Add τ] [LT τ] [LE τ] [DecidableLT τ] [DecidableLE τ]
    (run : α → Timeline τ α ω → Timeline τ α ω) (fuel : Nat) (duration : τ) (t : Timeline τ α ω) :
    Timeline τ α ω :=
  let limit := t.now + duration
  { runDue run limit fuel t with now := limit }

end Timeline

end SipBench
