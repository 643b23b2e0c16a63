import SipBench.Await.Report
import SipBench.Await.Resolve
import SipBench.Timeline

/-!
# Calls of an await

A call resolves the polling values it is given and then polls.  Its world may be any; on a timeline,
a sleep spends its time and so runs what is due meanwhile.

* `Await.call` : the result of a call
* `Timeline.world` : a timeline as the world of an await
-/

namespace SipBench

/-- Waits until a condition holds, with the polling values given to the call or else the defaults;
`fuel` is the number of evaluations after which a pair is given up. -/
def Await.call {σ α : Type} (world : World σ Number) (fuel : Polling Number → Nat)
    (defaults : Polling Double) (interval timeout what : Value) (condition : Condition σ α)
    (s : σ) : Except Fault α × σ :=
  match Polling.resolve defaults interval timeout with
  | .error fault => (.error fault, s)
  | .ok polling =>
    let (ending, s) := run world (fuel polling) polling condition s
    (ending.result what polling.timeout, s)

namespace Timeline

variable {τ α ω : Type} [Add τ] [LT τ] [LE τ] [DecidableLT τ] [DecidableLE τ]

/-- Spends time, and runs all that is on the agenda and due meanwhile; `spare` more events may run
that are put on the agenda only then. -/
def spend (run : α → Timeline τ α ω → Timeline τ α ω) (spare : Nat) (duration : τ)
    (t : Timeline τ α ω) : Timeline τ α ω :=
  t.advance run (t.agenda.length + spare) duration

/-- A timeline as the world of an await; `slept` and `noted` are what its state keeps of a sleep and
of a note. -/
def world (run : α → Timeline τ α ω → Timeline τ α ω) (spare : Nat) (slept : τ → ω → ω)
    (noted : Await.Note τ → ω → ω) : Await.World (Timeline τ α ω) τ where
  now := fun t => (t.now, t)
  sleep := fun duration t => { t with state := slept duration t.state }.spend run spare duration
  note := fun note t => { t with state := noted note t.state }

end Timeline

end SipBench
