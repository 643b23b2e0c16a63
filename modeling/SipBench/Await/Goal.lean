import SipBench.Await.Basic
import SipBench.Check

/-!
# Goals

What a test waits for on a listener: the checks of a listener, a number of received responses and a
dialog.  A goal is a description and a question about the listener; the await asks it again and
again.
-/

namespace SipBench

/-- What a test waits for on a listener. -/
inductive Goal where
  /-- So many responses have been received, not more and not less. -/
  | receivedResponses (count : Value)
  | responseReceived (query : ResponseQuery)
  | requestReceived (query : RequestQuery)
  | answered
  | dialogReady

namespace Goal

/-- What a goal calls its target. -/
def targetName : Goal → String
  | answered => "call"
  | dialogReady => "REFER sender"
  | _ => "listener"

/-- How a goal on a listener is described. -/
def text (listenerName : String) : Goal → Except Fault String
  | receivedResponses count => do return s!"{listenerName} has {← count.write} received responses"
  | responseReceived q => do return s!"response {← q.text} received by {listenerName}"
  | requestReceived q => do return s!"request {← q.text} received by {listenerName}"
  | answered => .ok s!"call {listenerName} answered"
  | dialogReady => .ok s!"dialog ready on {listenerName}"

/-- A check as an evaluation of a condition. -/
def ofCheck (l : Listener) (check : ListenerCheck) : Except Fault (Option Unit) :=
  (check.run (some l) none).map some

/-- Whether a goal is reached. -/
def evaluate (l : Listener) : Goal → Except Fault (Option Unit)
  | receivedResponses count =>
    let size := Value.int l.receivedResponses.length
    if size.same count then .ok (some ()) else .error (.refusal size.writeQuoted)
  | responseReceived q => ofCheck l (.responseReceived q)
  | requestReceived q => ofCheck l (.requestReceived q)
  | answered => ofCheck l .answered
  | dialogReady => l.dialog.map fun dialog => if dialog.isNone then none else some ()

/-- The condition that the listener in a state has reached a goal; asking changes nothing. -/
def condition {σ : Type} (goal : Goal) (listener : σ → Listener) : Await.Condition σ Unit :=
  fun s => (goal.evaluate (listener s), s)

end Goal

end SipBench
