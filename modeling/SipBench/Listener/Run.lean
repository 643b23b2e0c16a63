import SipBench.Listener.Basic

/-!
# Runs of a listener

A run is a sequence of whole operations: each of them has ended before the next one begins.
Operations that overlap are no run.  A record is stored under a lock, but what a call or a
subscription makes of it and what a disposal drops beside the lists is changed afterwards.

* `Listener.receive` : a delivery
* `Listener.perform` : one operation
* `Listener.run` : a list of operations
-/

namespace SipBench

/-- Something that the stack hands over as a message for one list of a listener. -/
structure Arrival where
  list : Received
  item : Item
  raw : Value := .none
  handle : Option Transaction := none

namespace Arrival

/-- The message that is handed over, if it is of the kind that the list holds. -/
def message? (a : Arrival) : Option Message :=
  match a.list, a.item with
  | .responses, .message m => if m.isResponse then some m else none
  | .requests, .message m => if m.isRequest then some m else none
  | _, .other _ => none

end Arrival

namespace Listener

/-- Stores what the stack hands over. -/
def receive (l : Listener) (a : Arrival) : Delivery :=
  match a.list with
  | .responses => l.receiveResponse a.item a.raw a.handle
  | .requests => l.receiveRequest a.item a.raw a.handle

/-- What a test can see of a listener at one moment. -/
structure Snapshot where
  events : List EventRecord
  responses : List Message
  requests : List Message
  lastResponse : Option Message
  lastRequest : Option Message

/-- What can be seen of the listener now. -/
def snapshot (l : Listener) : Snapshot :=
  ⟨l.events, l.receivedResponses, l.receivedRequests, l.lastResponse?, l.lastRequest?⟩

/-- What can be done with a listener. -/
inductive Operation where
  | deliver (a : Arrival)
  | noteSuccess
  | noteFailure (message : String)
  | markAnswered
  | addEventError (message : String)
  | setDialog (dialog : Value)
  | look
  | dispose

/-- The answer to an operation. -/
inductive Answer where
  | delivered (result : Except Fault EventRecord)
  | seen (s : Snapshot)
  | done (result : Except Fault Unit)

/-- The answer to a change that may fail, and the listener after it. -/
def changed (l : Listener) : Except Fault Listener → Answer × Listener
  | .ok after => (.done (.ok ()), after)
  | .error fault => (.done (.error fault), l)

/-- The answer to an operation, and the listener after it. -/
def perform (l : Listener) : Operation → Answer × Listener
  | .deliver a => (.delivered (l.receive a).result, (l.receive a).listener)
  | .noteSuccess => l.changed (.ok l.noteSuccess)
  | .noteFailure message => l.changed (.ok (l.noteFailure message).1)
  | .markAnswered => l.changed l.markAnswered
  | .addEventError message => l.changed ((l.addEventError message).map (·.1))
  | .setDialog dialog => l.changed ((l.setDialog dialog).map (·.1))
  | .look => (.seen l.snapshot, l)
  | .dispose => l.changed (.ok l.dispose.1)

/-- The listener after some operations. -/
def run (l : Listener) (ops : List Operation) : Listener :=
  ops.foldl (fun l op => (l.perform op).2) l

end Listener

end SipBench
