import SipBench.EventRecord
import SipBench.Log.Entry

/-!
# Transaction handles

A handle wraps one transaction of the stack: a client transaction if this side sent the request, a
server transaction if it received it.  The handle collects the events observed on the transaction.

* `Transaction.open?` : a handle, unless there is nothing to wrap
* `Transaction.addEvent` : one more observed event
* `Transaction.client?`, `Transaction.server?` : the stack's transaction, for either side
* `Transaction.request` : the request that created the transaction
-/

namespace SipBench

/-- A transaction object of the stack, with its request if it has one. -/
structure StackTransaction where
  label : Value
  request : Option Item := none

/-- Which side sent the request. -/
inductive Side where
  | client
  | server
  deriving DecidableEq

namespace Side

/-- The word for the side. -/
def word : Side → String
  | client => "client"
  | server => "server"

/-- The name of the tag that a transaction of this side carries. -/
def refName : Side → String
  | client => "LocalTransaction"
  | server => "RemoteTransaction"

end Side

/-- A handle over one transaction of the stack. -/
structure Transaction where
  side : Side
  stack : StackTransaction
  /-- The name of the listener that owns the delivery, if any. -/
  owner : Option String := none
  events : List EventRecord := []

namespace Transaction

/-- The name of the kind of a stack object. -/
def stackTypeName : Option StackTransaction → String
  | some _ => "StackTx"
  | none => "NoneType"

/-- A handle over a stack object that is tagged with its side; what is not tagged or not there
cannot be wrapped. -/
def open? (tag : Option Side) (stack : Option StackTransaction) (owner : Option String) :
    Except Fault Transaction :=
  match tag, stack with
  | none, stack => .error (.transaction (.untagged (stackTypeName stack)))
  | some side, none => .error (.transaction (.empty side.refName))
  | some side, some stack => .ok { side, stack, owner }

/-- What is logged about a handle that a listener opens. -/
def openedEntry (listenerName : String) (side : Side) : LogEntry :=
  .store .debug s!"{listenerName} opened {side.word} transaction"

/-- The handle with one more event. -/
def addEvent (t : Transaction) (r : EventRecord) : Transaction :=
  { t with events := t.events ++ [r] }

/-- What is logged about a new event. -/
def eventEntry (summary : String) : LogEntry :=
  .transaction .debug ("Transaction event appended: " ++ summary)

/-- The client transaction of the stack, unless the request was received. -/
def client? (t : Transaction) : Option StackTransaction :=
  match t.side with
  | .client => some t.stack
  | .server => none

/-- The server transaction of the stack, unless the request was sent. -/
def server? (t : Transaction) : Option StackTransaction :=
  match t.side with
  | .client => none
  | .server => some t.stack

/-- The request that created the transaction, as the stack provides it. -/
def request (t : Transaction) : Except Fault Item :=
  match t.stack.request with
  | none | some (.other .none) => .error (.transaction (.noRequest t.side.refName))
  | some item => .ok item

/-- How a handle is shown. -/
def text (t : Transaction) : String :=
  s!"<SipTransaction {t.side.word} events={t.events.length}>"

end Transaction

end SipBench
