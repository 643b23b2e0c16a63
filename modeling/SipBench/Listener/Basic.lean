import SipBench.Audit
import SipBench.Transaction

/-!
# Listeners

A listener stores the requests and responses that the stack delivers for one exchange, in order of
arrival and numbered from one on.  Numbers are not used again, not even after a disposal.  A call, a
subscription and the receiving side of a REFER are listeners with a little more state.

* `Listener.receiveResponse`, `Listener.receiveRequest` : a delivery
* `Listener.events` : all that was received, in order of arrival
* `Listener.dispose` : a fresh start, but for the numbering
-/

namespace SipBench

/-- What a listener keeps beside the messages. -/
inductive Role where
  /-- Nothing. -/
  | plain
  /-- A call leg, and whether it was answered. -/
  | call (answered : Bool)
  /-- An event subscription, with the errors of its events. -/
  | subscription (errors : List String)
  /-- The receiving side of a REFER, with the dialog to notify on. -/
  | referSender (dialog : Value)

namespace Role

/-- The name of the kind of listener. -/
def className : Role → String
  | plain => "MessageListener"
  | call _ => "SipCall"
  | subscription _ => "Subscription"
  | referSender _ => "ReferNotifySender"

/-- The role before anything has happened. -/
def fresh : Role → Role
  | plain => .plain
  | call _ => .call false
  | subscription _ => .subscription []
  | referSender _ => .referSender .none

/-- The fresh role of a kind of listener. -/
def ofClassName? (name : String) : Option Role :=
  [plain, call false, subscription [], referSender .none].find? (·.className == name)

end Role

/-- The two lists of a listener. -/
inductive Received where
  | responses
  | requests

/-- A store of the messages received on one exchange. -/
structure Listener where
  name : String
  role : Role
  responses : List EventRecord := []
  requests : List EventRecord := []
  nextSequence : Nat := 1
  /-- Why the last operation failed; empty if it succeeded. -/
  errorMessage : String := ""

namespace Listener

/-- A new listener; without a name it is called after its kind. -/
def new (role : Role) (name : String) : Listener :=
  { name := if name.isEmpty then role.className else name, role := role.fresh }

/-! ### What a test sees -/

/-- All received responses in order of arrival. -/
def receivedResponses (l : Listener) : List Message := l.responses.map (·.message)

/-- All received requests in order of arrival. -/
def receivedRequests (l : Listener) : List Message := l.requests.map (·.message)

/-- All received messages of one list in order of arrival. -/
def received (l : Listener) : Received → List Message
  | .responses => l.receivedResponses
  | .requests => l.receivedRequests

/-- All received messages in order of arrival. -/
def events (l : Listener) : List EventRecord :=
  (l.responses ++ l.requests).mergeSort fun a b => a.sequence ≤ b.sequence

/-- The response received last. -/
def lastResponse? (l : Listener) : Option Message := l.receivedResponses.getLast?

/-- The request received last. -/
def lastRequest? (l : Listener) : Option Message := l.receivedRequests.getLast?

/-- Whether the call was answered; other listeners are no calls. -/
def answered (l : Listener) : Except Fault Bool :=
  match l.role with
  | .call answered => .ok answered
  | role => .error (.missingAttribute role.className "is_call_answered")

/-- The errors of the events of a subscription. -/
def eventErrors (l : Listener) : Except Fault (List String) :=
  match l.role with
  | .subscription errors => .ok errors
  | role => .error (.missingAttribute role.className "event_errors")

/-- The dialog on which the receiving side of a REFER notifies. -/
def dialog (l : Listener) : Except Fault Value :=
  match l.role with
  | .referSender dialog => .ok dialog
  | role => .error (.missingAttribute role.className "dialog")

/-- How a listener is shown. -/
def text (l : Listener) : String :=
  s!"<{l.role.className} {Text.quote l.name} requests={l.requests.length} " ++
    s!"responses={l.responses.length}>"

/-! ### Deliveries -/

/-- The outcome of a delivery: the listener and the transaction handle after it, the record or the
reason why it failed, and what was logged. -/
structure Delivery where
  listener : Listener
  handle : Option Transaction
  result : Except Fault EventRecord
  log : List LogEntry := []

/-- The record of the next message. -/
def nextRecord (l : Listener) (m : Message) (raw : Value) : EventRecord := ⟨m, l.nextSequence, raw⟩

/-- The listener with one more record in one of its lists. -/
def append (l : Listener) (record : EventRecord) : Received → Listener
  | .responses =>
    { l with responses := l.responses ++ [record], nextSequence := l.nextSequence + 1 }
  | .requests => { l with requests := l.requests ++ [record], nextSequence := l.nextSequence + 1 }

/-- What is logged about a stored record, on the handle that it was given to and on the listener. -/
def storedEntries (l : Listener) (handle : Option Transaction) (summary : String) : List LogEntry :=
  (if handle.isSome then [Transaction.eventEntry summary] else []) ++
    Audit.messageEntries "received" (l.name ++ " " ++ summary) ""

/-- The delivery of a message that was stored in `after`. -/
def stored (after : Listener) (handle : Option Transaction) (record : EventRecord) : Delivery :=
  let handle := handle.map (·.addEvent record)
  match record.summary with
  | .error fault => ⟨after, handle, .error fault, []⟩
  | .ok summary => ⟨after, handle, .ok record, after.storedEntries handle summary⟩

/-- Whether a response is a success to an INVITE; a status code that is no number cannot be told. -/
def answers (m : Message) (status : Value) : Except Fault Bool :=
  match status with
  | .number n => .ok (n.liesIn 200 300 && (m.cseq?.map (·.method)) == some "INVITE")
  | v => .error (.wrongType s!"'<=' not supported between instances of 'int' and '{v.typeName}'")

/-- The delivery after a call has looked at the response. -/
def noteAnswer (d : Delivery) (m : Message) : Delivery :=
  match d.listener.role, m.status?, d.result with
  | .call answered, some status, .ok _ =>
    match answers m status with
    | .error fault => { d with result := .error fault }
    | .ok answersCall =>
      { d with listener := { d.listener with role := .call (answered || answersCall) } }
  | _, _, _ => d

/-- Stores a response. -/
def receiveResponse (l : Listener) (item : Item) (raw : Value) (handle : Option Transaction) :
    Delivery :=
  match item with
  | .message m =>
    if m.isResponse then
      let record := l.nextRecord m raw
      noteAnswer (stored (l.append record .responses) handle record) m
    else ⟨l, handle, .error (.wrongType
      s!"process_response expects a SipResponse, got {m.kindName}"), []⟩
  | .other v => ⟨l, handle, .error (.wrongType
      s!"process_response expects a SipResponse, got {v.typeName}"), []⟩

/-- The headers that a NOTIFY request must have. -/
def requiredNotifyHeaders : List String := ["Event", "Subscription-State"]

/-- What a NOTIFY request lacks, one text for each missing header. -/
def notifyErrors (m : Message) (sequence : Int) : List String :=
  if m.method? == some "NOTIFY" then
    (requiredNotifyHeaders.filter fun name => (m.header? name).isNone).map fun name =>
      s!"NOTIFY #{sequence} is missing the {name} header"
  else []

/-- What is logged about an event error. -/
def eventErrorEntry (l : Listener) (message : String) : LogEntry :=
  .store .warning s!"{l.name} event error: {message}"

/-- The delivery after a subscription has looked at the request. -/
def noteEventErrors (d : Delivery) (m : Message) : Delivery :=
  match d.listener.role, d.result with
  | .subscription errors, .ok record =>
    let found := notifyErrors m record.sequence
    { d with
      listener := { d.listener with role := .subscription (errors ++ found) }
      log := d.log ++ found.map d.listener.eventErrorEntry }
  | _, _ => d

/-- Stores a request. -/
def receiveRequest (l : Listener) (item : Item) (raw : Value) (handle : Option Transaction) :
    Delivery :=
  match item with
  | .message m =>
    if m.isRequest then
      let record := l.nextRecord m raw
      noteEventErrors (stored (l.append record .requests) handle record) m
    else ⟨l, handle, .error (.wrongType
      s!"process_request expects a SipRequest, got {m.kindName}"), []⟩
  | .other v => ⟨l, handle, .error (.wrongType
      s!"process_request expects a SipRequest, got {v.typeName}"), []⟩

/-! ### Other operations -/

/-- Notes that the last operation succeeded. -/
def noteSuccess (l : Listener) : Listener := { l with errorMessage := "" }

/-- Notes why the last operation failed. -/
def noteFailure (l : Listener) (message : String) : Listener × List LogEntry :=
  let message := if message.isEmpty then "operation failed" else message
  ({ l with errorMessage := message }, [.store .warning s!"{l.name} operation failed: {message}"])

/-- Drops everything received so far and returns to the fresh role.  The numbering goes on. -/
def dispose (l : Listener) : Listener × List LogEntry :=
  ({ l with responses := [], requests := [], errorMessage := "", role := l.role.fresh },
    [.store .debug s!"{l.name} disposed"])

/-- Notes that this side has answered the call. -/
def markAnswered (l : Listener) : Except Fault Listener :=
  match l.role with
  | .call _ => .ok { l with role := .call true }
  | role => .error (.missingAttribute role.className "mark_answered")

/-- Adds an error to those of a subscription. -/
def addEventError (l : Listener) (message : String) : Except Fault (Listener × List LogEntry) :=
  match l.role with
  | .subscription errors =>
    .ok ({ l with role := .subscription (errors ++ [message]) }, [l.eventErrorEntry message])
  | role => .error (.missingAttribute role.className "add_event_error")

/-- Sets the dialog on which the receiving side of a REFER notifies. -/
def setDialog (l : Listener) (dialog : Value) : Except Fault (Listener × List LogEntry) :=
  match l.role with
  | .referSender _ =>
    .ok ({ l with role := .referSender dialog }, [.store .debug s!"{l.name} dialog ready"])
  | role => .error (.missingAttribute role.className "set_dialog")

end Listener

end SipBench
