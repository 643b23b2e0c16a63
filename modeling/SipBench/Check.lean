import SipBench.Correlation
import SipBench.Listener.Basic
import SipBench.Text.Utf8

/-!
# Checks

What a test asserts about a listener or a message, as data.  A check passes, finds a failure, or
cannot be made at all; only the second is a failed check.  What a failure tells is put together only
once the check has failed, and a whole number with too many digits cannot be told.

* `ListenerCheck.finding`, `MessageCheck.finding` : what a check finds
* `ListenerCheck.run`, `MessageCheck.run` : the check of a test, with the label it gives to a
  failure
-/

namespace SipBench

/-! ### Questions about what was received -/

/-- A response that is wanted or unwanted: its status code and, if a method is given, its CSeq. -/
structure ResponseQuery where
  code : Value
  method : Value := .none
  number : Value := .none

namespace ResponseQuery

/-- The wording of a question about responses. -/
def text (q : ResponseQuery) : Except Fault String := do
  let code ← q.code.write
  let status := String.ofList (Text.trimEnd s!"{code} {reasonPhrase q.code}".toList)
  if q.method.isNone then return status
  return s!"{status} (CSeq {← q.number.write} {← q.method.write})"

/-- Whether a listener has received such a response. -/
def answer (q : ResponseQuery) (l : Listener) : Except Fault Bool :=
  containsStatus (l.receivedResponses.map .message) q.code q.method q.number

end ResponseQuery

/-- A request that is wanted or unwanted: its method and, if a number is given, its CSeq. -/
structure RequestQuery where
  method : Value
  number : Value := .none

namespace RequestQuery

/-- The wording of a question about requests. -/
def text (q : RequestQuery) : Except Fault String := do
  let method ← q.method.write
  if q.number.isNone then return method
  return s!"{method} (CSeq {← q.number.write} {method})"

/-- Whether a listener has received such a request. -/
def answer (q : RequestQuery) (l : Listener) : Except Fault Bool :=
  containsMethod (l.receivedRequests.map .message) q.method q.number

end RequestQuery

/-! ### Labels -/

/-- The label that a value given by the test stands for, which can be shown; what is empty is no
label. -/
def labelOf (v : Value) : Option String := if v.truthy then some v.shown else none

/-- The result of a check with a label, from what it has found. -/
def Check.report (label : Option String) : Except Fault (Option CheckFailure) → Except Fault Unit
  | .ok none => .ok ()
  | .ok (some failure) => .error (.check label failure)
  | .error fault => .error fault

/-! ### Checks of listeners -/

/-- A check of a listener. -/
inductive ListenerCheck where
  | lastOperationSuccess
  | lastOperationFail
  | responseReceived (query : ResponseQuery)
  | responseNotReceived (query : ResponseQuery)
  | requestReceived (query : RequestQuery)
  | requestNotReceived (query : RequestQuery)
  | answered
  | notAnswered
  | noSubscriptionErrors

namespace ListenerCheck

/-- What a check calls its target. -/
def targetName : ListenerCheck → String
  | answered | notAnswered => "call"
  | noSubscriptionErrors => "subscription"
  | _ => "listener"

/-- The status codes that a listener has received. -/
def receivedCodes (l : Listener) : Except Fault (List String) :=
  (l.receivedResponses.filterMap Message.status?).mapM Value.write

/-- The methods that a listener has received. -/
def receivedMethods (l : Listener) : List String := l.receivedRequests.filterMap Message.method?

/-- What is told of a response that was wanted. -/
def missingResponse (l : Listener) (q : ResponseQuery) : Except Fault CheckFailure := do
  return .responseMissing (← q.text) l.name (← receivedCodes l)

/-- What is told of a response that was not wanted. -/
def unwantedResponse (l : Listener) (q : ResponseQuery) : Except Fault CheckFailure := do
  return .responseReceived (← q.text) l.name

/-- What is told of a request that was wanted. -/
def missingRequest (l : Listener) (q : RequestQuery) : Except Fault CheckFailure := do
  return .requestMissing (← q.text) l.name (receivedMethods l)

/-- What is told of a request that was not wanted. -/
def unwantedRequest (l : Listener) (q : RequestQuery) : Except Fault CheckFailure := do
  return .requestReceived (← q.text) l.name

/-- What a check finds wrong with a listener. -/
def finding (l : Listener) : ListenerCheck → Except Fault (Option CheckFailure)
  | lastOperationSuccess =>
    .ok (if l.errorMessage.isEmpty then none else some (.operationFailed l.errorMessage))
  | lastOperationFail => .ok (if l.errorMessage.isEmpty then some .operationSucceeded else none)
  | responseReceived q => do
    if ← q.answer l then return none
    return some (← missingResponse l q)
  | responseNotReceived q => do
    if ← q.answer l then return some (← unwantedResponse l q)
    return none
  | requestReceived q => do
    if ← q.answer l then return none
    return some (← missingRequest l q)
  | requestNotReceived q => do
    if ← q.answer l then return some (← unwantedRequest l q)
    return none
  | answered => do
    if ← l.answered then return none
    return some (.callUnanswered l.name)
  | notAnswered => do
    if ← l.answered then return some (.callAnswered l.name)
    return none
  | noSubscriptionErrors => do
    let errors ← l.eventErrors
    return if errors.isEmpty then none else some (.subscriptionErrors errors)

/-- The check of a target, which may be missing. -/
def run (check : ListenerCheck) (target : Option Listener) (label : Option String) :
    Except Fault Unit :=
  Check.report label <| match target with
    | none => .ok (some (.nothing check.targetName))
    | some l => finding l check

end ListenerCheck

/-! ### Checks of messages -/

/-- A check of a message. -/
inductive MessageCheck where
  | headerPresent (name : String)
  | headerNotPresent (name : String)
  | headerContains (name text : String)
  | headerNotContains (name text : String)
  | bodyPresent
  | bodyNotPresent
  | bodyContains (text : String)
  | bodyNotContains (text : String)

namespace MessageCheck

/-- Whether a line of some header with the name holds a text. -/
def headerHolds (m : Message) (name text : String) : Bool :=
  (m.headersNamed name).any fun h => Text.occursIn text.toList h.line.toList

/-- Whether the body, read as UTF-8, holds a text. -/
def bodyHolds (m : Message) (text : String) : Bool :=
  Text.occursIn text.toList (Text.Utf8.decodeLossy m.body)

/-- What a check finds wrong with a message. -/
def finding (m : Message) : MessageCheck → Option CheckFailure
  | headerPresent name => if (m.headersNamed name).isEmpty then some (.headerMissing name) else none
  | headerNotPresent name =>
    if (m.headersNamed name).isEmpty then none else some (.headerPresent name)
  | headerContains name text =>
    if headerHolds m name text then none else some (.headerLacks name text)
  | headerNotContains name text =>
    if headerHolds m name text then some (.headerHolds name text) else none
  | bodyPresent => if m.contentLength ≤ 0 then some .bodyMissing else none
  | bodyNotPresent => if 0 < m.contentLength then some (.bodyPresent m.contentLength) else none
  | bodyContains text =>
    if m.contentLength ≤ 0 then some .bodyMissing
    else if bodyHolds m text then none else some (.bodyLacks text)
  | bodyNotContains text =>
    if 0 < m.contentLength && bodyHolds m text then some (.bodyHolds text) else none

/-- What a check asks its target for first. -/
def firstAttribute : MessageCheck → String
  | headerPresent _ | headerNotPresent _ | headerContains .. | headerNotContains .. => "get_headers"
  | bodyPresent | bodyNotPresent | bodyContains _ | bodyNotContains _ => "content_length"

/-- The check of a target, which may be missing or no message at all. -/
def run (check : MessageCheck) (target : Item) (label : Option String) : Except Fault Unit :=
  Check.report label <| match target with
    | .other .none => .ok (some (.nothing "SIP message"))
    | .other v => .error (.missingAttribute v.typeName check.firstAttribute)
    | .message m => .ok (finding m check)

end MessageCheck

end SipBench
