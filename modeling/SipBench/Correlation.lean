import SipBench.Fault.Basic
import SipBench.Message.Parser

/-!
# Correlation

Questions about a snapshot of received messages: whether a response with a status code or a request
with a method is among them, if wanted with a CSeq.  Only existence matters, so that retransmitted
messages do no harm.  A snapshot is looked through up to the first match; an item that cannot be
asked is a fault only if it is reached.

* `containsStatus`, `containsMethod` : the two questions
* `lacksStatus`, `lacksMethod` : the opposite questions
* `countStatus` : how often a status code occurs
-/

namespace SipBench

/-- Whether the CSeq of a message has the given method and number. -/
def Message.hasCSeq (m : Message) (method number : Value) : Bool :=
  match m.cseq? with
  | some c => (Value.text c.method).same method && (Value.int c.number).same number
  | none => false

namespace Item

/-- Asks an item for something that only some kinds of items have. -/
def ask {α : Type} (name : String) (read : Message → Option α) (item : Item) : Except Fault α :=
  match item with
  | .message m =>
    match read m with
    | some a => .ok a
    | none => .error (.missingAttribute m.kindName name)
  | .other v => .error (.missingAttribute v.typeName name)

/-- Whether an item is a response with a status code and, unless no method is given, a CSeq. -/
def matchesStatus (code method number : Value) (item : Item) : Except Fault Bool := do
  let status ← item.ask "status_code" Message.status?
  if !status.same code then return false
  if method.isNone then return true
  item.ask "cseq" fun m => some (m.hasCSeq method number)

/-- Whether an item is a request with a method or, if a number is given, any message with that
CSeq. -/
def matchesMethod (method number : Value) (item : Item) : Except Fault Bool :=
  if number.isNone then do
    let own ← item.ask "method" Message.method?
    return (Value.text own).same method
  else item.ask "cseq" fun m => some (m.hasCSeq method number)

end Item

/-- Whether a test holds of some item; no item behind the first such one is tested. -/
def anyItem (test : Item → Except Fault Bool) : List Item → Except Fault Bool
  | [] => .ok false
  | item :: items =>
    match test item with
    | .error fault => .error fault
    | .ok true => .ok true
    | .ok false => anyItem test items

/-- Whether some response has a status code and, in the qualified form, a CSeq.  Method and number
are given together or not at all. -/
def containsStatus (items : List Item) (code method number : Value) : Except Fault Bool :=
  if method.isNone != number.isNone then .error (.misuse .halfQualified)
  else anyItem (·.matchesStatus code method number) items

/-- Whether some request has a method or, if a number is given, some message a CSeq. -/
def containsMethod (items : List Item) (method number : Value) : Except Fault Bool :=
  anyItem (·.matchesMethod method number) items

/-- Whether no response has a status code and, in the qualified form, a CSeq. -/
def lacksStatus (items : List Item) (code method number : Value) : Except Fault Bool :=
  (containsStatus items code method number).map (!·)

/-- Whether no request has a method or, if a number is given, no message a CSeq. -/
def lacksMethod (items : List Item) (method number : Value) : Except Fault Bool :=
  (containsMethod items method number).map (!·)

/-- The number of responses with a status code. -/
def countStatus (items : List Item) (code : Value) : Except Fault Nat := do
  let found ← items.mapM (·.matchesStatus code .none .none)
  return found.count true

end SipBench
