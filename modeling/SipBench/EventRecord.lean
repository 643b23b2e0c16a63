import SipBench.Fault.Basic
import SipBench.Message.Parser

/-!
# Event records

A record of one received message: the message, its arrival number and the stack's own event object.
Records are never changed once they are made.

* `EventRecord.summary` : the one-line description used in logs
-/

namespace SipBench

/-- A received message. -/
structure EventRecord where
  message : Message
  sequence : Int
  raw : Value := .none

namespace EventRecord

/-- The name of the kind of event: everything that is not a response counts as a request. -/
def kindName (r : EventRecord) : String := if r.message.isResponse then "RESPONSE" else "REQUEST"

/-- The CSeq of a message in brackets, if it has one. -/
def cseqText (m : Message) : String :=
  match m.cseq? with
  | some c => s!" (CSeq {c.text})"
  | none => ""

/-- The one-line description of a record.  There is none of a message that is neither request nor
response, and none of a response whose status code cannot be shown. -/
def summary (r : EventRecord) : Except Fault String :=
  match r.message.start with
  | .response status reason => do
    return s!"#{r.sequence} response {← status.write} {reason}{cseqText r.message}"
  | .request method _ => .ok s!"#{r.sequence} request {method}{cseqText r.message}"
  | .plain => .error (.missingAttribute r.message.kindName "method")

end EventRecord

end SipBench
