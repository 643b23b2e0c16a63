import SipBench.Message.CSeq
import SipBench.Message.HeaderName
import SipBench.StatusCode

/-!
# SIP messages

A message is a start line, headers in their order and a body of octets.  Headers are found under the
canonical spelling of a name; a header that was stored under another spelling is not found.

* `Message.headersNamed`, `Message.headerValue?` : look-up
* `Message.withHeader`, `Message.withBody` : changed copies
* `Message.contentLength` : the declared body length, or the actual one
-/

namespace SipBench

/-- A header line. -/
structure Header where
  name : String
  value : String
  deriving DecidableEq

/-- The line that a header is written on. -/
def Header.line (h : Header) : String := h.name ++ ": " ++ h.value

/-- What a message is. -/
inductive StartLine where
  /-- A request with its method and Request-URI. -/
  | request (method uri : String)
  /-- A response with its status code and reason phrase. -/
  | response (status : Value) (reason : String)
  /-- Neither: headers and a body only. -/
  | plain

/-- A SIP message, with the stack's own object for it, if any. -/
structure Message where
  start : StartLine
  headers : List Header := []
  body : List UInt8 := []
  source : Value := .none

namespace Message

/-- The request methods in use. -/
def methodNames : List String := [
  "ACK", "BYE", "CANCEL", "INFO", "INVITE", "MESSAGE", "NOTIFY", "OPTIONS", "PRACK", "PUBLISH",
  "REFER", "REGISTER", "SUBSCRIBE", "UPDATE"]

/-- The name of the kind of message. -/
def kindName (m : Message) : String :=
  match m.start with
  | .request .. => "SipRequest"
  | .response .. => "SipResponse"
  | .plain => "SipMessage"

/-- Whether the message is a request. -/
def isRequest (m : Message) : Bool :=
  match m.start with
  | .request .. => true
  | _ => false

/-- Whether the message is a response. -/
def isResponse (m : Message) : Bool :=
  match m.start with
  | .response .. => true
  | _ => false

/-- The status code of a response. -/
def status? (m : Message) : Option Value :=
  match m.start with
  | .response status _ => some status
  | _ => none

/-- The method of a request. -/
def method? (m : Message) : Option String :=
  match m.start with
  | .request method _ => some method
  | _ => none

/-- The start line of a response.  A missing phrase is filled in from the registry, unless the
status code is none or zero. -/
def statusLine (status : Value) (reason : String) : StartLine :=
  .response status (if reason.isEmpty && status.truthy then reasonPhrase status else reason)

/-! ### Headers -/

/-- The headers with the given name, in message order. -/
def headersNamed (m : Message) (name : String) : List Header :=
  m.headers.filter (·.name == canonicalName name)

/-- The first header with the given name. -/
def header? (m : Message) (name : String) : Option Header := (m.headersNamed name).head?

/-- The value of the first header with the given name. -/
def headerValue? (m : Message) (name : String) : Option String := (m.header? name).map (·.value)

/-- A header under its canonical name and without white space around its value. -/
def Header.canonical (name value : String) : Header := ⟨canonicalName name, Text.trimmed value⟩

/-- A copy with one more header at the end. -/
def withHeader (m : Message) (name value : String) : Message :=
  { m with headers := m.headers ++ [Header.canonical name value] }

/-- A copy with another body. -/
def withBody (m : Message) (body : List UInt8) : Message := { m with body }

/-! ### Header values with a meaning -/

/-- The CSeq of the first CSeq header, if there is one and it is well formed. -/
def cseq? (m : Message) : Option CSeq :=
  (m.headerValue? "CSeq").bind fun value => (CSeq.parse value).toOption

/-- The value of the first Call-ID header. -/
def callId? (m : Message) : Option String := m.headerValue? "Call-ID"

/-- The length of the body: the first Content-Length header if it is an integer, else the number of
octets. -/
def contentLength (m : Message) : Int :=
  ((m.headerValue? "Content-Length").bind Text.readInteger?).getD m.body.length

/-! ### Equality -/

/-- Equality of start lines. -/
def sameStart : StartLine → StartLine → Bool
  | .request m u, .request m' u' => m == m' && u == u'
  | .response s r, .response s' r' => s.same s' && r == r'
  | .plain, .plain => true
  | _, _ => false

/-- Equality of messages: the stack's object does not count. -/
def same (a b : Message) : Bool :=
  sameStart a.start b.start && a.headers == b.headers && a.body == b.body

end Message

/-- What a stack hands over: a message, or anything else. -/
inductive Item where
  | message (m : Message)
  | other (v : Value)

namespace Item

/-- The name of the kind of item. -/
def typeName : Item → String
  | .message m => m.kindName
  | .other v => v.typeName

/-- Whether nothing was handed over. -/
def isNone : Item → Bool
  | .message _ => false
  | .other v => v.isNone

end Item

end SipBench
