import SipBench.Text.Integer

/-!
# Malformed messages

Why a text is not a SIP message or not a CSeq value, and how the refusal is worded.  A refused
number is the cause of the refusal of what holds it.
-/

namespace SipBench

/-- Why a text cannot be read as a message or as a part of one. -/
inductive ParseError where
  /-- Nothing stands before the headers. -/
  | noStartLine
  /-- The start line is a single word. -/
  | malformedStartLine (line : String)
  /-- The status code of a status line is not an integer. -/
  | invalidStatusCode (line : String) (reason : Text.IntegerError)
  /-- The start line is neither a status line nor a request line. -/
  | malformedRequestLine (line : String)
  /-- A header line has no name before a colon. -/
  | malformedHeader (line : String)
  /-- The declared body length is not an integer. -/
  | invalidLength (declared : String) (reason : Text.IntegerError)
  /-- More octets are declared than there are. -/
  | bodyTooShort (declared : Int) (available : Nat)
  /-- A CSeq value does not consist of two words. -/
  | malformedCSeq (value : String)
  /-- The first word of a CSeq value is not an integer. -/
  | invalidCSeqNumber (value : String) (reason : Text.IntegerError)

namespace ParseError

/-- The wording of a refusal. -/
def message : ParseError → String
  | noStartLine => "No start line found"
  | malformedStartLine line => "Malformed start line: " ++ Text.quote line
  | invalidStatusCode line _ => "Invalid status code in: " ++ Text.quote line
  | malformedRequestLine line => "Malformed request line: " ++ Text.quote line
  | malformedHeader line => "Malformed header line: " ++ Text.quote line
  | invalidLength declared _ => "Invalid Content-Length: " ++ Text.quote declared
  | bodyTooShort declared available => s!"Invalid Content-Length {declared} != {available}"
  | malformedCSeq value => "Invalid CSeq value: " ++ Text.quote value
  | invalidCSeqNumber value _ => "Invalid CSeq sequence number: " ++ Text.quote value

/-- The refused number behind a refusal. -/
def reason? : ParseError → Option Text.IntegerError
  | invalidStatusCode _ reason | invalidLength _ reason | invalidCSeqNumber _ reason => some reason
  | _ => none

end ParseError

end SipBench
