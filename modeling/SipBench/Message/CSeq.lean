import SipBench.Message.ParseError

/-!
# CSeq values

The number and the method that tie a response to its request.  A value consists of exactly two
words, the first of them an integer; the method keeps its letter case.
-/

namespace SipBench

/-- A CSeq value. -/
structure CSeq where
  number : Int
  method : String
  deriving DecidableEq

namespace CSeq

/-- The CSeq value that a header value stands for. -/
def parse (value : String) : Except ParseError CSeq :=
  match Text.words value.toList with
  | [number, method] =>
    match Text.readInteger (String.ofList number) with
    | .ok n => .ok ⟨n, String.ofList method⟩
    | .error reason => .error (.invalidCSeqNumber value reason)
  | _ => .error (.malformedCSeq value)

/-- The header value of a CSeq. -/
def text (c : CSeq) : String := toString c.number ++ " " ++ c.method

end CSeq

end SipBench
