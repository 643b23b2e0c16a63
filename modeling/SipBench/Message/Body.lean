import SipBench.Fault.Basic
import SipBench.Message.Parser

/-!
# Bodies

The octets that a value stands for when it is used as the body of a message: a byte string stands
for itself, a list for its items and a number for that many zeros.
-/

namespace SipBench.Message

/-- The octet that a number stands for. -/
def octet (v : Value) : Except Fault UInt8 :=
  match v with
  | .number n =>
    match n.toInt? with
    | some i =>
      if 0 ≤ i ∧ i < 256 then .ok (UInt8.ofNat i.toNat) else .error (.misuse .notOctets)
    | none => .error (.wrongType "'float' object cannot be interpreted as an integer")
  | v => .error (.wrongType s!"'{v.typeName}' object cannot be interpreted as an integer")

/-- The size from which on a body of zeros has no length. -/
def sizeLimit : Int := Nat.pow 2 63

/-- That many zeros. -/
def zeros (count : Int) : Except Fault (List UInt8) :=
  if count < 0 then .error (.misuse .negativeCount)
  else if sizeLimit ≤ count then
    .error (.raised .overflow (.text "cannot fit 'int' into an index-sized integer"))
  else .ok (List.replicate count.toNat 0)

/-- The octets that a value stands for as a body. -/
def octetsOf (v : Value) : Except Fault (List UInt8) :=
  match v with
  | .bytes octets => .ok octets
  | .list items => items.mapM octet
  | .number n =>
    match n.toInt? with
    | some count => zeros count
    | none => .error (.wrongType "cannot convert 'float' object to bytes")
  | .text _ => .error (.wrongType "string argument without an encoding")
  | v => .error (.wrongType s!"cannot convert '{v.typeName}' object to bytes")

end SipBench.Message
