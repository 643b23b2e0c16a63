import SipBench.Fault.Basic

/-!
# Targets

What an await on a value waits for: a value equal to an expected one, or one that a matcher accepts.

* `Matcher.answer` : what a matcher says of a value
* `Target.question?` : exactly one of the two must be given
-/

namespace SipBench

/-- What a matcher does with a value. -/
inductive MatcherKind where
  /-- Whether the value is greater than the argument. -/
  | above
  /-- Whether the argument is in the value. -/
  | holds
  /-- Whether the value has at least so many items. -/
  | longEnough
  /-- The argument itself, whatever the value. -/
  | fixed
  /-- The value itself. -/
  | own

/-- A named test of values. -/
structure Matcher where
  kind : MatcherKind
  argument : Value
  name : String

namespace Value

/-- A fault of a comparison between two kinds of values. -/
def incomparable (sign : String) (a b : Value) : Fault :=
  .wrongType s!"'{sign}' not supported between instances of '{a.typeName}' and '{b.typeName}'"

mutual

/-- Whether a value is greater than another: numbers by value, texts and byte strings and lists by
the first place where they differ. -/
def above (a b : Value) : Except Fault Bool :=
  match a, b with
  | .number x, .number y => .ok (y.less x)
  | .text x, .text y => .ok (y < x)
  | .bytes x, .bytes y => .ok (y < x)
  | .list x, .list y => aboveItems x y
  | a, b => .error (incomparable ">" a b)

/-- Whether a list is greater than another. -/
def aboveItems (a b : List Value) : Except Fault Bool :=
  match a, b with
  | [], _ => .ok false
  | _ :: _, [] => .ok true
  | x :: xs, y :: ys => if x.same y then aboveItems xs ys else above x y

end

/-- Whether a value is in another: an item of a list, a piece of a text or of a byte string. -/
def isIn (piece : Value) (v : Value) : Except Fault Bool :=
  match v, piece with
  | .list items, piece => .ok (items.any piece.same)
  | .text s, .text piece => .ok (Text.occursIn piece.toList s.toList)
  | .text _, piece => .error (.wrongType
      s!"'in <string>' requires string as left operand, not {piece.typeName}")
  | .bytes octets, .bytes piece => .ok (Text.occursIn piece octets)
  | .bytes octets, .number n =>
    match n.toInt? with
    | some i =>
      if 0 ≤ i ∧ i < 256 then .ok (octets.contains (UInt8.ofNat i.toNat))
      else .error (.raised .badValue (.text "byte must be in range(0, 256)"))
    | Option.none => .error (.wrongType s!"a bytes-like object is required, not '{piece.typeName}'")
  | .bytes _, piece =>
    .error (.wrongType s!"a bytes-like object is required, not '{piece.typeName}'")
  | .table fields, .text key => .ok (fields.any (·.1 == key))
  | .table _, _ => .ok false
  | v, _ => .error (.wrongType s!"argument of type '{v.typeName}' is not iterable")

/-- Whether a value has at least so many items. -/
def hasAtLeast (v count : Value) : Except Fault Bool :=
  match v.size? with
  | Option.none => .error (.wrongType s!"object of type '{v.typeName}' has no len()")
  | some size =>
    match count with
    | .number n => .ok (n.atMost (.whole size))
    | count => .error (incomparable ">=" (.int size) count)

end Value

namespace Matcher

/-- What a matcher says of a value. -/
def answer (m : Matcher) (v : Value) : Except Fault Value :=
  match m.kind with
  | .above => (v.above m.argument).map .bool
  | .holds => (m.argument.isIn v).map .bool
  | .longEnough => (v.hasAtLeast m.argument).map .bool
  | .fixed => .ok m.argument
  | .own => .ok v

end Matcher

namespace Target

/-- A question about a value, which may change the state; whatever is truthy says yes. -/
abbrev Question (σ ν : Type) := ν → σ → Except Fault Value × σ

/-- A kind of values: the question whether a value equals an expected one, and how a value is shown.
Either may fail. -/
structure Kind (σ ν : Type) where
  equals (expected : ν) : Question σ ν
  shown : ν → Except Fault String

/-- The values of a test program. -/
def Kind.ofValue (σ : Type) : Kind σ Value where
  equals := fun expected v s => (.ok (.bool (v.same expected)), s)
  shown := Value.writeQuoted

/-- Whether a value is accepted, if exactly one of an expected value and a matcher is given. -/
def question? {σ ν : Type} (kind : Kind σ ν) (expected : Option ν)
    (matcher : Option (Question σ ν)) : Except Fault (Question σ ν) :=
  match expected, matcher with
  | some expected, none => .ok (kind.equals expected)
  | none, some ask => .ok ask
  | _, _ => .error (.misuse .ambiguousTarget)

/-- How a target is described, after the name of what produces the values. -/
def text (expected : Option Value) (matcher : Option Matcher) : Except Fault String :=
  match expected, matcher with
  | _, some m => .ok s!"matches {m.name}"
  | some expected, none => expected.writeQuoted.map ("== " ++ ·)
  | none, none => .ok ""

end Target

end SipBench
