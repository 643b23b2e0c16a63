import SipBench.Double.Printer
import SipBench.Double.Reader

/-!
# Numbers as they are written

A number is a truth value, a whole number of any size or a double.  The three spellings are kept
apart when a number is shown and are compared by their exact value: `1`, `1.0` and true are equal.

* `Number.compare?` : the exact comparison, undefined for what is not a number
* `Number.add`, `Number.sub` : exact on whole numbers, rounded as soon as a double takes part
-/

namespace SipBench

/-- A number in one of its spellings. -/
inductive Number where
  | flag (b : Bool)
  | whole (i : Int)
  | real (x : Double)
  deriving DecidableEq, Inhabited

namespace Number

/-- A truth value counts as zero or one. -/
def ofFlag (b : Bool) : Int := if b then 1 else 0

/-- The number as a double; none if it lies beyond the finite ones. -/
def toDouble? : Number → Option Double
  | .flag b => some (.ofInt (ofFlag b))
  | .whole i => if (Double.ofInt i).isFinite then some (.ofInt i) else none
  | .real x => some x

/-- The number as a double, infinite if it lies beyond the finite ones. -/
def toDouble : Number → Double
  | .flag b => .ofInt (ofFlag b)
  | .whole i => .ofInt i
  | .real x => x

/-- Where a number lies. -/
inductive Place where
  | unordered
  | beyond (negative : Bool)
  | at (mantissa exponent : Int)

/-- The exact place of a number. -/
def place : Number → Place
  | .flag b => .at (ofFlag b) 0
  | .whole i => .at i 0
  | .real .nan => .unordered
  | .real (.infinite negative) => .beyond negative
  | .real (.finite negative m e) => .at (if negative then -(m : Int) else m) e

/-- The order of two numbers by their exact values. -/
def compare? (a b : Number) : Option Ordering :=
  match a.place, b.place with
  | .unordered, _ | _, .unordered => none
  | .beyond x, .beyond y => some (compare (!x) (!y))
  | .beyond x, _ => some (if x then .lt else .gt)
  | _, .beyond y => some (if y then .gt else .lt)
  | .at m₁ e₁, .at m₂ e₂ =>
    let (x, y, _) := Double.align (m₁, e₁) (m₂, e₂)
    some (compare x y)

/-- Equality of values. -/
def same (a b : Number) : Bool := compare? a b == some .eq

/-- Strict order of values. -/
def less (a b : Number) : Bool := compare? a b == some .lt

/-- Order of values. -/
def atMost (a b : Number) : Bool := less a b || same a b

instance : LT Number := ⟨fun a b => less a b = true⟩
instance : LE Number := ⟨fun a b => atMost a b = true⟩
instance (a b : Number) : Decidable (a < b) := inferInstanceAs (Decidable (less a b = true))
instance (a b : Number) : Decidable (a ≤ b) := inferInstanceAs (Decidable (atMost a b = true))

/-- A number of either exact spelling. -/
def toInt? : Number → Option Int
  | .flag b => some (ofFlag b)
  | .whole i => some i
  | .real _ => none

/-- The sum: exact on whole numbers, else that of the doubles. -/
def add (a b : Number) : Number :=
  match a.toInt?, b.toInt? with
  | some x, some y => .whole (x + y)
  | _, _ => .real (a.toDouble.add b.toDouble)

/-- The difference: exact on whole numbers, else that of the doubles. -/
def sub (a b : Number) : Number :=
  match a.toInt?, b.toInt? with
  | some x, some y => .whole (x - y)
  | _, _ => .real (a.toDouble.sub b.toDouble)

instance : Add Number := ⟨add⟩
instance : Sub Number := ⟨sub⟩

/-- Neither infinite nor not a number. -/
def isFinite : Number → Bool
  | .real x => x.isFinite
  | _ => true

/-- Whether the number can be shown: a whole number only up to some number of digits. -/
def isWritable : Number → Bool
  | .whole i => (Nat.toDigits 10 i.natAbs).length ≤ Text.maxDigits
  | _ => true

/-- How the number is shown, for those that can be. -/
def text : Number → String
  | .flag b => if b then "True" else "False"
  | .whole i => toString i
  | .real x => x.text

end Number

end SipBench
