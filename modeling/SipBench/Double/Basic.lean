/-!
# Double-precision numbers

The binary floating-point numbers with 53 significant bits, as exact values: a finite number is a
sign, a mantissa and a power of two.  Arithmetic computes the exact result and rounds it once, to
the nearest number and to the even mantissa on a tie, so that every operation is plain arithmetic on
naturals and integers.

* `roundQuotient` : a quotient of naturals rounded to a natural
* `Double.nearest` : a quotient of naturals rounded to a double
* `Double.add`, `Double.sub`, `Double.floorDiv` : arithmetic
-/

namespace SipBench

/-- The natural nearest to `num / den`; a tie goes to the even one. -/
def roundQuotient (num den : Nat) : Nat :=
  let q := num / den
  let r := num % den
  if 2 * r < den then q
  else if den < 2 * r then q + 1
  else if q % 2 = 0 then q else q + 1

/-- A double-precision number.  A finite one has the value `± mantissa * 2 ^ exponent`. -/
inductive Double where
  | nan
  | infinite (negative : Bool)
  | finite (negative : Bool) (mantissa : Nat) (exponent : Int)
  deriving DecidableEq, Inhabited

namespace Double

/-- Two to a power. -/
def twoTo (k : Nat) : Nat := Nat.pow 2 k

/-- Ten to a power. -/
def tenTo (k : Nat) : Nat := Nat.pow 10 k

/-- The least exponent of a finite number, that of the subnormal ones. -/
def minExponent : Int := -1074

/-- The greatest exponent of a finite number. -/
def maxExponent : Int := 971

/-- Zero of either sign. -/
def zero (negative : Bool) : Double := .finite negative 0 minExponent

/-- `num / den` divided by `2 ^ e` and rounded to a natural. -/
def scaled (num den : Nat) (e : Int) : Nat :=
  if e < 0 then roundQuotient (num * twoTo e.natAbs) den
  else roundQuotient num (den * twoTo e.natAbs)

/-- The exponent under which `num / den` has a mantissa of 53 bits, or the least one. -/
def exponentFor (num den : Nat) : Int :=
  let e : Int := (num.log2 : Int) - den.log2 - 53
  let fits : Bool :=
    if e < 0 then num * twoTo e.natAbs < den * twoTo 53 else num < den * twoTo e.natAbs * twoTo 53
  max minExponent (if fits then e else e + 1)

/-- The double nearest to `± num / den`; a tie goes to the even mantissa, and what lies beyond the
greatest finite number is infinite. -/
def nearest (negative : Bool) (num den : Nat) : Double :=
  if num = 0 then zero negative
  else
    let e := exponentFor num den
    let m := scaled num den e
    let normal := if m = twoTo 53 then (twoTo 52, e + 1) else (m, e)
    if maxExponent < normal.2 then .infinite negative else .finite negative normal.1 normal.2

/-- The double nearest to an integer. -/
def ofInt (i : Int) : Double := nearest (i < 0) i.natAbs 1

/-- Neither infinite nor not a number. -/
def isFinite : Double → Bool
  | .finite .. => true
  | _ => false

/-- The double nearest to `m * 2 ^ e`; an exact zero takes the given sign. -/
def ofParts (zeroSign : Bool) (m e : Int) : Double :=
  let negative := if m = 0 then zeroSign else m < 0
  if e < 0 then nearest negative m.natAbs (twoTo e.natAbs)
  else nearest negative (m.natAbs * twoTo e.natAbs) 1

/-- Two numbers `m * 2 ^ e` under one exponent: their mantissas and the exponent. -/
def align (a b : Int × Int) : Int × Int × Int :=
  let e := min a.2 b.2
  (a.1 * twoTo (a.2 - e).natAbs, b.1 * twoTo (b.2 - e).natAbs, e)

/-- The number with the other sign. -/
def neg : Double → Double
  | .nan => .nan
  | .infinite negative => .infinite !negative
  | .finite negative m e => .finite (!negative) m e

/-- The sum, rounded.  A sum of zero is positive unless both terms are negative zeros. -/
def add : Double → Double → Double
  | .finite n₁ m₁ e₁, .finite n₂ m₂ e₂ =>
    let (a, b, e) := align (if n₁ then -(m₁ : Int) else m₁, e₁) (if n₂ then -(m₂ : Int) else m₂, e₂)
    ofParts (n₁ && n₂) (a + b) e
  | .infinite a, .infinite b => if a = b then .infinite a else .nan
  | .infinite a, .finite .. => .infinite a
  | .finite .., .infinite b => .infinite b
  | _, _ => .nan

/-- The difference, rounded. -/
def sub (a b : Double) : Double := add a (neg b)

/-- The greatest whole number that is at most `x / d`, rounded; not a number unless `x` is
finite. -/
def floorDiv (x : Double) (d : Nat) : Double :=
  match x with
  | .finite negative m e =>
    if m = 0 then zero negative
    else
      let signed : Int := if negative then -(m : Int) else m
      let q := if e < 0 then signed.fdiv (twoTo e.natAbs * d) else (signed * twoTo e.natAbs).fdiv d
      ofInt q
  | _ => .nan

end Double

end SipBench
