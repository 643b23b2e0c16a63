import SipBench.Double.Basic
import SipBench.Text.Integer

/-!
# Reading doubles

A decimal text is split into sign, digits and power of ten, and the exact value is rounded once.

* `Double.ofDecimal` : the double nearest to a decimal
* `Double.read?` : the number a text stands for, with white space around it, digits of any script
  and single underscores between digits
* `Double.readPlain?` : the same without white space, underscores and other scripts
-/

namespace SipBench.Double

open SipBench.Text

/-- The double nearest to `± digits * 10 ^ power`.  A number far outside the range is decided
without its exact value. -/
def ofDecimal (negative : Bool) (digits : Nat) (power : Int) : Double :=
  let size : Int := (Nat.toDigits 10 digits).length + power
  if digits = 0 then zero negative
  else if size < -400 then zero negative
  else if 400 < size then .infinite negative
  else if power < 0 then nearest negative digits (tenTo power.natAbs)
  else nearest negative (digits * tenTo power.natAbs) 1

/-- A decimal in ASCII: digits, a fraction and an exponent, with at least one digit before the
exponent. -/
def readDecimal? (negative : Bool) (cs : List Char) : Option Double :=
  let whole := cs.takeWhile Char.isDigit
  let (fraction, rest) := match cs.dropWhile Char.isDigit with
    | '.' :: r => (r.takeWhile Char.isDigit, r.dropWhile Char.isDigit)
    | r => ([], r)
  let value := ofDigits ((whole ++ fraction).filterMap digitValue?)
  if whole.isEmpty && fraction.isEmpty then none
  else match rest with
    | [] => some (ofDecimal negative value (-(fraction.length : Int)))
    | mark :: r =>
      let (lowered, digits) := takeSign r
      if mark.toLower == 'e' && !digits.isEmpty && digits.all Char.isDigit then
        let power : Int := ofDigits (digits.filterMap digitValue?)
        some (ofDecimal negative value ((if lowered then -power else power) - fraction.length))
      else none

/-- A number in ASCII: a sign, then a decimal or the name of infinity or of what is not a number, in
any letter case. -/
def readPlain? (cs : List Char) : Option Double :=
  let (negative, body) := takeSign cs
  match String.ofList (body.map Char.toLower) with
  | "inf" | "infinity" => some (.infinite negative)
  | "nan" => some .nan
  | _ => readDecimal? negative body

/-- Whether every underscore stands between two ASCII digits. -/
def underscoresInside (afterDigit : Bool) : List Char → Bool
  | [] => true
  | '_' :: c :: cs => afterDigit && c.isDigit && underscoresInside true cs
  | '_' :: [] => false
  | c :: cs => underscoresInside c.isDigit cs

/-- The number a text stands for. -/
def read? (s : String) : Option Double :=
  let cs := (trimBy isNumeralBlank s.toList).map fun c =>
    match digitValue? c with
    | some d => Nat.digitChar d
    | none => c
  if underscoresInside false cs then readPlain? (cs.filter (· ≠ '_')) else none

end SipBench.Double
