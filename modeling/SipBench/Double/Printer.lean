import SipBench.Double.Basic

/-!
# Decimal text of doubles

* `Double.shortest` : the fewest significant digits that read back as the number, nearest to it
* `Double.text` : those digits, positional from `1e-4` up to `1e16` and with an exponent elsewhere
* `Double.fixed` : a fixed number of places, the exact value rounded, a tie going to the even digit
-/

namespace SipBench.Double

/-! ### The shortest digits -/

/-- A positive number and the numbers that round to it, over a common denominator: those between
`low / den` and `high / den`, the ends included if `closed`. -/
structure Neighbourhood where
  low : Nat
  value : Nat
  high : Nat
  den : Nat
  closed : Bool

/-- The neighbourhood of `m * 2 ^ e`.  Below a power of two the numbers lie twice as close. -/
def neighbourhood (m : Nat) (e : Int) : Neighbourhood :=
  let up := if e < 0 then 1 else twoTo e.natAbs
  let den := if e < 0 then twoTo e.natAbs else 1
  let down := if m = twoTo 52 ∧ minExponent < e then 1 else 2
  ⟨(4 * m - down) * up, 4 * m * up, (4 * m + 2) * up, 4 * den, m % 2 = 0⟩

/-- Whether `num / den` lies in the neighbourhood. -/
def Neighbourhood.holds (b : Neighbourhood) (num den : Nat) : Bool :=
  let v := num * b.den
  if b.closed then b.low * den ≤ v && v ≤ b.high * den else b.low * den < v && v < b.high * den

/-- The position of the decimal point before the first significant digit of `num / den`: the least
`p` with `num / den < 10 ^ p`. -/
def pointOf (num den : Nat) : Int :=
  if den ≤ num then (Nat.toDigits 10 (num / den)).length
  else
    let rec shift : Nat → Nat → Nat → Int
      | 0, _, _ => 0
      | fuel + 1, k, n => if den ≤ 10 * n then -(k : Int) else shift fuel (k + 1) (10 * n)
    shift 400 0 num

/-- Of the two neighbours of the value with `count` significant digits, the nearer one that reads
back, as digits. -/
def candidate? (b : Neighbourhood) (point : Int) (count : Nat) : Option Nat :=
  let shift := point - count
  -- a candidate `c` stands for `c * unitNum / unitDen`
  let unitNum := if shift < 0 then 1 else tenTo shift.natAbs
  let unitDen := if shift < 0 then tenTo shift.natAbs else 1
  let scaledNum := b.value * unitDen
  let scaledDen := b.den * unitNum
  let below := scaledNum / scaledDen
  let near := roundQuotient scaledNum scaledDen
  let far := if near = below then below + 1 else below
  [near, far].find? fun c => b.holds (c * unitNum) unitDen

/-- The fewest significant digits that read back as the positive number `m * 2 ^ e`, without
trailing zeros, and the position of the decimal point before them. -/
def shortest (m : Nat) (e : Int) : List Char × Int :=
  let b := neighbourhood m e
  let point := pointOf b.value b.den
  let found := (List.range 17).findSome? fun k => (candidate? b point (k + 1)).map (k + 1, ·)
  match found with
  | none => (['0'], 1)
  | some (count, digits) =>
    let text := Nat.toDigits 10 digits
    -- rounding up may have carried into a new first digit
    let point := point + (text.length - count : Int)
    ((text.reverse.dropWhile (· == '0')).reverse, point)

/-! ### Layout -/

/-- The digits with a decimal point at `point`, at least one digit on either side. -/
def positional (digits : List Char) (point : Int) : List Char :=
  if point ≤ 0 then '0' :: '.' :: List.replicate point.natAbs '0' ++ digits
  else
    let whole := digits.take point.natAbs
    let filled := whole ++ List.replicate (point.natAbs - whole.length) '0'
    let rest := digits.drop point.natAbs
    filled ++ '.' :: (if rest.isEmpty then ['0'] else rest)

/-- The digits with one before the point and an exponent of at least two digits. -/
def scientific (digits : List Char) (point : Int) : List Char :=
  let exponent := point - 1
  let tail := match digits.drop 1 with
    | [] => []
    | rest => '.' :: rest
  let power := Nat.toDigits 10 exponent.natAbs
  digits.take 1 ++ tail ++ 'e' :: (if exponent < 0 then '-' else '+')
    :: List.replicate (2 - power.length) '0' ++ power

/-- A minus sign in front of a negative number. -/
def signed (negative : Bool) (text : List Char) : String :=
  String.ofList (if negative then '-' :: text else text)

/-- The shortest text that reads back as the number; a whole number keeps `.0`, and the exponent
form is used below `1e-4` and from `1e16` on. -/
def text : Double → String
  | .nan => "nan"
  | .infinite negative => signed negative ['i', 'n', 'f']
  | .finite negative m e =>
    if m = 0 then signed negative ['0', '.', '0']
    else
      let (digits, point) := shortest m e
      signed negative
        (if -4 < point && point ≤ 16 then positional digits point else scientific digits point)

/-- The digits of a natural, filled with leading zeros to `width`. -/
def padded (width n : Nat) : List Char :=
  let digits := Nat.toDigits 10 n
  List.replicate (width - digits.length) '0' ++ digits

/-- `num / den` rounded to `places` decimal places. -/
def fixedQuotient (places num den : Nat) : List Char :=
  let digits := padded (places + 1) (roundQuotient (num * tenTo places) den)
  let whole := digits.length - places
  if places = 0 then digits else digits.take whole ++ '.' :: digits.drop whole

/-- The number rounded to `places` decimal places. -/
def fixed (places : Nat) : Double → String
  | .nan => "nan"
  | .infinite negative => signed negative ['i', 'n', 'f']
  | .finite negative m e =>
    signed negative <|
      if e < 0 then fixedQuotient places m (twoTo e.natAbs)
      else fixedQuotient places (m * twoTo e.natAbs) 1

end SipBench.Double
