import SipBench.Text.Printable

/-!
# Quoted text

How a text or a byte string is shown inside a message: between quotes, with a backslash before what
would end or distort it.  Single quotes are used unless the text holds one and holds no double
quote.

* `quote` : a text
* `quoteBytes` : a byte string
-/

namespace SipBench.Text

/-- The lower-case hexadecimal digits of `n`, filled with zeros to `width`. -/
def hexDigits (width n : Nat) : List Char :=
  let digits := Nat.toDigits 16 n
  List.replicate (width - digits.length) '0' ++ digits

/-- The quote that surrounds a text. -/
def quoteMark (hasSingle hasDouble : Bool) : Char := if hasSingle && !hasDouble then '"' else '\''

/-- One character between the quotes `mark`. -/
def escape (mark c : Char) : List Char :=
  if c = mark ∨ c = '\\' then ['\\', c]
  else if c = '\n' then ['\\', 'n']
  else if c = '\r' then ['\\', 'r']
  else if c = '\t' then ['\\', 't']
  else if isPrintable c then [c]
  else if c.toNat ≤ 0xff then '\\' :: 'x' :: hexDigits 2 c.toNat
  else if c.toNat ≤ 0xffff then '\\' :: 'u' :: hexDigits 4 c.toNat
  else '\\' :: 'U' :: hexDigits 8 c.toNat

/-- The text between quotes, with escapes. -/
def quote (s : String) : String :=
  let cs := s.toList
  let mark := quoteMark (cs.contains '\'') (cs.contains '"')
  String.ofList (mark :: cs.flatMap (escape mark) ++ [mark])

/-- One octet between the quotes `mark`. -/
def escapeByte (mark : Char) (b : UInt8) : List Char :=
  let c := Char.ofNat b.toNat
  if b < 0x7f then escape mark c else '\\' :: 'x' :: hexDigits 2 b.toNat

/-- The byte string between quotes, with escapes for everything but printable ASCII. -/
def quoteBytes (bytes : List UInt8) : String :=
  let mark := quoteMark (bytes.contains 0x27) (bytes.contains 0x22)
  String.ofList ('b' :: mark :: bytes.flatMap (escapeByte mark) ++ [mark])

end SipBench.Text
