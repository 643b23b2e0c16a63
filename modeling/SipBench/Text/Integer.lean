import SipBench.Text.Blank
import SipBench.Text.Quoted

/-!
# Reading integers

An integer is written with white space around it, a sign, decimal digits of any script and single
underscores between digits.  At most 4300 digits are accepted.

* `readInteger` : the value of an integer text, or why it has none
* `IntegerError.message` : the wording of a refusal
-/

namespace SipBench.Text

/-- The digit zero of every script with decimal digits; the digits one to nine follow it. -/
def digitZeros : List Nat := [
  0x30, 0x660, 0x6f0, 0x7c0, 0x966, 0x9e6, 0xa66, 0xae6, 0xb66, 0xbe6, 0xc66, 0xce6, 0xd66, 0xde6,
  0xe50, 0xed0, 0xf20, 0x1040, 0x1090, 0x17e0, 0x1810, 0x1946, 0x19d0, 0x1a80, 0x1a90, 0x1b50,
  0x1bb0, 0x1c40, 0x1c50, 0xa620, 0xa8d0, 0xa900, 0xa9d0, 0xa9f0, 0xaa50, 0xabf0, 0xff10, 0x104a0,
  0x10d30, 0x11066, 0x110f0, 0x11136, 0x111d0, 0x112f0, 0x11450, 0x114d0, 0x11650, 0x116c0, 0x11730,
  0x118e0, 0x11950, 0x11c50, 0x11d50, 0x11da0, 0x16a60, 0x16ac0, 0x16b50, 0x1d7ce, 0x1d7d8, 0x1d7e2,
  0x1d7ec, 0x1d7f6, 0x1e140, 0x1e2f0, 0x1e950, 0x1fbf0]

/-- The value of a decimal digit of any script. -/
def digitValue? (c : Char) : Option Nat :=
  (digitZeros.find? fun z => z ≤ c.toNat && c.toNat ≤ z + 9).map (c.toNat - ·)

/-- The white space that may surround a numeral: the information separators are not among it. -/
def isNumeralBlank (c : Char) : Bool :=
  isBlank c && !(0x1c ≤ c.toNat && c.toNat ≤ 0x1f)

/-- Why a text is not an accepted integer. -/
inductive IntegerError where
  /-- It is not written as an integer. -/
  | malformed (text : String)
  /-- It has more digits than are accepted. -/
  | tooLong (digits : Nat)

/-- The most digits with which an integer is read or written. -/
def maxDigits : Nat := 4300

/-- The wording of a refused integer; the text is cut after 200 characters. -/
def IntegerError.message : IntegerError → String
  | .malformed text =>
    "invalid literal for int() with base 10: " ++ String.ofList ((quote text).toList.take 200)
  | .tooLong digits =>
    s!"Exceeds the limit ({maxDigits} digits) for integer string conversion: value has {digits} " ++
      "digits; use sys.set_int_max_str_digits() to increase the limit"

/-- Whether underscores stand between digits only; `afterDigit` tells whether a digit precedes. -/
def wellSpaced (afterDigit : Bool) : List Char → Bool
  | [] => afterDigit
  | '_' :: cs => afterDigit && wellSpaced false cs
  | _ :: cs => wellSpaced true cs

/-- The sign of a numeral, true for minus, and the rest. -/
def takeSign : List Char → Bool × List Char
  | '-' :: cs => (true, cs)
  | '+' :: cs => (false, cs)
  | cs => (false, cs)

/-- The number with the given digits, the most significant first. -/
def ofDigits (digits : List Nat) : Nat := digits.foldl (fun n d => 10 * n + d) 0

/-- The value of an integer text. -/
def readInteger (text : String) : Except IntegerError Int :=
  let signed := takeSign (trimBy isNumeralBlank text.toList)
  let isNumeral := fun c => (digitValue? c).isSome || c == '_'
  let run := signed.2.takeWhile isNumeral
  let digits := run.filterMap digitValue?
  if !wellSpaced false run then .error (.malformed text)
  else if maxDigits < digits.length then .error (.tooLong digits.length)
  else if !(signed.2.dropWhile isNumeral).isEmpty then .error (.malformed text)
  else .ok (if signed.1 then -(ofDigits digits : Int) else ofDigits digits)

/-- The value of an integer text, if it has one. -/
def readInteger? (text : String) : Option Int := (readInteger text).toOption

end SipBench.Text
