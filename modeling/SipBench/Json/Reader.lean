import SipBench.Value
import SipBench.Text.Integer

/-!
# Reading JSON

A JSON text is read into a `Value`.  Beside the standard, NaN, Infinity and -Infinity are numbers,
and of two fields with one name the last counts.  A text that is not JSON is refused with the place
and the wording of the first violation.

* `Json.read` : the value of a text, or why there is none
* `Json.Refusal` : the wording of a violation and its place
-/

namespace SipBench.Json

/-- Why a text has no value. -/
inductive Failure where
  /-- A violation of the grammar, with the number of characters that follow the place. -/
  | grammar (wording : String) (remaining : Nat)
  /-- A whole number with more digits than are accepted. -/
  | integerTooLong (digits : Nat)
  /-- Lists or objects within one another beyond the limit; tells whether an object is the
  innermost. -/
  | nestedTooDeep (object : Bool)

/-- White space between tokens. -/
def isSpace (c : Char) : Bool := c == ' ' || c == '\t' || c == '\n' || c == '\r'

/-- The text without leading white space. -/
def skip (cs : List Char) : List Char := cs.dropWhile isSpace

/-- A violation in front of `rest`. -/
def refuse {α : Type} (wording : String) (rest : List Char) : Except Failure α :=
  .error (.grammar wording rest.length)

/-! ### Strings -/

/-- The value of four hexadecimal digits, of which no other character is accepted. -/
def hexValue? (cs : List Char) : Option Nat :=
  cs.foldl (fun value c => do
    let digit ←
      if c.isDigit then some (c.toNat - '0'.toNat)
      else if 'a' ≤ c && c ≤ 'f' then some (c.toNat - 'a'.toNat + 10)
      else if 'A' ≤ c && c ≤ 'F' then some (c.toNat - 'A'.toNat + 10)
      else none
    return 16 * (← value) + digit) (some 0)

/-- The character that a letter after a backslash stands for. -/
def escaped? : Char → Option Char
  | '"' => some '"'
  | '\\' => some '\\'
  | '/' => some '/'
  | 'b' => some (Char.ofNat 8)
  | 'f' => some (Char.ofNat 12)
  | 'n' => some '\n'
  | 'r' => some '\r'
  | 't' => some '\t'
  | _ => none

/-- The character with a code point.  A surrogate that stands alone is no character, and U+FFFD is
read in its place. -/
def charOf (n : Nat) : Char := if 0xd800 ≤ n ∧ n < 0xe000 then Char.ofNat 0xfffd else Char.ofNat n

/-- The character after `\u`, and what follows it.  Two escapes may form one character. -/
def readUnicode (cs : List Char) : Except Failure (Char × List Char) :=
  let afterU := cs.drop 1
  if afterU.length ≤ 4 then refuse "Invalid \\uXXXX escape" cs
  else match hexValue? (afterU.take 4) with
    | none => refuse "Invalid \\uXXXX escape" cs
    | some high =>
      let rest := afterU.drop 4
      if 0xd800 ≤ high && high < 0xdc00 && 6 < rest.length && ['\\', 'u'].isPrefixOf rest then
        match hexValue? ((rest.drop 2).take 4) with
        | none => refuse "Invalid \\uXXXX escape" (rest.drop 1)
        | some low =>
          if 0xdc00 ≤ low && low < 0xe000 then
            .ok (charOf (0x10000 + (high - 0xd800) * 0x400 + (low - 0xdc00)), rest.drop 6)
          else .ok (charOf high, rest)
      else .ok (charOf high, rest)

/-- The characters up to the closing quote and what follows it; `opening` is the text from the
opening quote on and `fuel` exceeds the length of the text. -/
def readString (opening : List Char) :
    (fuel : Nat) → List Char → Except Failure (List Char × List Char)
  | 0, _ | _, [] => refuse "Unterminated string starting at" opening
  | fuel + 1, c :: cs =>
    if c = '"' then .ok ([], cs)
    else if c = '\\' then
      match cs with
      | [] => refuse "Unterminated string starting at" opening
      | 'u' :: _ => do
        let (char, rest) ← readUnicode cs
        let (chars, rest) ← readString opening fuel rest
        return (char :: chars, rest)
      | letter :: rest =>
        match escaped? letter with
        | none => refuse "Invalid \\escape" (c :: cs)
        | some char => do
          let (chars, rest) ← readString opening fuel rest
          return (char :: chars, rest)
    else if c.toNat < 0x20 then refuse "Invalid control character at" (c :: cs)
    else do
      let (chars, rest) ← readString opening fuel cs
      return (c :: chars, rest)

/-! ### Numbers -/

/-- The whole part of a number, its sign taken off: a zero, or digits that do not begin with one. -/
def wholePart (cs : List Char) : List Char :=
  match cs with
  | '0' :: _ => ['0']
  | _ => cs.takeWhile Char.isDigit

/-- The fraction that follows, with its point. -/
def fractionPart (cs : List Char) : List Char :=
  match cs with
  | '.' :: rest =>
    let digits := rest.takeWhile Char.isDigit
    if digits.isEmpty then [] else '.' :: digits
  | _ => []

/-- The exponent that follows, with its letter and sign. -/
def exponentPart (cs : List Char) : List Char :=
  match cs with
  | mark :: rest =>
    if mark == 'e' || mark == 'E' then
      let sign := rest.takeWhile (fun c => c == '-' || c == '+') |>.take 1
      let digits := (rest.drop sign.length).takeWhile Char.isDigit
      if digits.isEmpty then [] else mark :: sign ++ digits
    else []
  | [] => []

/-- The number that `cs` begins with and what follows it. -/
def readNumber (cs : List Char) : Except Failure (Value × List Char) :=
  let sign := match cs with
    | '-' :: _ => ['-']
    | _ => []
  let whole := wholePart (cs.drop sign.length)
  let afterWhole := cs.drop (sign.length + whole.length)
  let fraction := fractionPart afterWhole
  let exponent := exponentPart (afterWhole.drop fraction.length)
  let text := sign ++ whole ++ fraction ++ exponent
  let rest := cs.drop text.length
  if whole.isEmpty then refuse "Expecting value" cs
  else if fraction.isEmpty && exponent.isEmpty then
    match Text.readInteger (String.ofList text) with
    | .ok i => .ok (.int i, rest)
    | .error _ => .error (.integerTooLong whole.length)
  else .ok (.double ((Double.readPlain? text).getD .nan), rest)

/-- The words that stand for a value. -/
def literals : List (String × Value) := [
  ("null", .none), ("true", .bool true), ("false", .bool false), ("NaN", .double .nan),
  ("Infinity", .double (.infinite false)), ("-Infinity", .double (.infinite true))]

/-! ### Values -/

/-- The fields with `value` under `key`, in place of an earlier one. -/
def setField (fields : List (String × Value)) (key : String) (value : Value) :
    List (String × Value) :=
  if (fields.lookup key).isSome then fields.map fun f => if f.1 == key then (key, value) else f
  else fields ++ [(key, value)]

mutual

/-- The value that `cs` begins with and what follows it.  `depth` counts the lists and objects
around it, of which there may be `nesting`; `fuel` bounds the number of tokens. -/
def readValue (nesting depth : Nat) : (fuel : Nat) → List Char → Except Failure (Value × List Char)
  | 0, cs => refuse "Expecting value" cs
  | _, [] => refuse "Expecting value" []
  | fuel + 1, cs@(c :: rest) =>
    if c = '"' then do
      let (chars, rest) ← readString cs cs.length rest
      return (.text (String.ofList chars), rest)
    else if c = '\x7b' then
      if nesting ≤ depth then .error (.nestedTooDeep true)
      else match skip rest with
        | '\x7d' :: rest => .ok (.table [], rest)
        | rest => readFields nesting (depth + 1) fuel [] rest
    else if c = '[' then
      if nesting ≤ depth then .error (.nestedTooDeep false)
      else match skip rest with
        | ']' :: rest => .ok (.list [], rest)
        | rest => readItems nesting (depth + 1) fuel [] rest
    else match literals.find? fun l => l.1.toList.isPrefixOf cs with
      | some (word, value) => .ok (value, cs.drop word.length)
      | none => readNumber cs

/-- The items of a list up to its end, after those that were read, the last one first. -/
def readItems (nesting depth : Nat) :
    (fuel : Nat) → List Value → List Char → Except Failure (Value × List Char)
  | 0, _, cs => refuse "Expecting value" cs
  | fuel + 1, items, cs => do
    let (item, rest) ← readValue nesting depth fuel cs
    match skip rest with
    | ']' :: rest => return (.list (item :: items).reverse, rest)
    | ',' :: rest => readItems nesting depth fuel (item :: items) (skip rest)
    | rest => refuse "Expecting ',' delimiter" rest

/-- The fields of an object up to its end, after those that were read. -/
def readFields (nesting depth : Nat) :
    (fuel : Nat) → List (String × Value) → List Char → Except Failure (Value × List Char)
  | 0, _, cs => refuse "Expecting value" cs
  | fuel + 1, fields, cs =>
    match cs with
    | '"' :: rest => do
      let (chars, rest) ← readString cs cs.length rest
      match skip rest with
      | ':' :: rest => do
        let (value, rest) ← readValue nesting depth fuel (skip rest)
        let fields := setField fields (String.ofList chars) value
        match skip rest with
        | '\x7d' :: rest => return (.table fields, rest)
        | ',' :: rest => readFields nesting depth fuel fields (skip rest)
        | rest => refuse "Expecting ',' delimiter" rest
      | rest => refuse "Expecting ':' delimiter" rest
    | _ => refuse "Expecting property name enclosed in double quotes" cs

end

/-! ### Texts -/

/-- A violation of the grammar with its place: the number of characters before it, the line and the
column. -/
structure Refusal where
  wording : String
  position : Nat
  line : Nat
  column : Nat

/-- The wording of a violation with its place. -/
def Refusal.message (r : Refusal) : String :=
  s!"{r.wording}: line {r.line} column {r.column} (char {r.position})"

/-- The violation at a position of a text. -/
def Refusal.at (text : List Char) (wording : String) (position : Nat) : Refusal :=
  let before := text.take position
  { wording, position
    line := (before.filter (· == '\n')).length + 1
    column := (before.reverse.takeWhile (· ≠ '\n')).length + 1 }

/-- Why a text cannot be read. -/
inductive Error where
  | refused (r : Refusal)
  | integerTooLong (digits : Nat)
  | nestedTooDeep (object : Bool)

/-- The value of a text. -/
def readText (nesting : Nat) (cs : List Char) : Except Failure Value :=
  match cs with
  | '\ufeff' :: _ => refuse "Unexpected UTF-8 BOM (decode using utf-8-sig)" cs
  | _ => do
    let (value, rest) ← readValue nesting 0 (2 * cs.length + 2) (skip cs)
    match skip rest with
    | [] => return value
    | rest => refuse "Extra data" rest

/-- The value of a text whose lists and objects are nested at most `nesting` deep, or why it has
none. -/
def read (nesting : Nat) (cs : List Char) : Except Error Value :=
  match readText nesting cs with
  | .ok value => .ok value
  | .error (.grammar wording remaining) =>
    .error (.refused (.at cs wording (cs.length - remaining)))
  | .error (.integerTooLong digits) => .error (.integerTooLong digits)
  | .error (.nestedTooDeep object) => .error (.nestedTooDeep object)

end SipBench.Json
