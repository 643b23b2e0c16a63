import SipBench.Log.Entry
import SipBench.Fault.Basic
import SipBench.Log.Redaction

/-!
# Templates

A template is a text with places for values, written with a percent sign: `%s` for a value as it is
shown, `%r` for a quoted one, `%d` for a whole number, `%.3f` for a number with fixed places, `%x`,
`%X` and `%o` for other bases, and `%%` for the sign itself.  A place may be named, `%(name)s`, and
may have flags and a width.

* `Template.fill` : a template with a list of values
* `Template.fillNamed` : a template with named values
* `LogEntry.format` : a log entry under a template, with credentials masked
-/

namespace SipBench

/-- A place for a value. -/
structure Placeholder where
  flags : List Char
  width : Nat
  precision : Option Nat
  conversion : Char

namespace Placeholder

/-- The conversions of a value. -/
def conversions : List Char := ['s', 'r', 'd', 'i', 'u', 'f', 'F', 'x', 'X', 'o']

/-- Whether a flag is set. -/
def has (p : Placeholder) (flag : Char) : Bool := p.flags.contains flag

/-- A text filled with blanks to the width of its place. -/
def pad (p : Placeholder) (text : List Char) : List Char :=
  let blanks := List.replicate (p.width - text.length) ' '
  if p.has '-' then text ++ blanks else blanks ++ text

/-- The sign in front of a number. -/
def signText (p : Placeholder) (negative : Bool) : List Char :=
  if negative then ['-'] else if p.has '+' then ['+'] else if p.has ' ' then [' '] else []

/-- A number, given by its sign and its digits, filled to the width of its place. -/
def padNumber (p : Placeholder) (negative : Bool) (digits : List Char) : List Char :=
  let sign := p.signText negative
  if p.has '0' && !p.has '-' then
    sign ++ List.replicate (p.width - sign.length - digits.length) '0' ++ digits
  else p.pad (sign ++ digits)

/-- A whole number in a base, with at least as many digits as the precision asks for. -/
def wholeText (p : Placeholder) (base : Nat) (i : Int) : List Char :=
  let digits := Nat.toDigits base i.natAbs
  let digits := List.replicate (p.precision.getD 0 - digits.length) '0' ++ digits
  p.padNumber (i < 0) (if p.conversion = 'X' then digits.map Char.toUpper else digits)

/-- The whole number that a place for one shows. -/
def wholeOf (p : Placeholder) (v : Value) : Except Fault Int :=
  match v with
  | .number (.real (.finite negative m e)) =>
    let size := if e < 0 then m / Double.twoTo e.natAbs else m * Double.twoTo e.natAbs
    .ok (if negative then -(size : Int) else size)
  | .number (.real .nan) =>
    .error (.raised .badValue (.text "cannot convert float NaN to integer"))
  | .number (.real (.infinite _)) =>
    .error (.raised .overflow (.text "cannot convert float infinity to integer"))
  | .number n => .ok (n.toInt?.getD 0)
  | v => .error (.wrongType
      s!"%{p.conversion} format: a real number is required, not {v.typeName}")

/-- The exact whole number that a place in another base shows. -/
def exactOf (p : Placeholder) (v : Value) : Except Fault Int :=
  match v with
  | .number (.real _) =>
    .error (.wrongType s!"%{p.conversion} format: an integer is required, not float")
  | .number n => .ok (n.toInt?.getD 0)
  | v => .error (.wrongType s!"%{p.conversion} format: an integer is required, not {v.typeName}")

/-- A number with fixed places. -/
def fixedText (p : Placeholder) (v : Value) : Except Fault (List Char) :=
  match v with
  | .number n =>
    match n.toDouble? with
    | none => .error .tooLarge
    | some x =>
      match (x.fixed (p.precision.getD 6)).toList with
      | '-' :: digits => .ok (p.padNumber true digits)
      | digits => .ok (p.padNumber false digits)
  | v => .error (.wrongType s!"must be real number, not {v.typeName}")

/-- A text cut to the precision of its place. -/
def cut (p : Placeholder) (text : String) : List Char :=
  match p.precision with
  | some n => text.toList.take n
  | none => text.toList

/-- A value in its place. -/
def text (p : Placeholder) (v : Value) : Except Fault (List Char) :=
  match p.conversion with
  | 's' => v.write.map fun text => p.pad (p.cut text)
  | 'r' => v.writeQuoted.map fun text => p.pad (p.cut text)
  | 'f' | 'F' => p.fixedText v
  | 'x' | 'X' => (p.exactOf v).map (p.wholeText 16)
  | 'o' => (p.exactOf v).map (p.wholeText 8)
  | _ => do
    let i ← p.wholeOf v
    let _ ← (Value.int i).write
    return p.wholeText 10 i

end Placeholder

/-- What the places of a template take: values one after the other, or the value of their name. -/
inductive Supply where
  | inOrder (values : List Value)
  | byName (fields : List (String × Value))

namespace Supply

/-- The value for a place without a name, and what is left. -/
def next : Supply → Except Fault (Value × Supply)
  | inOrder (v :: values) => .ok (v, .inOrder values)
  | _ => .error (.wrongType "not enough arguments for format string")

/-- The whole number for a width that is not written down. -/
def nextWhole (s : Supply) : Except Fault (Int × Supply) := do
  match ← s.next with
  | (.number n, rest) =>
    match n.toInt? with
    | some i => return (i, rest)
    | none => throw (.wrongType "* wants int")
  | _ => throw (.wrongType "* wants int")

/-- The fields of a template with named places. -/
def fields : Supply → Except Fault (List (String × Value))
  | byName fields => .ok fields
  | inOrder _ => .error (.wrongType "format requires a mapping")

/-- The value for a place with a name. -/
def named (s : Supply) (name : String) : Except Fault Value := do
  match (← s.fields).lookup name with
  | some v => return v
  | none => throw (.raised .badValue
      (.text s!"Formatting field not found in record: {Text.quote name}"))

/-- Whether values are left that no place has taken. -/
def hasRest : Supply → Bool
  | inOrder values => !values.isEmpty
  | byName _ => false

end Supply

namespace Template

/-- A natural at the beginning of a text; zero if there is none. -/
def takeNat (cs : List Char) : Nat × List Char :=
  let digits := cs.takeWhile Char.isDigit
  (Text.ofDigits (digits.filterMap Text.digitValue?), cs.drop digits.length)

/-- A width or precision at the beginning of a text; a star stands for the next value. -/
def takeSize (supply : Supply) : List Char → Except Fault (Int × Supply × List Char)
  | '*' :: cs => do
    let (i, supply) ← supply.nextWhole
    return (i, supply, cs)
  | cs => let (n, rest) := takeNat cs; .ok (n, supply, rest)

/-- A name up to the bracket that closes it, `depth` brackets being open inside it. -/
def takeName (depth : Nat) : List Char → Except Fault (List Char × List Char)
  | [] => .error (.raised .badValue (.text "incomplete format key"))
  | c :: cs =>
    if c = ')' then
      match depth with
      | 0 => .ok ([], cs)
      | depth + 1 => (takeName depth cs).map fun (name, rest) => (c :: name, rest)
    else
      let depth := if c = '(' then depth + 1 else depth
      (takeName depth cs).map fun (name, rest) => (c :: name, rest)

/-- The value of a named place that a text begins with, and what follows the name. -/
def takeNamed (supply : Supply) : List Char → Except Fault (Option Value × List Char)
  | '(' :: cs => do
    let _ ← supply.fields
    let (name, rest) ← takeName 0 cs
    return (some (← supply.named (String.ofList name)), rest)
  | cs => .ok (none, cs)

/-- A precision at the beginning of a text. -/
def takePrecision (supply : Supply) : List Char → Except Fault (Option Nat × Supply × List Char)
  | '.' :: cs => do
    let (n, supply, rest) ← takeSize supply cs
    return (some n.toNat, supply, rest)
  | cs => .ok (none, supply, cs)

/-- A letter for the size of a number, which does not count. -/
def dropModifier : List Char → List Char
  | c :: cs => if c = 'h' ∨ c = 'l' ∨ c = 'L' then cs else c :: cs
  | [] => []

/-- The flags with those that a negative width stands for. -/
def flagsOf (flags : List Char) (width : Int) : List Char :=
  if width < 0 then '-' :: flags else flags

/-- The text for the place that a text begins with, its percent sign taken off, with what is left of
the values and of the template, whose length is `total`. -/
def fillPlace (total : Nat) (supply : Supply) (cs : List Char) :
    Except Fault (List Char × Supply × List Char) := do
  let (value, cs) ← takeNamed supply cs
  let flags := cs.takeWhile ("-+ #0".toList.contains ·)
  let (width, supply, cs) ← takeSize supply (cs.drop flags.length)
  let (precision, supply, cs) ← takePrecision supply cs
  match dropModifier cs with
  | [] => throw (.misuse .incompletePlaceholder)
  | c :: rest =>
    let (value, supply) ← match value with
      | some v => pure (v, supply)
      | none => supply.next
    if Placeholder.conversions.contains c then
      let place : Placeholder := ⟨flagsOf flags width, width.natAbs, precision, c⟩
      return (← place.text value, supply, rest)
    else throw (.misuse (.badPlaceholder c (total - (rest.length + 1))))

/-- The text of a template; `fuel` bounds the number of its pieces. -/
def fillFrom (total : Nat) : (fuel : Nat) → Supply → List Char → Except Fault (List Char)
  | 0, supply, _ | _, supply, [] =>
    if supply.hasRest then
      .error (.wrongType "not all arguments converted during string formatting")
    else .ok []
  | fuel + 1, supply, '%' :: '%' :: cs => do return '%' :: (← fillFrom total fuel supply cs)
  | fuel + 1, supply, '%' :: cs => do
    let (text, supply, rest) ← fillPlace total supply cs
    return text ++ (← fillFrom total fuel supply rest)
  | fuel + 1, supply, c :: cs => do return c :: (← fillFrom total fuel supply cs)

/-- A template filled from a supply. -/
def fillWith (supply : Supply) (s : String) : Except Fault String :=
  let cs := s.toList
  (fillFrom cs.length cs.length supply cs).map String.ofList

/-- A text with places, filled with values.  Without values it stands for itself. -/
def fill (s : String) (values : List Value) : Except Fault String :=
  if values.isEmpty then .ok s else fillWith (.inOrder values) s

/-- A text with named places, filled with values. -/
def fillNamed (s : String) (fields : List (String × Value)) : Except Fault String :=
  fillWith (.byName fields) s

end Template

/-! ### Formatting of log entries -/

/-- A log entry with an urgency that need not be that of a level, and with values for the places in
its text. -/
structure RawEntry where
  logger : String
  level : Int
  text : String
  values : List Value := []

/-- An entry of the library, whose text is complete. -/
def LogEntry.raw (e : LogEntry) : RawEntry :=
  { logger := e.logger, level := e.level.number, text := e.message }

/-- How log entries are written. -/
structure LogFormat where
  template : String := "%(message)s"
  redact : Bool := true

namespace LogFormat

/-- Whether a place begins here: a name in brackets, and a conversion after flags, width and
precision. -/
def beginsNamedPlace : List Char → Bool
  | '%' :: '(' :: cs =>
    let name := cs.takeWhile Text.isWord
    let stars := fun cs : List Char => match cs with
      | '*' :: cs => cs
      | cs => cs.dropWhile fun c => (Text.digitValue? c).isSome
    match name.isEmpty, cs.drop name.length with
    | false, ')' :: cs =>
      let cs := stars (cs.dropWhile ("-+ #0".toList.contains ·))
      let cs := match cs with
        | '.' :: rest => if (stars rest).length < rest.length then stars rest else cs
        | cs => cs
      match cs with
      | c :: _ => "diouxefgcrsa%".toList.contains (Text.foldLetter c)
      | [] => false
    | _, _ => false
  | _ => false

/-- Whether a text has a named place, without which it is no format. -/
def hasNamedPlace : List Char → Bool
  | [] => false
  | c :: cs => beginsNamedPlace (c :: cs) || hasNamedPlace cs

/-- The format with a template; an empty one stands for the message alone. -/
def of? (template : String) (redact : Bool) : Except Fault LogFormat :=
  let template := if template.isEmpty then "%(message)s" else template
  if hasNamedPlace template.toList then .ok { template, redact }
  else .error (.raised .badValue (.text s!"Invalid format '{template}' for '%' style"))

/-- The values that the places of a format may name. -/
def fields (e : RawEntry) (message : String) : List (String × Value) := [
  ("message", .text message), ("name", .text e.logger), ("levelno", .int e.level),
  ("levelname", .text (Level.nameOfNumber e.level)), ("msg", .text e.text)]

/-- A log entry as it is written. -/
def write (f : LogFormat) (e : RawEntry) : Except Fault String := do
  let message ← Template.fill e.text e.values
  let text ← Template.fillNamed f.template (fields e message)
  return if f.redact then Redaction.redact text else text

end LogFormat

end SipBench
