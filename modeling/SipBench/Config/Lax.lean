import SipBench.Config.Validator
import SipBench.Text.Utf8

/-!
# A generous validator

A validator that converts whatever can be read as a value of the wanted kind.  The command line and
the test bench run with it; nothing that is proved of a configuration depends on its conversions.

* `Validator.lax` : the validator
* `Validator.lax_lawful` : it keeps the values that need no conversion
-/

namespace SipBench.Config

namespace Flaw

def notNumber : Flaw := ⟨"float_type", "Input should be a valid number"⟩

def unreadableNumber : Flaw :=
  ⟨"float_parsing", "Input should be a valid number, unable to parse string as a number"⟩

def notText : Flaw := ⟨"string_type", "Input should be a valid string"⟩

def notPath : Flaw := ⟨"path_type", "Input is not a valid path for <class 'pathlib.Path'>"⟩

def notFlag : Flaw := ⟨"bool_type", "Input should be a valid boolean"⟩

def unreadableFlag : Flaw :=
  ⟨"bool_parsing", "Input should be a valid boolean, unable to interpret input"⟩

end Flaw

namespace Lax

/-! ### Numbers -/

/-- A text that is not that of a number may still be one with underscores inside it. -/
def withoutUnderscores? (cs : List Char) : Option (List Char) :=
  let wellPlaced :=
    cs.head? != some '_' && cs.getLast? != some '_' && !Text.occursIn ['_', '_'] cs
  if cs.contains '_' && wellPlaced then some (cs.filter (· ≠ '_')) else none

/-- The double that a text stands for. -/
def numberOfText (cs : List Char) : Except Flaw Double :=
  match Double.readPlain? (Text.trimBy Text.isNumeralBlank cs) with
  | some x => .ok x
  | none =>
    match (withoutUnderscores? cs).bind Double.readPlain? with
    | some x => .ok x
    | none => .error .unreadableNumber

/-- The double that a value stands for. -/
def number : Value → Except Flaw Double
  | .number n =>
    match n.toDouble? with
    | some x => .ok x
    | none => .error .notNumber
  | .text s => numberOfText s.toList
  | .bytes b =>
    match Text.Utf8.decode? b with
    | some cs => numberOfText cs
    | none => .error .unreadableNumber
  | _ => .error .notNumber

/-! ### Texts and paths -/

def text : Value → Except Flaw String
  | .text s => .ok s
  | _ => .error .notText

def path : Value → Except Flaw PathName
  | .text s => .ok (.ofText s)
  | _ => .error .notPath

/-! ### Truth values -/

/-- The words for true. -/
def trueWords : List String := ["1", "t", "true", "on", "y", "yes"]

/-- The words for false. -/
def falseWords : List String := ["0", "f", "false", "off", "n", "no"]

/-- The truth value that a word stands for, in any ASCII letter case. -/
def flagOfText (cs : List Char) : Except Flaw Bool :=
  let word := String.ofList (cs.map Char.toLower)
  if trueWords.contains word then .ok true
  else if falseWords.contains word then .ok false
  else .error .unreadableFlag

/-- Whether a number is whole and fits into a machine word. -/
def isWordSized (n : Number) : Bool :=
  match n with
  | .real x => x.isFinite && n.same (.real (x.floorDiv 1)) && fits
  | _ => fits
where
  /-- Whether the number lies within the bounds of a word. -/
  fits : Bool :=
    (Number.whole (-Double.twoTo 63)).atMost n && n.less (.whole (Double.twoTo 63))

/-- The truth value of a number, which must be zero or one. -/
def flagOfNumber (n : Number) : Except Flaw Bool :=
  if n.same (.whole 1) then .ok true
  else if n.same (.whole 0) then .ok false
  else if isWordSized n then .error .unreadableFlag
  else .error .notFlag

def flag : Value → Except Flaw Bool
  | .number n => flagOfNumber n
  | .text s => flagOfText s.toList
  | .bytes b =>
    match Text.Utf8.decode? b with
    | some cs => flagOfText cs
    | none => .error .unreadableFlag
  | _ => .error .notFlag

end Lax

namespace Validator

/-- The generous validator. -/
def lax : Validator where
  number := Lax.number
  text := Lax.text
  path := Lax.path
  flag := Lax.flag
  notFinite := ⟨"finite_number", "Input should be a finite number"⟩
  notPositive := ⟨"greater_than", "Input should be greater than 0"⟩
  negative := ⟨"greater_than_equal", "Input should be greater than or equal to 0"⟩
  notSection name :=
    ⟨"model_type", s!"Input should be a valid dictionary or instance of {name}"⟩
  refused reason := ⟨"value_error", s!"Value error, {reason}"⟩
  report issues := "\n".intercalate <| issues.map fun i =>
    ".".intercalate i.location ++ ": " ++ i.flaw.message ++ " [" ++ i.flaw.code ++ "]"

theorem lax_lawful : lax.Lawful where
  number h := by simp only [lax, Lax.number, h]
  text _ := rfl
  path _ := rfl
  flag b := by cases b <;> rfl

end Validator

end SipBench.Config
