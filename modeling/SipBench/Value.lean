import SipBench.Number
import SipBench.Text.Quoted
import SipBench.Text.Blank

/-!
# Values

What a test program passes around beside SIP messages: status codes, stack objects, the values that
an await produces and the contents of a configuration file.

* `Value.same` : equality, numbers by value and everything else by form
* `Value.isWritable` : whether a value can be shown
* `Value.shown`, `Value.quoted` : a value shown by itself and inside a message, where it can be
* `Value.truthy` : everything but what is empty or zero
-/

namespace SipBench

/-- A value of a test program. -/
inductive Value where
  | none
  | number (n : Number)
  | text (s : String)
  | bytes (octets : List UInt8)
  | list (items : List Value)
  | table (fields : List (String × Value))
  deriving Inhabited

namespace Value

/-- A truth value. -/
abbrev bool (b : Bool) : Value := .number (.flag b)

/-- A whole number. -/
abbrev int (i : Int) : Value := .number (.whole i)

/-- A double. -/
abbrev double (x : Double) : Value := .number (.real x)

/-- The name of the kind of a value. -/
def typeName : Value → String
  | .none => "NoneType"
  | .number (.flag _) => "bool"
  | .number (.whole _) => "int"
  | .number (.real _) => "float"
  | .text _ => "str"
  | .bytes _ => "bytes"
  | .list _ => "list"
  | .table _ => "dict"

/-- Whether no value is given. -/
def isNone : Value → Bool
  | .none => true
  | _ => false

/-- Whether the value is the truth value false, and not merely empty or zero. -/
def isFalse : Value → Bool
  | .number (.flag false) => true
  | _ => false

/-- Everything but none, zero and what is empty. -/
def truthy : Value → Bool
  | .none => false
  | .number n => !n.same (.whole 0)
  | .text s => !s.isEmpty
  | .bytes b => !b.isEmpty
  | .list items => !items.isEmpty
  | .table fields => !fields.isEmpty

mutual

/-- Equality: numbers by their exact value, all else by form.  What is not a number differs from
itself, also inside a list. -/
def same : Value → Value → Bool
  | .none, .none => true
  | .number a, .number b => a.same b
  | .text a, .text b => a == b
  | .bytes a, .bytes b => a == b
  | .list a, .list b => sameItems a b
  | .table a, .table b => a.length == b.length && sameFields a b
  | _, _ => false

/-- Equality item by item. -/
def sameItems : List Value → List Value → Bool
  | [], [] => true
  | a :: as, b :: bs => same a b && sameItems as bs
  | _, _ => false

/-- Whether every field is among some fields, with an equal value. -/
def sameFields : List (String × Value) → List (String × Value) → Bool
  | [], _ => true
  | (key, a) :: as, fields => (fields.lookup key).any (same a) && sameFields as fields

end

mutual

/-- Whether the value can be shown: every whole number in it can. -/
def isWritable : Value → Bool
  | .number n => n.isWritable
  | .list items => areWritable items
  | .table fields => haveWritable fields
  | _ => true

/-- Whether all items can be shown. -/
def areWritable : List Value → Bool
  | [] => true
  | v :: vs => isWritable v && areWritable vs

/-- Whether the values of all fields can be shown. -/
def haveWritable : List (String × Value) → Bool
  | [] => true
  | (_, v) :: fields => isWritable v && haveWritable fields

end

mutual

/-- The value as it is shown inside a message: texts and byte strings are quoted. -/
def quoted : Value → String
  | .none => "None"
  | .number n => n.text
  | .text s => Text.quote s
  | .bytes b => Text.quoteBytes b
  | .list items => "[" ++ ", ".intercalate (quotedItems items) ++ "]"
  | .table fields => "\x7b" ++ ", ".intercalate (quotedFields fields) ++ "\x7d"

/-- The items of a list, quoted. -/
def quotedItems : List Value → List String
  | [] => []
  | v :: vs => quoted v :: quotedItems vs

/-- The fields of a table, quoted. -/
def quotedFields : List (String × Value) → List String
  | [] => []
  | (k, v) :: fields => (Text.quote k ++ ": " ++ quoted v) :: quotedFields fields

end

/-- The value as it is shown by itself: a text as it stands, anything else as inside a message. -/
def shown : Value → String
  | .text s => s
  | v => v.quoted

/-- The number of characters, octets, items or fields. -/
def size? : Value → Option Nat
  | .text s => some s.length
  | .bytes b => some b.length
  | .list items => some items.length
  | .table fields => some fields.length
  | _ => Option.none

/-- Several values in round brackets. -/
def quotedTuple (values : List Value) : String :=
  "(" ++ ", ".intercalate (quotedItems values) ++ ")"

/-- The value of a field. -/
def field? (key : String) : Value → Option Value
  | .table fields => fields.lookup key
  | _ => Option.none

end Value

end SipBench
