import SipBench.Config.Issue
import SipBench.PathName
import SipBench.Value

/-!
# Validators

The fields of a configuration are declared with a kind and a bound or a check of their own.  What a
value stands for as one of a kind, and how it is worded that a value cannot be used, is up to a
validation library, which is a parameter here.

* `Validator` : a validation library
* `Validator.Lawful` : what is relied on
-/

namespace SipBench.Config

/-- A validation library: the conversions of a value to the kinds of fields, and the flaws that it
finds beside those of the conversions. -/
structure Validator where
  number : Value → Except Flaw Double
  text : Value → Except Flaw String
  path : Value → Except Flaw PathName
  flag : Value → Except Flaw Bool
  /-- A number that is infinite or not a number. -/
  notFinite : Flaw
  /-- A number that is not above zero. -/
  notPositive : Flaw
  /-- A number below zero. -/
  negative : Flaw
  /-- A section of the given kind that is no table. -/
  notSection : String → Flaw
  /-- A value that the check of its field or section refuses, with the reason that it gives. -/
  refused : String → Flaw
  /-- The report on a list of issues. -/
  report : List Issue → String

/-- What is relied on of a validation library: a value that is of the declared kind already is kept,
a number being rounded to a double and a text being read as a path. -/
structure Validator.Lawful (v : Validator) : Prop where
  number : ∀ {n : Number} {x : Double}, n.toDouble? = some x → v.number (.number n) = .ok x
  text : ∀ s, v.text (.text s) = .ok s
  path : ∀ s, v.path (.text s) = .ok (.ofText s)
  flag : ∀ b, v.flag (.bool b) = .ok b

end SipBench.Config
