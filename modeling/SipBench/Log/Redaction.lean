import SipBench.Text.Case
import SipBench.Text.Word

/-!
# Redaction

Credentials are masked in a log text: the whole rest of the line after the name of an authorization
header, and the value of every quoted digest parameter that would let a reader compute a password.
A name counts in any letter case, at the beginning of the text and after anything but a word
character.

* `redact` : the masked text
-/

namespace SipBench.Redaction

/-- What is written in place of a piece of text, and how many characters the piece has. -/
structure Mask where
  written : List Char
  size : Nat

/-- The text with every piece masked that `find` finds at its beginning.  Pieces are looked for from
left to right, only where no word character precedes, and do not overlap; `skip` characters belong
to the piece found last. -/
def maskAll (find : List Char → Option Mask) :
    (skip : Nat) → (afterWord : Bool) → List Char → List Char
  | _, _, [] => []
  | skip + 1, _, c :: cs => maskAll find skip (Text.isWord c) cs
  | 0, afterWord, c :: cs =>
    match if afterWord then none else find (c :: cs) with
    | some mask => mask.written ++ maskAll find (mask.size - 1) (Text.isWord c) cs
    | none => c :: maskAll find 0 (Text.isWord c) cs

/-- The rest of `cs` after `word`, in any letter case. -/
def afterWord? : (word cs : List Char) → Option (List Char)
  | [], cs => some cs
  | w :: word, c :: cs => if Text.foldLetter c = w then afterWord? word cs else none
  | _ :: _, [] => none

/-- The first of some words that `cs` begins with, in any letter case, and what follows it. -/
def cutWord? (words : List String) (cs : List Char) : Option (List Char × List Char) :=
  words.findSome? fun word =>
    (afterWord? word.toList cs).map fun rest => (cs.take word.length, rest)

/-- A character that ends a line. -/
def isLineEnd (c : Char) : Bool := c == '\r' || c == '\n'

/-- The headers whose whole value is masked. -/
def headerNames : List String := ["proxy-authorization:", "authorization:"]

/-- What is written in place of a header value. -/
def headerMask : List Char := " [CREDENTIALS-REDACTED]".toList

/-- The line of an authorization header. -/
def findHeader (cs : List Char) : Option Mask :=
  (cutWord? headerNames cs).map fun (name, rest) =>
    ⟨name ++ headerMask, name.length + (rest.takeWhile (!isLineEnd ·)).length⟩

/-- The digest parameters whose value is masked. -/
def parameterNames : List String := ["response", "nonce", "cnonce"]

/-- What is written in place of a parameter value, with the sign before it and the quotes. -/
def parameterMask : List Char := "=\"[REDACTED]\"".toList

/-- A digest parameter with a quoted value, which may stretch over several lines. -/
def findParameter (cs : List Char) : Option Mask :=
  match cutWord? parameterNames cs with
  | some (name, '=' :: '"' :: rest) =>
    let value := rest.takeWhile (· != '"')
    if value.length < rest.length then some ⟨name ++ parameterMask, name.length + 3 + value.length⟩
    else none
  | _ => none

/-- The text with all credentials masked. -/
def redactChars (cs : List Char) : List Char :=
  maskAll findParameter 0 false (maskAll findHeader 0 false cs)

/-- The text with all credentials masked. -/
def redact (s : String) : String := String.ofList (redactChars s.toList)

end SipBench.Redaction
