import SipBench.Message.Printer

/-!
# Reading messages

A raw message is cut at its first empty line, in either style of line end, into a head and a body.
The head is text: a start line, then header lines, which may be folded over several lines.  The body
is kept octet by octet, up to the declared length.

* `splitHead` : the cut
* `unfold` : folded lines joined
* `Message.parse` : the message, or why there is none
-/

namespace SipBench

/-- What follows the empty line that `cs` begins with, if it begins with one: the line end before it
and its own, both in the same style. -/
def afterEmptyLine? {α : Type} [BEq α] (cr lf : α) (cs : List α) : Option (List α) :=
  if [cr, lf, cr, lf].isPrefixOf cs then some (cs.drop 4)
  else if [lf, lf].isPrefixOf cs then some (cs.drop 2)
  else none

/-- What stands before and after the first empty line. -/
def splitHead {α : Type} [BEq α] (cr lf : α) : List α → List α × List α
  | [] => ([], [])
  | x :: xs =>
    match afterEmptyLine? cr lf (x :: xs) with
    | some rest => ([], rest)
    | none =>
      let (head, body) := splitHead cr lf xs
      (x :: head, body)

/-- Every carriage return before a line feed taken away. -/
def joinLineEnds : List Char → List Char
  | '\r' :: '\n' :: cs => '\n' :: joinLineEnds cs
  | c :: cs => c :: joinLineEnds cs
  | [] => []

/-- The lines of a head. -/
def headLines (head : List Char) : List (List Char) := Text.splitAt '\n' (joinLineEnds head)

/-- Whether a line continues the one before it. -/
def isContinuation : List Char → Bool
  | c :: _ => c == ' ' || c == '\t'
  | [] => false

/-- Adds a line to the unfolded lines before it, the last one first. -/
def addLine (unfolded : List (List Char)) (line : List Char) : List (List Char) :=
  match unfolded with
  | last :: before =>
    if isContinuation line then (last ++ ' ' :: Text.trim line) :: before
    else if line.isEmpty then unfolded else line :: unfolded
  | [] => if line.isEmpty then [] else [line]

/-- The lines with every continuation joined to the line it continues; empty lines are dropped. -/
def unfold (lines : List (List Char)) : List (List Char) := (lines.foldl addLine []).reverse

/-- The header on an unfolded line. -/
def Header.parse (line : List Char) : Except ParseError Header :=
  match Text.cutAt ':' line with
  | (name, some value) =>
    if (Text.trim name).isEmpty then .error (.malformedHeader (String.ofList line))
    else .ok (Message.Header.canonical (String.ofList name) (String.ofList value))
  | (_, none) => .error (.malformedHeader (String.ofList line))

namespace StartLine

/-- A word in upper case is the protocol version. -/
def isVersion (word : List Char) : Bool := String.ofList (Text.upper word) == Message.sipVersion

/-- The start line on a line without white space at its ends. -/
def parse (line : List Char) : Except ParseError StartLine :=
  let text := String.ofList line
  if line.isEmpty then .error .noStartLine
  else match Text.cutAt ' ' line with
    | (_, none) => .error (.malformedStartLine text)
    | (first, some rest) =>
      let (second, third) := Text.cutAt ' ' rest
      if isVersion first then
        match Text.readInteger (String.ofList second) with
        | .error reason => .error (.invalidStatusCode text reason)
        | .ok code => .ok (Message.statusLine (.int code) (String.ofList (third.getD [])))
      else match third with
        | some version =>
          if isVersion version then .ok (.request (String.ofList first) (String.ofList second))
          else .error (.malformedRequestLine text)
        | none => .error (.malformedRequestLine text)

end StartLine

/-- The first `length` octets, or all but the last `-length` ones if it is negative. -/
def clip (length : Int) (body : List UInt8) : List UInt8 :=
  if length < 0 then body.take (body.length - length.natAbs) else body.take length.natAbs

/-- The octets of the body that the headers declare. -/
def declaredBody (headers : List Header) (body : List UInt8) : Except ParseError (List UInt8) :=
  match headers.find? (·.name == "Content-Length") with
  | none => .ok body
  | some h =>
    match Text.readInteger h.value with
    | .error reason => .error (.invalidLength h.value reason)
    | .ok length =>
      if (body.length : Int) < length then .error (.bodyTooShort length body.length)
      else .ok (clip length body)

/-- A message as it comes from the network: text, or octets whose head is text. -/
inductive RawMessage where
  | text (s : String)
  | octets (bytes : List UInt8)

namespace RawMessage

/-- The head as text and the body as octets.  Line ends in front of the message do not count. -/
def split : RawMessage → List Char × List UInt8
  | text s =>
    let (head, body) := splitHead '\r' '\n' (s.toList.dropWhile fun c => c == '\r' || c == '\n')
    (head, Text.Utf8.encode body)
  | octets bytes =>
    let (head, body) := splitHead 0x0d 0x0a (bytes.dropWhile fun b => b == 0x0d || b == 0x0a)
    (Text.Utf8.decodeLossy head, body)

end RawMessage

namespace Message

/-- The message with the given head and the given octets after it. -/
def ofHead (head : List Char) (body : List UInt8) (source : Value) : Except ParseError Message := do
  let lines := headLines head
  let start ← StartLine.parse (Text.trim (lines.headD []))
  let headers ← (unfold lines.tail).mapM Header.parse
  return ⟨start, headers, ← declaredBody headers body, source⟩

/-- The message that a raw message stands for. -/
def parse (raw : RawMessage) (source : Value) : Except ParseError Message :=
  ofHead raw.split.1 raw.split.2 source

end Message

end SipBench
