import SipBench.Message.Basic
import SipBench.Text.Utf8

/-!
# Writing messages

A message is written with the start line, the headers, an empty line and the body, each line ended
by carriage return and line feed.  A message without a Content-Length header gets one at the end of
its headers.  The status code is taken to be one that can be shown, as that of every message that was
read is.
-/

namespace SipBench.Message

/-- The protocol version in start lines. -/
def sipVersion : String := "SIP/2.0"

/-- The line that a start line is written on; a plain message has none. -/
def startText : StartLine → Option String
  | .request method uri => some (method ++ " " ++ uri ++ " " ++ sipVersion)
  | .response status reason => some (sipVersion ++ " " ++ status.shown ++ " " ++ reason)
  | .plain => none

/-- The header lines, among them one with the length of the body. -/
def headerLines (m : Message) : List String :=
  m.headers.map Header.line ++
    if (m.headersNamed "Content-Length").isEmpty then [s!"Content-Length: {m.body.length}"] else []

/-- The message as text, ill-formed parts of the body read as U+FFFD. -/
def text (m : Message) : String :=
  "\r\n".intercalate ((startText m.start).toList ++ ["\r\n".intercalate m.headerLines]) ++
    "\r\n\r\n" ++ String.ofList (Text.Utf8.decodeLossy m.body)

end SipBench.Message
