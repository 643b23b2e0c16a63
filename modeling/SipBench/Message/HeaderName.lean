import SipBench.Text.Case
import SipBench.Text.Blank

/-!
# Header names

A header may be named in any letter case and by a one-letter compact form.  `canonicalName` gives
the one spelling under which headers are stored and looked up: each part between hyphens is
capitalised, but for a few names with a spelling of their own.
-/

namespace SipBench

/-- The header names that have a compact form. -/
def compactForms : List (String × String) := [
  ("i", "call-id"), ("m", "contact"), ("e", "content-encoding"), ("l", "content-length"),
  ("c", "content-type"), ("o", "event"), ("f", "from"), ("s", "subject"), ("k", "supported"),
  ("t", "to"), ("v", "via"), ("u", "allow-events"), ("r", "refer-to"), ("b", "referred-by")]

/-- The header names that are not spelt by capitalising each part. -/
def specialSpellings : List (String × String) := [
  ("call-id", "Call-ID"), ("cseq", "CSeq"), ("www-authenticate", "WWW-Authenticate")]

/-- The long name that a lower-case name stands for. -/
def longName (name : String) : String := (compactForms.lookup name).getD name

/-- Each part between hyphens capitalised. -/
def capitalizeParts (name : String) : String :=
  String.ofList (List.intercalate ['-'] ((Text.splitAt '-' name.toList).map Text.capitalize))

/-- The canonical spelling of a header name. -/
def canonicalName (name : String) : String :=
  let long := longName (Text.lowered (Text.trimmed name))
  (specialSpellings.lookup long).getD (capitalizeParts long)

end SipBench
