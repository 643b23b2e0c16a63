import SipBench.Config.Issue
import SipBench.Files
import SipBench.Json.Reader

/-!
# Failures of a configuration

Why a configuration cannot be loaded or set.  Most failures are reported as failures of the
configuration; a few others come through as they are, and `isReported` tells the two apart.
-/

namespace SipBench.Config

/-- Why there is no configuration. -/
inductive Error where
  /-- An environment variable does not hold a number. -/
  | invalidSeconds (name value : String)
  /-- The file is not JSON. -/
  | refused (path : PathName) (reason : Json.Refusal)
  /-- The file cannot be read. -/
  | unreadable (path : PathName) (fault : FileFault)
  /-- The file holds JSON that is not an object. -/
  | notAnObject (path : PathName)
  /-- The values are flawed; holds the report on it, too. -/
  | invalid (path : PathName) (issues : List Issue) (report : String)
  /-- The polling defaults would be flawed. -/
  | invalidDefaults (issues : List Issue) (report : String)
  /-- A section that an environment variable belongs to is not a table. -/
  | sectionNotTable (found : Value)
  /-- The file is not well-formed UTF-8. -/
  | undecodable (path : PathName)
  /-- The file holds a whole number with too many digits. -/
  | integerTooLong (digits : Nat)
  /-- The file nests lists and objects too deeply. -/
  | nestedTooDeep (object : Bool)
  /-- It cannot be found out whether the file is there. -/
  | unreachable (fault : FileFault)

namespace Error

/-- The wording of a failure. -/
def message : Error → String
  | invalidSeconds name value =>
    s!"Invalid value for {name}: {Text.quote value}. Must be a number of seconds."
  | refused path r =>
    s!"Invalid JSON in config file {path.text} at line {r.line}, column {r.column}: {r.wording}"
  | unreadable path fault => s!"Cannot read config file {path.text}: {fault.message}"
  | notAnObject path => s!"Config file {path.text} must contain a JSON object"
  | invalid path _ report =>
    "Configuration validation failed:\n" ++ report ++
      s!"\n\nFix: correct the values in {path.text} or the SIP_TEST_* environment variables."
  | invalidDefaults _ report => "Invalid polling defaults:\n" ++ report
  | sectionNotTable (.list _) => "list indices must be integers or slices, not str"
  | sectionNotTable found => s!"'{found.typeName}' object does not support item assignment"
  | undecodable _ => "'utf-8' codec can't decode the file"
  | integerTooLong digits => (Text.IntegerError.tooLong digits).message
  | nestedTooDeep object =>
    "maximum recursion depth exceeded while decoding a JSON " ++
      (if object then "object" else "array") ++ " from a unicode string"
  | unreachable fault => fault.message

/-- Whether the failure is reported as one of the configuration. -/
def isReported : Error → Bool
  | sectionNotTable _ | undecodable _ | integerTooLong _ | nestedTooDeep _ | unreachable _ => false
  | _ => true

/-- The issues behind a failed check. -/
def issues? : Error → Option (List Issue)
  | invalid _ issues _ | invalidDefaults issues _ => some issues
  | _ => none

end Error

end SipBench.Config
