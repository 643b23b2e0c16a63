import SipBench.Config.Error
import SipBench.Config.Lax
import SipBench.Config.Validation

/-!
# Loading a configuration

The effective configuration comes from a JSON file, or from the built-in values if there is no such
file, and from environment variables, which win.  The result is checked as a whole, so that a
variable can repair what the file has wrong, or break what it has right.  The variables that a `.env`
file adds to the environment count as set; the reading of that file is left out.

* `overrides` : the environment variables and the fields they belong to
* `Loader` : what is relied on beside the files and the environment
* `Config.load` : the effective configuration, or why there is none, with what is logged on the way
-/

namespace SipBench.Config

/-- The settings of the environment. -/
abbrev Environment := List (String × String)

/-- The value of an environment variable that is set and not empty. -/
def Environment.get? (env : Environment) (name : String) : Option String :=
  (env.lookup name).filter (!·.isEmpty)

/-! ### Environment variables -/

/-- An environment variable and the field that it sets. -/
structure Override where
  name : String
  sectionName : String
  key : String
  read : String → Except Error Value

/-- A number of seconds in an environment variable. -/
def readSeconds (name value : String) : Except Error Value :=
  match Double.read? value with
  | some x => .ok (.double x)
  | none => .error (.invalidSeconds name value)

/-- A truth value in an environment variable: true for a few words, false for all others. -/
def readFlag (value : String) : Bool :=
  ["true", "1", "yes", "on"].contains (Text.lowered (Text.trimmed value))

namespace Override

/-- The variable for the interval between two evaluations. -/
def pollInterval : Override :=
  ⟨"SIP_TEST_POLL_INTERVAL", "polling", "poll_interval", readSeconds "SIP_TEST_POLL_INTERVAL"⟩

/-- The variable for the time after which an await gives up. -/
def awaitTimeout : Override :=
  ⟨"SIP_TEST_AWAIT_TIMEOUT", "polling", "timeout", readSeconds "SIP_TEST_AWAIT_TIMEOUT"⟩

/-- The variable for the level of the console. -/
def logLevel : Override := ⟨"SIP_TEST_LOG_LEVEL", "logging", "level", fun v => .ok (.text v)⟩

/-- The variable for the log file. -/
def logFile : Override := ⟨"SIP_TEST_LOG_FILE", "logging", "log_file", fun v => .ok (.text v)⟩

/-- The variable for whether credentials are masked. -/
def redactCredentials : Override :=
  ⟨"SIP_TEST_REDACT_CREDENTIALS", "logging", "redact_credentials",
    fun v => .ok (.bool (readFlag v))⟩

end Override

/-- The environment variables that set a field, in the order in which they are looked at. -/
def overrides : List Override :=
  [.pollInterval, .awaitTimeout, .logLevel, .logFile, .redactCredentials]

/-- The table with a field of a section set; a missing section is begun. -/
def setInSection (fields : List (String × Value)) (sectionName key : String) (value : Value) :
    Except Error (List (String × Value)) :=
  match fields.lookup sectionName with
  | none => .ok (Json.setField fields sectionName (.table [(key, value)]))
  | some (.table inner) =>
    .ok (Json.setField fields sectionName (.table (Json.setField inner key value)))
  | some found => .error (.sectionNotTable found)

/-- The table after one environment variable, and what is logged about it. -/
def applyOverride (env : Environment) (o : Override) (fields : List (String × Value)) :
    Except Error (List (String × Value)) × List LogEntry :=
  match env.get? o.name with
  | none => (.ok fields, [])
  | some text =>
    match o.read text with
    | .error e => (.error e, [])
    | .ok value =>
      match setInSection fields o.sectionName o.key value with
      | .error e => (.error e, [])
      | .ok fields =>
        (.ok fields, [.config .debug s!"{o.sectionName}.{o.key} overridden by {o.name}"])

/-- The table after a list of environment variables, up to the first one that cannot be used. -/
def applyOverrides (env : Environment) :
    List Override → List (String × Value) → Except Error (List (String × Value)) × List LogEntry
  | [], fields => (.ok fields, [])
  | o :: os, fields =>
    match applyOverride env o fields with
    | (.error e, log) => (.error e, log)
    | (.ok fields, log) =>
      let (result, more) := applyOverrides env os fields
      (result, log ++ more)

/-! ### Files -/

/-- The values that take the place of a file that is not there. -/
def builtIn : List (String × Value) := [
  ("polling", .table [
    ("poll_interval", .double Polling.standard.interval),
    ("timeout", .double Polling.standard.timeout)]),
  ("logging", .table [
    ("level", .text "INFO"),
    ("log_file", .text "logs/sip-test-util.log"),
    ("redact_credentials", .bool true)])]

/-- The file that is read when none is named. -/
def standardPath : PathName := .ofText "config/config.json"

/-- A text with every line end read as a line feed. -/
def plainLineEnds : List Char → List Char
  | '\r' :: '\n' :: cs => '\n' :: plainLineEnds cs
  | '\r' :: cs => '\n' :: plainLineEnds cs
  | c :: cs => c :: plainLineEnds cs
  | [] => []

/-- The table in the content of a configuration file. -/
def parseFile (nesting : Nat) (path : PathName) (content : List UInt8) :
    Except Error (List (String × Value)) :=
  match Text.Utf8.decode? content with
  | none => .error (.undecodable path)
  | some cs =>
    match Json.read nesting (plainLineEnds cs) with
    | .ok (.table fields) => .ok fields
    | .ok _ => .error (.notAnObject path)
    | .error (.refused r) => .error (.refused path r)
    | .error (.integerTooLong digits) => .error (.integerTooLong digits)
    | .error (.nestedTooDeep object) => .error (.nestedTooDeep object)

/-- The table of a configuration file, or the built-in one if it is not there, and what is
logged. -/
def readFile (nesting : Nat) (files : Files) (path : PathName) :
    Except Error (List (String × Value)) × List LogEntry :=
  match files.exists? path with
  | .error fault => (.error (.unreachable fault), [])
  | .ok false => (.ok builtIn, [.config .info s!"No config file at {path.text}, using defaults"])
  | .ok true =>
    match files.read path with
    | .error fault => (.error (.unreadable path fault), [])
    | .ok content =>
      match parseFile nesting path content with
      | .error e => (.error e, [])
      | .ok fields => (.ok fields, [.config .info s!"Loaded configuration from {path.text}"])

/-- What the loading relies on: how deep lists and objects in a file may be nested, and the
validator. -/
structure Loader where
  nesting : Nat
  validator : Validator

/-- The loader of the command line and the test bench. -/
def Loader.standard : Loader := ⟨970, .lax⟩

/-- The configuration in a table of values that comes from a path and the environment. -/
def Loader.check (loader : Loader) (path : PathName) (fields : List (String × Value)) :
    Except Error Config :=
  match Config.check loader.validator fields with
  | .ok config => .ok config
  | .error issues => .error (.invalid path issues (loader.validator.report issues))

/-- The effective configuration, or why there is none, and what is logged on the way. -/
def load (loader : Loader) (files : Files) (env : Environment) (path : PathName) :
    Except Error Config × List LogEntry :=
  match readFile loader.nesting files path with
  | (.error e, log) => (.error e, log)
  | (.ok fields, log) =>
    match applyOverrides env overrides fields with
    | (.error e, more) => (.error e, log ++ more)
    | (.ok fields, more) => (loader.check path fields, log ++ more)

end SipBench.Config
