import SipBench.Files
import SipBench.Log.Template
import SipBench.Text.Utf8

/-!
# The log desk

Where log entries go.  An entry is dropped if it is less urgent than the effective level of its
logger; otherwise every handler takes it that is not set to a higher level.  Setting up the log
replaces the handlers of an earlier set-up, and with them all that were added since, by a console
handler and, if the file can be opened, a file handler.

* `Desk.configure` : sets up the log
* `Desk.effectiveLevel` : the least urgency that a logger lets through
* `Desk.setOperationLevel` : the level of one area of the library
-/

namespace SipBench

/-- What a handler does with an entry. -/
inductive HandlerKind where
  /-- Writes it to the console. -/
  | console
  /-- Appends it to a file. -/
  | file (location : Location)
  /-- Leaves the log alone: a handler of other code, of a type with this name. -/
  | foreign (typeName : String)
  deriving DecidableEq

namespace HandlerKind

/-- The name of the kind of handler. -/
def typeName : HandlerKind → String
  | console => "StreamHandler"
  | file _ => "RotatingFileHandler"
  | foreign name => name

end HandlerKind

/-- A taker of log entries. -/
structure Handler where
  kind : HandlerKind
  level : Nat := 0
  redact : Bool := true
  deriving DecidableEq

/-- The areas of the library whose levels can be set. -/
def operationLoggers : List (String × String) := [
  ("store", "sip_test_util.store"), ("await", "sip_test_util.await"),
  ("transaction", "sip_test_util.transaction")]

/-- The logger above all others of the library. -/
def libraryLogger : String := "sip_test_util"

/-- The loggers of a test run: their levels and the handlers that take what they let through. -/
structure Desk where
  rootLevel : Nat := 30
  handlers : List Handler := []
  /-- The handlers that the last set-up has put in place. -/
  installed : List Handler := []
  /-- The levels of single loggers. -/
  levels : List (String × Nat) := []
  /-- What the console handlers have written. -/
  console : String := ""

/-- What is asked of a set-up: the level of the console, the log file and whether to mask
credentials. -/
structure LogRequest where
  level : String := "INFO"
  file : Option PathName := none
  redact : Bool := true

namespace Desk

/-! ### Levels -/

/-- The level with a name. -/
def levelNamed (name : String) : Except Fault Level :=
  match Level.ofName? name with
  | some level => .ok level
  | none => .error (.misuse (.unknownLevel name Level.names))

/-- The logger of an area of the library. -/
def operationLogger (operation : String) : Except Fault String :=
  match operationLoggers.lookup operation with
  | some logger => .ok logger
  | none => .error (.misuse (.unknownOperation operation (operationLoggers.map (·.1))))

/-- The level that a logger has of its own; zero if it has none. -/
def ownLevel (d : Desk) (logger : String) : Nat := (d.levels.lookup logger).getD 0

/-- The least urgency that passes a logger whose name has the given parts, in reverse: its own level
or else that of the nearest logger above it. -/
def levelAbove (d : Desk) : List (List Char) → Nat
  | [] => d.rootLevel
  | part :: parts =>
    let name := String.ofList (List.intercalate ['.'] (part :: parts).reverse)
    if d.ownLevel name = 0 then levelAbove d parts else d.ownLevel name

/-- The least urgency that passes a logger. -/
def effectiveLevel (d : Desk) (logger : String) : Nat :=
  d.levelAbove (Text.splitAt '.' logger.toList).reverse

/-- Whether a logger belongs to the library. -/
def isOwn (logger : String) : Bool :=
  (Text.splitAt '.' logger.toList).head? == some libraryLogger.toList

/-- Sets the level of an area of the library, and tells what is logged about it. -/
def setOperationLevel (d : Desk) (operation level : String) : Except Fault (Desk × LogEntry) := do
  let logger ← operationLogger operation
  let level ← levelNamed level
  let others := d.levels.filter (·.1 != logger)
  return ({ d with levels := others ++ [(logger, level.number)] },
    .setup .debug s!"{logger} level set to {level.name}")

/-! ### Handlers -/

variable {φ : Type} (access : FileAccess φ)

/-- A handler that takes all entries and drops them. -/
def nullHandler : Handler := { kind := .foreign "NullHandler" }

/-- Adds a handler of other code, which is not there yet. -/
def addHandler (d : Desk) (h : Handler) : Desk := { d with handlers := d.handlers ++ [h] }

/-- How entries are written, but for the time. -/
def lineTemplate : String := "%(name)s - %(levelname)s - %(message)s"

/-- The line that a handler writes for an entry; an entry that cannot be written is dropped. -/
def lineFor (h : Handler) (e : RawEntry) : String :=
  match LogFormat.write { template := lineTemplate, redact := h.redact } e with
  | .ok line => line ++ "\n"
  | .error _ => ""

/-- Hands an entry to one handler. -/
def handle (e : RawEntry) (state : Desk × φ) (h : Handler) : Desk × φ :=
  let (d, files) := state
  if e.level < h.level then state
  else match h.kind with
    | .console => ({ d with console := d.console ++ lineFor h e }, files)
    | .file location => (d, access.append location (Text.Utf8.encode (lineFor h e).toList) files)
    | .foreign _ => state

/-- Hands an entry to all handlers, unless its logger does not let it through. -/
def emit (d : Desk) (files : φ) (e : RawEntry) : Desk × φ :=
  if e.level < d.effectiveLevel e.logger then (d, files)
  else d.handlers.foldl (handle access e) (d, files)

/-! ### Set-up -/

/-- The log file that is used when neither the set-up nor the environment names one. -/
def standardFile : PathName := .ofText "logs/sip-test-util.log"

/-- The log file of a set-up: the one asked for, or the one of the environment, or the standard
one. -/
def fileOf (asked : Option PathName) (environment : Option String) : PathName :=
  match asked, environment with
  | some path, _ => path
  | none, some text => if text.isEmpty then standardFile else .ofText text
  | none, none => standardFile

/-- Begins a set-up.  The handlers of an earlier one go, together with all others that are there by
then; before the first set-up the others stay.  That those which go are closed as well is left
out. -/
def begin (d : Desk) : Desk :=
  { d with
    rootLevel := Level.debug.number
    handlers := if d.installed.isEmpty then d.handlers else []
    installed := [] }

/-- Puts a handler of a set-up in place. -/
def install (d : Desk) (h : Handler) : Desk :=
  { d with handlers := d.handlers ++ [h], installed := d.installed ++ [h] }

/-- The console handler of a set-up. -/
def consoleHandler (level : Level) (redact : Bool) : Handler := ⟨.console, level.number, redact⟩

/-- The file handler of a set-up, which takes everything. -/
def fileHandler (path : PathName) (redact : Bool) : Handler :=
  ⟨.file (Files.logLocation path), Level.debug.number, redact⟩

/-- What is logged when a log file cannot be opened. -/
def cannotOpen (path : PathName) (fault : FileFault) : RawEntry :=
  { logger := "root", level := Level.warning.number
    text := s!"Cannot open log file {path.text} ({fault.message}); console logging only" }

/-- Sets up the log.  A level that does not exist and a directory that cannot be made leave the desk
as it is; without a file the console alone is used. -/
def configure (d : Desk) (files : φ) (request : LogRequest) (environment : Option String) :
    Except Fault Unit × Desk × φ :=
  match levelNamed request.level with
  | .error fault => (.error fault, d, files)
  | .ok level =>
    let path := fileOf request.file environment
    match access.makeDirectories path.parent files with
    | (.error fault, files) => (.error (.logDirectory path.parent.text fault), d, files)
    | (.ok (), files) =>
      let d := d.begin.install (consoleHandler level request.redact)
      match access.openLog path files with
      | (.ok (), files) => (.ok (), d.install (fileHandler path request.redact), files)
      | (.error fault, files) => (.ok (), d.emit access files (cannotOpen path fault))

end Desk

end SipBench
