import SipBench.Bench.Step
import SipBench.CommandLine.Basic
import SipBench.Log.Desk
import SipBench.Timeline

/-!
# The bench

The state that the steps of a test script share, what a step answers and how it changes the state.
A step that fails keeps the changes it has made until then.

* `Bench` : the shared state
* `Reply`, `Outcome` : what a step answers
* `Act` : a change of the bench with a result or a fault
-/

namespace SipBench

/-! ### Answers -/

/-- What is known about a status code. -/
structure StatusReport where
  phrase : String
  name : Option String
  /-- The class of a number, and whether it is provisional or final. -/
  kind : Option (Number × Bool × Bool)

/-- A log entry as it was let through: the name of its level, its logger and its text. -/
structure LogLine where
  level : String
  logger : String
  message : String

/-- The result of a step. -/
inductive Reply where
  | nothing
  | truth (b : Bool)
  | count (n : Int)
  | text (s : String)
  | texts (items : List String)
  | value (v : Value)
  | message (m : Message)
  | item (i : Item)
  | headers (found : List Header)
  | cseq (c : CSeq)
  | record (r : EventRecord)
  | status (report : StatusReport)
  | statusTable (codes : List StatusCode)
  | listener (l : Listener)
  | transaction (t : Transaction)
  | snapshot (messages : List Message)
  | calls (count : Nat) (value : Option Value)
  | polling (pair : Polling Double)
  | config (c : Config)
  | commandLine (r : CommandResult)
  | logger (name : String) (level : Nat)
  | desk (d : Desk)
  | audited (lines : List LogLine)
  | logged (lines : List LogLine)
  | diagnosis (d : Diagnosis)
  | timeout (fault : Fault)

namespace Reply

/-- The result as a value; what has a structure of its own is a table that holds its kind. -/
def asValue : Reply → Value
  | nothing => .none
  | value v => v
  | truth b => .bool b
  | count n => .int n
  | text s => .text s
  | texts items => .list (items.map .text)
  | calls n none => .table [("calls", .int n)]
  | calls n (some v) => .table [("calls", .int n), ("value", v)]
  | message m => .table [("kind", .text m.kindName)]
  | _ => .table [("kind", .text "report")]

end Reply

/-- The answer to a step.  A step that waits also tells the time afterwards, how long it slept, how
often a script was called and the answers to the steps that were due meanwhile. -/
inductive Outcome where
  | plain (result : Except Fault Reply)
  | waited (result : Except Fault Reply) (clock : Number) (sleeps : List Number)
      (calls : Option Nat) (delivered : List Outcome)

/-- The result in an answer. -/
def Outcome.result : Outcome → Except Fault Reply
  | plain result | waited result .. => result

/-! ### State -/

/-- The state that the steps of a script share. -/
structure Bench where
  messages : List (String × Message) := []
  listeners : List (String × Listener) := []
  handles : List (String × Transaction) := []
  snapshots : List (String × List Message) := []
  polling : Polling Double := .standard
  files : Files
  environment : Config.Environment := []
  desk : Desk := {}
  /-- What the loggers of the library have let through, the last line first. -/
  lines : List LogLine := []
  /-- How long the awaits have slept, the last sleep first. -/
  slept : List Number := []
  /-- The answers to the scheduled steps that have run, the last one first. -/
  delivered : List Outcome := []

/-- What a growing list, whose last item comes first, has got since it had `size` items. -/
def gained {α : Type} (items : List α) (size : Nat) : List α :=
  (items.take (items.length - size)).reverse

/-- The list with a value under a key, in place of an earlier one. -/
def assign {α : Type} (entries : List (String × α)) (key : String) (value : α) :
    List (String × α) :=
  (key, value) :: entries.filter (·.1 != key)

namespace Bench

/-- The line of an entry, unless its logger is none of the library or does not let it through. -/
def lineOf? (b : Bench) (e : RawEntry) : Option LogLine :=
  if Desk.isOwn e.logger && (b.desk.effectiveLevel e.logger : Int) ≤ e.level then
    match Template.fill e.text e.values with
    | .ok message => some ⟨Level.nameOfNumber e.level, e.logger, message⟩
    | .error _ => none
  else none

/-- The bench after an entry has been logged. -/
def logRaw (b : Bench) (e : RawEntry) : Bench :=
  let (desk, files) := b.desk.emit Files.access b.files e
  { b with desk, files, lines := (b.lineOf? e).toList ++ b.lines }

/-- The bench after some entries of the library have been logged. -/
def logAll (b : Bench) (entries : List LogEntry) : Bench :=
  entries.foldl (fun b e => b.logRaw e.raw) b

end Bench

/-- A change of the bench with a result; a fault keeps the changes made until then. -/
abbrev Act := ExceptT Fault (StateM Bench)

namespace Act

/-- Logs some entries. -/
def log (entries : List LogEntry) : Act Unit := modify fun b => b.logAll entries

/-- What is found under a name. -/
def named {α : Type} (entries : Bench → List (String × α)) (name : String) : Act α := do
  match (entries (← get)).lookup name with
  | some found => return found
  | none => throw (.raised .missingKey (.text name))

/-- The listener with a name. -/
def listener (id : String) : Act Listener := named (·.listeners) id

/-- The transaction handle with a name. -/
def handle (id : String) : Act Transaction := named (·.handles) id

/-- Puts a listener under a name. -/
def putListener (id : String) (l : Listener) : Act Unit :=
  modify fun b => { b with listeners := assign b.listeners id l }

/-- Puts a transaction handle under a name. -/
def putHandle (id : String) (t : Transaction) : Act Unit :=
  modify fun b => { b with handles := assign b.handles id t }

/-- The item that a description of a message stands for. -/
def item (spec : MessageSpec) : Act Item := do spec.build (← get).messages

/-- The message that a description stands for; what is no message lacks the attribute asked for. -/
def message (spec : MessageSpec) (asked : String) : Act Message := do
  match ← item spec with
  | .message m => return m
  | .other v => throw (.missingAttribute v.typeName asked)

end Act

end SipBench
