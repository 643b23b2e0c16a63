import SipBench.Fault.Basic
import SipBench.Log.Entry

/-!
# The audit trail

An audit entry is one line of fields, with a few leading fields in a fixed order and all others in
the order in which they were given.  Every entry has a correlation id.

* `Audit.line` : the line of an entry
* `Audit.refusal?` : why an entry cannot be written
* `Audit.entry` : the log entry for it, an error if its status is a failure
* `Audit.messageEntries` : what is logged about a message that passes a listener
-/

namespace SipBench.Audit

/-- The fields of an audit entry. -/
abbrev Fields := List (String × Value)

/-- The leading fields. -/
def leading : List String :=
  ["status", "description", "duration", "attempts", "error_message", "correlation_id"]

/-- The fields with a correlation id, one being made up if there is none. -/
def withCorrelation (fields : Fields) : Fields :=
  if (fields.lookup "correlation_id").isSome then fields
  else fields ++ [("correlation_id", .text "ID")]

/-- A field as it is written; a duration that is a number is written in seconds with three
places. -/
def fieldText (name : String) (value : Value) : String :=
  match name, value with
  | "duration", .number n => s!"duration={n.toDouble.fixed 3}s"
  | name, value => s!"{name}={value.shown}"

/-- Why a field cannot be written, if it cannot. -/
def fieldFault? (name : String) (value : Value) : Option Fault :=
  match name, value with
  | "duration", .number n => if n.toDouble?.isNone then some .tooLarge else none
  | _, value => if value.isWritable then none else some .tooManyDigits

/-- The fields that are written, the leading ones first; the time of the entry is not. -/
def written (fields : Fields) : Fields :=
  (leading.filterMap fun name => (fields.lookup name).map (name, ·)) ++
    fields.filter fun f => !leading.contains f.1 && f.1 != "timestamp"

/-- The line of an entry. -/
def line (event : String) (fields : Fields) : String :=
  " | ".intercalate (s!"AUDIT [{event}]" ::
    (written (withCorrelation fields)).map fun f => fieldText f.1 f.2)

/-- Why an entry cannot be written, if it cannot: its first field that cannot be is the reason. -/
def refusal? (fields : Fields) : Option Fault :=
  (written fields).findSome? fun f => fieldFault? f.1 f.2

/-- Whether the status of an entry is a failure. -/
def isFailure (fields : Fields) : Bool :=
  match fields.lookup "status" with
  | some status => status.same (.text "failure")
  | none => false

/-- The log entry for an event. -/
def entry (event : String) (fields : Fields) : LogEntry :=
  .audit (if isFailure fields then .error else .info) (line event fields)

/-- What is logged about a message: its summary and, if it is given, its text. -/
def messageEntries (direction summary : String) (raw : String) : List LogEntry :=
  let direction := Text.uppered direction
  .audit .debug s!"MESSAGE [{direction}] | {summary}" ::
    if raw.isEmpty then [] else [.audit .debug s!"MESSAGE BODY [{direction}]\n{raw}"]

end SipBench.Audit
