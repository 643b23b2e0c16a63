import SipBench.Audit
import SipBench.Await.Basic

/-!
# What an await reports

The notes of an await as log entries: its beginning and its failed evaluations among those of the
await engine, and its outcome as one entry of the audit trail.  The description of an await is taken
to be a text, or another value that can be shown.
-/

namespace SipBench.Await

/-- A duration as a field of the audit trail. -/
def durationField (duration : Number) : String × Value := ("duration", .number duration)

/-- The fields that every outcome has. -/
def outcomeFields (status : String) (what : Value) (duration : Number) (attempts : Nat) :
    Audit.Fields :=
  [("status", .text status), ("description", what), durationField duration,
    ("attempts", .int attempts)]

/-- The fields that tell why an await ended. -/
def diagnosisFields (d : Diagnosis) : Audit.Fields :=
  [("error_message", .text (d.kind ++ ": " ++ d.message)), ("category", .text d.category)] ++
    (d.details.map fun text => ("technical_details", Value.text text)).toList

namespace Note

/-- The log entry for a note of an await on `what`. -/
def entry (what : Value) : Note Number → LogEntry
  | begun polling =>
    let interval := Fault.secondsText polling.interval
    let timeout := Fault.secondsText polling.timeout
    .await .debug s!"Awaiting '{what.shown}' (poll_interval={interval}s, timeout={timeout}s)"
  | notYet attempt fault =>
    .await .debug s!"'{what.shown}' not yet satisfied (attempt {attempt}): {fault.message}"
  | satisfied duration attempts =>
    Audit.entry "AWAIT_SATISFIED" (outcomeFields "success" what duration attempts)
  | timedOut duration attempts =>
    Audit.entry "AWAIT_TIMEOUT" (outcomeFields "failure" what duration attempts)
  | failed duration attempts fault =>
    Audit.entry "AWAIT_FATAL_ERROR"
      (outcomeFields "failure" what duration attempts ++ diagnosisFields fault.diagnosis)

end Note

/-- The result of an await on `what` with the given timeout. -/
def Ending.result {α : Type} (what : Value) (limit : Number) : Ending Number α → Except Fault α
  | satisfied value => .ok value
  | failed fault => .error fault
  | timedOut elapsed attempts last => .error (.timeout what limit elapsed (.int attempts) last)
  | unfinished => .error .stalled

end SipBench.Await
