import SipBench.Bench.Settings

/-!
# Steps on the log

* `LogStep.run` : a step on log entries, the audit trail and the set-up of the log
-/

namespace SipBench.LogStep

/-- Runs an action and gives what the loggers of the library have let through meanwhile. -/
def linesOf (act : Act Unit) : Act (List LogLine) := do
  let before := (← get).lines.length
  act
  return gained (← get).lines before

/-- Details in which a later value of a field replaces an earlier one. -/
def detailsOf (details : List (String × Value)) : Audit.Fields :=
  details.foldl (fun fields d => Json.setField fields d.1 d.2) []

/-- Sets up the log. -/
def install (request : LogRequest) : Act Reply := do
  let b ← get
  let (answer, desk, files) :=
    b.desk.configure Files.access b.files request (b.environment.lookup "SIP_TEST_LOG_FILE")
  modify fun b => { b with desk, files }
  answer
  return .nothing

/-- The text of a log file without the ends of its lines being told apart. -/
def readText (content : List UInt8) : String :=
  String.ofList (Config.plainLineEnds (Text.Utf8.decodeLossy content))

/-- The answer to a step on the log. -/
def run : LogStep → Act Reply
  | format template redact entry => do
    return .text (← (← LogFormat.of? template redact).write entry)
  | audit event details => do
    let details := detailsOf details
    match Audit.refusal? details with
    | some fault => throw fault
    | none => return .audited (← linesOf (Act.log [Audit.entry event details]))
  | messageEvent direction summary raw =>
    return .logged (← linesOf (Act.log (Audit.messageEntries direction summary raw)))
  | configure level file redact => do
    match level with
    | .text level => install { level, file := file.map .ofText, redact }
    | v => throw (.missingAttribute v.typeName "upper")
  | configureFrom path => do
    let settings := (← Act.config path).logging
    install { level := settings.level.name, file := some settings.file, redact := settings.redact }
  | log entry => do
    modify fun b => b.logRaw entry
    return .nothing
  | operationLogger operation => do
    let name ← Desk.operationLogger operation
    return .logger name ((← get).desk.ownLevel name)
  | setOperationLevel operation level => do
    let (desk, entry) ← (← get).desk.setOperationLevel operation level
    modify fun b => { b with desk }
    Act.log [entry]
    return .count (((Level.ofName? level).map (·.number)).getD 0)
  | addHandler => do
    modify fun b => { b with desk := b.desk.addHandler Desk.nullHandler }
    return .nothing
  | handlers => return .desk (← get).desk
  | readLog path => do
    match (← get).files.read (.ofText path) with
    | .ok content => return .text (readText content)
    | .error _ => return .nothing
  | console => return .text (← get).desk.console

end SipBench.LogStep
