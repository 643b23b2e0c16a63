import SipBench.CommandLine.Basic
import SipBench.Log.Desk

/-!
# Carrying out a command line run

A run says what is to be logged and how the log is to be set up.  Carried out in order, this changes
the files and writes to the console; a set-up that fails ends the run before its output.

* `CommandEvent.carryOut` : one set-up or log entry
* `CommandResult.carryOut` : how a run ends
-/

namespace SipBench

/-- How a run ends: what it returns to the system, what it writes and the files afterwards. -/
structure CommandEnding where
  exit : Nat
  stdout : String
  stderr : String
  files : Files

/-- The answer to an event, with the desk and the files after it; `file` is the log file of the
environment. -/
def CommandEvent.carryOut (file : Option String) (state : Desk × Files) :
    CommandEvent → Except Fault Unit × Desk × Files
  | .logged entry => (.ok (), state.1.emit Files.access state.2 entry.raw)
  | .setUp settings =>
    state.1.configure Files.access state.2
      { level := settings.level.name, file := some settings.file, redact := settings.redact } file

/-- The desk and the files after some events, and the fault that came before the rest of them. -/
def carryOutAll (file : Option String) (state : Desk × Files) :
    List CommandEvent → (Desk × Files) × Option Fault
  | [] => (state, none)
  | event :: events =>
    match event.carryOut file state with
    | (.ok (), state) => carryOutAll file state events
    | (.error fault, state) => (state, some fault)

/-- The wording of a fault that nothing deals with. -/
def faultLine (fault : Fault) : String := s!"{fault.kind.name}: {fault.message}\n"

/-- How a run ends whose events are carried out. -/
def CommandResult.carryOut (context : CommandContext) (r : CommandResult) : CommandEnding :=
  let file := context.environment.lookup "SIP_TEST_LOG_FILE"
  let ((desk, files), failed) := carryOutAll file ({}, context.files) r.events
  match failed with
  | some fault => { exit := 1, stdout := "", stderr := desk.console ++ faultLine fault, files }
  | none =>
    { exit := r.exit, files
      stdout := r.stdout
      stderr := desk.console ++ r.stderr ++ ((r.uncaught.map faultLine).getD "") }

end SipBench
