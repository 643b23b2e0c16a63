import SipBench.Await.Supply
import SipBench.Bench.Listeners
import SipBench.Bench.Logs

/-!
# Running a script

A session is a bench on a timeline: its clock stands still but for the sleeps of the awaits and the
time that scripted calls take, and scheduled steps run as soon as the clock has reached their time.
Awaits may run inside conditions and scheduled steps to any depth up to a limit.

* `Step.run` : the answer to a step
* `Session.runAll` : the answers to the steps of a script
-/

namespace SipBench

/-- A bench on a timeline of steps. -/
abbrev Session := Timeline Number Step Bench

/-- How a step is run inside another one. -/
abbrev Runner := Step → Session → Outcome × Session

namespace Session

/-- A session at its beginning, over an empty directory; `levels` are those that the test has set for
single loggers. -/
def fresh (base : String) (levels : List (String × Nat)) : Session :=
  { now := .real (.zero false), state := { files := { base }, desk := { levels } } }

/-- The session with another bench. -/
def withBench (s : Session) (f : Bench → Bench) : Session := { s with state := f s.state }

/-- Runs a change of the bench. -/
def act {α : Type} (change : Act α) (s : Session) : Except Fault α × Session :=
  let (result, state) := change.run.run s.state
  (result, { s with state })

/-! ### Time -/

/-- The most steps that one stretch of time may run beside those that were scheduled before it:
steps that run meanwhile may schedule others. -/
def maxAdded : Nat := 1000000

/-- Runs a scheduled step and keeps its answer. -/
def deliver (run : Runner) (step : Step) (s : Session) : Session :=
  let (outcome, s) := run step s
  s.withBench fun b => { b with delivered := outcome :: b.delivered }

/-- The session as the world of an await on `what`, beside a count of calls. -/
def world (run : Runner) (what : Value) : Await.World (Nat × Session) Number :=
  (Timeline.world (deliver run) maxAdded (fun duration b => { b with slept := duration :: b.slept })
    (fun note b => b.logAll [note.entry what])).beside Nat

/-! ### Scripted calls -/

/-- The call of a script with a number; the last call is repeated. -/
def callAt? (script : List Call) (n : Nat) : Option Call := (script[n]?).or script.getLast?

/-- The result of an action of a script. -/
def perform (run : Runner) (s : Session) : Action → Except Fault Reply × Session
  | .give v => (.ok (.value v), s)
  | .throw spec =>
    match spec.build with
    | .ok fault | .error fault => (.error fault, s)
  | .run step =>
    let (outcome, s) := run step s
    (outcome.result, s)

/-- The result of a call of a script, which takes its time first. -/
def play (run : Runner) (script : List Call) (n : Nat) (s : Session) :
    Except Fault Reply × Session :=
  match callAt? script n with
  | none => (.ok .nothing, s)
  | some (.mk takes action) =>
    match takes with
    | some (.number duration) => perform run (s.spend (deliver run) maxAdded duration) action
    | _ => perform run s action

/-! ### Awaits -/

/-- The next call of something that is called again and again; the calls are counted. -/
def counted (call : Nat → Session → Except Fault Reply × Session) :
    Nat × Session → Except Fault Reply × (Nat × Session) :=
  fun (calls, s) =>
    let (result, s) := call calls s
    (result, (calls + 1, s))

/-- The next call of a script. -/
def callNext (run : Runner) (script : List Call) :
    Nat × Session → Except Fault Reply × (Nat × Session) :=
  counted (play run script)

/-- The value that the next call of a script gives. -/
def supply (run : Runner) (script : List Call) :
    Nat × Session → Except Fault Value × (Nat × Session) :=
  fun s =>
    let (result, s) := callNext run script s
    (result.map Reply.asValue, s)

/-- Waits until a condition holds.  Gives the result, the number of scripted calls and the
session. -/
def waitFor {α : Type} (run : Runner) (what : Value) (options : AwaitOptions)
    (condition : Await.Condition (Nat × Session) α) (s : Session) :
    Except Fault α × Nat × Session :=
  Await.call (world run what) Polling.budget s.state.polling options.interval options.timeout what
    condition (0, s)

/-- The answer of a step that has led from one session to another. -/
def waited (before after : Session) (calls : Option Nat) (result : Except Fault Reply) :
    Outcome × Session :=
  (.waited result after.now (gained after.state.slept before.state.slept.length) calls
    (gained after.state.delivered before.state.delivered.length), after)

/-- The description given for an await, or else the one made from its parts. -/
def describe (options : AwaitOptions) (standard : String) : Value :=
  if options.description.truthy then options.description else .text standard

/-- The description given for an await on a value, or else the one made from its parts, which may
fail. -/
def describeValue (options : AwaitOptions) (name : String) (expected : Option Value)
    (matcher : Option Matcher) : Except Fault Value :=
  if options.description.truthy then .ok options.description
  else (Target.text expected matcher).map fun text => .text (name ++ " " ++ text)

/-- Waits until a listener has reached a goal. -/
def awaitGoal (run : Runner) (goal : Goal) (target : Option String) (options : AwaitOptions)
    (s : Session) : Outcome × Session :=
  match target.bind fun id => s.state.listeners.lookup id, target with
  | some l, some id =>
    match goal.text l.name with
    | .error fault => waited s s none (.error fault)
    | .ok what =>
      let condition := goal.condition fun (_, s) => (s.state.listeners.lookup id).getD l
      let (result, _, after) := waitFor run (.text what) options condition s
      waited s after none (result.map fun _ => .nothing)
  | _, _ => waited s s none (.error (.check none (.nothing goal.targetName)))

/-- A disposal of a stack, and an entry of the audit trail if it has not failed. -/
def dispose (typeName : String) (call : Nat → Session → Except Fault Reply × Session) (calls : Nat)
    (s : Session) : Except Fault Reply × Session :=
  match call calls s with
  | (.ok reply, s) =>
    let fields := [("status", .text "success"), ("stack", .text typeName)]
    (.ok reply, s.withBench fun b => b.logAll [Audit.entry "STACK_DISPOSED" fields])
  | (.error fault, s) => (.error fault, s)

/-- How the disposal of a stack is described. -/
def disposalText (typeName : String) : Value := .text s!"{typeName}.dispose() completes"

/-- Waits until a stack is disposed of; `call` is what each call of its disposal does.  A disposal
that fails is retried only if its fault allows it. -/
def awaitDisposed (run : Runner) (typeName : String)
    (call : Nat → Session → Except Fault Reply × Session) (options : AwaitOptions) (s : Session) :
    Outcome × Session :=
  let condition := .judged (·.map fun _ => some ()) (counted (dispose typeName call))
  let (result, calls, after) := waitFor run (disposalText typeName) options condition s
  waited s after (some calls) (result.map fun _ => .nothing)

/-- Waits until a stack that plays a script is disposed of. -/
def awaitDisposal (run : Runner) (stack : Option StackActor) (options : AwaitOptions)
    (s : Session) : Outcome × Session :=
  match stack with
  | none => waited s s none (.error (.check none (.nothing "SIP stack")))
  | some (.mk typeName script) => awaitDisposed run typeName (play run script) options s

/-- Waits until a scripted condition holds: until it gives anything but false. -/
def awaitCondition (run : Runner) (actor : Actor) (options : AwaitOptions) (s : Session) :
    Outcome × Session :=
  let ⟨name, script⟩ := actor
  let condition := Await.Condition.ofCall (supply run script)
  let (result, calls, after) := waitFor run (describe options name) options condition s
  waited s after (some calls) (result.map fun _ => .calls calls none)

/-- Waits until a script gives a value that is expected or that the matcher accepts. -/
def awaitValue (run : Runner) (actor : Actor) (expected : Option Value) (matcher : Option Matcher)
    (options : AwaitOptions) (s : Session) : Outcome × Session :=
  let ⟨name, script⟩ := actor
  let what := describeValue options name expected matcher
  let (result, calls, after) := Await.callValue (world run) Polling.budget s.state.polling
    options.interval options.timeout what (.ofValue _) (supply run script) expected
    (matcher.map fun m v s => (m.answer v, s)) (0, s)
  waited s after (some calls) (result.map fun v => .calls calls (some v))

/-! ### Other steps -/

/-- The time of a step that is to be scheduled. -/
def scheduled (time : Value) (step : Step) (s : Session) : Outcome × Session :=
  match time with
  | .number n =>
    match n.toDouble? with
    | some x => (.plain (.ok .nothing), s.schedule (.real x) step)
    | none => (.plain (.error .tooLarge), s)
  | v => (.plain (.error (.wrongType s!"must be real number, not {v.typeName}")), s)

/-- The answer of a step that only changes the bench. -/
def plainly (change : Act Reply) (s : Session) : Outcome × Session :=
  let (result, s) := act change s
  (.plain result, s)

/-- The check of a listener with a name. -/
def checkListener (check : ListenerCheck) (target : Option String) (label : Value) : Act Reply := do
  check.run (← target.mapM Act.listener) (labelOf label)
  return .nothing

/-- The check of a message. -/
def checkMessage (check : MessageCheck) (target : MessageSpec) (label : Value) : Act Reply := do
  check.run (← Act.item target) (labelOf label)
  return .nothing

/-- The report on a fault. -/
def report (spec : FaultSpec) (make : Fault → Reply) : Act Reply := do
  return make (← spec.build)

end Session

/-- How deep steps may be nested. -/
def Step.maxDepth : Nat := 1000

/-- The answer to a step, at most `depth` steps deep. -/
def Step.runWithin : (depth : Nat) → Step → Session → Outcome × Session
  | 0, _, s => (.plain (.error .nestedTooDeep), s)
  | depth + 1, step, s =>
    let run : Runner := Step.runWithin depth
    match step with
    | .message step save => Session.plainly (step.runSaving save) s
    | .ask question source => Session.plainly (question.run source) s
    | .listener id step => Session.plainly (step.run id) s
    | .showSnapshot id =>
      Session.plainly (do return .snapshot (← Act.named (·.snapshots) id)) s
    | .transaction id step => Session.plainly (step.run id) s
    | .setting step => Session.plainly step.run s
    | .log step => Session.plainly step.run s
    | .diagnose fault => Session.plainly (Session.report fault fun f => .diagnosis f.diagnosis) s
    | .showTimeout fault => Session.plainly (Session.report fault .timeout) s
    | .checkListener check target label =>
      Session.plainly (Session.checkListener check target label) s
    | .checkMessage check target label =>
      Session.plainly (Session.checkMessage check target label) s
    | .awaitGoal goal target options => Session.awaitGoal run goal target options s
    | .awaitDisposal stack options => Session.awaitDisposal run stack options s
    | .await actor options => Session.awaitCondition run actor options s
    | .awaitValue actor expected matcher options =>
      Session.awaitValue run actor expected matcher options s
    | .schedule time step => Session.scheduled time step s
    | .misuse fault => (.plain (.error fault), s)

/-- The answer to a step. -/
def Step.run (step : Step) (s : Session) : Outcome × Session := Step.runWithin Step.maxDepth step s

/-- The answers to the steps of a script, each with what was logged meanwhile. -/
def Session.runAll : List Step → Session → List (Outcome × List LogLine)
  | [], _ => []
  | step :: steps, s =>
    let (outcome, after) := step.run s
    (outcome, gained after.state.lines s.state.lines.length) :: runAll steps after

end SipBench
