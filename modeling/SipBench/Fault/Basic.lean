import SipBench.Config.Error
import SipBench.Fault.Cause
import SipBench.Fault.Kind
import SipBench.Message.ParseError

/-!
# Faults

Everything that can go wrong in a test run, as the cause that a reader of the test report needs.  An
await treats a fault in one of three ways: a failed check or a condition that does not hold yet is
tried again, an interruption passes through, and any other fault ends the await.

* `Fault.message` : the wording of a fault
* `Fault.severity` : how an await treats it
* `Diagnosis` : a fault as it is described in the audit trail
* `Value.write` : a value as it is shown, if it can be
-/

namespace SipBench

/-- What went wrong. -/
inductive Fault where
  | parse (error : ParseError)
  | configuration (error : Config.Error)
  | polling (error : PollingError)
  | transaction (error : TransactionError)
  /-- A failed check, with the label that the test gave it. -/
  | check (label : Option String) (failure : CheckFailure)
  /-- An await saw a value that it does not accept; holds the value as it is shown. -/
  | notAccepted (shown : String)
  /-- An await ended without its condition having held. -/
  | timeout (what : Value) (limit elapsed : Number) (attempts : Value) (last : Option Fault)
  | misuse (misuse : Misuse)
  /-- A value of a kind that cannot be used. -/
  | wrongType (text : String)
  /-- Something was asked of a value that it does not have. -/
  | missingAttribute (typeName name : String)
  /-- A number beyond the doubles where a double is needed. -/
  | tooLarge
  /-- A whole number has too many digits to be shown. -/
  | tooManyDigits
  /-- The directory of a log file cannot be made. -/
  | logDirectory (path : String) (fault : FileFault)
  /-- An await went on although its clock did not. -/
  | stalled
  /-- Steps within steps beyond the limit. -/
  | nestedTooDeep
  /-- A fault that a test program raises by itself. -/
  | raised (kind : FaultKind) (args : Arguments)
  /-- A fault with another one behind it. -/
  | because (fault cause : Fault)

namespace Fault

/-- The kind of a failure of the configuration. -/
def configurationKind : Config.Error → FaultKind
  | .sectionNotTable _ => .wrongType
  | .undecodable _ => .undecodable
  | .integerTooLong _ => .badValue
  | .nestedTooDeep _ => .recursion
  | .unreachable f => .named f.problem.name
  | _ => .configuration

/-- The kind of a fault. -/
def kind : Fault → FaultKind
  | parse _ => .messageParse
  | configuration e => configurationKind e
  | polling _ => .configuration
  | transaction _ => .transactionState
  | check .. => .sipAssertion
  | notAccepted _ => .conditionNotMet
  | timeout .. => .awaitTimeout
  | misuse _ => .badValue
  | wrongType _ => .wrongType
  | missingAttribute .. => .missingAttribute
  | tooLarge => .overflow
  | tooManyDigits => .badValue
  | logDirectory .. => .runtime
  | stalled => .runtime
  | nestedTooDeep => .recursion
  | raised k _ => k
  | because f _ => f.kind

/-- The wording of a fault that a test program raises: several arguments are shown in round
brackets, and the argument of a missing key is quoted. -/
def raisedMessage (kind : FaultKind) (args : Arguments) : String :=
  match kind.origin, args.values with
  | _, [] => ""
  | .missingKey, [arg] => arg.quoted
  | _, [arg] => arg.shown
  | _, args => Value.quotedTuple args

/-- A number of seconds with three places. -/
def secondsText (n : Number) : String := n.toDouble.fixed 3

/-- The wording of a fault. -/
def message : Fault → String
  | parse e => e.message
  | configuration e => e.message
  | polling e => e.message
  | transaction e => e.message
  | check label failure =>
    match label with
    | some text => text ++ ": " ++ failure.message
    | none => failure.message
  | notAccepted shown => s!"last value was {shown}"
  | timeout what limit elapsed attempts last =>
    s!"Condition '{what.shown}' was not fulfilled within {secondsText limit}s " ++
      s!"(waited {secondsText elapsed}s, {attempts.shown} attempts)" ++
      match last with
      | none => ""
      | some f => if f.message.isEmpty then "" else ". Last failure: " ++ f.message
  | misuse m => m.message
  | wrongType text => text
  | missingAttribute typeName name => s!"'{typeName}' object has no attribute '{name}'"
  | tooLarge => "int too large to convert to float"
  | tooManyDigits =>
    s!"Exceeds the limit ({Text.maxDigits} digits) for integer string conversion; " ++
      "use sys.set_int_max_str_digits() to increase the limit"
  | logDirectory path fault => s!"Cannot create log directory {path}: {fault.message}"
  | stalled => "the clock does not move on"
  | nestedTooDeep => "maximum recursion depth exceeded"
  | raised kind args => raisedMessage kind args
  | because f _ => f.message

/-- The kind and the wording of what is behind a fault. -/
def cause? : Fault → Option (String × String)
  | parse e => e.reason?.map fun r => (FaultKind.badValue.name, r.message)
  | configuration (.invalidSeconds _ value) =>
    some (FaultKind.badValue.name, s!"could not convert string to float: {Text.quote value}")
  | configuration (.refused _ r) => some ("JSONDecodeError", r.message)
  | configuration (.unreadable _ f) => some (f.problem.name, f.message)
  | configuration (.invalid _ _ report) | configuration (.invalidDefaults _ report) =>
    some ("ValidationError", report)
  | logDirectory _ f => some (f.problem.name, f.message)
  | because _ cause => some (cause.kind.name, cause.message)
  | _ => none

/-! ### Treatment by an await -/

/-- How an await treats a fault. -/
inductive Severity where
  /-- Something does not hold yet. -/
  | retry
  /-- A defect or a failure from outside. -/
  | fatal
  /-- The run is to be interrupted. -/
  | interruption
  deriving DecidableEq

/-- How an await treats a fault. -/
def severity (f : Fault) : Severity :=
  if f.kind.isRetryable then .retry
  else if f.kind.isInterruption then .interruption
  else .fatal

end Fault

/-- A fault as it is described in the audit trail. -/
structure Diagnosis where
  category : String
  kind : String
  message : String
  retryable : Bool
  details : Option String

/-- The description of a fault. -/
def Fault.diagnosis (f : Fault) : Diagnosis :=
  { category := if f.kind.isRetryable then "TRANSIENT" else "CRITICAL"
    kind := f.kind.name
    message := f.message
    retryable := f.kind.isRetryable
    details := f.cause?.map fun (kind, message) => s!"Caused by: {kind}: {message}" }

/-- The fault of an await that does not accept a value, unless the value cannot be shown. -/
def Fault.refusal : Except Fault String → Fault
  | .ok shown => .notAccepted shown
  | .error fault => fault

namespace Value

/-- The value as it is shown by itself, if it can be. -/
def write (v : Value) : Except Fault String :=
  if v.isWritable then .ok v.shown else .error .tooManyDigits

/-- The value as it is shown inside a message, if it can be. -/
def writeQuoted (v : Value) : Except Fault String :=
  if v.isWritable then .ok v.quoted else .error .tooManyDigits

end Value

end SipBench
