/-!
# Kinds of faults

The name under which a fault is reported.  Two groups of kinds matter to an await: those that say
that something does not hold yet, and those that interrupt the run instead of failing it.  A test
program may derive kinds of its own, which belong to the group of the kind they are derived from.
-/

namespace SipBench

/-- The kind of a fault. -/
inductive FaultKind where
  | library
  | configuration
  | messageParse
  | transactionState
  | conditionNotMet
  | sipAssertion
  | awaitTimeout
  | assertion
  | badValue
  | wrongType
  | missingAttribute
  | missingKey
  | overflow
  | undecodable
  | recursion
  | runtime
  | system
  | keyboardInterrupt
  | exit
  | named (name : String)
  /-- A kind that a test program derives from another one. -/
  | derived (name : String) (base : FaultKind)
  deriving DecidableEq

namespace FaultKind

/-- The kinds that have a constructor of their own, with their names. -/
def known : List (FaultKind × String) := [
  (library, "SipTestUtilError"), (configuration, "ConfigurationError"),
  (messageParse, "MessageParseError"), (transactionState, "TransactionStateError"),
  (conditionNotMet, "ConditionNotMet"), (sipAssertion, "SipAssertionError"),
  (awaitTimeout, "AwaitTimeoutError"), (assertion, "AssertionError"), (badValue, "ValueError"),
  (wrongType, "TypeError"), (missingAttribute, "AttributeError"), (missingKey, "KeyError"),
  (overflow, "OverflowError"), (undecodable, "UnicodeDecodeError"), (recursion, "RecursionError"),
  (runtime, "RuntimeError"), (system, "OSError"), (keyboardInterrupt, "KeyboardInterrupt"),
  (exit, "SystemExit")]

/-- The name of a kind. -/
def name : FaultKind → String
  | named n | derived n _ => n
  | kind => (known.lookup kind).getD ""

/-- The kind with a name. -/
def ofName (n : String) : FaultKind :=
  match known.find? (·.2 == n) with
  | some (kind, _) => kind
  | none => named n

/-- The kind that a kind is derived from in the end. -/
def origin : FaultKind → FaultKind
  | derived _ base => base.origin
  | kind => kind

/-- The kinds that interrupt a run and are no failures of it, with all that is derived from them. -/
def isInterruption (kind : FaultKind) : Bool :=
  [keyboardInterrupt, exit, named "GeneratorExit", named "BaseException"].contains kind.origin

/-- The kinds that say that something does not hold yet, with all that is derived from them. -/
def isRetryable (kind : FaultKind) : Bool :=
  [assertion, sipAssertion, awaitTimeout, conditionNotMet].contains kind.origin

end FaultKind

end SipBench
