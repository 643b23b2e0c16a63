import SipBench.Text.Case

/-!
# Log entries

The levels of a log and the entries written to it.  A level is named in any letter case.
-/

namespace SipBench

/-- How urgent a log entry is. -/
inductive Level where
  | debug
  | info
  | warning
  | error
  | critical
  deriving DecidableEq, Inhabited

namespace Level

/-- The levels by rising urgency. -/
def all : List Level := [debug, info, warning, error, critical]

/-- The number by which urgencies are compared. -/
def number : Level → Nat
  | debug => 10
  | info => 20
  | warning => 30
  | error => 40
  | critical => 50

/-- The name that is written. -/
def name : Level → String
  | debug => "DEBUG"
  | info => "INFO"
  | warning => "WARNING"
  | error => "ERROR"
  | critical => "CRITICAL"

/-- The level with a name, in any letter case. -/
def ofName? (s : String) : Option Level := all.find? (·.name == Text.uppered s)

/-- The names of all levels. -/
def names : String := ", ".intercalate (all.map name)

/-- The name for an urgency that need not be that of a level. -/
def nameOfNumber (n : Int) : String :=
  match all.find? fun l => (l.number : Int) == n with
  | some l => l.name
  | none => if n = 0 then "NOTSET" else s!"Level {n}"

end Level

/-- An entry that is written to a log. -/
structure LogEntry where
  level : Level
  logger : String
  message : String

namespace LogEntry

/-- An entry of the configuration. -/
def config (level : Level) (message : String) : LogEntry :=
  ⟨level, "sip_test_util.config.manager", message⟩

/-- An entry of the message stores. -/
def store (level : Level) (message : String) : LogEntry := ⟨level, "sip_test_util.store", message⟩

/-- An entry of the transaction handles. -/
def transaction (level : Level) (message : String) : LogEntry :=
  ⟨level, "sip_test_util.transaction", message⟩

/-- An entry of the await engine. -/
def await (level : Level) (message : String) : LogEntry := ⟨level, "sip_test_util.await", message⟩

/-- An entry of the audit trail. -/
def audit (level : Level) (message : String) : LogEntry :=
  ⟨level, "sip_test_util.logging_audit.audit", message⟩

/-- An entry of the logging set-up. -/
def setup (level : Level) (message : String) : LogEntry :=
  ⟨level, "sip_test_util.logging_audit.logger", message⟩

end LogEntry

end SipBench
