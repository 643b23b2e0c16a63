import SipBench.Config.Error
import SipBench.Config.Validation

/-!
# Polling defaults

The polling pair that an await takes where it is given none.  It is replaced as a whole: a pair that
cannot be used leaves the one in force.

* `setPolling`, `applyPolling` : the pair that a change asks for
* `PollingChange.perform`, `pollingAfter` : the defaults after one change and after several
-/

namespace SipBench.Config

/-- The value that a change gives to a field: the current one where none is given. -/
def keptUnless (given : Value) (current : Double) : Value :=
  if given.isNone then .double current else given

variable (v : Validator)

/-- The polling defaults with the given values in place of the current ones. -/
def setPolling (current : Polling Double) (interval timeout : Value) :
    Except Error (Polling Double) :=
  match pollingPair v [
      ("poll_interval", keptUnless interval current.interval),
      ("timeout", keptUnless timeout current.timeout)] with
  | .ok pair => .ok pair
  | .error issues => .error (.invalidDefaults issues (v.report issues))

/-- What is logged about new polling defaults. -/
def pollingEntry (pair : Polling Double) : LogEntry :=
  .config .debug
    s!"Polling defaults: poll_interval={pair.interval.fixed 3}s timeout={pair.timeout.fixed 3}s"

/-- The polling defaults of a configuration, put in place of the current ones. -/
def applyPolling (current : Polling Double) (config : Config) : Except Error (Polling Double) :=
  setPolling v current (.double config.polling.interval) (.double config.polling.timeout)

/-- A change of the polling defaults. -/
inductive PollingChange where
  /-- Puts the given values in place of the current ones. -/
  | set (interval timeout : Value)
  /-- Takes over the pair of a configuration. -/
  | apply (config : Config)
  /-- Returns to the built-in pair. -/
  | reset

/-- The pair that a change asks for, or why it cannot be used. -/
def PollingChange.asked (current : Polling Double) : PollingChange → Except Error (Polling Double)
  | set interval timeout => setPolling v current interval timeout
  | apply config => applyPolling v current config
  | reset => .ok .standard

/-- The answer to a change, and the defaults after it, which a failure leaves as they are. -/
def PollingChange.perform (current : Polling Double) (change : PollingChange) :
    Except Error (Polling Double) × Polling Double :=
  match change.asked v current with
  | .ok pair => (.ok pair, pair)
  | .error e => (.error e, current)

/-- The polling defaults after some changes. -/
def pollingAfter (current : Polling Double) (changes : List PollingChange) : Polling Double :=
  changes.foldl (fun current change => (change.perform v current).2) current

end SipBench.Config
