import SipBench.Config.Validator
import SipBench.Log.Entry
import SipBench.Polling

/-!
# Checking a configuration

A configuration is read from a table of values with two sections.  Missing fields take their
defaults, unknown ones are ignored, and every field that cannot be used is an issue.  What a value
stands for is up to a validator; the bounds, the level names and the proportion of a polling pair
are checked here.

* `Polling.check` : a polling pair from two values
* `Logging.check` : the logging settings from three values
* `Config.check` : the whole configuration
-/

namespace SipBench

/-- Where and how a test run is logged. -/
structure LogSettings where
  level : Level
  file : PathName
  redact : Bool

/-- A checked configuration. -/
structure Config where
  polling : Polling Double
  logging : LogSettings

namespace Config

variable (v : Validator)

/-! ### Single values -/

/-- A finite number of seconds for which `fits` holds. -/
def finiteSeconds (fits : Number → Bool) (otherwise : Flaw) (value : Value) : Except Flaw Double :=
  match v.number value with
  | .error flaw => .error flaw
  | .ok x =>
    if !x.isFinite then .error v.notFinite
    else if fits (.real x) then .ok x
    else .error otherwise

/-- A number of seconds above zero. -/
def interval (value : Value) : Except Flaw Double :=
  finiteSeconds v (Number.less (.whole 0)) v.notPositive value

/-- A number of seconds from zero on. -/
def timeout (value : Value) : Except Flaw Double :=
  finiteSeconds v (Number.atMost (.whole 0)) v.negative value

/-- The name of a level. -/
def level (value : Value) : Except Flaw Level :=
  match v.text value with
  | .error flaw => .error flaw
  | .ok name =>
    match Level.ofName? name with
    | some l => .ok l
    | none => .error (v.refused s!"Invalid log level: {name}. Expected one of: {Level.names}")

/-! ### Fields and sections -/

/-- The value of a field under a check; a missing field takes its default. -/
def field {α : Type} (fields : List (String × Value)) (name : String) (standard : α)
    (check : Value → Except Flaw α) : Checked α :=
  match fields.lookup name with
  | none => .ok standard
  | some v =>
    match check v with
    | .ok x => .ok x
    | .error flaw => .error [⟨[name], flaw⟩]

/-- A polling pair, whose interval must not exceed a timeout other than zero. -/
def pollingPair (fields : List (String × Value)) : Checked (Polling Double) :=
  let standard := Polling.standard
  match both (field fields "poll_interval" standard.interval (interval v))
      (field fields "timeout" standard.timeout (timeout v)) with
  | .error issues => .error issues
  | .ok (interval, timeout) =>
    if !(Number.real timeout).same (.whole 0) && (Number.real timeout).less (.real interval) then
      .error [⟨[], v.refused (s!"poll_interval ({interval.text}) cannot be greater than timeout " ++
        s!"({timeout.text}). Fix: Set poll_interval <= timeout.")⟩]
    else .ok ⟨interval, timeout⟩

/-- The settings that hold where the configuration has none. -/
def standardLogging : LogSettings :=
  ⟨.info, .ofText "logs/sip-test-util.log", true⟩

/-- The logging settings. -/
def logSettings (fields : List (String × Value)) : Checked LogSettings :=
  let standard := standardLogging
  match both (field fields "level" standard.level (level v))
      (both (field fields "log_file" standard.file v.path)
        (field fields "redact_credentials" standard.redact v.flag)) with
  | .error issues => .error issues
  | .ok (level, file, redact) => .ok ⟨level, file, redact⟩

/-- A section under a check of its fields; a missing section has none. -/
def sectionOf {α : Type} (fields : List (String × Value)) (name kind : String)
    (check : List (String × Value) → Checked α) : Checked α :=
  let checked := match fields.lookup name with
    | none => check []
    | some (.table inner) => check inner
    | some _ => .error [⟨[], v.notSection kind⟩]
  match checked with
  | .ok x => .ok x
  | .error issues => .error (issues.map (·.within name))

/-- The configuration in a table of values, or everything that is wrong with it. -/
def check (fields : List (String × Value)) : Checked Config :=
  match both (sectionOf v fields "polling" "PollingConfig" (pollingPair v))
      (sectionOf v fields "logging" "LoggingConfig" (logSettings v)) with
  | .error issues => .error issues
  | .ok (polling, logging) => .ok ⟨polling, logging⟩

end Config

end SipBench
