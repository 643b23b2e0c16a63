import SipBench.CommandLine.Options
import SipBench.Config.Defaults
import SipBench.Config.Load
import SipBench.Fault.Basic
import SipBench.StatusCode

/-!
# The command line

The commands look up a reason phrase, check a configuration file, show the effective configuration
and tell the version.  Before a command runs, the configuration is loaded, the log is set up and the
polling defaults are replaced; words that belong to the command are looked at only after that.

* `CommandLine.run` : the exit status, the output and everything that the run asks for
-/

namespace SipBench

/-- What a command line run finds: files, environment and polling defaults. -/
structure CommandContext where
  files : Files
  environment : Config.Environment
  polling : Polling Double

/-- What a run does besides writing its output. -/
inductive CommandEvent where
  | logged (entry : LogEntry)
  /-- The log is to be set up. -/
  | setUp (settings : LogSettings)

/-- What a command line run leaves behind. -/
structure CommandResult where
  exit : Nat
  stdout : String := ""
  stderr : String := ""
  events : List CommandEvent := []
  /-- The polling defaults afterwards. -/
  polling : Polling Double
  /-- The fault that ended the run, if it was not dealt with. -/
  uncaught : Option Fault := none

namespace CommandResult

/-- The set-ups of the log that a run asks for. -/
def setups (r : CommandResult) : List LogSettings :=
  r.events.filterMap fun
    | .setUp settings => some settings
    | .logged _ => none

/-- The log entries of a run. -/
def log (r : CommandResult) : List LogEntry :=
  r.events.filterMap fun
    | .logged entry => some entry
    | .setUp _ => none

/-- The result of a run that does some things first. -/
def after (events : List CommandEvent) (r : CommandResult) : CommandResult :=
  { r with events := events ++ r.events }

end CommandResult

namespace CommandLine

/-- The version of the program. -/
def version : String := "0.1.0"

/-! ### Words -/

/-- Why no command is run. -/
inductive Stop where
  /-- The words cannot be understood. -/
  | usage
  /-- Help was asked for. -/
  | help
  /-- The version was asked for. -/
  | version

/-- The option that every command knows. -/
def helpOption : OptionSpec := ⟨"--help", false⟩

/-- The options in front of the command. -/
def globalOptions : List OptionSpec := [
  ⟨"--version", false⟩, ⟨"--config", true⟩, ⟨"--verbose", false⟩, ⟨"--log-file", true⟩, helpOption]

/-- The options that stop the run as soon as they are read, the first given one before all
others. -/
def stopOf? (given : List GivenOption) : Option Stop :=
  given.findSome? fun o =>
    if o.name == "--version" then some .version
    else if o.name == "--help" then some .help
    else none

/-- The path of a file or directory that must be there.  A path that ends in a slash leads to a
directory. -/
def existingPath (files : Files) (text : String) : Except Stop PathName :=
  let path := PathName.ofText text
  let last := (Text.splitAt '/' text.toList).getLast?
  let wantsDirectory := last == some [] || last == some ['.']
  match files.exists? path with
  | .ok true =>
    if text.isEmpty || (wantsDirectory && !files.isDirectory path) then .error .usage else .ok path
  | _ => .error .usage

/-- The commands by their first word. -/
inductive Group where
  | config
  | reason
  | version

/-- The command with a name. -/
def Group.ofName? : String → Option Group
  | "config" => some .config
  | "reason" => some .reason
  | "version" => some .version
  | _ => none

/-- What stands in front of the words of the command itself. -/
structure Invocation where
  config : Option PathName
  verbose : Bool
  logFile : Option PathName
  group : Group
  words : List String

/-- The invocation that the words of a command line make up. -/
def Invocation.parse (files : Files) (words : List String) : Except Stop Invocation := do
  let some (given, words) := scanOptions globalOptions false words | throw .usage
  if let some stop := stopOf? given then throw stop
  let config ← (valueOf? given "--config").mapM (existingPath files)
  let name :: words := words | throw .usage
  let some group := Group.ofName? name | throw .usage
  return {
    config, group, words
    verbose := isGiven given "--verbose"
    logFile := (valueOf? given "--log-file").map .ofText }

/-- A command with its arguments. -/
inductive Command where
  | validate (file : PathName)
  | showConfig
  | reason (code : Int)
  | version

/-- The words of a command that takes them in any order with its options. -/
def plainWords (words : List String) : Except Stop (List String) := do
  let some (given, words) := scanOptions [helpOption] true words | throw .usage
  if let some stop := stopOf? given then throw stop
  return words

/-- The command that the words behind a group name make up. -/
def Command.parse (files : Files) (group : Group) (words : List String) : Except Stop Command :=
  match group with
  | .reason => do
    let [code] ← plainWords words | throw .usage
    let some code := Text.readInteger? code | throw .usage
    return .reason code
  | .version => do
    let [] ← plainWords words | throw .usage
    return .version
  | .config => do
    let some (given, words) := scanOptions [helpOption] false words | throw .usage
    if let some stop := stopOf? given then throw stop
    match words with
    | "validate" :: words =>
      let [file] ← plainWords words | throw .usage
      return .validate (← existingPath files file)
    | "show" :: words =>
      let [] ← plainWords words | throw .usage
      return .showConfig
    | _ => throw .usage

/-! ### Output -/

/-- A truth value as it is shown. -/
def flagText (b : Bool) : String := (Number.flag b).text

/-- The lines that show a configuration. -/
def configText (c : Config) : String :=
  "\nPolling:\n" ++ s!"  Poll interval: {c.polling.interval.text}s\n" ++
  s!"  Timeout:       {c.polling.timeout.text}s\n" ++ "\nLogging:\n" ++
  s!"  Level:         {c.logging.level.name}\n" ++ s!"  Log file:      {c.logging.file.text}\n" ++
  s!"  Redact creds:  {flagText c.logging.redact}\n"

/-- What a command leaves behind, in the context that the loaded configuration has made. -/
def Command.run (context : CommandContext) (config : Config) (command : Command) : CommandResult :=
  let polling := context.polling
  match command with
  | .version => { exit := 0, polling, stdout := s!"sip-test-util version {CommandLine.version}\n" }
  | .showConfig => { exit := 0, polling, stdout := configText config }
  | .reason code =>
    match StatusCode.find? (.int code) with
    | some s => { exit := 0, polling, stdout := s!"{code} {s.phrase} ({s.name})\n" }
    | none => { exit := 1, polling, stderr := s!"{code}: unknown status code\n" }
  | .validate file =>
    match Config.load .standard context.files context.environment file with
    | (.ok found, log) =>
      let heading := s!"✓ Configuration is valid\n\nConfiguration file: {file.text}\n"
      { exit := 0, polling, events := log.map .logged, stdout := heading ++ configText found }
    | (.error e, log) =>
      if e.isReported then
        { exit := 1, polling, events := log.map .logged
          stdout := "✗ Configuration validation failed\n", stderr := s!"\n{e.message}\n" }
      else
        { exit := 1, polling, events := log.map .logged
          uncaught := some (.configuration e) }

/-- What a run that stops early leaves behind. -/
def Stop.result (polling : Polling Double) : Stop → CommandResult
  | .usage => { exit := 2, polling }
  | .help => { exit := 0, polling }
  | .version => { exit := 0, polling, stdout := s!"sip-test-util, version {CommandLine.version}\n" }

/-- The set-up of the log that an invocation asks for: its own options win over the
configuration. -/
def Invocation.setup (i : Invocation) (config : Config) : LogSettings :=
  { level := if i.verbose then .debug else config.logging.level
    file := i.logFile.getD config.logging.file
    redact := config.logging.redact }

/-- What a run leaves behind whose configuration cannot be loaded. -/
def refused (polling : Polling Double) (e : Config.Error) : CommandResult :=
  if e.isReported then
    { exit := 1, polling, stderr := s!"Error loading configuration: {e.message}\n" }
  else { exit := 1, polling, uncaught := some (.configuration e) }

/-- The run of an invocation whose configuration is loaded. -/
def Invocation.proceed (i : Invocation) (context : CommandContext) (config : Config) :
    CommandResult :=
  let setup := .setUp (i.setup config)
  match Config.applyPolling .lax context.polling config with
  | .error e =>
    { exit := 1, polling := context.polling, events := [setup]
      uncaught := some (.configuration e) }
  | .ok polling =>
    let result := match Command.parse context.files i.group i.words with
      | .error stop => stop.result polling
      | .ok command => command.run { context with polling } config
    result.after [setup, .logged (Config.pollingEntry polling)]

/-- The run of a command line. -/
def run (context : CommandContext) (words : List String) : CommandResult :=
  match Invocation.parse context.files words with
  | .error stop => stop.result context.polling
  | .ok i =>
    let (loaded, log) :=
      Config.load .standard context.files context.environment
        (i.config.getD Config.standardPath)
    let result := match loaded with
      | .error e => refused context.polling e
      | .ok config => i.proceed context config
    result.after (log.map .logged)

end CommandLine

end SipBench
