import SipBench.Bench.Basic

/-!
# Steps on settings

* `SettingStep.run` : a step on the configuration, the files and the environment
-/

namespace SipBench

namespace Act

/-- A file operation that failed as a fault of its kind. -/
def fileFault (f : FileFault) : Fault := .raised (.named f.problem.name) (.text f.message)

/-- The outcome of a file operation. -/
def files (change : Files → Except FileFault Unit × Files) : Act Unit := do
  let (answer, files) := change (← get).files
  modify fun b => { b with files }
  answer.mapError fileFault

/-- The effective configuration, whose loading is logged. -/
def config (path : Option String) : Act Config := do
  let b ← get
  let path := (path.map PathName.ofText).getD Config.standardPath
  let (loaded, log) := Config.load .standard b.files b.environment path
  Act.log log
  loaded.mapError Fault.configuration

/-- Changes the polling defaults. -/
def changePolling (change : Config.PollingChange) : Act (Polling Double) := do
  let (answer, polling) := change.perform .lax (← get).polling
  modify fun b => { b with polling }
  answer.mapError Fault.configuration

/-- Changes the polling defaults, which is logged. -/
def installPolling (change : Config.PollingChange) : Act Reply := do
  let polling ← changePolling change
  Act.log [Config.pollingEntry polling]
  return .polling polling

end Act

namespace SettingStep

/-- The answer to a step on settings. -/
def run : SettingStep → Act Reply
  | pollingGet => return .polling (← get).polling
  | pollingSet interval timeout => Act.installPolling (.set interval timeout)
  | pollingReset => return .polling (← Act.changePolling .reset)
  | pollingApply path => do
    let config ← Act.config path
    Act.installPolling (.apply config)
  | load path => return .config (← Act.config path)
  | write path content => do
    Act.files (·.write (.ofText path) content)
    return .nothing
  | makeDirectory path => do
    Act.files (·.makeDirectories (.ofText path))
    return .nothing
  | setVariable name value => do
    modify fun b => { b with environment := assign b.environment name value }
    return .nothing
  | commandLine words => do
    let b ← get
    let result := CommandLine.run ⟨b.files, b.environment, b.polling⟩ words
    modify fun b => { b with polling := result.polling }
    Act.log result.log
    return .commandLine result

end SettingStep

end SipBench
