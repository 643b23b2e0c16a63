import SipBench.CommandLine.Session

/-!
# The program

Finds out what stands at the paths that a command line names, runs it, and writes what the run has
written and changed.
-/

namespace SipBench

/-- The node that stands at a path, if there is one that can be read. -/
def nodeAt (path : String) : IO (Option Node) := do
  match ← (IO.FS.readBinFile path).toBaseIO with
  | .ok content => return some (.file content.toList)
  | .error _ => return if ← isDirectoryAt path then some .directory else none
where
  /-- Whether a directory stands at a path. -/
  isDirectoryAt (path : String) : IO Bool := do ((← IO.currentDir) / path).isDir

/-- Adds to the files what stands at a path and at the directories above it. -/
def survey (files : Files) (path : PathName) : IO Files := do
  let mut files := files
  unless path.root.isEmpty do files := files.put [path.root] .directory
  for depth in [1 : path.names.length + 1] do
    let part := { path with names := path.names.take depth }
    if let .ok location := files.locate part then
      if let some node ← nodeAt part.text then files := files.put location node
  return files

/-- The path names that the words of a command line may hold, also behind an equals sign. -/
def pathsIn (words : List String) : List PathName :=
  words.flatMap fun word =>
    [PathName.ofText word, PathName.ofText (((CommandLine.splitWord word).2).getD "")]

/-- The environment variables that settings are taken from. -/
def environment : IO Config.Environment :=
  Config.overrides.filterMapM fun o => do return (← IO.getEnv o.name).map (o.name, ·)

/-- Writes a node that is not what it was before. -/
def writeNode (before : Files) (location : Location) (node : Node) : IO Unit := do
  let path := match location with
    | first :: rest =>
      if isRoot first then first ++ "/".intercalate rest else "/".intercalate location
    | [] => "."
  match node, before.at? location with
  | .directory, none => IO.FS.createDirAll path
  | .file content, some (.file old) =>
    if content != old then IO.FS.writeBinFile path ⟨content.toArray⟩
  | .file content, _ => IO.FS.writeBinFile path ⟨content.toArray⟩
  | .directory, some _ => return

end SipBench

open SipBench in
/-- Runs the program. -/
def main (words : List String) : IO UInt32 := do
  let files : Files := { base := toString (← IO.currentDir) }
  let files ← (Config.standardPath :: pathsIn words).foldlM survey files
  let context : CommandContext := { files, environment := ← environment, polling := .standard }
  let result := CommandLine.run context words
  let files ← (result.setups.map (·.file)).foldlM survey files
  let ending := result.carryOut { context with files }
  for (location, node) in ending.files.nodes do writeNode files location node
  IO.print ending.stdout
  IO.eprint ending.stderr
  return ending.exit.toUInt32
