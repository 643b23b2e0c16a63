import SipBench.PathName
import SipBench.Text.Quoted

/-!
# Files

The files below the working directory, as far as a test run reads and writes them.

* `Files.find`, `Files.read` : look-up, with the reason why there is nothing to be had
* `Files.makeDirectories`, `Files.write`, `Files.openLog`, `Files.append` : changes
* `FileAccess` : what a log needs of files, whatever they are
-/

namespace SipBench

/-- Why a path name leads to nothing usable. -/
inductive FileProblem where
  | missing
  | alreadyThere
  | notADirectory
  | isADirectory
  | nameTooLong
  /-- Any other refusal of the operating system. -/
  | refused (number : Nat) (words kind : String)
  deriving DecidableEq

namespace FileProblem

/-- The number and the words of the operating system. -/
def description : FileProblem → String
  | missing => "[Errno 2] No such file or directory"
  | alreadyThere => "[Errno 17] File exists"
  | notADirectory => "[Errno 20] Not a directory"
  | isADirectory => "[Errno 21] Is a directory"
  | nameTooLong => "[Errno 36] File name too long"
  | refused number words _ => s!"[Errno {number}] {words}"

/-- The name of the kind of problem. -/
def name : FileProblem → String
  | missing => "FileNotFoundError"
  | alreadyThere => "FileExistsError"
  | notADirectory => "NotADirectoryError"
  | isADirectory => "IsADirectoryError"
  | nameTooLong => "OSError"
  | refused _ _ kind => kind

end FileProblem

/-- A file operation that failed: why, and on which path. -/
structure FileFault where
  problem : FileProblem
  path : String

/-- The wording of a failed file operation. -/
def FileFault.message (f : FileFault) : String :=
  f.problem.description ++ ": " ++ Text.quote f.path

/-- What a name stands for. -/
inductive Node where
  | directory
  | file (content : List UInt8)

/-- The names from the working directory down to a node; an absolute location begins with its
root. -/
abbrev Location := List String

/-- Whether a name is that of a root and not of something in a directory. -/
def isRoot (name : String) : Bool := name == "/" || name == "//"

/-- The files below the working directory, whose own path is `base`. -/
structure Files where
  base : String
  nodes : List (Location × Node) := []

namespace Files

/-- The node at a location; the working directory is always there. -/
def at? (files : Files) : Location → Option Node
  | [] => some .directory
  | location => files.nodes.lookup location

/-- The files with a node put at a location. -/
def put (files : Files) (location : Location) (node : Node) : Files :=
  if (files.nodes.lookup location).isSome then
    { files with
      nodes := files.nodes.map fun entry =>
        if entry.1 == location then (location, node) else entry }
  else { files with nodes := files.nodes ++ [(location, node)] }

/-- The most octets that a name may have. -/
def maxNameSize : Nat := 255

/-- Follows `names` from the directory at `location`, given in reverse, to where the last of them
leads; only that last name need not exist. -/
def follow (files : Files) (location : Location) : List String → Except FileProblem Location
  | [] => .ok location.reverse
  | name :: rest =>
    match files.at? location.reverse with
    | none => .error .missing
    | some (.file _) => .error .notADirectory
    | some .directory =>
      if maxNameSize < name.utf8ByteSize then .error .nameTooLong
      else if name == ".." then
        match location with
        | [] => .error .missing
        | here :: up => follow files (if isRoot here then location else up) rest
      else follow files (name :: location) rest

/-- Where a path name leads. -/
def locate (files : Files) (p : PathName) : Except FileProblem Location :=
  if p.root.isEmpty then follow files [] p.names
  else if (files.at? [p.root]).isSome then follow files [p.root] p.names
  else .error .missing

/-- The node that a path name leads to. -/
def find (files : Files) (p : PathName) : Except FileProblem Node :=
  match files.locate p with
  | .error problem => .error problem
  | .ok location =>
    match files.at? location with
    | some node => .ok node
    | none => .error .missing

/-- Whether a path name leads anywhere; a name that is too long is a failure. -/
def exists? (files : Files) (p : PathName) : Except FileFault Bool :=
  match files.find p with
  | .ok _ => .ok true
  | .error .nameTooLong => .error ⟨.nameTooLong, p.text⟩
  | .error _ => .ok false

/-- Whether a path name leads to a directory. -/
def isDirectory (files : Files) (p : PathName) : Bool :=
  match files.find p with
  | .ok .directory => true
  | _ => false

/-- The content of a file. -/
def read (files : Files) (p : PathName) : Except FileFault (List UInt8) :=
  match files.find p with
  | .ok (.file content) => .ok content
  | .ok .directory => .error ⟨.isADirectory, p.text⟩
  | .error problem => .error ⟨problem, p.text⟩

/-- Makes one directory, whose parent must be there. -/
def makeDirectory (files : Files) (p : PathName) : Except FileFault Files :=
  match files.locate p with
  | .error problem => .error ⟨problem, p.text⟩
  | .ok location =>
    match files.at? location with
    | some _ => .error ⟨.alreadyThere, p.text⟩
    | none => .ok (files.put location .directory)

/-- Makes a directory, unless it is there already. -/
def ensureDirectory (files : Files) (p : PathName) : Except FileFault Files :=
  match files.makeDirectory p with
  | .ok files => .ok files
  | .error fault => if files.isDirectory p then .ok files else .error fault

/-- The outcome of a change that leaves everything as it is where it fails. -/
def settled (files : Files) : Except FileFault Files → Except FileFault Unit × Files
  | .ok after => (.ok (), after)
  | .error fault => (.error fault, files)

/-- Makes a directory and, as far as they are missing, the `depth` directories above it.  What has
been made before a failure stays. -/
def ensureDirectories (files : Files) (p : PathName) :
    (depth : Nat) → Except FileFault Unit × Files
  | 0 => files.settled (files.ensureDirectory p)
  | depth + 1 =>
    match files.makeDirectory p with
    | .error ⟨.missing, _⟩ =>
      match ensureDirectories files p.parent depth with
      | (.ok (), files) => files.settled (files.ensureDirectory p)
      | (.error fault, files) => (.error fault, files)
    | _ => files.settled (files.ensureDirectory p)

/-- Makes a directory and all that are missing above it. -/
def makeDirectories (files : Files) (p : PathName) : Except FileFault Unit × Files :=
  files.ensureDirectories p p.names.length

/-- The path name without parent directories, which are taken back name by name. -/
def plainPath (p : PathName) : PathName :=
  let step (up : List String) (name : String) := if name == ".." then up.drop 1 else name :: up
  { p with names := (p.names.foldl step []).reverse }

/-- The absolute path that a path name spells out. -/
def absolute (files : Files) (p : PathName) : String :=
  if p.root.isEmpty then "/".intercalate (files.base :: p.names) else p.text

/-- The location of a log file, which does not depend on the files that are there. -/
def logLocation (p : PathName) : Location :=
  let path := plainPath p
  if path.root.isEmpty then path.names else path.root :: path.names

/-- Opens a log file for appending; a missing file is created empty. -/
def openLog (files : Files) (p : PathName) : Except FileFault Unit × Files :=
  let path := plainPath p
  match files.locate path with
  | .error problem => (.error ⟨problem, files.absolute path⟩, files)
  | .ok location =>
    match files.at? location with
    | some .directory => (.error ⟨.isADirectory, files.absolute path⟩, files)
    | some (.file _) => (.ok (), files)
    | none => (.ok (), files.put location (.file []))

/-- Adds octets at the end of a file. -/
def append (files : Files) (location : Location) (octets : List UInt8) : Files :=
  match files.at? location with
  | some (.file content) => files.put location (.file (content ++ octets))
  | _ => files

/-- Writes a file, making the directories above it. -/
def write (files : Files) (p : PathName) (content : List UInt8) :
    Except FileFault Unit × Files :=
  match files.makeDirectories p.parent with
  | (.error fault, files) => (.error fault, files)
  | (.ok (), files) =>
    match files.locate p with
    | .error problem => (.error ⟨problem, p.text⟩, files)
    | .ok location =>
      match files.at? location with
      | some .directory => (.error ⟨.isADirectory, p.text⟩, files)
      | _ => (.ok (), files.put location (.file content))

end Files

/-- What a log needs of files, whose state is a `φ`.  A request that fails may change them too. -/
structure FileAccess (φ : Type) where
  /-- Makes a directory and all that are missing above it. -/
  makeDirectories : PathName → φ → Except FileFault Unit × φ
  /-- Opens a file for appending. -/
  openLog : PathName → φ → Except FileFault Unit × φ
  /-- Adds octets at the end of a file. -/
  append : Location → List UInt8 → φ → φ

/-- The files below the working directory. -/
def Files.access : FileAccess Files where
  makeDirectories p files := files.makeDirectories p
  openLog p files := files.openLog p
  append location octets files := files.append location octets

end SipBench
