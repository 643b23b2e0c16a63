import SipBench.Text.Blank

/-!
# Path names

A path name is a root and the names below it.  Empty names and the current directory do not count;
parent directories are kept, since what they lead to depends on the files.
-/

namespace SipBench

/-- A path name; `root` is empty for a relative one and holds the leading slashes of an absolute
one, two of which are kept apart from one. -/
structure PathName where
  root : String
  names : List String
  deriving DecidableEq

namespace PathName

/-- The path name that a text stands for. -/
def ofText (s : String) : PathName :=
  let slashes := (s.toList.takeWhile (· == '/')).length
  { root := if slashes = 0 then "" else if slashes = 2 then "//" else "/"
    names := ((Text.splitAt '/' s.toList).map String.ofList).filter fun n => n != "" && n != "." }

/-- How the path name is shown: the working directory is a dot. -/
def text (p : PathName) : String :=
  if p.root.isEmpty && p.names.isEmpty then "." else p.root ++ "/".intercalate p.names

/-- Everything but the last name. -/
def parent (p : PathName) : PathName := { p with names := p.names.dropLast }

end PathName

end SipBench
