/-!
# Issues of a configuration

What is wrong with a value of a configuration, and how it is worded.  An issue names the field it is
about; an issue of two fields together names their section.
-/

namespace SipBench.Config

/-- What is wrong with a value: a short name for the kind of flaw, and its wording. -/
structure Flaw where
  code : String
  message : String

/-- A flaw and the names that lead to the field or section it is about. -/
structure Issue where
  location : List String
  flaw : Flaw

/-- The same issue inside a section. -/
def Issue.within (sectionName : String) (issue : Issue) : Issue :=
  { issue with location := sectionName :: issue.location }

/-- The result of a check, or every issue it found. -/
abbrev Checked (α : Type) := Except (List Issue) α

/-- Two checks, the issues of the first before those of the second. -/
def both {α β : Type} (a : Checked α) (b : Checked β) : Checked (α × β) :=
  match a, b with
  | .ok x, .ok y => .ok (x, y)
  | .error i, .ok _ => .error i
  | .ok _, .error j => .error j
  | .error i, .error j => .error (i ++ j)

end SipBench.Config
