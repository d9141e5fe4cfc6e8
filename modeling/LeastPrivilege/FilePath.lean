import LeastPrivilege.Text.Split

/-!
File paths as sequences of names. Empty names and single dots are dropped when a path is read;
double dots stay, for what they lead to depends on the tree. An absolute path that is joined to
another replaces it.
-/

namespace LeastPrivilege

/-- A path: the slashes it begins with (none, one, or exactly two), and its names. -/
structure FilePath where
  root : Text := ""
  names : List Text := []
  deriving DecidableEq, Repr, Inhabited

namespace FilePath

/-- The root that a text begins with. Three slashes or more are one. -/
def rootOf : Text → Text
  | .char '/' :: .char '/' :: .char '/' :: _ => "/"
  | .char '/' :: .char '/' :: _ => "//"
  | .char '/' :: _ => "/"
  | _ => ""

/-- The path that a text spells. -/
def ofText (s : Text) : FilePath :=
  { root := rootOf s
    names := (Text.parts '/' s).filter fun n => !n.isEmpty && n != "." }

/-- The path begins at the root of the tree. -/
def isAbsolute (p : FilePath) : Bool :=
  !p.root.isEmpty

/-- The second path, seen from the first. -/
def join (p q : FilePath) : FilePath :=
  if q.isAbsolute then q else { p with names := p.names ++ q.names }

/-- The text of a path. -/
def text (p : FilePath) : Text :=
  if p.root.isEmpty && p.names.isEmpty then "." else p.root ++ Text.intercalate "/" p.names

end FilePath

end LeastPrivilege
