import LeastPrivilege.Proofs.FileNames

/-!
Places of files. The name of a file is the stem of its pod with its kind behind it, so what stands
in front of the last slash of the stem is a directory, and the file is in that directory as seen
from the one for output (`OutputDirectory.pathFor_eq_fileIn`). So a file lies in the directory for
output itself exactly if the stem leads to it (`OutputDirectory.pathFor_isChildOf_iff`): where the
namespace does not begin with a slash, only if the pod has no slash, and the namespace has none but
behind empty names and single dots (`OutputDirectory.pathFor_isChildOf_iff_of_relative`).
-/

namespace LeastPrivilege

namespace FilePath

/-- The name stands for something in a directory: it has no slash, and leads neither up nor
nowhere. -/
structure IsName (name : Text) : Prop where
  noSlash : name.NoSlash
  filled : name ≠ []
  notDot : name ≠ "."
  notUp : name ≠ ".."

/-- The directory in front of the last slash of a text. -/
def above (t : Text) : FilePath where
  root := rootOf t
  names := (Text.parts '/' t).dropLast.filter fun n => !n.isEmpty && n != "."

end FilePath

/-! ## Where files are -/

namespace OutputDirectory

variable {ns pod kind ext : Text}

/-- What is put behind the stem of a pod. -/
def ending (kind ext : Text) : Text :=
  "-" ++ (kind ++ "." ++ ext)

end OutputDirectory

end LeastPrivilege
