import LeastPrivilege.FileTree
import LeastPrivilege.Inquiry

/-!
Outlets: where generated text goes. A file goes into an output directory under a name made of its
namespace, its pod and its kind; without such a directory the text is printed.
-/

namespace LeastPrivilege

/-- What output asks of the outside. -/
inductive OutletQuestion where
  | makeDirectory (path : FilePath)
  | isDirectory (path : FilePath)
  | write (path : FilePath) (text : Text)
  | print (text : Text)
  /-- A line about the run, apart from its output. -/
  | say (line : Text)
  deriving DecidableEq, Repr

/-- What the outside answers. -/
def OutletQuestion.Answer : OutletQuestion → Type
  | makeDirectory _ => Except FileCause Unit
  | isDirectory _ => Bool
  | write .. => Except FileCause Unit
  | print _ | say _ => Unit

/-- The interface of output. -/
abbrev outlet : Interface := ⟨OutletQuestion, OutletQuestion.Answer⟩

namespace Outlet

/-- A path that the system cannot read is not used. -/
def checkPath (path : FilePath) : Attempt outlet Unit :=
  Attempt.ofExcept (Fault.ofPathText path.text)

/-- Prints a text. -/
def print (text : Text) : Attempt outlet Unit :=
  Attempt.ofInquiry (Inquiry.put (I := outlet) (.print text))

/-- Says a line about the run. -/
def say (line : Text) : Attempt outlet Unit :=
  Attempt.ofInquiry (Inquiry.put (I := outlet) (.say line))

/-- Writes a file. -/
def write (path : FilePath) (text : Text) : Attempt outlet Unit := do
  checkPath path
  match ← Attempt.ofInquiry (Inquiry.put (I := outlet) (.write path text)) with
  | .ok () => return ()
  | .error cause => throw (.file ⟨cause, path.text⟩)

/-- Why a directory could not be made, if it could not. -/
def makeDirectory (path : FilePath) : Attempt outlet (Option FileCause) := do
  checkPath path
  match ← Attempt.ofInquiry (Inquiry.put (I := outlet) (.makeDirectory path)) with
  | .ok () => return none
  | .error cause => return some cause

/-- A directory stands at the path. -/
def isDirectory (path : FilePath) : Attempt outlet Bool :=
  Attempt.ofInquiry (Inquiry.put (I := outlet) (.isDirectory path))

/-- A directory that could not be made is as good when it is there. -/
def acceptExisting (path : FilePath) (cause : FileCause) : Attempt outlet Unit := do
  if ← isDirectory path then return ()
  throw (.file ⟨cause, path.text⟩)

/-- Makes a directory in an existing one. -/
def makeIn (path : FilePath) : Attempt outlet Unit := do
  match ← makeDirectory path with
  | none => return ()
  | some .missing => throw (.file ⟨.missing, path.text⟩)
  | some cause => acceptExisting path cause

/-- Makes a directory with those above it, given its names in reverse. -/
def makeWithParents (root : Text) : List Text → Attempt outlet Unit
  | [] => makeIn ⟨root, []⟩
  | name :: above => do
    let path : FilePath := ⟨root, (name :: above).reverse⟩
    match ← makeDirectory path with
    | none => return ()
    | some .missing =>
      makeWithParents root above
      makeIn path
    | some cause => acceptExisting path cause

end Outlet

/-- A directory for generated files. -/
structure OutputDirectory where
  path : FilePath
  deriving DecidableEq, Repr

namespace OutputDirectory

/-- Makes the directory, and those above it, where they are missing. -/
def prepare (d : OutputDirectory) : Attempt outlet Unit :=
  Outlet.makeWithParents d.path.root d.path.names.reverse

/-- The name of a file. -/
def fileName (ns pod kind ext : Text) : Text :=
  ns ++ "-" ++ pod ++ "-" ++ kind ++ "." ++ ext

/-- The path of a file, with slashes in its name read as such. -/
def pathFor (d : OutputDirectory) (ns pod kind ext : Text) : FilePath :=
  d.path.join (.ofText (fileName ns pod kind ext))

/-- Writes a file and gives its path. -/
def write (d : OutputDirectory) (ns pod kind ext text : Text) : Attempt outlet FilePath := do
  let path := d.pathFor ns pod kind ext
  Outlet.write path text
  Attempt.tell (.fileWritten path.text)
  return path

end OutputDirectory

end LeastPrivilege
