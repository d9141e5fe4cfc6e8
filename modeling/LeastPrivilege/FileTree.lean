import LeastPrivilege.Fault
import LeastPrivilege.FilePath

/-!
File trees: directories and files by the names that lead to them from the root, with a working
directory from which relative paths start. Making a directory and writing a file go through the
names of a path one by one and fail where the system would: where a directory on the way is missing,
where something stands in the place that may not be there, and where the place is to be kept as it
is. Any directory can be searched.
-/

namespace LeastPrivilege

/-- What stands at a place. -/
inductive FileEntry where
  | directory
  | file (text : Text)
  deriving DecidableEq, Repr

/-- A tree. The root is always a directory and has no entry. -/
structure FileTree where
  entries : List (List Text × FileEntry) := []
  workingPlace : List Text := []
  /-- Places without permission to write: no file is written in one, and in a directory there
  nothing new is made. -/
  readOnly : List (List Text) := []
  deriving Repr

namespace FileTree

/-- A name is at most this many bytes long. -/
def maxNameBytes : Nat := 255

/-- A path is shorter than this many bytes. -/
def maxPathBytes : Nat := 4096

/-- What stands at a place, if anything does. -/
def entry? (t : FileTree) (place : List Text) : Option FileEntry :=
  if place.isEmpty then some .directory else t.entries.lookup place

/-- Puts an entry in its place. -/
def put (t : FileTree) (place : List Text) (e : FileEntry) : FileTree :=
  { t with entries := (place, e) :: t.entries.filter (·.1 != place) }

/-- The place is kept as it is: it is read-only, or nothing stands there and its directory is
read-only. -/
def isKept (t : FileTree) (place : List Text) : Bool :=
  t.readOnly.contains place || ((t.entry? place).isNone && t.readOnly.contains place.dropLast)

/-- The place that a name leads to from another place. -/
def step (place : List Text) (name : Text) : List Text :=
  if name = ".." then place.dropLast else place ++ [name]

/-- A place must be a directory, and a name short enough, for the name to be looked up there. -/
def enter (t : FileTree) (place : List Text) (name : Text) :
    Except FileCause (List Text) :=
  match t.entry? place with
  | none => .error .missing
  | some (.file _) => .error .notADirectory
  | some .directory =>
    if maxNameBytes < Text.systemBytes name then .error .nameTooLong else .ok (step place name)

/-- The place that names lead to. The last of them need not exist. -/
def follow (t : FileTree) : List Text → List Text → Except FileCause (List Text)
  | place, [] => .ok place
  | place, name :: rest => do
    let next ← t.enter place name
    t.follow next rest

/-- The place that a path leads to. -/
def locate (t : FileTree) (p : FilePath) : Except FileCause (List Text) :=
  if maxPathBytes ≤ Text.systemBytes p.text then .error .nameTooLong
  else t.follow (if p.isAbsolute then [] else t.workingPlace) p.names

/-- Something stands at the path's place, and it is a directory. -/
def isDirectory (t : FileTree) (p : FilePath) : Bool :=
  match t.locate p with
  | .ok place => t.entry? place == some .directory
  | .error _ => false

/-- Makes a directory where nothing stands yet. -/
def makeDirectory (t : FileTree) (p : FilePath) : Except FileCause FileTree := do
  let place ← t.locate p
  match t.entry? place with
  | some _ => .error .exists_
  | none => if t.isKept place then .error .denied else return t.put place .directory

/-- Why no file can be written in a place, if none can. -/
def refusal? (t : FileTree) (place : List Text) : Option FileCause :=
  match t.entry? place with
  | some .directory => some .isADirectory
  | _ => if t.isKept place then some .denied else none

/-- Writes a file, new or in place of an older one. -/
def write (t : FileTree) (p : FilePath) (text : Text) : Except FileCause FileTree := do
  let place ← t.locate p
  match t.refusal? place with
  | some cause => .error cause
  | none => return t.put place (.file text)

/-- What stands below the working directory, by relative path. -/
def listing (t : FileTree) : List (Text × FileEntry) :=
  t.entries.filterMap fun (place, e) =>
    if t.workingPlace.isPrefixOf place && place != t.workingPlace then
      some (Text.intercalate "/" (place.drop t.workingPlace.length), e)
    else none

end FileTree

end LeastPrivilege
