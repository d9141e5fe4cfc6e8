import LeastPrivilege.Identity.Reading
import LeastPrivilege.Text.Blank
import LeastPrivilege.Text.Split

/-!
Recorded system calls: what the broker holds for a pod, read from a row. The names come as one text
with commas or as a list; blank ones are dropped and the others trimmed. Names of several
recordings are merged into one strictly increasing list.
-/

namespace LeastPrivilege

/-- The system calls that were recorded for a pod. -/
structure RecordedCalls where
  pod : Text
  ns : Text
  names : List Text
  arch : Text
  deriving DecidableEq, Repr

namespace RecordedCalls

/-- The trimmed name, unless it is blank. -/
def name? (text : Text) : Option Text :=
  let name := Text.trim text
  if name.isEmpty then none else some name

/-- The name that a list item gives, if any. An item that counts as true must be a text. -/
def nameOfItem (v : Value) : Except Fault (Option Text) :=
  match v with
  | .scalar (.text s) => .ok (name? s)
  | v => if v.isTruthy then .error (.shape .noMembers) else .ok none

/-- The names that list items give. -/
def namesOfItems : List Value → Except Fault (List Text)
  | [] => .ok []
  | v :: rest => do
    let name ← nameOfItem v
    let names ← namesOfItems rest
    return name.toList ++ names

/-- The names that a value gives. -/
def namesOf (v : Value) : Except Fault (List Text) :=
  if !v.isTruthy then .ok []
  else
    match v with
    | .scalar (.text s) => .ok ((Text.parts ',' s).filterMap name?)
    | v =>
      match v.items? with
      | some items => namesOfItems items
      | none => .error (.shape .noItems)

/-- The text of a member that counts as true, or else nothing. -/
def fieldIfTrue (row : Value) (key : Text) : Except Fault Text := do
  let v ← row.member key
  return if v.isTruthy then v.shown else ""

/-- The recorded calls of a row. -/
def ofRow (row : Value) : Except Fault RecordedCalls := do
  let names ← namesOf (← row.member "syscalls")
  return {
    pod := ← fieldIfTrue row "pod_name"
    ns := ← fieldIfTrue row "pod_namespace"
    names
    arch := ← fieldIfTrue row "arch" }

end RecordedCalls

/-- Inserts a name into a strictly increasing list, unless it is there. -/
def insertName (name : Text) : List Text → List Text
  | [] => [name]
  | n :: rest =>
    if name < n then name :: n :: rest
    else if name = n then n :: rest
    else n :: insertName name rest

/-- The names of all lists, each once, in increasing order. -/
def mergeNames (lists : List (List Text)) : List Text :=
  lists.flatten.foldr insertName []

end LeastPrivilege
