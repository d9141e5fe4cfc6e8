import LeastPrivilege.Text.Quoted

/-!
Faults in the use of the command line, by cause, with their wording.
-/

namespace LeastPrivilege

/-- A command line that cannot be followed. -/
inductive UsageFault where
  | noSuchOption (name : Text) (similar : List Text)
  | valueMissing (name : Text)
  | valueUnwanted (name : Text)
  | extraWords (words : List Text)
  /-- A value is none of the choices of an option, which is named in all its spellings. -/
  | notAChoice (option value : Text) (choices : List Text)
  | notAnInteger (option value : Text)
  | noSuchCommand (name : Text) (similar : List Text)
  | commandMissing
  | noWorkers
  | podAndAll
  | nothingSelected
  deriving DecidableEq, Repr

/-- Words in their order. -/
def sortWords (words : List Text) : List Text :=
  words.mergeSort fun a b => a ≤ b

/-- What to ask about an unknown word that is similar to known ones. -/
def suggestion (similar : List Text) : Text :=
  match (sortWords similar).map Text.quoted with
  | [] => ""
  | [word] => " Did you mean " ++ word ++ "?"
  | words =>
    let list := Text.intercalate ", " words
    " (Did you mean one of: " ++ list ++ "?)"

/-- The wording of a usage fault. -/
def UsageFault.message : UsageFault → Text
  | noSuchOption name similar => "No such option " ++ Text.quoted name ++ "." ++ suggestion similar
  | valueMissing name => "Option " ++ Text.quoted name ++ " requires an argument."
  | valueUnwanted name => "Option " ++ Text.quoted name ++ " does not take a value."
  | extraWords words =>
    let list := Text.intercalate " " words
    match words with
    | [_] => "Got unexpected extra argument (" ++ list ++ ")"
    | _ => "Got unexpected extra arguments (" ++ list ++ ")"
  | notAChoice option value choices =>
    let list := Text.intercalate ", " (choices.map Text.quoted)
    "Invalid value for " ++ option ++ ": " ++ Text.quoted value ++ " is not one of " ++ list ++ "."
  | notAnInteger option value =>
    "Invalid value for " ++ option ++ ": " ++ Text.quoted value ++ " is not a valid integer."
  | noSuchCommand name similar =>
    "No such command " ++ Text.quoted name ++ "." ++ suggestion similar
  | commandMissing => "Missing command."
  | noWorkers => "Invalid value for --workers: must be at least 1"
  | podAndAll => "Specify either a pod name or --all/--all-namespaces, not both."
  | nothingSelected => "Specify a pod name, --all or --all-namespaces."

end LeastPrivilege
