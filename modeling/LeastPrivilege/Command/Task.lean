import LeastPrivilege.Command.Options
import LeastPrivilege.Notice
import LeastPrivilege.Policy
import LeastPrivilege.Seccomp.Profile
import LeastPrivilege.Settings

/-!
Tasks: what a command line asks for. The command is read from the outside in: options of the
program, then the command's group, then the command with its own options. Settings are loaded once
the group is known, so that a fault in them comes before any in the rest of the line.
-/

namespace LeastPrivilege

/-- The pods that a run is about: one by name, or all running ones of a namespace or of every
namespace. -/
structure Selection where
  pod : Option Text := none
  ns : Option Text := none
  everywhere : Bool := false
  deriving DecidableEq, Repr

/-- What a run does. -/
inductive Task where
  | policies (settings : Settings) (selection : Selection) (schema : Schema)
  | profiles (settings : Settings) (selection : Selection) (defaultAction : Text)
    (directory : FilePath)
  deriving DecidableEq, Repr

/-- Why a run ends before it does anything. -/
inductive Stop where
  | version
  | help
  /-- Help that is given because nothing was asked for. -/
  | nothingAsked
  | usage (fault : UsageFault)
  | fault (fault : Fault)
  deriving DecidableEq, Repr

/-- The first word of a line that could not be resolved further, and the words after it. -/
abbrev Resolved := Text × List Text

namespace Task

/-- The spelling of the option that asks for help. -/
def helpSpelling : Spelling := ⟨"--help", "help", some ""⟩

/-- The options of the program. -/
def programOptions : List Spelling :=
  [⟨"--version", "version", some ""⟩, ⟨"--verbose", "verbose", some ""⟩,
    ⟨"-v", "verbose", some ""⟩, ⟨"--debug", "debug", some ""⟩, ⟨"--kubeconfig", "kubeconfig", none⟩,
    ⟨"--context", "context", none⟩, ⟨"--in-cluster", "in-cluster", some ""⟩, helpSpelling]

/-- The options that select pods. -/
def selectionOptions : List Spelling :=
  [⟨"--namespace", "namespace", none⟩, ⟨"-n", "namespace", none⟩, ⟨"--all", "all", some ""⟩,
    ⟨"-a", "all", some ""⟩, ⟨"--all-namespaces", "everywhere", some ""⟩,
    ⟨"-A", "everywhere", some ""⟩]

/-- The options for policies. -/
def policyOptions : List Spelling :=
  selectionOptions ++
    [⟨"--type", "type", none⟩, ⟨"-t", "type", none⟩, ⟨"--dry-run", "dry-run", some "yes"⟩,
      ⟨"--no-dry-run", "dry-run", some "no"⟩, ⟨"--output-dir", "output-dir", none⟩,
      ⟨"--workers", "workers", none⟩, helpSpelling]

/-- The options for profiles. -/
def profileOptions : List Spelling :=
  selectionOptions ++
    [⟨"--default-action", "default-action", none⟩, ⟨"--output-dir", "output-dir", none⟩,
      helpSpelling]

/-- The name of the group of commands. -/
def groupName : Text := "gen"

/-- The names of the group's commands. -/
def groupCommands : List Text := ["netpol", "networkpolicy", "seccomp"]

/-- The names of schemas on the command line. -/
def schemaChoices : List Text := ["kubernetes", "standard", "cilium"]

/-- The stop that an option asks for, the first one given. -/
def askedStop (given : List Given) : Option Stop :=
  given.findSome? fun (g : Given) =>
    if g.key == "help" then some .help else if g.key == "version" then some .version else none

/-- Reads the words of a line, and stops where an option asks for it. -/
def readLine (spellings : List Spelling) (mixed : Bool) (words : List Text) :
    Except Stop (List Given × List Text) := do
  let (given, rest) ← (readWords spellings mixed none words).mapError .usage
  match askedStop given with
  | some stop => throw stop
  | none => return (given, rest)

/-- A path that was given as an option must be one that the system can read. A lone dash stands for
no path. -/
def checkPath (given : List Given) : Except Stop Unit :=
  match (valueOf given "kubeconfig").filter (· != Text.ofString "-") with
  | some text => (Fault.ofPathText text).mapError .fault
  | none => .ok ()

/-- The options and the command of a group's line. -/
def readGroup (spellings : List Spelling) (words : List Text) :
    Except Stop (List Given × Resolved) :=
  if words.isEmpty then .error .nothingAsked
  else do
    let (given, rest) ← readLine spellings false words
    checkPath given
    match rest with
    | [] => throw (.usage .commandMissing)
    | command :: rest => return (given, command, rest)

/-- A command that does not exist among some. A word that looks like an option is reported as
one. -/
def unknownCommand {α : Type} (spellings : List Spelling) (commands : List Text)
    (command : Resolved) : Except Stop α := do
  let _ ← readLine spellings false (command.1 :: command.2)
  throw (.usage (.noSuchCommand command.1 (Text.similarWords commands command.1)))

/-! ## Values -/

/-- The first choice with the same small letters as a value. -/
def choiceIn (choices : List Text) (value : Text) : Option Text :=
  choices.find? fun c => Text.folded c == Text.folded value

/-- Checks the value of the option for the schema. -/
def checkType (value : Text) : Except UsageFault Unit :=
  if (choiceIn schemaChoices value).isSome then .ok ()
  else .error (.notAChoice "'--type' / '-t'" value schemaChoices)

/-- Checks the value of the option for the number of workers. -/
def checkWorkers (value : Text) : Except UsageFault Unit :=
  match Number.readInteger value with
  | .ok _ => .ok ()
  | .error _ => .error (.notAnInteger "'--workers'" value)

/-- Checks the value of the option for the default action. -/
def checkAction (value : Text) : Except UsageFault Unit :=
  if Seccomp.defaultActions.contains value then .ok ()
  else .error (.notAChoice "'--default-action'" value Seccomp.defaultActions)

/-- The check of an option's value. -/
def checkOf (key value : Text) : Except UsageFault Unit :=
  if key == "type" then checkType value
  else if key == "workers" then checkWorkers value
  else if key == "default-action" then checkAction value
  else .ok ()

/-- Checks the last value of each option, in the order in which the options were first given. -/
def checkValues (given : List Given) : Except UsageFault Unit :=
  given.forM fun g => checkOf g.key ((valueOf given g.key).getD g.value)

/-- Reads the line of a command: its options, and the name of a pod if one is given. -/
def readCommand (spellings : List Spelling) (words : List Text) :
    Except Stop (List Given × Option Text) := do
  let (given, rest) ← readLine spellings true words
  (checkValues given).mapError .usage
  match rest with
  | [] => return (given, none)
  | [pod] => return (given, some pod)
  | _ :: extra => throw (.usage (.extraWords extra))

/-- The selection that a line makes. An empty name is none. -/
def selection (given : List Given) (pod : Option Text) : Except UsageFault Selection :=
  let pod := pod.filter (!·.isEmpty)
  let many := isGiven given "all" || isGiven given "everywhere"
  if pod.isSome && many then .error .podAndAll
  else if pod.isNone && !many then .error .nothingSelected
  else .ok
    { pod, ns := (valueOf given "namespace").filter (!·.isEmpty)
      everywhere := isGiven given "everywhere" }

/-- The number of workers that a line asks for. -/
def workers (given : List Given) (default : Int) : Except UsageFault Int :=
  match (valueOf given "workers").map Number.readInteger with
  | some (.ok n) => if n < 1 then .error .noWorkers else .ok n
  | _ => .ok default

/-- The schema that a line asks for. -/
def schemaOf (given : List Given) : Schema :=
  let asked := (valueOf given "type").getD "kubernetes"
  match Schema.ofText ((choiceIn schemaChoices asked).getD "") with
  | .ok schema => schema
  | .error _ => .standard

/-- The directory that a line names, if it names one. -/
def directoryOf (given : List Given) (default : Text) : Option FilePath :=
  let text := (valueOf given "output-dir").getD default
  if text.isEmpty then none else some (.ofText text)

/-- The task of generating policies. -/
def ofPolicyWords (settings : Except Fault Settings) (words : List Text) : Except Stop Task := do
  let (given, pod) ← readCommand policyOptions words
  let loaded ← settings.mapError .fault
  let maxWorkers ← (workers given loaded.maxWorkers).mapError .usage
  let selected ← (selection given pod).mapError .usage
  return .policies
    { loaded with
      dryRun := valueOf given "dry-run" != some ("no" : Text)
      outputDir := directoryOf given "network-policies"
      maxWorkers }
    selected (schemaOf given)

/-- The task of generating profiles. -/
def ofProfileWords (settings : Except Fault Settings) (words : List Text) : Except Stop Task := do
  let (given, pod) ← readCommand profileOptions words
  let loaded ← settings.mapError .fault
  let selected ← (selection given pod).mapError .usage
  let standardDir : Text := "seccomp-profiles"
  return .profiles loaded selected ((valueOf given "default-action").getD Seccomp.standardAction)
    ((directoryOf given standardDir).getD (.ofText standardDir))

/-- The task of the group's line. -/
def ofGroupWords (settings : Except Fault Settings) (words : List Text) : Except Stop Task := do
  let (_, command, rest) ← readGroup [helpSpelling] words
  if command == "networkpolicy" || command == "netpol" then ofPolicyWords settings rest
  else if command == "seccomp" then ofProfileWords settings rest
  else unknownCommand [helpSpelling] groupCommands (command, rest)

/-- The settings that the options of the program change. -/
def configure (given : List Given) (s : Settings) : Settings :=
  { s with
    verbose := s.verbose || isGiven given "verbose"
    debug := s.debug || isGiven given "debug"
    kubeconfig := valueOf given "kubeconfig"
    context := valueOf given "context"
    inCluster := isGiven given "in-cluster" }

/-- The least gravity of what a run with these settings tells. -/
def leastGravity (s : Settings) : Gravity :=
  if s.debug then .debug else if s.verbose then .info else .warning

/-- The task of a whole line, and the least gravity of what its run tells. -/
def ofWords (env : Environment) (words : List Text) : Except Stop Task × Gravity :=
  match readGroup programOptions words with
  | .error stop => (.error stop, .warning)
  | .ok (given, command, rest) =>
    if command != groupName then
      (unknownCommand programOptions [groupName] (command, rest), .warning)
    else
      match (Settings.load env).map (configure given) with
      | .error fault => (.error (.fault fault), .warning)
      | .ok s => (ofGroupWords (.ok s) rest, leastGravity s)

end Task

end LeastPrivilege
