import LeastPrivilege.Command.Session
import LeastPrivilege.Command.Task
import LeastPrivilege.Console
import LeastPrivilege.Text.Split

/-!
Runs: what a task does, from the selection of pods to the exit status. A fault of the program's own
ends a run with a message and status 1, and so does a run that achieved nothing; any other fault
escapes.
-/

namespace LeastPrivilege

/-- How a run ended: its status, and the fault that escaped from it, if one did. -/
structure Ending where
  status : Nat
  escaped : Option Fault := none
  deriving DecidableEq, Repr

namespace Run

/-- Says a line. -/
def say (line : Text) : Attempt outside Unit :=
  Session.ofOutlet (Outlet.say line)

/-- Says the lines that show something on the console, or fails with what cannot be shown. -/
def sayShown (lines : Except Fault (List Text)) : Attempt outside Unit := do
  (← Attempt.ofExcept lines).forM say

/-- The pods of a selection. A pod that is named need not exist. -/
def selectPods (env : Environment) (s : Settings) (selection : Selection) :
    Attempt outside (List Pod) := do
  if selection.everywhere then
    return ← Session.ofCluster (Cluster.listRunningPods s.requestTimeout none)
  let ns ← match selection.ns with
    | some ns => pure ns
    | none => Session.ofCluster (Cluster.currentNs env s)
  match selection.pod with
  | some pod => return [{ ns, name := pod }]
  | none => Session.ofCluster (Cluster.listRunningPods s.requestTimeout (some ns))

/-- The output directory at a path, made if it is missing. -/
def makeDirectory (path : FilePath) : Attempt outside OutputDirectory := do
  let d : OutputDirectory := ⟨path⟩
  match ← Attempt.ofInquiry (Session.ofOutlet d.prepare).outcome with
  | .ok () => return d
  | .error (.file fault) => throw (.unusableDirectory path.text fault)
  | .error fault => throw fault

/-! ## Results -/

/-- What is told about one pod: the file or the policy that was made for it, or why there is
none. -/
def detail {α : Type} (nameOf : α → Text) (r : PodResult α) : Text :=
  match r.fault with
  | some fault => fault.message
  | none => ((r.path.map FilePath.text).or (r.made.map nameOf)).getD ""

/-- What became of a pod, in one word. -/
def outcomeWord {α : Type} (r : PodResult α) : Text :=
  if r.isOk then "[green]ok[/green]" else "[red]failed[/red]"

/-- The table of results. Names and details can hold markup. -/
def resultTable {α : Type} (title : Text) (nameOf : α → Text) (results : List (PodResult α)) :
    Console.Table where
  title := title
  columns := [{ title := "Pod" }, { title := "Status", width := some 8 }, { title := "Output" }]
  rows := results.map fun r => [r.pod, outcomeWord r, detail nameOf r]

/-- Says what became of each pod. -/
def sayResults {α : Type} (width : Nat) (title : Text) (nameOf : α → Text)
    (results : List (PodResult α)) : Attempt outside Unit := do
  sayShown ((resultTable title nameOf results).lines width)
  let made := results.length - (failures results).length
  sayShown (Console.render width
    ("\nGenerated " ++ Text.decimal made ++ " of " ++ Text.decimal results.length))

/-- Nothing was achieved for any pod. -/
def allFailed {α : Type} (results : List (PodResult α)) : Bool :=
  results.all fun r => !r.isOk

/-! ## Policies -/

/-- Generates the policies of pods with a broker. -/
def makePolicies (s : Settings) (plan : Plan) (schema : Schema) (pods : List Pod)
    (broker : Broker) : Attempt outside (List (PodResult Policy)) :=
  (plan.processAll schema (pods.map (·.name)) (pods.map fun p => (p.name, p.ns))).through
    (Session.answerWork broker s.requestTimeout)

/-- Generates policies of selected pods; nothing, if no pods run. -/
def policies (env : Environment) (s : Settings) (selection : Selection) (schema : Schema) :
    Attempt outside (Option (List (PodResult Policy))) := do
  let width := Console.widthIn env
  Session.ofCluster (Cluster.connect s)
  let pods ← selectPods env s selection
  if pods.isEmpty then
    sayShown (Console.render width "[yellow]No running pods found.[/yellow]")
    return none
  let directory ← match s.outputDir with
    | some path => do pure (some (← makeDirectory path))
    | none => pure none
  sayShown (Console.render width
    ("[bold]flowpolicy[/bold] generating [cyan]" ++ schema.name ++ "[/cyan] policies for "
      ++ Text.decimal pods.length ++ " pod(s)"))
  let plan : Plan := { byName := true, directory, dryRun := s.dryRun, maxWorkers := s.maxWorkers }
  return some (← Session.withBroker s (makePolicies s plan schema pods))

/-- The status after policies: a single pod must succeed, and of many at least one. -/
def policyStatus (selection : Selection) (results : List (PodResult Policy)) : Nat :=
  if (firstFault results).isSome && (selection.pod.isSome || allFailed results) then 1 else 0

/-! ## Profiles -/

/-- The profile that was recorded for a pod. -/
def recordedProfile (broker : Broker) (defaultAction pod : Text) :
    Attempt outside Seccomp.Profile := do
  match ← Session.ofWeb (broker.getCalls pod) with
  | none => throw (.noSyscalls pod)
  | some calls =>
    let profile := Seccomp.Profile.ofRecorded calls defaultAction
    Attempt.ofExcept profile.check
    return profile

/-- Writes the profile of a pod, and gives the path of its file. -/
def writeProfile (broker : Broker) (directory : OutputDirectory) (defaultAction : Text)
    (pod : Pod) : Attempt outside FilePath := do
  let profile ← recordedProfile broker defaultAction pod.name
  Session.ofOutlet (directory.write pod.ns pod.name "seccomp" "json" profile.text)

/-- Makes the profiles of pods in order. What goes wrong with one is recorded in its result. -/
def makeProfiles (directory : OutputDirectory) (defaultAction : Text) (broker : Broker) :
    List Pod → Attempt outside (List (PodResult Seccomp.Profile))
  | [] => return []
  | pod :: rest => do
    let result ← match ←
        Attempt.ofInquiry (writeProfile broker directory defaultAction pod).outcome with
      | .ok path => pure { pod := pod.name, path := some path }
      | .error fault =>
        if fault.isOfOnePod || fault.isValue then do
          Attempt.tell (.profileFailed pod.name fault)
          pure { pod := pod.name, fault := some fault }
        else throw fault
    return result :: (← makeProfiles directory defaultAction broker rest)

/-- Generates profiles of selected pods. -/
def profiles (env : Environment) (s : Settings) (selection : Selection) (defaultAction : Text)
    (path : FilePath) : Attempt outside (List (PodResult Seccomp.Profile)) := do
  Session.ofCluster (Cluster.connect s)
  let pods ← selectPods env s selection
  let directory ← makeDirectory path
  Session.withBroker s (fun broker => makeProfiles directory defaultAction broker pods)

/-- The status after profiles: of the selected pods, at least one must succeed. -/
def profileStatus (results : List (PodResult Seccomp.Profile)) : Nat :=
  if !results.isEmpty && allFailed results then 1 else 0

/-! ## Whole runs -/

/-- Does a task, and gives the status. -/
def task (env : Environment) : Task → Attempt outside Nat
  | .policies s selection schema => do
    match ← policies env s selection schema with
    | none => return 1
    | some results =>
      sayResults (Console.widthIn env) "Network policies" (·.name) results
      return policyStatus selection results
  | .profiles s selection defaultAction directory => do
    let results ← profiles env s selection defaultAction directory
    sayResults (Console.widthIn env) "Seccomp profiles" (fun _ => []) results
    return profileStatus results

/-- Ends a run with the message of a fault, which can hold markup. Markup that cannot be shown lets
its own fault escape. -/
def endWith (env : Environment) (fault : Fault) : Inquiry outside Ending := do
  match Console.render (Console.widthIn env) ("[red]Error:[/red] " ++ fault.message) with
  | .ok lines =>
    let _ ← (lines.forM say).outcome
    return { status := 1 }
  | .error unshown => return { status := 1, escaped := some unshown }

/-- Does a task to its end. -/
def finish (env : Environment) (t : Task) : Inquiry outside Ending := do
  match ← (task env t).outcome with
  | .ok status => return { status }
  | .error fault =>
    if fault.isOperational then endWith env fault
    else return { status := 1, escaped := some fault }

/-- What is printed when the version is asked for. -/
def versionLine : Text := "flowpolicy, version " ++ Policy.version ++ "\n"

/-- What is printed when help is asked for. -/
def helpText : Text :=
  "Usage: flowpolicy [OPTIONS] gen networkpolicy|seccomp [OPTIONS] [POD]\n"

/-- Ends a run that does nothing. -/
def stop : Stop → Inquiry outside Ending
  | .version => do
    let _ ← (Session.ofOutlet (Outlet.print versionLine)).outcome
    return { status := 0 }
  | .help => do
    let _ ← (Session.ofOutlet (Outlet.print helpText)).outcome
    return { status := 0 }
  | .nothingAsked => do
    let _ ← (say helpText).outcome
    return { status := 2 }
  | .usage fault => do
    let _ ← (say (Text.withoutControlSequences ("Error: " ++ fault.message))).outcome
    return { status := 2 }
  | .fault fault => return { status := 1, escaped := some fault }

/-- A run from what the command line says. -/
def ofTask (env : Environment) : Except Stop Task → Inquiry outside Ending
  | .ok t => finish env t
  | .error s => stop s

end Run

end LeastPrivilege
