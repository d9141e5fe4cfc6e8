import LeastPrivilege.Outlet
import LeastPrivilege.Policy.Generation
import LeastPrivilege.Yaml.Writer

/-!
Batches: policies of many pods, each generated and put out on its own. What goes wrong with one
pod is recorded in its result, and the others go on.
-/

namespace LeastPrivilege

/-- What a batch asks: lookups, and where its output goes. -/
abbrev work : Interface := lookups.or outlet

/-- How policies are generated and where they go. -/
structure Plan where
  /-- A pod without flows may be looked up by its name. -/
  byName : Bool := true
  directory : Option OutputDirectory := none
  dryRun : Bool := true
  /-- As many pods are worked on at once at most. -/
  maxWorkers : Int := 1
  deriving DecidableEq, Repr

/-- What became of one pod of a batch. -/
structure PodResult (α : Type) where
  pod : Text
  made : Option α := none
  path : Option FilePath := none
  fault : Option Fault := none
  deriving Repr

/-- The pod was dealt with. -/
def PodResult.isOk {α : Type} (r : PodResult α) : Bool :=
  r.fault.isNone

/-- The fault of the first pod that has one. -/
def firstFault {α : Type} (results : List (PodResult α)) : Option Fault :=
  results.findSome? (·.fault)

/-- The results of pods that failed. -/
def failures {α : Type} (results : List (PodResult α)) : List (PodResult α) :=
  results.filter fun r => !r.isOk

/-- Faults that end the work on one pod only. -/
def Fault.isOfOnePod (f : Fault) : Bool :=
  f.isOperational || f.isFile

namespace Plan

/-- The kind in a policy's file name. -/
def fileKind (schema : Schema) : Text :=
  schema.name ++ "-networkpolicy"

/-- The name under which a policy is put out: the one given, or else the pod's as its labels have
it. -/
def podName (p : Policy) (given : Option Text) : Text :=
  match given.filter (!·.isEmpty) with
  | some name => name
  | none =>
    match Value.getKey? (.text Policy.nameLabel) p.labels with
    | some v => v.shown
    | none => p.name

/-- A manifest is written only if it is nested at most this deep. -/
def maxDepth : Nat := 328

/-- The text of a policy. -/
def textOf (p : Policy) : Except Fault Text :=
  if maxDepth < p.manifest.depth then .error .tooDeep else .ok (Yaml.write p.manifest)

/-- Writes or prints a policy, and gives the path of its file if there is one. -/
def deliver (plan : Plan) (p : Policy) (pod : Option Text) : Attempt outlet (Option FilePath) := do
  let text ← Attempt.ofExcept (textOf p)
  let path ← match plan.directory with
    | some d => do
      let path ← d.write p.ns (podName p pod) (fileKind p.schema) "yaml" text
      pure (some path)
    | none => do
      if plan.dryRun then Outlet.print ("---\n" ++ text)
      pure none
  if !plan.dryRun then Attempt.tell (.notApplied p.name)
  return path

/-- Generates and puts out one pod's policy. -/
def processOne (plan : Plan) (schema : Schema) (ns : Option Text) (pod : Text) :
    Attempt work (PodResult Policy) := do
  let made := Attempt.inLeft (Policy.generate plan.byName pod schema ns)
  match ← Attempt.ofInquiry made.outcome with
  | .error fault => fail none fault
  | .ok policy =>
    match ← Attempt.ofInquiry (Attempt.inRight (plan.deliver policy (some pod))).outcome with
    | .error fault => fail (some policy) fault
    | .ok path => return { pod, made := some policy, path }
where
  /-- Records a fault of this pod, or passes on any other. -/
  fail (made : Option Policy) (fault : Fault) : Attempt work (PodResult Policy) := do
    if fault.isOfOnePod then
      Attempt.tell (.policyFailed pod fault)
      return { pod, made, fault := some fault }
    throw fault

/-- The last namespace that is given for a pod's name. -/
def namespaceOf (namespaces : List (Text × Text)) (pod : Text) : Option Text :=
  namespaces.reverse.lookup pod

/-- Goes through pods in order. -/
def processEach (plan : Plan) (schema : Schema) (namespaces : List (Text × Text)) :
    List Text → Attempt work (List (PodResult Policy))
  | [] => return []
  | pod :: rest => do
    let result ← plan.processOne schema (namespaceOf namespaces pod) pod
    let results ← plan.processEach schema namespaces rest
    return result :: results

/-- The number of workers for a number of pods. -/
def workersFor (plan : Plan) (pods : Nat) : Int :=
  max 1 (min plan.maxWorkers pods)

/-- Generates and puts out the policies of pods, with one notice at the end if any failed. -/
def processAll (plan : Plan) (schema : Schema) (pods : List Text)
    (namespaces : List (Text × Text)) : Attempt work (List (PodResult Policy)) := do
  if pods.isEmpty then return []
  Attempt.tell (.batchStarted schema.name pods.length (plan.workersFor pods.length))
  let results ← plan.processEach schema namespaces pods
  let failed := (failures results).length
  if failed != 0 then Attempt.tell (.batchFailed failed results.length)
  return results

end Plan

end LeastPrivilege
