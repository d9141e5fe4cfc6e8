import LeastPrivilege.Cluster.Api
import LeastPrivilege.Settings

/-!
Access to the cluster: running pods, single pods, controllers, and the namespaces of services. A
missing object is nothing, and any other failure a fault.
-/

namespace LeastPrivilege.Cluster

/-- The status of a request for something that does not exist. -/
def notFound : Int := 404

/-- The fault of a failed request. -/
def faultOf (action : ClusterAction) : ApiFailure → Fault
  | .refused _ reason => .cluster (.refused action reason)
  | .unreachable reason => .cluster (.unreachable action reason)

/-- The object that a request gave, nothing if there is none. -/
def found {α : Type} (action : ClusterAction) : Except ApiFailure α → Except Fault (Option α)
  | .ok a => .ok (some a)
  | .error (.refused status reason) =>
    if status = notFound then .ok none else .error (faultOf action (.refused status reason))
  | .error failure => .error (faultOf action failure)

/-- The owner among references: the first that controls, or else the first. -/
def ownerOf (owners : Option (List OwnerEntry)) : Option OwnerRef :=
  let entries := owners.getD []
  ((entries.find? (·.controls)).or entries.head?).map fun e => ⟨e.kind, e.name⟩

/-- The pod that an object describes. -/
def podOf (o : PodObject) : Pod where
  ns := o.ns.getD ""
  name := o.name.getD ""
  ip := (o.status.bind (·.ip)).getD ""
  labels := o.labels.getD []
  owner := ownerOf o.owners
  hostNetwork := (o.spec.bind (·.hostNetwork)).getD false

/-- The pod is running. -/
def isRunning (o : PodObject) : Bool :=
  o.status.any fun s => s.phase == some ("Running" : Text)

/-- The controller that an object describes. -/
def controllerOf (kind ns name : Text) (o : ControllerObject) : Controller where
  kind := kind
  name := name
  ns := ns
  matchLabels := ((o.spec.bind (·.selector)).bind (·.matchLabels)).getD []
  owner := ownerOf o.owners

/-- Asks for objects. -/
def request (timeout : Double) (what : ApiRequest) : Attempt cluster what.Answer :=
  Attempt.ofInquiry (Inquiry.put (I := cluster) (.request timeout what))

/-- The running pods of a namespace, or of all. -/
def listRunningPods (timeout : Double) (ns : Option Text) : Attempt cluster (List Pod) := do
  match ← request timeout (.pods ns) with
  | .ok objects =>
    let pods := (objects.filter isRunning).map podOf
    Attempt.tell (.podsFound pods.length ns)
    return pods
  | .error failure => throw (faultOf .listPods failure)

/-- A pod by name. -/
def getPod (timeout : Double) (ns name : Text) : Attempt cluster (Option Pod) := do
  let reply ← request timeout (.pod ns name)
  return (← Attempt.ofExcept (found (.readObject "pod" ns name) reply)).map podOf

/-- A controller by kind and name. Nothing is asked about an unknown kind. -/
def getController (timeout : Double) (ns kind name : Text) :
    Attempt cluster (Option Controller) := do
  match ControllerKind.ofName? kind with
  | none => throw (.cluster (.unknownOwnerKind kind))
  | some k =>
    let reply ← request timeout (.controller k ns name)
    match ← Attempt.ofExcept (found (.readObject kind ns name) reply) with
    | some object => return some (controllerOf kind ns name object)
    | none =>
      Attempt.tell (.ownerMissing kind ns name)
      return none

/-- The first of some namespaces that has a service. -/
def findService (timeout : Double) (service : Text) :
    List Text → Attempt cluster (Option Text)
  | [] => return none
  | ns :: rest => do
    let reply ← request timeout (.service ns service)
    match ← Attempt.ofExcept (found (.readObject "service" ns service) reply) with
    | some () => return some ns
    | none =>
      Attempt.tell (.serviceMissing ns service)
      findService timeout service rest

/-! ## Configuration -/

/-- The namespace that is used where none is known. -/
def defaultNs : Text := "default"

/-- Loads the configuration. -/
def connect (s : Settings) : Attempt cluster Unit := do
  let loaded ←
    if s.inCluster then Attempt.ofInquiry (Inquiry.put (I := cluster) .loadInCluster)
    else Attempt.ofInquiry (Inquiry.put (I := cluster) (.loadFile s.kubeconfig s.context))
  match (loaded : Except Text Unit) with
  | .ok () => return ()
  | .error reason => throw (.cluster (.configuration reason))

/-- Asks for the contexts of the local configuration. -/
def readContexts (s : Settings) : Attempt cluster (Except Text KubeContexts) :=
  Attempt.ofInquiry (Inquiry.put (I := cluster) (.contexts s.kubeconfig))

/-- The context that a setting chooses: the first of its name, or else the one in use. -/
def chosenContext (s : Settings) (active : Option KubeContext) :
    Attempt cluster (Option KubeContext) := do
  match s.context.filter (!·.isEmpty) with
  | none => return active
  | some name =>
    match ← readContexts s with
    | .ok known => return (known.contexts.find? fun c => c.name == some name).or active
    | .error reason => throw (.contexts reason)

/-- The namespace in use: the one that the environment names, the context's, or the default. -/
def currentNs (env : Environment) (s : Settings) : Attempt cluster Text := do
  match env.value? "POD_NAMESPACE" with
  | some ns => return ns
  | none =>
    if s.inCluster then return defaultNs
    match ← readContexts s with
    | .error reason =>
      Attempt.tell (.contextUnreadable reason)
      return defaultNs
    | .ok known =>
      let context ← chosenContext s known.active
      return ((context.bind (·.ns)).filter (!·.isEmpty)).getD defaultNs

end LeastPrivilege.Cluster
