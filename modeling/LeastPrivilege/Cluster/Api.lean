import LeastPrivilege.Identity
import LeastPrivilege.Inquiry

/-!
The cluster's interface: the objects that it holds, with every part that may be missing, the
requests for them, and the local configuration that says how to reach it.
-/

namespace LeastPrivilege

/-- A reference from an object to one that owns it. -/
structure OwnerEntry where
  kind : Text
  name : Text
  controls : Bool := false
  deriving DecidableEq, Repr

/-- The status of a pod. -/
structure PodStatus where
  phase : Option Text := none
  ip : Option Text := none
  deriving DecidableEq, Repr

/-- The specification of a pod. -/
structure PodSpec where
  hostNetwork : Option Bool := none
  deriving DecidableEq, Repr

/-- A pod as the cluster holds it. -/
structure PodObject where
  ns : Option Text := none
  name : Option Text := none
  labels : Option Labels := none
  owners : Option (List OwnerEntry) := none
  status : Option PodStatus := none
  spec : Option PodSpec := none
  deriving Repr

/-- The selector of a controller. -/
structure ControllerSelector where
  matchLabels : Option Labels := none
  deriving Repr

/-- The specification of a controller. -/
structure ControllerSpec where
  selector : Option ControllerSelector := none
  deriving Repr

/-- A controller as the cluster holds it. -/
structure ControllerObject where
  owners : Option (List OwnerEntry) := none
  spec : Option ControllerSpec := none
  deriving Repr

/-- The kinds of controllers that can be read. -/
inductive ControllerKind where
  | replicaSet
  | deployment
  | statefulSet
  | daemonSet
  | job
  deriving DecidableEq, Repr

namespace ControllerKind

/-- The name of a kind. -/
def name : ControllerKind → Text
  | replicaSet => "ReplicaSet"
  | deployment => "Deployment"
  | statefulSet => "StatefulSet"
  | daemonSet => "DaemonSet"
  | job => "Job"

/-- Every kind. -/
def all : List ControllerKind := [replicaSet, deployment, statefulSet, daemonSet, job]

/-- The kind with a name. -/
def ofName? (s : Text) : Option ControllerKind :=
  all.find? fun k => k.name == s

end ControllerKind

/-- Why a request failed: the cluster refused it, or could not be reached. -/
inductive ApiFailure where
  | refused (status : Int) (reason : Text)
  | unreachable (reason : Text)
  deriving DecidableEq, Repr

/-- A context of the local configuration. -/
structure KubeContext where
  name : Option Text := none
  ns : Option Text := none
  deriving DecidableEq, Repr

/-- The contexts of the local configuration, and the one in use. -/
structure KubeContexts where
  contexts : List KubeContext := []
  active : Option KubeContext := none
  deriving DecidableEq, Repr

/-- A request for objects. -/
inductive ApiRequest where
  /-- The pods of a namespace, or of all. -/
  | pods (ns : Option Text)
  | pod (ns name : Text)
  | controller (kind : ControllerKind) (ns name : Text)
  | service (ns name : Text)
  deriving DecidableEq, Repr

/-- What a request gives. -/
def ApiRequest.Answer : ApiRequest → Type
  | pods _ => Except ApiFailure (List PodObject)
  | pod .. => Except ApiFailure PodObject
  | controller .. => Except ApiFailure ControllerObject
  | service .. => Except ApiFailure Unit

/-- What is asked of the cluster and its configuration. A configuration is loaded from within the
cluster or from a file, with a reason if that fails. -/
inductive ClusterQuestion where
  | request (timeout : Double) (what : ApiRequest)
  | loadInCluster
  | loadFile (file context : Option Text)
  | contexts (file : Option Text)
  deriving DecidableEq, Repr

/-- What the cluster answers. -/
def ClusterQuestion.Answer : ClusterQuestion → Type
  | request _ what => what.Answer
  | loadInCluster | loadFile .. => Except Text Unit
  | contexts _ => Except Text KubeContexts

/-- The interface of the cluster. -/
abbrev cluster : Interface := ⟨ClusterQuestion, ClusterQuestion.Answer⟩

end LeastPrivilege
