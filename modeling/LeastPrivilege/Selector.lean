import LeastPrivilege.Lookup

/-!
Selectors: the labels that single out what owns an address. A pod under a controller is matched
by the controller's labels, for its own may change with every rollout; a ReplicaSet passes the
question on to the Deployment that owns it.
-/

namespace LeastPrivilege

/-- Labels to match, and the namespace to match them in. -/
structure Selector where
  labels : Labels
  ns : Text
  deriving Repr

/-- Controllers whose own labels select their pods. -/
def directControllers : List Text := ["StatefulSet", "DaemonSet", "Job"]

/-- A controller that must exist. -/
def Controller.get (ns kind name : Text) : Attempt lookups Controller := do
  match ← Lookup.getController ns kind name with
  | some c => return c
  | none => throw (.resolution (.missingOwner kind ns name))

/-- The controller behind a ReplicaSet: the Deployment that owns it, or itself when nothing
does. -/
def Controller.ofReplicaSet (ns name : Text) : Attempt lookups Controller := do
  let rs ← Controller.get ns "ReplicaSet" name
  match rs.owner with
  | none => return rs
  | some owner =>
    if owner.kind = "Deployment" then Controller.get ns "Deployment" owner.name
    else throw (.resolution (.unsupportedOwner owner.kind))

/-- The controller whose labels stand for the pods of an owner. -/
def Controller.ofOwner (ns : Text) (owner : OwnerRef) : Attempt lookups Controller :=
  if owner.kind = "ReplicaSet" then Controller.ofReplicaSet ns owner.name
  else if owner.kind ∈ directControllers then Controller.get ns owner.kind owner.name
  else throw (.resolution (.unsupportedOwner owner.kind))

/-- The selector of a pod. -/
def Selector.ofPod (pod : Pod) : Attempt lookups Selector := do
  match pod.owner with
  | none => return ⟨pod.labels, pod.ns⟩
  | some owner =>
    let c ← Controller.ofOwner pod.ns owner
    if c.matchLabels.isEmpty then
      throw (.resolution (.controllerWithoutLabels c.kind pod.ns c.name))
    Attempt.tell (.resolvedThrough pod.ns pod.name c.kind c.name)
    return ⟨c.matchLabels, pod.ns⟩

/-- The selector of a service. -/
def Selector.ofService (s : Service) : Except Fault Selector :=
  if s.selector.isEmpty then .error (.resolution (.serviceWithoutSelector s.ns s.name))
  else .ok ⟨s.selector, s.ns⟩

/-- The selector of an identity. -/
def Selector.ofIdentity : Identity → Attempt lookups Selector
  | .pod p => Selector.ofPod p
  | .service s => Attempt.ofExcept (Selector.ofService s)

/-- The labels by which a policy selects its own pod. They are never empty, since empty labels
would select every pod of the namespace: where the pod has no selector, its name stands in. -/
def Selector.labelsOfTarget (pod : Pod) : Attempt lookups Labels := do
  let byName := [label "app" pod.name]
  match ← Attempt.ofInquiry (Selector.ofPod pod).outcome with
  | .ok selector =>
    if selector.labels.isEmpty then
      Attempt.tell (.noSelectorLabels pod.name)
      return byName
    return selector.labels
  | .error fault =>
    if fault.isOperational then
      Attempt.tell (.selectorUnresolved pod.ns pod.name fault)
      return byName
    throw fault

end LeastPrivilege
