import LeastPrivilege.Manifest.Node
import LeastPrivilege.Rule

/-!
Policies: a manifest in one of two schemas, with what it was made from. Names and labels follow
from the pod, the schema, and whether everything is denied.
-/

namespace LeastPrivilege

/-- The schemas in which a policy can be written. -/
inductive Schema where
  | standard
  | cilium
  deriving DecidableEq, Repr, Inhabited

/-- The schema's own name. -/
def Schema.name : Schema → Text
  | standard => "standard"
  | cilium => "cilium"

/-- The schema that a text names, in any case. -/
def Schema.ofText (text : Text) : Except Fault Schema :=
  let word := Text.small (Text.trim text)
  if word == "kubernetes" || word == "standard" then .ok .standard
  else if word == "cilium" then .ok .cilium
  else .error (.value (.unknownSchema word))

/-- A direction as a policy declares it. -/
def Direction.kindName : Direction → Text
  | ingress => "Ingress"
  | egress => "Egress"

/-- A policy for one pod. -/
structure Policy where
  name : Text
  ns : Text
  schema : Schema
  podSelector : Labels
  ingress : List Node
  egress : List Node
  kinds : List Direction
  labels : Labels
  defaultDeny : Bool
  manifest : Node
  deriving Repr, Inhabited

namespace Policy

/-- The version that policies are labelled with. -/
def version : Text := "0.1.0"

/-- What generated objects are labelled to be part of. -/
def partOf : Text := "flowpolicy"

/-- The label that holds the pod's name. -/
def nameLabel : Text := "app.kubernetes.io/name"

/-- What a policy is called after its pod's name. -/
def component (schema : Schema) (denyAll : Bool) : Text :=
  schema.name ++ "-policy" ++ (if denyAll then "-deny-all" else "")

/-- The name of a pod's policy. -/
def nameFor (pod : Text) (schema : Schema) (denyAll : Bool) : Text :=
  pod ++ "-" ++ component schema denyAll

/-- The labels of a generated object. -/
def labelsFor (pod component : Text) : Labels :=
  [label nameLabel pod, label "app.kubernetes.io/component" component,
    label "app.kubernetes.io/part-of" partOf, label "app.kubernetes.io/version" version]

/-- The directions that a policy enforces: those with rules, or both when there are none. -/
def enforced (ingress egress : List Rule) : List Direction :=
  if ingress.isEmpty && egress.isEmpty then [.ingress, .egress]
  else (if ingress.isEmpty then [] else [.ingress]) ++ (if egress.isEmpty then [] else [.egress])

end Policy

end LeastPrivilege
