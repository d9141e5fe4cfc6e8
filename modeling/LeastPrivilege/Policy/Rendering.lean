import LeastPrivilege.Manifest.CiliumNetworkPolicy
import LeastPrivilege.Manifest.NetworkPolicy

/-!
Rendering: from a pod, its selector and its resolved rules to a policy in either schema. A pod
without rules gets a policy that denies everything.
-/

namespace LeastPrivilege

namespace Schema

/-- The API version of a schema's manifests. -/
def apiVersion : Schema → Text
  | standard => NetworkPolicy.apiVersion
  | cilium => CiliumNetworkPolicy.apiVersion

/-- The kind of a schema's manifests. -/
def kind : Schema → Text
  | standard => NetworkPolicy.kind
  | cilium => CiliumNetworkPolicy.kind

/-- The entry of a rule in a schema. -/
def entry : Schema → Direction → Rule → Peer → Node
  | standard => NetworkPolicy.entry
  | cilium => CiliumNetworkPolicy.entry

/-- The head of a specification in a schema. -/
def header : Schema → Text → Labels → List Direction → List (Text × Node)
  | standard => NetworkPolicy.header
  | cilium => CiliumNetworkPolicy.header

end Schema

namespace Policy

/-- The entry of a rule, which must have been resolved. -/
def entryOf (schema : Schema) (direction : Direction) (rule : Rule) : Except Fault Node :=
  match rule.peer with
  | some peer => .ok (schema.entry direction rule peer)
  | none => .error (.value (.unresolvedPeer rule.peerIp))

/-- A direction's entries under its key, where the direction is enforced. -/
def directionFields (kinds : List Direction) (direction : Direction) (key : Text)
    (entries : List Node) : List (Text × Node) :=
  if kinds.contains direction then [(key, .items entries)] else []

/-- The manifest of a policy. -/
def manifestOf (schema : Schema) (pod : Pod) (selector : Labels) (name : Text) (labels : Labels)
    (kinds : List Direction) (ingress egress : List Node) : Node :=
  .fields [("apiVersion", .text schema.apiVersion), ("kind", .text schema.kind),
    ("metadata", .fields [("name", .text name), ("namespace", .text pod.ns),
      ("labels", .ofLabels none labels)]),
    ("spec", .fields (schema.header pod.name selector kinds
      ++ directionFields kinds .ingress "ingress" ingress
      ++ directionFields kinds .egress "egress" egress))]

/-- The policy of a pod. It fails at the first rule without a peer. -/
def render (schema : Schema) (pod : Pod) (selector : Labels) (ingress egress : List Rule) :
    Except Fault Policy := do
  let denyAll := ingress.isEmpty && egress.isEmpty
  let name := nameFor pod.name schema denyAll
  let labels := labelsFor pod.name (component schema denyAll)
  let kinds := enforced ingress egress
  let ingress ← ingress.mapM (entryOf schema .ingress)
  let egress ← egress.mapM (entryOf schema .egress)
  return {
    name, ns := pod.ns, schema, podSelector := selector, ingress, egress, kinds, labels
    defaultDeny := denyAll
    manifest := manifestOf schema pod selector name labels kinds ingress egress }

/-- The notice that rendering leaves: a pod without rules is denied everything. -/
def renderNotices (pod : Pod) (ingress egress : List Rule) : List Notice :=
  if ingress.isEmpty && egress.isEmpty then [.noRules pod.name] else []

end Policy

end LeastPrivilege
