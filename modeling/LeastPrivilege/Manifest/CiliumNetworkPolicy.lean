import LeastPrivilege.Policy

/-!
The `cilium.io/v2` CiliumNetworkPolicy: one entry for each rule. A selector is one list of labels
that holds the namespace too, a block stands in a list of its own, and ports are written as text.
-/

namespace LeastPrivilege.CiliumNetworkPolicy

/-- The API version of the manifest. -/
def apiVersion : Text := "cilium.io/v2"

/-- The kind of the manifest. -/
def kind : Text := "CiliumNetworkPolicy"

/-- The label that holds the namespace of a peer. -/
def namespaceLabel : Text := "k8s:io.kubernetes.pod.namespace"

/-- The labels of a peer together with its namespace, if it has one. -/
def withNamespace (labels : List (Scalar × Node)) (ns : Text) : List (Scalar × Node) :=
  if ns.isEmpty then labels else Value.setKey (.text namespaceLabel) (.text ns) labels

/-- The key under which an entry names peers by labels. -/
def endpointsKey : Direction → Text
  | .ingress => "fromEndpoints"
  | .egress => "toEndpoints"

/-- The key under which an entry names blocks. -/
def blockKey : Direction → Text
  | .ingress => "fromCIDR"
  | .egress => "toCIDR"

/-- A peer as an entry names it, with its key. -/
def peerField (direction : Direction) (ip : Text) : Peer → Text × Node
  | .selector labels ns =>
    (endpointsKey direction, .items [.fields
      [("matchLabels", .map none (withNamespace (Node.ofEntriesAt (some ip) [] 0 labels) ns))]])
  | .block cidr => (blockKey direction, .items [.text cidr])

/-- A port as an entry lists it. -/
def portNode (p : Port) : Node :=
  .fields [("port", .text (Text.ofInt p.number)), ("protocol", .text p.protocol.name)]

/-- The entry of a rule with its peer. -/
def entry (direction : Direction) (rule : Rule) (peer : Peer) : Node :=
  .fields [peerField direction rule.peerIp peer,
    ("toPorts", .items [.fields [("ports", .items (rule.ports.map portNode))]])]

/-- What the specification holds besides its entries. -/
def header (pod : Text) (selector : Labels) (kinds : List Direction) : List (Text × Node) :=
  [("description", .text ("Cilium network policy for pod " ++ pod)),
    ("endpointSelector", .fields [("matchLabels", .ofLabels none selector)]),
    ("enableDefaultDeny", .fields
      [("ingress", .scalar (.bool (kinds.contains .ingress))),
        ("egress", .scalar (.bool (kinds.contains .egress)))])]

end LeastPrivilege.CiliumNetworkPolicy
