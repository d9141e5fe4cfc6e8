import LeastPrivilege.Policy

/-!
The `networking.k8s.io/v1` NetworkPolicy: one entry for each rule, with a `from` or `to` list of
one peer and a list of numbered ports.
-/

namespace LeastPrivilege.NetworkPolicy

/-- The API version of the manifest. -/
def apiVersion : Text := "networking.k8s.io/v1"

/-- The kind of the manifest. -/
def kind : Text := "NetworkPolicy"

/-- The label by which a namespace is selected. -/
def namespaceLabel : Text := "kubernetes.io/metadata.name"

/-- A selector by labels. -/
def matching (labels : Node) : Node :=
  .fields [("matchLabels", labels)]

/-- A peer as an entry names it. -/
def peerNode (ip : Text) : Peer → Node
  | .selector labels ns =>
    .fields [("podSelector", matching (.ofLabels (some ip) labels)),
      ("namespaceSelector", matching (.fields [(namespaceLabel, .text ns)]))]
  | .block cidr => .fields [("ipBlock", .fields [("cidr", .text cidr)])]

/-- A port as an entry lists it. -/
def portNode (p : Port) : Node :=
  .fields [("port", .scalar (.int p.number)), ("protocol", .text p.protocol.name)]

/-- The key under which an entry names its peer. -/
def peerKey : Direction → Text
  | .ingress => "from"
  | .egress => "to"

/-- The entry of a rule with its peer. -/
def entry (direction : Direction) (rule : Rule) (peer : Peer) : Node :=
  .fields [(peerKey direction, .items [peerNode rule.peerIp peer]),
    ("ports", .items (rule.ports.map portNode))]

/-- What the specification holds besides its entries. -/
def header (_pod : Text) (selector : Labels) (kinds : List Direction) : List (Text × Node) :=
  [("podSelector", matching (.ofLabels none selector)),
    ("policyTypes", .items (kinds.map fun d => .text d.kindName))]

end LeastPrivilege.NetworkPolicy
