import LeastPrivilege.Text

/-!
Recorded flows: what was seen between the profiled pod and a peer, as free text.
-/

namespace LeastPrivilege

/-- The direction of a flow, as seen from the profiled pod. -/
inductive Direction where
  | ingress
  | egress
  deriving DecidableEq, Repr, Inhabited

/-- The transport protocols that a policy can name. -/
inductive Protocol where
  | tcp
  | udp
  | sctp
  deriving DecidableEq, Repr, Inhabited

/-- The protocol as policies write it. -/
def Protocol.name : Protocol → Text
  | tcp => "TCP"
  | udp => "UDP"
  | sctp => "SCTP"

/-- One recorded flow. The target port matters for ingress, the peer port for egress; the text of
every field is as it was received. -/
structure Record where
  targetPod : Text := ""
  targetIp : Text := ""
  peerIp : Text := ""
  direction : Text := ""
  protocol : Text := "TCP"
  targetPort : Text := ""
  peerPort : Text := ""
  targetNamespace : Text := ""
  uuid : Text := ""
  deriving DecidableEq, Repr, Inhabited

end LeastPrivilege
