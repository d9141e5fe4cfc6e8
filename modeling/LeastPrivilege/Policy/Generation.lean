import LeastPrivilege.Aggregation
import LeastPrivilege.Peer.Resolution
import LeastPrivilege.Policy.Rendering

/-!
Generation: from a pod's name to its policy. The pod's flows are fetched, the pod itself is found
through the first of them, and the flows are aggregated; then all peers are resolved from one
book, so that a peer met in both directions is the same in both.
-/

namespace LeastPrivilege.Policy

/-- The pod without recorded flows, looked up by name where that is possible: its policy will deny
everything. -/
def findIdle (byName : Bool) (pod : Text) (ns : Option Text) : Attempt lookups Pod := do
  match ns.filter fun n => byName && !n.isEmpty with
  | none => throw (.noTraffic pod)
  | some ns =>
    match ← Lookup.getPod ns pod with
    | none => throw (.noTraffic pod)
    | some target =>
      Attempt.tell (.noTraffic pod)
      return target

/-- The pod that a flow was recorded for. -/
def findRecorded (pod : Text) (first : Record) : Attempt lookups Pod := do
  let ip := if first.targetIp.isEmpty then first.peerIp else first.targetIp
  match ← Lookup.getPodAt ip with
  | some target => return target
  | none => throw (.unknownTarget pod ip)

/-- The pod that a policy is for. -/
def findTarget (byName : Bool) (pod : Text) (records : List Record) (ns : Option Text) :
    Attempt lookups Pod :=
  match records with
  | [] => findIdle byName pod ns
  | first :: _ => findRecorded pod first

/-- The rules of records about a pod, with the notices that reading them leaves. -/
def collect (records : List Record) (target : Pod) : Attempt lookups Aggregation := do
  let (result, notices) := aggregate records target
  Attempt.ofInquiry (.tellAll notices)
  Attempt.ofExcept result

/-- Generates the policy of a pod. `byName` says that a pod without flows may be looked up by its
name. -/
def generate (byName : Bool) (pod : Text) (schema : Schema) (ns : Option Text) :
    Attempt lookups Policy := do
  let records ← Lookup.getFlows pod
  let target ← findTarget byName pod records ns
  let rules ← collect records target
  let (ingress, book) ← PeerBook.resolveRules [] rules.ingress
  let (egress, _) ← book.resolveRules rules.egress
  let selector ← Selector.labelsOfTarget target
  Attempt.ofInquiry (.tellAll (renderNotices target ingress egress))
  let policy ← Attempt.ofExcept (render schema target selector ingress egress)
  Attempt.tell (.policyMade schema.name policy.name pod)
  return policy

end LeastPrivilege.Policy
