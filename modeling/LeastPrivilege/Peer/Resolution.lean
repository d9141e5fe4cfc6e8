import LeastPrivilege.Rule
import LeastPrivilege.Selector

/-!
Resolution of peers: the service that owns the address, by its selector; or else the pod, by its
own; or else a block for the one address. A pod on the host network has the address of its node,
so it is never matched by a selector but gives the block. A fault of a lookup counts as nothing
found, and an answer once given is kept.
-/

namespace LeastPrivilege

/-- Nothing, in place of a fault of the program's own, which leaves a notice. -/
def orNothing {α : Type} (notice : Fault → Notice) (x : Attempt lookups (Option α)) :
    Attempt lookups (Option α) := do
  match ← Attempt.ofInquiry x.outcome with
  | .ok r => return r
  | .error fault =>
    if fault.isOperational then
      Attempt.tell (notice fault)
      return none
    throw fault

namespace Peer

/-- The peer that a selector names, if it names any labels. -/
def ofSelector? (s : Selector) : Option Peer :=
  if s.labels.isEmpty then none else some (.selector s.labels s.ns)

/-- The notice of an identity whose selector is not to be had. -/
def unresolved (name : Text) : Fault → Notice
  | .resolution fault => .peerUnresolved name (.resolution fault)
  | fault => .ownerLookupFailed name fault

/-- The peer that an identity's selector names. -/
def ofIdentity (identity : Identity) : Attempt lookups (Option Peer) :=
  orNothing (unresolved identity.name) do return ofSelector? (← Selector.ofIdentity identity)

/-- The peer that a service at an address gives. -/
def ofService (ip : Text) (s : Service) : Attempt lookups (Option Peer) := do
  match ← ofIdentity (.service s) with
  | some peer =>
    Attempt.tell (.serviceFound ip s.ns s.name)
    return some peer
  | none =>
    Attempt.tell (.serviceUnusable ip s.ns s.name)
    return none

/-- The peer that a pod at an address gives. -/
def ofPod (ip : Text) (p : Pod) : Attempt lookups (Option Peer) := do
  if p.hostNetwork then
    Attempt.tell (.podOnHostNetwork ip p.ns p.name)
    return some (ofIp ip)
  match ← ofIdentity (.pod p) with
  | some peer =>
    Attempt.tell (.podFound ip p.ns p.name)
    return some peer
  | none => return none

/-- The peer that the service of an address gives. -/
def ofServiceAt (ip : Text) : Attempt lookups (Option Peer) := do
  match ← orNothing (.serviceLookupFailed ip) (Lookup.getServiceAt ip) with
  | some s => ofService ip s
  | none => return none

/-- The peer that the pod of an address gives. -/
def ofPodAt (ip : Text) : Attempt lookups (Option Peer) := do
  match ← orNothing (.podLookupFailed ip) (Lookup.getPodAt ip) with
  | some p => ofPod ip p
  | none => return none

/-- The peer at an address. -/
def resolve (ip : Text) : Attempt lookups Peer := do
  match ← ofServiceAt ip with
  | some peer => return peer
  | none =>
    match ← ofPodAt ip with
    | some peer => return peer
    | none =>
      Attempt.tell (.blockUsed ip)
      return ofIp ip

end Peer

/-- Peers that were resolved, by address. -/
abbrev PeerBook := List (Text × Peer)

namespace PeerBook

/-- The peer kept for an address. -/
def find? (book : PeerBook) (ip : Text) : Option Peer :=
  book.lookup ip

/-- The peer at an address, resolved on first use. -/
def resolve (book : PeerBook) (ip : Text) : Attempt lookups (Peer × PeerBook) := do
  match book.find? ip with
  | some peer => return (peer, book)
  | none =>
    let peer ← Peer.resolve ip
    return (peer, (ip, peer) :: book)

/-- Gives every rule its peer, in order. -/
def resolveRules : PeerBook → List Rule → Attempt lookups (List Rule × PeerBook)
  | book, [] => return ([], book)
  | book, rule :: rest => do
    let (peer, book) ← book.resolve rule.peerIp
    let (rules, book) ← resolveRules book rest
    return ({ rule with peer := some peer } :: rules, book)

end PeerBook

end LeastPrivilege
