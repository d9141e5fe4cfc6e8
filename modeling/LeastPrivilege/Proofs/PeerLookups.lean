import LeastPrivilege.Peer.Resolution
import LeastPrivilege.Proofs.Ending

/-!
What stops the resolution of a peer. A selector is found, or not for a fault of the program's own,
unless a lookup is answered with another fault (`Careful`). Resolution takes a fault of the
program's own for nothing found (`Guarded`), so it gives a peer exactly if all faults with which its
lookups are answered are the program's own (`Peer.resolve_ok_iff`).
-/

namespace LeastPrivilege

/-- The fault of a result. -/
def faultOf? {α : Type} : Except Fault α → Option Fault
  | .ok _ => none
  | .error fault => some fault

theorem faultOf?_eq_some_iff {α : Type} {x : Except Fault α} {fault : Fault} :
    faultOf? x = some fault ↔ x = .error fault := by
  cases x with
  | ok a => exact ⟨nofun, nofun⟩
  | error found =>
    constructor
    · intro h
      rw [Option.some.inj h]
    · intro h
      rw [Except.error.inj h]
      rfl

/-- The fault with which a lookup was answered. -/
def Exchange.fault? : Exchange lookups → Option Fault
  | ⟨.flows _, answer⟩ => faultOf? answer
  | ⟨.podAt _, answer⟩ => faultOf? answer
  | ⟨.serviceAt _, answer⟩ => faultOf? answer
  | ⟨.controller .., answer⟩ => faultOf? answer
  | ⟨.pod .., answer⟩ => faultOf? answer

/-- The attempt asks these lookups only, and ends with a fault that is not the program's own exactly
if one of them was answered with it. -/
structure Careful {α : Type} (allowed : Lookup → Prop) (x : Attempt lookups α) : Prop where
  asks : ∀ log r, x.Ends log r → ∀ e ∈ log, allowed e.question
  passes : ∀ log r, x.Ends log r → ∀ fault, fault.isOperational = false →
    (r = .error fault ↔ ∃ e ∈ log, e.fault? = some fault)

/-- Where nothing of the first part fails so, something of the whole does if something of the rest
does. -/
theorem exists_fault_append {first rest : List (Exchange lookups)} {fault : Fault}
    (h : ¬ ∃ e ∈ first, e.fault? = some fault) :
    (∃ e ∈ first ++ rest, e.fault? = some fault) ↔ ∃ e ∈ rest, e.fault? = some fault := by
  constructor
  · intro ⟨e, he, hfails⟩
    cases List.mem_append.mp he with
    | inl hfirst => exact absurd ⟨e, hfirst, hfails⟩ h
    | inr hrest => exact ⟨e, hrest, hfails⟩
  · intro ⟨e, he, hfails⟩
    exact ⟨e, List.mem_append_right first he, hfails⟩

namespace Careful

variable {α β : Type} {allowed : Lookup → Prop}

/-- An attempt that asks nothing and has no fault but the program's own. -/
theorem ofExcept {r : Except Fault α} (h : ∀ fault, r = .error fault → fault.isOperational = true) :
    Careful allowed (Attempt.ofExcept r) := by
  refine ⟨Attempt.AsksOnly.ofExcept r, fun log r' hends fault hfault => ?_⟩
  obtain ⟨rfl, rfl⟩ := Attempt.ends_ofExcept.mp hends
  refine ⟨fun e => ?_, fun ⟨_, he, _⟩ => absurd he List.not_mem_nil⟩
  rw [h fault e] at hfault
  cases hfault

theorem pure' (a : α) : Careful allowed (pure a) :=
  ofExcept (r := .ok a) nofun

theorem throw' {fault : Fault} (h : fault.isOperational = true) :
    Careful (α := α) allowed (throw fault) := by
  refine ofExcept (r := .error fault) fun fault' e => ?_
  rw [← Except.error.inj e, h]

theorem tell (n : Notice) : Careful allowed (Attempt.tell n) := by
  refine ⟨Attempt.AsksOnly.tell n, fun log r hends fault _ => ?_⟩
  obtain ⟨rfl, rfl⟩ := Attempt.ends_tell.mp hends
  exact ⟨nofun, fun ⟨_, he, _⟩ => absurd he List.not_mem_nil⟩

theorem bind {x : Attempt lookups α} {f : α → Attempt lookups β} (hx : Careful allowed x)
    (hf : ∀ a, Careful allowed (f a)) : Careful allowed (x >>= f) := by
  refine ⟨Attempt.AsksOnly.bind hx.asks fun a => (hf a).asks, fun log r hends fault hfault => ?_⟩
  rcases Attempt.ends_bind.mp hends with ⟨found, rfl, h⟩ | ⟨_, a, _, rfl, hfirst, hrest⟩
  · rw [← hx.passes _ _ h fault hfault]
    simp only [Except.error.injEq]
  · have hnone := (not_congr (hx.passes _ _ hfirst fault hfault)).mp nofun
    rw [(hf a).passes _ _ hrest fault hfault, exists_fault_append hnone]

/-- One lookup, whose answer is passed on. -/
theorem ofLookup {q : Lookup} {x : Attempt lookups α} (hq : allowed q)
    (hx : ∀ log r, x.Ends log r → ∃ answer, log = [⟨q, answer⟩] ∧
      Exchange.fault? ⟨q, answer⟩ = faultOf? r) : Careful allowed x := by
  refine ⟨fun log r hends => ?_, fun log r hends fault _ => ?_⟩
  · obtain ⟨answer, rfl, -⟩ := hx log r hends
    intro e he
    rw [List.mem_singleton.mp he]
    exact hq
  · obtain ⟨answer, rfl, hanswer⟩ := hx log r hends
    rw [← faultOf?_eq_some_iff, ← hanswer]
    constructor
    · exact fun h => ⟨_, List.mem_singleton.mpr rfl, h⟩
    · intro ⟨e, he, h⟩
      rwa [List.mem_singleton.mp he] at h

theorem getServiceAt {ip : Text} (h : allowed (.serviceAt ip)) :
    Careful allowed (Lookup.getServiceAt ip) :=
  ofLookup h fun _ r hends => ⟨r, Inquiry.ends_put.mp hends, rfl⟩

theorem getPodAt {ip : Text} (h : allowed (.podAt ip)) : Careful allowed (Lookup.getPodAt ip) :=
  ofLookup h fun _ r hends => ⟨r, Inquiry.ends_put.mp hends, rfl⟩

theorem getController {ns kind name : Text} (h : allowed (.controller ns kind name)) :
    Careful allowed (Lookup.getController ns kind name) :=
  ofLookup h fun _ r hends => ⟨r, Inquiry.ends_put.mp hends, rfl⟩

end Careful

/-! ## Selectors -/

section Selectors

variable {allowed : Lookup → Prop}
  (hallowed : ∀ ns kind name, allowed (.controller ns kind name))

include hallowed

theorem careful_get (ns kind name : Text) : Careful allowed (Controller.get ns kind name) := by
  refine (Careful.getController (hallowed ns kind name)).bind fun found => ?_
  cases found with
  | some c => exact Careful.pure' c
  | none => exact Careful.throw' rfl

theorem careful_ofReplicaSet (ns name : Text) :
    Careful allowed (Controller.ofReplicaSet ns name) := by
  refine (careful_get hallowed ns _ name).bind fun rs => ?_
  cases rs.owner with
  | none => exact Careful.pure' rs
  | some owner =>
    show Careful allowed (if owner.kind = _ then _ else _)
    split
    · exact careful_get hallowed ns _ owner.name
    · exact Careful.throw' rfl

theorem careful_ofOwner (ns : Text) (owner : OwnerRef) :
    Careful allowed (Controller.ofOwner ns owner) := by
  unfold Controller.ofOwner
  split
  · exact careful_ofReplicaSet hallowed ns owner.name
  · split
    · exact careful_get hallowed ns owner.kind owner.name
    · exact Careful.throw' rfl

theorem careful_ofPod (pod : Pod) : Careful allowed (Selector.ofPod pod) := by
  unfold Selector.ofPod
  cases pod.owner with
  | none => exact Careful.pure' _
  | some owner =>
    refine (careful_ofOwner hallowed pod.ns owner).bind fun c => ?_
    show Careful allowed (if c.matchLabels.isEmpty then _ else _)
    split
    · exact Careful.throw' rfl
    · exact (Careful.tell _).bind fun _ => Careful.pure' _

theorem careful_ofIdentity (identity : Identity) :
    Careful allowed (Selector.ofIdentity identity) := by
  cases identity with
  | pod p => exact careful_ofPod hallowed p
  | service s =>
    refine Careful.ofExcept fun fault h => ?_
    unfold Selector.ofService at h
    split at h
    · cases h
      rfl
    · cases h

end Selectors

/-! ## Peers -/

/-- The attempt keeps the faults of the program's own to itself. -/
structure Guarded {α : Type} (allowed : Lookup → Prop) (x : Attempt lookups α) : Prop
    extends Careful allowed x where
  keeps : ∀ log fault, x.Ends log (.error fault) → fault.isOperational = false

namespace Guarded

variable {α β : Type} {allowed : Lookup → Prop}

theorem pure' (a : α) : Guarded allowed (pure a) :=
  ⟨Careful.pure' a, fun _ _ h => nomatch (Attempt.ends_pure.mp h).2⟩

theorem tell (n : Notice) : Guarded allowed (Attempt.tell n) :=
  ⟨Careful.tell n, fun _ _ h => nomatch (Attempt.ends_tell.mp h).2⟩

theorem bind {x : Attempt lookups α} {f : α → Attempt lookups β} (hx : Guarded allowed x)
    (hf : ∀ a, Guarded allowed (f a)) : Guarded allowed (x >>= f) := by
  refine ⟨hx.toCareful.bind fun a => (hf a).toCareful, fun log fault hends => ?_⟩
  rcases Attempt.ends_bind.mp hends with ⟨found, e, h⟩ | ⟨_, a, rest, _, _, hrest⟩
  · cases e
    exact hx.keeps log fault h
  · exact (hf a).keeps rest fault hrest

/-- Goes on after an attempt. A fault of the program's own is handled, and any other is passed
on. -/
def handled (x : Attempt lookups α) (f : α → Attempt lookups β) (g : Fault → Attempt lookups β) :
    Attempt lookups β := do
  match ← Attempt.ofInquiry x.outcome with
  | .ok a => f a
  | .error fault => if fault.isOperational then g fault else throw fault

theorem eq_handled {x : Attempt lookups α} {f : α → Attempt lookups β}
    {g : Fault → Attempt lookups β} {goOn : Except Fault α → Attempt lookups β}
    (hok : ∀ a, goOn (.ok a) = f a)
    (herror : ∀ fault, goOn (.error fault) =
      if fault.isOperational then g fault else throw fault) :
    Attempt.ofInquiry x.outcome >>= goOn = handled x f g := by
  unfold handled
  congr 1
  funext y
  cases y with
  | ok a => exact hok a
  | error fault => exact herror fault

/-- Each ending is one of the attempt, with one of what follows it. -/
theorem ends_handled {x : Attempt lookups α} {f : α → Attempt lookups β}
    {g : Fault → Attempt lookups β} {log : List (Exchange lookups)} {r : Except Fault β}
    (h : (handled x f g).Ends log r) : ∃ first rest, log = first ++ rest ∧
      ((∃ a, x.Ends first (.ok a) ∧ (f a).Ends rest r) ∨
      (∃ found, x.Ends first (.error found) ∧ found.isOperational = true ∧ (g found).Ends rest r) ∨
      (∃ found, x.Ends first (.error found) ∧ found.isOperational = false ∧ rest = [] ∧
        r = .error found)) := by
  rcases Attempt.ends_bind.mp h with ⟨_, _, hnot⟩ | ⟨first, y, rest, rfl, hfirst, hrest⟩
  · obtain ⟨_, _, e⟩ := Attempt.ends_ofInquiry.mp hnot
    cases e
  · obtain ⟨_, hx, e⟩ := Attempt.ends_ofInquiry.mp hfirst
    cases e
    refine ⟨first, rest, rfl, ?_⟩
    cases y with
    | ok a => exact .inl ⟨a, hx, hrest⟩
    | error found =>
      change Attempt.Ends (if found.isOperational then _ else _) rest r at hrest
      cases hown : found.isOperational with
      | true =>
        rw [hown, if_pos rfl] at hrest
        exact .inr (.inl ⟨found, hx, hown, hrest⟩)
      | false =>
        rw [hown, if_neg nofun] at hrest
        exact .inr (.inr ⟨found, hx, hown, Attempt.ends_throw.mp hrest⟩)

/-- An attempt is guarded where it is handled by what is. -/
theorem handle {x : Attempt lookups α} {f : α → Attempt lookups β} {g : Fault → Attempt lookups β}
    (hx : Careful allowed x) (hf : ∀ a, Guarded allowed (f a))
    (hg : ∀ fault, Guarded allowed (g fault)) : Guarded allowed (handled x f g) := by
  have hasks : Attempt.AsksOnly allowed (handled x f g) := by
    refine (Attempt.AsksOnly.ofOutcome hx.asks).bind fun y => ?_
    cases y with
    | ok a => exact (hf a).asks
    | error fault =>
      show Attempt.AsksOnly allowed (if fault.isOperational then g fault else throw fault)
      split
      · exact (hg fault).asks
      · exact Attempt.AsksOnly.throw' fault
  refine ⟨⟨hasks, fun log r h fault hfault => ?_⟩, fun log fault h => ?_⟩
  · obtain ⟨first, rest, rfl, hcases⟩ := ends_handled h
    rcases hcases with ⟨a, hx', hf'⟩ | ⟨found, hx', hown, hg'⟩ | ⟨found, hx', -, rfl, rfl⟩
    · have hnone := (not_congr (hx.passes _ _ hx' fault hfault)).mp nofun
      rw [(hf a).passes _ _ hf' fault hfault, exists_fault_append hnone]
    · have hnot : (Except.error found : Except Fault α) ≠ .error fault := by
        intro e
        cases e
        exact nomatch hfault.symm.trans hown
      have hnone := (not_congr (hx.passes _ _ hx' fault hfault)).mp hnot
      rw [(hg found).passes _ _ hg' fault hfault, exists_fault_append hnone]
    · rw [List.append_nil, ← hx.passes _ _ hx' fault hfault]
      simp only [Except.error.injEq]
  · obtain ⟨first, rest, rfl, hcases⟩ := ends_handled h
    rcases hcases with ⟨a, -, hf'⟩ | ⟨found, -, -, hg'⟩ | ⟨found, -, hnot, -, e⟩
    · exact (hf a).keeps _ _ hf'
    · exact (hg found).keeps _ _ hg'
    · cases e
      exact hnot

/-- A fault of the program's own counts as nothing found. -/
theorem orNothing {notice : Fault → Notice} {x : Attempt lookups (Option α)}
    (hx : Careful allowed x) : Guarded allowed (orNothing notice x) := by
  have hhandled : LeastPrivilege.orNothing notice x
      = handled x pure fun fault => Attempt.tell (notice fault) >>= fun _ => pure none :=
    eq_handled (fun _ => rfl) fun _ => rfl
  rw [hhandled]
  exact handle hx (fun found => pure' found) fun fault =>
    (tell (notice fault)).bind fun _ => pure' none

end Guarded

/-- The labels of a pod are to be had, unless a controller is looked up with a fault that is not the
program's own. -/
theorem guarded_labelsOfTarget {allowed : Lookup → Prop}
    (hallowed : ∀ ns kind name, allowed (.controller ns kind name)) (pod : Pod) :
    Guarded allowed (Selector.labelsOfTarget pod) := by
  have hhandled : Selector.labelsOfTarget pod = Guarded.handled (Selector.ofPod pod)
      (fun s => if s.labels.isEmpty then
        Attempt.tell (.noSelectorLabels pod.name) >>= fun _ => pure [label "app" pod.name]
        else pure s.labels)
      (fun fault => Attempt.tell (.selectorUnresolved pod.ns pod.name fault) >>= fun _ =>
        pure [label "app" pod.name]) :=
    Guarded.eq_handled (fun _ => rfl) fun _ => rfl
  rw [hhandled]
  refine Guarded.handle (careful_ofPod hallowed pod) (fun s => ?_) fun fault => ?_
  · split
    · exact (Guarded.tell _).bind fun _ => Guarded.pure' _
    · exact Guarded.pure' _
  · exact (Guarded.tell _).bind fun _ => Guarded.pure' _

namespace Peer

variable {ip : Text}

/-- What is asked to resolve an address: its service, its pod, and controllers. -/
def Asks (ip : Text) : Lookup → Prop
  | .serviceAt address | .podAt address => address = ip
  | .controller .. => True
  | _ => False

theorem guarded_ofIdentity (identity : Identity) :
    Guarded (Asks ip) (ofIdentity identity) :=
  Guarded.orNothing ((careful_ofIdentity (fun _ _ _ => trivial) identity).bind
    fun s => Careful.pure' (ofSelector? s))

theorem guarded_ofServiceAt : Guarded (Asks ip) (ofServiceAt ip) := by
  have lookup : Careful (Asks ip) (Lookup.getServiceAt ip) := Careful.getServiceAt rfl
  refine (Guarded.orNothing lookup).bind fun found => ?_
  cases found with
  | none => exact Guarded.pure' none
  | some s =>
    refine (guarded_ofIdentity (.service s)).bind fun peer => ?_
    cases peer with
    | some peer => exact (Guarded.tell _).bind fun _ => Guarded.pure' (some peer)
    | none => exact (Guarded.tell _).bind fun _ => Guarded.pure' none

theorem guarded_ofPodAt : Guarded (Asks ip) (ofPodAt ip) := by
  have lookup : Careful (Asks ip) (Lookup.getPodAt ip) := Careful.getPodAt rfl
  refine (Guarded.orNothing lookup).bind fun found => ?_
  cases found with
  | none => exact Guarded.pure' none
  | some p =>
    show Guarded (Asks ip) (if p.hostNetwork then _ else _)
    split
    · exact (Guarded.tell _).bind fun _ => Guarded.pure' _
    · refine (guarded_ofIdentity (.pod p)).bind fun peer => ?_
      cases peer with
      | some peer => exact (Guarded.tell _).bind fun _ => Guarded.pure' (some peer)
      | none => exact Guarded.pure' none

theorem guarded_resolve : Guarded (Asks ip) (resolve ip) := by
  refine guarded_ofServiceAt.bind fun byService => ?_
  cases byService with
  | some peer => exact Guarded.pure' peer
  | none =>
    refine guarded_ofPodAt.bind fun byPod => ?_
    cases byPod with
    | some peer => exact Guarded.pure' peer
    | none => exact (Guarded.tell _).bind fun _ => Guarded.pure' _

/-- Whatever else is asked, the service of the address is. -/
theorem resolve_asks_service {asked : List (Exchange lookups)} {r : Except Fault Peer}
    (h : (resolve ip).Ends asked r) : ∃ answer, ⟨.serviceAt ip, answer⟩ ∈ asked := by
  obtain ⟨first, _, hfirst, hasked⟩ := Attempt.Ends.first h
  obtain ⟨lookup, _, hlookup, hwithin⟩ := Attempt.Ends.first hfirst
  obtain ⟨put, _, hput, hsub⟩ := Attempt.Ends.first hlookup
  obtain ⟨answer, hanswer, _⟩ := Attempt.ends_ofInquiry.mp hput
  obtain rfl := Inquiry.ends_put.mp hanswer
  exact ⟨answer, hasked _ (hwithin _ (hsub _ (List.mem_singleton.mpr rfl)))⟩

/-- Resolution gives a peer exactly if no lookup is answered with a fault that is not the program's
own. -/
theorem resolve_ok_iff {asked : List (Exchange lookups)} {r : Except Fault Peer}
    (h : (resolve ip).Ends asked r) : (∃ peer, r = .ok peer) ↔
      ∀ e ∈ asked, ∀ fault, e.fault? = some fault → fault.isOperational = true := by
  constructor
  · intro ⟨peer, hr⟩ e he fault hfails
    cases hfault : fault.isOperational with
    | true => rfl
    | false =>
      have hstop := (guarded_resolve.passes _ _ h fault hfault).mpr ⟨e, he, hfails⟩
      exact nomatch hr.symm.trans hstop
  · intro hall
    cases r with
    | ok peer => exact ⟨peer, rfl⟩
    | error fault =>
      have hfault := guarded_resolve.keeps _ _ h
      obtain ⟨e, he, hfails⟩ := (guarded_resolve.passes _ _ h fault hfault).mp rfl
      exact nomatch hfault.symm.trans (hall e he fault hfails)

end Peer

end LeastPrivilege
