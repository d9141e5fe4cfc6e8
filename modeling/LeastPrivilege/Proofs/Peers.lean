import LeastPrivilege.Proofs.StandingAnswers
import LeastPrivilege.Proofs.World

/-!
Peers in a world. `World.peerAt` says in one expression what an address stands for: the selector of
its service, or else of its pod, or else the block for the one address. Resolution never fails and
gives just that (`eval_resolve`), so all rules are settled with it (`mapM_settledBy_answer`). The
labels by which a policy selects its own pod (`World.labelsOf`) and those of a peer are never empty.
-/

namespace LeastPrivilege.World

variable {α : Type} (w : World)

/-! ## Selectors -/

/-- The selector of a pod, or the fault for which it has none. -/
def selectorOf (pod : Pod) : Except Fault Selector :=
  w.eval (Selector.ofPod pod)

theorem ownFailures_get (ns kind name : Text) :
    w.OwnFailures (Controller.get ns kind name) := by
  refine OwnFailures.bind (OwnFailures.getController ns kind name) ?_
  intro found
  cases found with
  | some c => exact OwnFailures.pure' c
  | none => exact OwnFailures.throw' rfl

theorem ownFailures_ofReplicaSet (ns name : Text) :
    w.OwnFailures (Controller.ofReplicaSet ns name) := by
  refine OwnFailures.bind (w.ownFailures_get ns _ name) ?_
  intro rs
  cases rs.owner with
  | none => exact OwnFailures.pure' rs
  | some owner =>
    show w.OwnFailures (if owner.kind = _ then _ else _)
    split
    · exact w.ownFailures_get ns _ owner.name
    · exact OwnFailures.throw' rfl

theorem ownFailures_ofOwner (ns : Text) (owner : OwnerRef) :
    w.OwnFailures (Controller.ofOwner ns owner) := by
  unfold Controller.ofOwner
  split
  · exact w.ownFailures_ofReplicaSet ns owner.name
  · split
    · exact w.ownFailures_get ns owner.kind owner.name
    · exact OwnFailures.throw' rfl

/-- A pod without a selector is so for one of the program's own faults. -/
theorem ownFailures_ofPod (pod : Pod) : w.OwnFailures (Selector.ofPod pod) := by
  unfold Selector.ofPod
  cases pod.owner with
  | none => exact OwnFailures.pure' _
  | some owner =>
    refine OwnFailures.bind (w.ownFailures_ofOwner pod.ns owner) ?_
    intro c
    show w.OwnFailures (if c.matchLabels.isEmpty then _ else _)
    split
    · exact OwnFailures.throw' rfl
    · exact OwnFailures.pure' (w := w) _

theorem ownFailures_ofService (s : Service) :
    w.OwnFailures (Selector.ofIdentity (.service s)) := by
  intro fault h
  simp only [Selector.ofIdentity, eval_ofExcept, Selector.ofService] at h
  split at h
  · cases h
    rfl
  · cases h

/-- The labels by which a policy selects its own pod: its selector's, or its name. -/
def labelsOf (pod : Pod) : Labels :=
  match w.selectorOf pod with
  | .ok s => if s.labels.isEmpty then [label "app" pod.name] else s.labels
  | .error _ => [label "app" pod.name]

theorem eval_labelsOfTarget (pod : Pod) :
    w.eval (Selector.labelsOfTarget pod) = .ok (w.labelsOf pod) := by
  have own := w.ownFailures_ofPod pod
  simp only [Selector.labelsOfTarget, eval_bind, eval_outcome, labelsOf, selectorOf]
  cases e : w.eval (Selector.ofPod pod) with
  | ok s =>
    show w.eval (if s.labels.isEmpty then _ else _) = .ok (if s.labels.isEmpty then _ else _)
    split <;> rfl
  | error fault =>
    show w.eval (if fault.isOperational then _ else _) = _
    rw [if_pos (own fault e)]
    rfl

theorem labelsOf_ne_nil (pod : Pod) : w.labelsOf pod ≠ [] := by
  unfold labelsOf
  split
  · split
    · simp
    · rename_i s _ h
      intro e
      simp [e] at h
  · simp

/-! ## One address -/

/-- The peer that the service of an address gives: its selector, if that names anything. -/
def servicePeer? (ip : Text) : Option Peer := do
  let s ← (w.serviceAt ip).toOption.join
  Peer.ofSelector? ⟨s.selector, s.ns⟩

/-- The peer that the pod of an address gives: the block on the host network, or its selector, if
that is to be had and names anything. -/
def podPeer? (ip : Text) : Option Peer := do
  let p ← (w.podAt ip).toOption.join
  if p.hostNetwork then some (.ofIp ip)
  else
    let s ← (w.selectorOf p).toOption
    Peer.ofSelector? s

/-- What an address stands for. -/
def peerAt (ip : Text) : Peer :=
  (w.servicePeer? ip).getD ((w.podPeer? ip).getD (.ofIp ip))

theorem eval_orNothing {x : Attempt lookups (Option α)} (h : w.OwnFailures x)
    (notice : Fault → Notice) : w.eval (orNothing notice x) = .ok (w.eval x).toOption.join := by
  simp only [orNothing, eval_bind, eval_outcome]
  cases e : w.eval x with
  | ok r => rfl
  | error fault =>
    show w.eval (if fault.isOperational then _ else _) = _
    rw [if_pos (h fault e)]
    rfl

theorem eval_ofIdentity {identity : Identity} (h : w.OwnFailures (Selector.ofIdentity identity)) :
    w.eval (Peer.ofIdentity identity)
      = .ok ((w.eval (Selector.ofIdentity identity)).toOption.bind Peer.ofSelector?) := by
  have hx := OwnFailures.bind h fun s => OwnFailures.pure' (w := w) (Peer.ofSelector? s)
  rw [Peer.ofIdentity, eval_orNothing w hx, eval_bind]
  cases w.eval (Selector.ofIdentity identity) <;> rfl

theorem eval_ofServiceAt (ip : Text) : w.eval (Peer.ofServiceAt ip) = .ok (w.servicePeer? ip) := by
  rw [Peer.ofServiceAt, eval_bind, eval_orNothing w (OwnFailures.getServiceAt ip),
    eval_getServiceAt, OwnFault.toOption_plain, servicePeer?]
  cases (w.serviceAt ip).toOption.join with
  | none => rfl
  | some s =>
    show w.eval (Peer.ofService ip s) = .ok (Peer.ofSelector? ⟨s.selector, s.ns⟩)
    rw [Peer.ofService, eval_bind, eval_ofIdentity w (w.ownFailures_ofService s)]
    have hs : (w.eval (Selector.ofIdentity (.service s))).toOption.bind Peer.ofSelector?
        = Peer.ofSelector? ⟨s.selector, s.ns⟩ := by
      simp only [Selector.ofIdentity, eval_ofExcept, Selector.ofService]
      cases he : s.selector.isEmpty <;> simp [he, Peer.ofSelector?, Except.toOption]
    rw [hs]
    cases Peer.ofSelector? ⟨s.selector, s.ns⟩ <;> rfl

theorem eval_ofPodAt (ip : Text) : w.eval (Peer.ofPodAt ip) = .ok (w.podPeer? ip) := by
  rw [Peer.ofPodAt, eval_bind, eval_orNothing w (OwnFailures.getPodAt ip), eval_getPodAt,
    OwnFault.toOption_plain, podPeer?]
  cases (w.podAt ip).toOption.join with
  | none => rfl
  | some p =>
    show w.eval (Peer.ofPod ip p) = .ok (if p.hostNetwork then _ else _)
    unfold Peer.ofPod
    cases p.hostNetwork with
    | true => rfl
    | false =>
      show w.eval (Peer.ofIdentity (.pod p) >>= _) = .ok ((w.selectorOf p).toOption.bind _)
      have own : w.OwnFailures (Selector.ofIdentity (.pod p)) := w.ownFailures_ofPod p
      rw [eval_bind, eval_ofIdentity w own, selectorOf]
      simp only [Selector.ofIdentity]
      cases (w.eval (Selector.ofPod p)).toOption.bind Peer.ofSelector? <;> rfl

/-- Resolution never fails, whatever becomes of its lookups. -/
theorem eval_resolve (ip : Text) : w.eval (Peer.resolve ip) = .ok (w.peerAt ip) := by
  rw [Peer.resolve, eval_bind, eval_ofServiceAt, peerAt]
  cases w.servicePeer? ip with
  | some peer => rfl
  | none =>
    show w.eval (Peer.ofPodAt ip >>= _) = .ok ((w.podPeer? ip).getD _)
    rw [eval_bind, eval_ofPodAt]
    cases w.podPeer? ip <;> rfl

/-- A peer either names labels, at least one, or is the block for the address itself. -/
theorem peerAt_cases (ip : Text) :
    (∃ labels ns, w.peerAt ip = .selector labels ns ∧ labels ≠ []) ∨ w.peerAt ip = .ofIp ip := by
  have named : ∀ {s peer}, Peer.ofSelector? s = some peer →
      ∃ labels ns, peer = .selector labels ns ∧ labels ≠ [] := by
    intro s peer h
    unfold Peer.ofSelector? at h
    split at h
    · cases h
    · rename_i hs
      cases h
      exact ⟨s.labels, s.ns, rfl, fun e => hs (by simp [e])⟩
  unfold peerAt
  cases hs : w.servicePeer? ip with
  | some peer =>
    obtain ⟨s, -, h⟩ := Option.bind_eq_some_iff.mp hs
    exact .inl (named h)
  | none =>
    cases hp : w.podPeer? ip with
    | none => exact .inr rfl
    | some peer =>
      obtain ⟨p, -, h⟩ := Option.bind_eq_some_iff.mp hp
      split at h
      · cases h
        exact .inr rfl
      · obtain ⟨s, -, h⟩ := Option.bind_eq_some_iff.mp h
        exact .inl (named h)

/-! ## All rules -/

/-- The rule with what its address stands for. -/
def settle (rule : Rule) : Rule :=
  { rule with peer := some (w.peerAt rule.peerIp) }

/-- Every address stands for something, so all rules are settled. -/
theorem mapM_settledBy_answer (rules : List Rule) :
    rules.mapM (Rule.settledBy w.answer) = .ok (rules.map w.settle) := by
  have hfound (ip : Text) : Peer.foundBy w.answer ip = .ok (w.peerAt ip) := w.eval_resolve ip
  have hsettle : Rule.withFound w.answer = w.settle := by
    funext rule
    rw [Rule.withFound, hfound]
    rfl
  rw [mapM_settledBy_ok_iff, hsettle]
  exact ⟨fun rule _ => ⟨_, hfound rule.peerIp⟩, rfl⟩

end LeastPrivilege.World
