import LeastPrivilege.Proofs.OwnerChain
import LeastPrivilege.Proofs.PeerBook
import LeastPrivilege.Proofs.Run

/-!
The order of resolution. Where lookups fail with faults of the program's own only, an address always
gets a peer: that of the service which was found there, or else that of the pod, or else the block
of the one address (`PeerBook.resolve_order`). `Peer.Ordered` lists the cases with all that was
looked up in each, so it says as well what is never asked: no pod once a service gave a selector,
and no owner of a pod on the host network.
-/

namespace LeastPrivilege

/-- Every lookup that failed did so with a fault of the program's own. -/
def OwnFaults (log : List (Exchange lookups)) : Prop :=
  ∀ e ∈ log, ∀ fault, e.fault? = some fault → fault.isOperational = true

namespace OwnFaults

variable {first rest : List (Exchange lookups)}

theorem left (h : OwnFaults (first ++ rest)) : OwnFaults first :=
  fun e he => h e (List.mem_append_left rest he)

theorem right (h : OwnFaults (first ++ rest)) : OwnFaults rest :=
  fun e he => h e (List.mem_append_right first he)

/-- Among answers that fail with own faults only, no others are met. -/
theorem of_answers {known : (q : lookups.Question) → lookups.Answer q}
    (h : ∀ q, OwnFaults [⟨q, known q⟩]) {log : List (Exchange lookups)}
    (hlog : ∀ e ∈ log, e.answer = known e.question) : OwnFaults log := by
  intro e he fault hfault
  obtain ⟨q, answer⟩ := e
  obtain rfl : answer = known q := hlog _ he
  exact h q _ (List.mem_singleton.mpr rfl) fault hfault

end OwnFaults

/-- Among own faults, a failed attempt gives nothing. -/
theorem ends_orNothing_own {α : Type} {P : Lookup → Prop} {notice : Fault → Notice}
    {x : Attempt lookups (Option α)} (hx : Careful P x) {log : List (Exchange lookups)}
    {r : Except Fault (Option α)} (h : (orNothing notice x).Ends log r) (hown : OwnFaults log) :
    ∃ y, x.Ends log y ∧ r = .ok y.toOption.join := by
  rcases ends_orNothing h with ⟨hends, hforeign⟩ | ⟨fault, hends, -, rfl⟩
  · cases r with
    | ok found => exact ⟨_, hends, rfl⟩
    | error fault =>
      -- What gets through is not the program's own, but then some lookup failed with it.
      have hfault := hforeign fault rfl
      obtain ⟨e, he, hraised⟩ := (hx.passes _ _ hends fault hfault).mp rfl
      exact nomatch hfault.symm.trans (hown e he fault hraised)
  · exact ⟨_, hends, rfl⟩

namespace Peer

variable {ip : Text} {log : List (Exchange lookups)}

/-- The service that an answer gives has no selector, if it gives any. -/
def NoService (answer : Except Fault (Option Service)) : Prop :=
  ∀ s, answer = .ok (some s) → s.selector = []

/-- How an address comes to its peer, with all that is looked up on the way. -/
inductive Ordered (ip : Text) : List (Exchange lookups) → Peer → Prop
  /-- A service with a selector is there. Nothing else is looked up. -/
  | service {s : Service} (h : s.selector ≠ []) :
    Ordered ip [⟨.serviceAt ip, .ok (some s)⟩] (.selector s.selector s.ns)
  /-- No pod is there. -/
  | nobody {answer : Except Fault (Option Service)} {found : Except Fault (Option Pod)}
    (hservice : NoService answer) (h : ∀ p, found ≠ .ok (some p)) :
    Ordered ip [⟨.serviceAt ip, answer⟩, ⟨.podAt ip, found⟩] (.block (ip ++ "/32"))
  /-- The pod is on the host network. Its owners are not looked up. -/
  | host {answer : Except Fault (Option Service)} {p : Pod} (hservice : NoService answer)
    (h : p.hostNetwork = true) :
    Ordered ip [⟨.serviceAt ip, answer⟩, ⟨.podAt ip, .ok (some p)⟩] (.block (ip ++ "/32"))
  /-- The pod has a selector with labels. -/
  | pod {answer : Except Fault (Option Service)} {p : Pod} {owners : List (Exchange lookups)}
    {s : Selector} (hservice : NoService answer) (hnet : p.hostNetwork = false)
    (hgiven : Selector.Given (.pod p) owners s) (h : s.labels ≠ []) :
    Ordered ip (⟨.serviceAt ip, answer⟩ :: ⟨.podAt ip, .ok (some p)⟩ :: owners)
      (.selector s.labels p.ns)
  /-- The pod has no selector, or one without labels. -/
  | unlabelled {answer : Except Fault (Option Service)} {p : Pod} {owners : List (Exchange lookups)}
    (hservice : NoService answer) (hnet : p.hostNetwork = false)
    (hchain : Selector.Chain (.pod p) owners)
    (h : ∀ s, Selector.Given (.pod p) owners s → s.labels = []) :
    Ordered ip (⟨.serviceAt ip, answer⟩ :: ⟨.podAt ip, .ok (some p)⟩ :: owners)
      (.block (ip ++ "/32"))

theorem ofSelector?_of_nil {s : Selector} (h : s.labels = []) : ofSelector? s = none := by
  unfold ofSelector?
  rw [h]
  rfl

theorem ofSelector?_of_ne_nil {s : Selector} (h : s.labels ≠ []) :
    ofSelector? s = some (.selector s.labels s.ns) :=
  if_neg fun hempty => h (List.isEmpty_iff.mp hempty)

/-- The service of an address gives a peer if it has a selector, and nothing otherwise. -/
theorem ends_ofServiceAt_own {r : Except Fault (Option Peer)} (h : (ofServiceAt ip).Ends log r)
    (hown : OwnFaults log) : ∃ answer : Except Fault (Option Service),
      log = [⟨.serviceAt ip, answer⟩] ∧
      (NoService answer ∧ r = .ok none ∨
        ∃ s : Service, answer = .ok (some s) ∧ s.selector ≠ [] ∧
          r = .ok (some (.selector s.selector s.ns))) := by
  have hcareful : Careful (fun _ => True) (Lookup.getServiceAt ip) := .getServiceAt trivial
  rcases Attempt.ends_bind.mp h with ⟨fault, rfl, hl⟩ | ⟨first, found, rest, rfl, hl, hrest⟩
  · obtain ⟨_, -, e⟩ := ends_orNothing_own hcareful hl hown
    cases e
  obtain ⟨answer, hput, hfound⟩ := ends_orNothing_own hcareful hl hown.left
  obtain rfl := Inquiry.ends_put.mp hput
  cases found with
  | none =>
    obtain ⟨rfl, rfl⟩ := Attempt.ends_pure.mp hrest
    refine ⟨answer, rfl, .inl ⟨fun s hs => ?_, rfl⟩⟩
    rw [hs] at hfound
    cases hfound
  | some s =>
    obtain ⟨rfl, rfl⟩ := ends_ofService hrest
    obtain rfl : answer = .ok (some s) := by
      rcases answer with fault | _ | other
      · cases hfound
      · cases hfound
      · cases hfound
        rfl
    by_cases hs : s.selector = []
    · refine ⟨_, rfl, .inl ⟨fun other e => ?_, ?_⟩⟩
      · cases e
        exact hs
      · rw [ofSelector?_of_nil hs]
    · exact ⟨_, rfl, .inr ⟨s, rfl, hs, by rw [ofSelector?_of_ne_nil hs]⟩⟩

/-- A pod on the host network gives the block, and another the peer of its selector. -/
theorem ends_ofPod_own {p : Pod} {r : Except Fault (Option Peer)} (h : (ofPod ip p).Ends log r)
    (hown : OwnFaults log) :
    (p.hostNetwork = true ∧ log = [] ∧ r = .ok (some (ofIp ip))) ∨
    (p.hostNetwork = false ∧ ∃ y : Except Fault Selector, (Selector.ofPod p).Ends log y ∧
      r = .ok (y.toOption.bind ofSelector?)) := by
  have hcareful : Careful (fun _ => True) do return ofSelector? (← Selector.ofIdentity (.pod p)) :=
    (careful_ofIdentity (fun _ _ _ => trivial) _).bind fun _ => .pure' _
  unfold ofPod at h
  cases hnet : p.hostNetwork with
  | true =>
    rw [hnet] at h
    exact .inl ⟨rfl, Attempt.ends_tell_pure.mp h⟩
  | false =>
    rw [hnet] at h
    refine .inr ⟨rfl, ?_⟩
    rcases Attempt.ends_bind.mp h with ⟨fault, rfl, hx⟩ | ⟨first, peer, rest, rfl, hx, hrest⟩
    · obtain ⟨_, -, e⟩ := ends_orNothing_own hcareful hx hown
      cases e
    obtain ⟨x, hends, hpeer⟩ := ends_orNothing_own hcareful hx hown.left
    have hend : rest = [] ∧ r = .ok peer := by
      cases peer with
      | some peer => exact Attempt.ends_tell_pure.mp hrest
      | none => exact Attempt.ends_pure.mp hrest
    obtain ⟨rfl, rfl⟩ := hend
    rw [List.append_nil]
    rcases Attempt.ends_bind.mp hends with ⟨fault, rfl, hs⟩ | ⟨_, s, _, rfl, hs, hdone⟩
    · exact ⟨_, hs, hpeer⟩
    · obtain ⟨rfl, rfl⟩ := Attempt.ends_pure.mp hdone
      exact ⟨.ok s, by rwa [List.append_nil], hpeer⟩

/-- The pod of an address is looked up, and gives nothing where there is none. -/
theorem ends_ofPodAt_own {r : Except Fault (Option Peer)} (h : (ofPodAt ip).Ends log r)
    (hown : OwnFaults log) :
    (∃ found : Except Fault (Option Pod), log = [⟨.podAt ip, found⟩] ∧
      (∀ p, found ≠ .ok (some p)) ∧ r = .ok none) ∨
    ∃ (p : Pod) (owners : List (Exchange lookups)),
      log = ⟨.podAt ip, .ok (some p)⟩ :: owners ∧ (ofPod ip p).Ends owners r := by
  have hcareful : Careful (fun _ => True) (Lookup.getPodAt ip) := .getPodAt trivial
  rcases Attempt.ends_bind.mp h with ⟨fault, rfl, hl⟩ | ⟨first, found, rest, rfl, hl, hrest⟩
  · obtain ⟨_, -, e⟩ := ends_orNothing_own hcareful hl hown
    cases e
  obtain ⟨answer, hput, hfound⟩ := ends_orNothing_own hcareful hl hown.left
  obtain rfl := Inquiry.ends_put.mp hput
  rcases answer with fault | _ | p
  · cases hfound
    obtain ⟨rfl, rfl⟩ := Attempt.ends_pure.mp hrest
    exact .inl ⟨_, rfl, nofun, rfl⟩
  · cases hfound
    obtain ⟨rfl, rfl⟩ := Attempt.ends_pure.mp hrest
    exact .inl ⟨_, rfl, nofun, rfl⟩
  · cases hfound
    exact .inr ⟨p, rest, rfl, hrest⟩

/-- A pod that is not on the host network gives the peer of its selector, if that has labels. -/
theorem ordered_ofSelector {answer : Except Fault (Option Service)} (hservice : NoService answer)
    {p : Pod} (hnet : p.hostNetwork = false) {owners : List (Exchange lookups)}
    {y : Except Fault Selector} (h : (Selector.ofPod p).Ends owners y) :
    Ordered ip (⟨.serviceAt ip, answer⟩ :: ⟨.podAt ip, .ok (some p)⟩ :: owners)
      ((y.toOption.bind ofSelector?).getD (ofIp ip)) := by
  have hexact := Selector.ofPod_exact h
  -- A selector without labels is as good as none, so only one with labels is told apart.
  by_cases hlabels : ∃ s, y = .ok s ∧ s.labels ≠ []
  · obtain ⟨s, rfl, hs⟩ := hlabels
    have hgiven := (hexact.ok_iff s).mp rfl
    have hns : s.ns = p.ns := by cases hgiven <;> rfl
    show Ordered ip _ ((ofSelector? s).getD _)
    rw [ofSelector?_of_ne_nil hs, hns]
    exact .pod hservice hnet hgiven hs
  · have hblock : y.toOption.bind ofSelector? = none := by
      cases y with
      | error fault => rfl
      | ok s => exact ofSelector?_of_nil (Classical.byContradiction fun hs => hlabels ⟨s, rfl, hs⟩)
    rw [hblock]
    refine .unlabelled hservice hnet hexact.chain fun s hgiven => ?_
    exact Classical.byContradiction fun hs => hlabels ⟨s, (hexact.ok_iff s).mpr hgiven, hs⟩

/-- Where no service gives a selector, the pod of the address decides. -/
theorem ordered_ofPodAt {answer : Except Fault (Option Service)} (hservice : NoService answer)
    {r : Except Fault (Option Peer)} (h : (ofPodAt ip).Ends log r) (hown : OwnFaults log) :
    ∃ peer?, r = .ok peer? ∧
      Ordered ip (⟨.serviceAt ip, answer⟩ :: log) (peer?.getD (ofIp ip)) := by
  rcases ends_ofPodAt_own h hown with ⟨found, rfl, hnobody, rfl⟩ | ⟨p, owners, rfl, hpod⟩
  · exact ⟨none, rfl, .nobody hservice hnobody⟩
  · have hrest : OwnFaults owners := fun e he => hown e (List.mem_cons_of_mem _ he)
    rcases ends_ofPod_own hpod hrest with ⟨hhost, rfl, rfl⟩ | ⟨hnet, y, hy, rfl⟩
    · exact ⟨_, rfl, .host hservice hhost⟩
    · exact ⟨_, rfl, ordered_ofSelector hservice hnet hy⟩

/-- Among own faults, an address gets a peer, in the order of resolution. -/
theorem ordered_resolve {r : Except Fault Peer} (h : (resolve ip).Ends log r)
    (hown : OwnFaults log) : ∃ peer, r = .ok peer ∧ Ordered ip log peer := by
  rcases Attempt.ends_bind.mp h with ⟨fault, -, hx⟩ | ⟨first, byService, rest, rfl, hx, hrest⟩
  · obtain ⟨_, -, ⟨-, e⟩ | ⟨_, -, -, e⟩⟩ := ends_ofServiceAt_own hx hown
    · cases e
    · cases e
  obtain ⟨answer, rfl, ⟨hservice, e⟩ | ⟨s, rfl, hs, e⟩⟩ := ends_ofServiceAt_own hx hown.left
  · cases e
    rcases Attempt.ends_bind.mp hrest with ⟨fault, -, hp⟩ | ⟨second, byPod, last, rfl, hp, hlast⟩
    · obtain ⟨_, e, -⟩ := ordered_ofPodAt hservice hp hown.right
      cases e
    · obtain ⟨_, e, hordered⟩ := ordered_ofPodAt hservice hp hown.right.left
      cases e
      have hend : last = [] ∧ r = .ok (byPod.getD (ofIp ip)) := by
        cases byPod with
        | some peer => exact Attempt.ends_pure.mp hlast
        | none => exact Attempt.ends_tell_pure.mp hlast
      obtain ⟨rfl, rfl⟩ := hend
      rw [List.append_nil]
      exact ⟨_, rfl, hordered⟩
  · cases e
    obtain ⟨rfl, rfl⟩ := Attempt.ends_pure.mp hrest
    exact ⟨_, rfl, .service hs⟩

end Peer

/-- Among own faults, an address that is new to the book gets the peer of the order. -/
theorem PeerBook.ordered_resolve {ip : Text} {log : List (Exchange lookups)}
    {r : Except Fault (Peer × PeerBook)} (h : (PeerBook.resolve [] ip).Ends log r)
    (hown : OwnFaults log) : ∃ peer, r = .ok (peer, [(ip, peer)]) ∧ Peer.Ordered ip log peer := by
  rcases Attempt.ends_bind.mp h with ⟨fault, -, hx⟩ | ⟨first, peer, rest, rfl, hx, hrest⟩
  · obtain ⟨_, e, -⟩ := Peer.ordered_resolve hx hown
    cases e
  · obtain ⟨rfl, rfl⟩ := Attempt.ends_pure.mp hrest
    obtain ⟨_, e, hordered⟩ := Peer.ordered_resolve hx hown.left
    cases e
    exact ⟨peer, rfl, by rwa [List.append_nil]⟩

/-- **An address that is new to the book gets a peer whatever its lookups give**, as long as they
fail with the program's own faults only: the peer of its service, or else of its pod, or else the
block of the address. Lookups with fixed answers come to such a peer, and so do those that are
answered differently from one time to the next. -/
theorem PeerBook.resolve_order (ip : Text) :
    (∀ known : (q : lookups.Question) → lookups.Answer q, (∀ q, OwnFaults [⟨q, known q⟩]) →
      ∃ log peer, (PeerBook.resolve [] ip).evalBy known = .ok (peer, [(ip, peer)]) ∧
        (PeerBook.resolve [] ip).Ends log (.ok (peer, [(ip, peer)])) ∧
        (∀ e ∈ log, e.answer = known e.question) ∧ Peer.Ordered ip log peer) ∧
    ∀ log r, (PeerBook.resolve [] ip).Ends log r → OwnFaults log →
      ∃ peer, r = .ok (peer, [(ip, peer)]) ∧ Peer.Ordered ip log peer := by
  refine ⟨fun known hown => ?_, fun log r h hown => ordered_resolve h hown⟩
  obtain ⟨log, hends, hanswers⟩ := (PeerBook.resolve [] ip).ends_evalBy known
  obtain ⟨peer, hpeer, hordered⟩ := ordered_resolve hends (.of_answers hown hanswers)
  rw [hpeer] at hends
  exact ⟨log, peer, hpeer, hends, hanswers, hordered⟩

namespace Peer

/-- The answers for the pod of a rollout: the services cannot be asked for, and its owners are
there. -/
def rolloutAnswers : (q : lookups.Question) → lookups.Answer q
  | .flows _ => .ok []
  | .podAt _ => .ok (some Selector.rolledPod)
  | .serviceAt ip => .error (.broker (.unreachable ip "refused"))
  | .controller _ kind _ =>
    .ok (some (if kind = "ReplicaSet" then Selector.rolledSet else Selector.rollingDeployment))
  | .pod .. => .ok none

theorem ownFaults_rolloutAnswers (q : lookups.Question) :
    OwnFaults [⟨q, rolloutAnswers q⟩] := by
  intro e he fault hfault
  cases List.mem_singleton.mp he
  cases q with
  | serviceAt ip =>
    cases hfault
    rfl
  | _ => cases hfault

/-- The lookups for the address of the pod where the Deployment cannot be had. -/
def throttledLookups : List (Exchange lookups) :=
  ⟨.serviceAt "10.0.0.7", .error (.broker (.unreachable "10.0.0.7" "refused"))⟩ ::
    ⟨.podAt "10.0.0.7", .ok (some Selector.rolledPod)⟩ ::
    Selector.rollout (.error (.reported .cluster "throttled"))

end Peer

/-- The Deployment gives the peer, and a failure to look it up gives the block. -/
theorem PeerBook.resolve_order_rollout :
    (∀ q, OwnFaults [⟨q, Peer.rolloutAnswers q⟩]) ∧ OwnFaults Peer.throttledLookups ∧
    (∃ log peer, (PeerBook.resolve [] "10.0.0.7").evalBy Peer.rolloutAnswers
        = .ok (peer, [("10.0.0.7", peer)]) ∧
      (∀ e ∈ log, e.answer = Peer.rolloutAnswers e.question) ∧
      peer = .selector [label "app" "web"] "shop" ∧ Peer.Ordered "10.0.0.7" log peer) ∧
    ∃ peer, (PeerBook.resolve [] "10.0.0.7").Ends Peer.throttledLookups
        (.ok (peer, [("10.0.0.7", peer)])) ∧
      peer = .block "10.0.0.7/32" ∧ Peer.Ordered "10.0.0.7" Peer.throttledLookups peer := by
  have hfailed : OwnFaults Peer.throttledLookups := by
    intro e he fault hfault
    simp only [Peer.throttledLookups, Selector.rollout, List.mem_cons, List.not_mem_nil,
      or_false] at he
    rcases he with rfl | rfl | rfl | rfl <;> cases hfault
    · rfl
    · rfl
  have hends : (PeerBook.resolve [] "10.0.0.7").Ends Peer.throttledLookups (.ok _) :=
    .ask _ (.note (.ask _ (.ask _ (.ask _ (.note (.note (.done _)))))))
  obtain ⟨hfixed, hany⟩ := resolve_order "10.0.0.7"
  obtain ⟨log, peer, hrun, -, hanswers, hordered⟩ := hfixed _ Peer.ownFaults_rolloutAnswers
  obtain ⟨block, e, hordered'⟩ := hany _ _ hends hfailed
  have hpeer : (PeerBook.resolve [] "10.0.0.7").evalBy Peer.rolloutAnswers
      = .ok (.selector [label "app" "web"] "shop", _) := rfl
  have hsame := congrArg (·.map Prod.fst) (hrun.symm.trans hpeer)
  cases e
  exact ⟨Peer.ownFaults_rolloutAnswers, hfailed,
    ⟨log, peer, hrun, hanswers, Except.ok.inj hsame, hordered⟩, _, hends, rfl, hordered'⟩

end LeastPrivilege
