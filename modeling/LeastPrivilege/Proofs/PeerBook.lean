import LeastPrivilege.Policy.Generation
import LeastPrivilege.Proofs.PeerLookups

/-!
The book of peers over a run. Whoever uses a book asks for addresses and hands it rules, in any
order, while the answers to lookups may change from one to the next. However the uses are mixed,
they resolve their addresses one after the other (`PeerBook.serveAll_eq`), and such a run is a
sequence of turns (`PeerBook.Turns`): the first turn of an address looks it up, with a few lookups
in a fixed order (`Peer.FirstLookups`), and every later one asks nothing and gives the same peer
(`PeerBook.answers_kept`).
-/

namespace LeastPrivilege

/-! ## How much is asked -/

/-- The attempt asks at most so many lookups, whatever they are answered with. -/
def AsksAtMost {α : Type} (n : Nat) (x : Attempt lookups α) : Prop :=
  ∀ log r, x.Ends log r → log.length ≤ n

namespace AsksAtMost

variable {α β : Type} {m n : Nat}

theorem mono {x : Attempt lookups α} (hx : AsksAtMost m x) (h : m ≤ n) : AsksAtMost n x :=
  fun log r hends => Nat.le_trans (hx log r hends) h

theorem of_nil {x : Attempt lookups α} (h : ∀ log r, x.Ends log r → log = []) : AsksAtMost 0 x := by
  intro log r hends
  rw [h log r hends]
  exact Nat.le_refl 0

theorem pure' (a : α) : AsksAtMost 0 (pure a) :=
  of_nil fun _ _ h => (Attempt.ends_pure.mp h).1

theorem throw' (fault : Fault) : AsksAtMost (α := α) 0 (throw fault) :=
  of_nil fun _ _ h => (Attempt.ends_throw.mp h).1

theorem tell (notice : Notice) : AsksAtMost 0 (Attempt.tell notice) :=
  of_nil fun _ _ h => (Attempt.ends_tell.mp h).1

theorem getController (ns kind name : Text) : AsksAtMost 1 (Lookup.getController ns kind name) := by
  intro log r hends
  rw [Inquiry.ends_put.mp hends]
  exact Nat.le_refl 1

theorem bind {x : Attempt lookups α} {f : α → Attempt lookups β} (hx : AsksAtMost m x)
    (hf : ∀ a, AsksAtMost n (f a)) : AsksAtMost (m + n) (x >>= f) := by
  intro log r hends
  rcases Attempt.ends_bind.mp hends with ⟨_, -, h⟩ | ⟨first, a, rest, rfl, hfirst, hrest⟩
  · have := hx _ _ h
    omega
  · have hm := hx _ _ hfirst
    have hn := hf a _ _ hrest
    rw [List.length_append]
    omega

end AsksAtMost

theorem asksAtMost_get (ns kind name : Text) : AsksAtMost 1 (Controller.get ns kind name) := by
  refine (AsksAtMost.getController ns kind name).bind (n := 0) fun found => ?_
  cases found with
  | some c => exact AsksAtMost.pure' c
  | none => exact AsksAtMost.throw' _

/-- A controller takes at most two lookups: a ReplicaSet and the Deployment above it. -/
theorem asksAtMost_ofOwner (ns : Text) (owner : OwnerRef) :
    AsksAtMost 2 (Controller.ofOwner ns owner) := by
  unfold Controller.ofOwner
  split
  · refine (asksAtMost_get ns _ owner.name).bind (n := 1) fun rs => ?_
    cases rs.owner with
    | none => exact (AsksAtMost.pure' rs).mono (Nat.zero_le 1)
    | some above =>
      show AsksAtMost 1 (if above.kind = _ then _ else _)
      split
      · exact asksAtMost_get ns _ above.name
      · exact (AsksAtMost.throw' _).mono (Nat.zero_le 1)
  · split
    · exact (asksAtMost_get ns owner.kind owner.name).mono (by decide)
    · exact (AsksAtMost.throw' _).mono (Nat.zero_le 2)

theorem asksAtMost_ofPod (pod : Pod) : AsksAtMost 2 (Selector.ofPod pod) := by
  unfold Selector.ofPod
  cases pod.owner with
  | none => exact (AsksAtMost.pure' _).mono (Nat.zero_le 2)
  | some owner =>
    refine (asksAtMost_ofOwner pod.ns owner).bind (n := 0) fun c => ?_
    show AsksAtMost 0 (if c.matchLabels.isEmpty then _ else _)
    split
    · exact AsksAtMost.throw' _
    · exact (AsksAtMost.tell _).bind (n := 0) fun _ => AsksAtMost.pure' _

/-! ## The lookups of an address -/

/-- What is looked up for an address: its service; then its pod, unless the service gives a
selector; then at most two controllers. -/
inductive Peer.FirstLookups (ip : Text) : List (Exchange lookups) → Prop
  | service (answer : Lookup.Answer (.serviceAt ip)) : FirstLookups ip [⟨.serviceAt ip, answer⟩]
  | pod (answer : Lookup.Answer (.serviceAt ip)) (found : Lookup.Answer (.podAt ip))
    (owners : List (Exchange lookups)) (hnone : ∀ s, answer = .ok (some s) → s.selector = [])
    (howners : ∀ e ∈ owners, ∃ ns kind name, e.question = .controller ns kind name)
    (htwo : owners.length ≤ 2) :
    FirstLookups ip (⟨.serviceAt ip, answer⟩ :: ⟨.podAt ip, found⟩ :: owners)

variable {α : Type} {ip : Text}

/-- A fault of the program's own is taken for nothing, and nothing else is changed. -/
theorem ends_orNothing {notice : Fault → Notice} {x : Attempt lookups (Option α)}
    {log : List (Exchange lookups)} {r : Except Fault (Option α)}
    (h : (orNothing notice x).Ends log r) : (x.Ends log r ∧
        ∀ fault, r = .error fault → fault.isOperational = false) ∨
      ∃ fault, x.Ends log (.error fault) ∧ fault.isOperational = true ∧ r = .ok none := by
  have hhandled : orNothing notice x = Guarded.handled x pure fun fault =>
      Attempt.tell (notice fault) >>= fun _ => pure none :=
    Guarded.eq_handled (fun _ => rfl) fun _ => rfl
  rw [hhandled] at h
  obtain ⟨first, rest, rfl, hcases⟩ := Guarded.ends_handled h
  rcases hcases with ⟨a, hx, hrest⟩ | ⟨fault, hx, hown, hrest⟩ | ⟨fault, hx, hforeign, rfl, rfl⟩
  · obtain ⟨rfl, rfl⟩ := Attempt.ends_pure.mp hrest
    exact .inl ⟨by rwa [List.append_nil], nofun⟩
  · obtain ⟨rfl, rfl⟩ := Attempt.ends_tell_pure.mp hrest
    exact .inr ⟨fault, by rwa [List.append_nil], hown, rfl⟩
  · refine .inl ⟨by rwa [List.append_nil], fun other e => ?_⟩
    cases e
    exact hforeign

theorem AsksAtMost.orNothing {n : Nat} {notice : Fault → Notice} {x : Attempt lookups (Option α)}
    (hx : AsksAtMost n x) : AsksAtMost n (orNothing notice x) := by
  intro log r h
  rcases ends_orNothing h with ⟨h, -⟩ | ⟨_, h, -, -⟩
  · exact hx _ _ h
  · exact hx _ _ h

namespace Peer

/-- The peer of a service is that of its selector, and nothing is asked for it. -/
theorem ends_ofIdentity_service {s : Service} {log : List (Exchange lookups)}
    {r : Except Fault (Option Peer)} (h : (ofIdentity (.service s)).Ends log r) :
    log = [] ∧ r = .ok (ofSelector? ⟨s.selector, s.ns⟩) := by
  have hempty : ∀ {fault}, Selector.ofService s = .error fault →
      fault.isOperational = true ∧ ofSelector? ⟨s.selector, s.ns⟩ = none := by
    intro fault e
    unfold Selector.ofService at e
    split at e
    · rename_i hs
      cases e
      exact ⟨rfl, if_pos hs⟩
    · cases e
  have hgiven : ∀ {selector}, Selector.ofService s = .ok selector →
      selector = ⟨s.selector, s.ns⟩ := by
    intro selector e
    unfold Selector.ofService at e
    split at e
    · cases e
    · exact (Except.ok.inj e).symm
  rcases ends_orNothing h with ⟨hx, hforeign⟩ | ⟨fault, hx, -, rfl⟩
  · rcases Attempt.ends_bind.mp hx with ⟨fault, rfl, hs⟩ | ⟨_, selector, _, rfl, hs, hrest⟩
    · obtain ⟨-, e⟩ := Attempt.ends_ofExcept.mp hs
      cases (hforeign fault rfl).symm.trans (hempty e.symm).1
    · obtain ⟨rfl, e⟩ := Attempt.ends_ofExcept.mp hs
      rw [hgiven e.symm] at hrest
      exact Attempt.ends_pure.mp hrest
  · rcases Attempt.ends_bind.mp hx with ⟨fault, e, hs⟩ | ⟨_, selector, _, rfl, hs, hrest⟩
    · obtain ⟨rfl, e⟩ := Attempt.ends_ofExcept.mp hs
      exact ⟨rfl, by rw [(hempty e.symm).2]⟩
    · cases (Attempt.ends_pure.mp hrest).2

/-- A service asks for nothing more, and one with a selector gives a peer. -/
theorem ends_ofService {s : Service} {log : List (Exchange lookups)}
    {r : Except Fault (Option Peer)} (h : (ofService ip s).Ends log r) :
    log = [] ∧ r = .ok (ofSelector? ⟨s.selector, s.ns⟩) := by
  rcases Attempt.ends_bind.mp h with ⟨fault, -, hs⟩ | ⟨_, peer, rest, rfl, hs, hrest⟩
  · cases (ends_ofIdentity_service hs).2
  · obtain ⟨rfl, e⟩ := ends_ofIdentity_service hs
    rw [← Except.ok.inj e]
    cases peer with
    | some peer => exact Attempt.ends_tell_pure.mp hrest
    | none => exact Attempt.ends_tell_pure.mp hrest

/-- The service of an address takes one lookup; it gives no peer only without a selector. -/
theorem ends_ofServiceAt {log : List (Exchange lookups)} {r : Except Fault (Option Peer)}
    (h : (ofServiceAt ip).Ends log r) : ∃ answer : Lookup.Answer (.serviceAt ip),
      log = [⟨.serviceAt ip, answer⟩] ∧
      (r = .ok none → ∀ s, answer = .ok (some s) → s.selector = []) := by
  rcases Attempt.ends_bind.mp h with ⟨fault, rfl, hl⟩ | ⟨_, found, rest, rfl, hl, hrest⟩
  · rcases ends_orNothing hl with ⟨hput, -⟩ | ⟨_, -, -, e⟩
    · exact ⟨_, Inquiry.ends_put.mp hput, nofun⟩
    · cases e
  · rcases ends_orNothing hl with ⟨hput, -⟩ | ⟨fault, hput, -, e⟩
    · obtain rfl := Inquiry.ends_put.mp hput
      cases found with
      | none =>
        obtain ⟨rfl, rfl⟩ := Attempt.ends_pure.mp hrest
        exact ⟨_, rfl, fun _ s e => by cases e⟩
      | some s =>
        obtain ⟨rfl, rfl⟩ := ends_ofService hrest
        refine ⟨_, rfl, fun e other e' => ?_⟩
        cases e'
        unfold ofSelector? at e
        split at e
        · rename_i hs
          exact List.isEmpty_iff.mp hs
        · cases e
    · cases e
      obtain rfl := Inquiry.ends_put.mp hput
      obtain ⟨rfl, rfl⟩ := Attempt.ends_pure.mp hrest
      exact ⟨_, rfl, fun _ s e => by cases e⟩

/-- A pod takes lookups of controllers only, and at most two. -/
theorem ends_ofPod {p : Pod} {log : List (Exchange lookups)} {r : Except Fault (Option Peer)}
    (h : (ofPod ip p).Ends log r) :
    (∀ e ∈ log, ∃ ns kind name, e.question = .controller ns kind name) ∧ log.length ≤ 2 := by
  -- Which lookups there are is known from how a peer is guarded, how many from their count.
  let isController (q : Lookup) : Prop := ∃ ns kind name, q = .controller ns kind name
  have hcareful : Careful isController (Selector.ofIdentity (.pod p)) :=
    careful_ofIdentity (fun ns kind name => ⟨ns, kind, name, rfl⟩) (.pod p)
  have hidentity : Guarded isController (ofIdentity (.pod p)) :=
    Guarded.orNothing (hcareful.bind fun selector => Careful.pure' (ofSelector? selector))
  have hfew : AsksAtMost 2 (ofIdentity (.pod p)) :=
    AsksAtMost.orNothing ((asksAtMost_ofPod p).bind (n := 0) fun _ => AsksAtMost.pure' _)
  change Attempt.Ends (if p.hostNetwork then _ else _) log r at h
  split at h
  · obtain ⟨rfl, -⟩ := Attempt.ends_tell_pure.mp h
    exact ⟨nofun, Nat.zero_le 2⟩
  · rcases Attempt.ends_bind.mp h with ⟨_, -, hx⟩ | ⟨_, peer, rest, rfl, hx, hrest⟩
    · exact ⟨hidentity.asks _ _ hx, hfew _ _ hx⟩
    · have hquiet : rest = [] := by
        cases peer with
        | some peer => exact (Attempt.ends_tell_pure.mp hrest).1
        | none => exact (Attempt.ends_pure.mp hrest).1
      rw [hquiet, List.append_nil]
      exact ⟨hidentity.asks _ _ hx, hfew _ _ hx⟩

/-- The pod of an address takes one lookup, and at most two of controllers. -/
theorem ends_ofPodAt {log : List (Exchange lookups)} {r : Except Fault (Option Peer)}
    (h : (ofPodAt ip).Ends log r) : ∃ (found : Lookup.Answer (.podAt ip)) (owners : _),
      log = ⟨.podAt ip, found⟩ :: owners ∧
      (∀ e ∈ owners, ∃ ns kind name, e.question = .controller ns kind name) ∧
      owners.length ≤ 2 := by
  rcases Attempt.ends_bind.mp h with ⟨fault, rfl, hl⟩ | ⟨_, found, rest, rfl, hl, hrest⟩
  · rcases ends_orNothing hl with ⟨hput, -⟩ | ⟨_, -, -, e⟩
    · exact ⟨_, [], Inquiry.ends_put.mp hput, nofun, Nat.zero_le 2⟩
    · cases e
  · obtain ⟨answer, rfl⟩ : ∃ answer, _ = [Exchange.mk (I := lookups) (.podAt ip) answer] := by
      rcases ends_orNothing hl with ⟨hput, -⟩ | ⟨_, hput, -, -⟩
      · exact ⟨_, Inquiry.ends_put.mp hput⟩
      · exact ⟨_, Inquiry.ends_put.mp hput⟩
    cases found with
    | none =>
      obtain ⟨rfl, -⟩ := Attempt.ends_pure.mp hrest
      exact ⟨answer, [], rfl, nofun, Nat.zero_le 2⟩
    | some p => exact ⟨answer, rest, rfl, ends_ofPod hrest⟩

theorem resolve_lookups {log : List (Exchange lookups)} {r : Except Fault Peer}
    (h : (resolve ip).Ends log r) : FirstLookups ip log := by
  rcases Attempt.ends_bind.mp h with ⟨_, -, hservice⟩ | ⟨first, byService, rest, rfl, hfirst, hrest⟩
  · obtain ⟨answer, rfl, -⟩ := ends_ofServiceAt hservice
    exact .service answer
  obtain ⟨answer, rfl, hnone⟩ := ends_ofServiceAt hfirst
  cases byService with
  | some peer =>
    obtain ⟨rfl, -⟩ := Attempt.ends_pure.mp hrest
    exact .service answer
  | none =>
    rcases Attempt.ends_bind.mp hrest with ⟨_, -, hpod⟩ | ⟨_, byPod, last, rfl, hpod, hlast⟩
    · obtain ⟨found, owners, rfl, howners, htwo⟩ := ends_ofPodAt hpod
      exact .pod answer found owners (hnone rfl) howners htwo
    obtain ⟨found, owners, rfl, howners, htwo⟩ := ends_ofPodAt hpod
    have hquiet : last = [] := by
      cases byPod with
      | some peer => exact (Attempt.ends_pure.mp hlast).1
      | none => exact (Attempt.ends_tell_pure.mp hlast).1
    rw [hquiet, List.append_nil]
    exact .pod answer found owners (hnone rfl) howners htwo

end Peer

/-! ## Uses of a book -/

/-- A use of a book: for one address, or for rules. -/
inductive PeerRequest where
  | address (ip : Text)
  | rules (given : List Rule)

/-- The addresses that a use is about. -/
def PeerRequest.addresses : PeerRequest → List Text
  | .address ip => [ip]
  | .rules given => given.map (·.peerIp)

/-- The addresses of rules with the peers that they carry. -/
def Rule.answers (rules : List Rule) : List (Text × Option Peer) :=
  rules.map fun rule => (rule.peerIp, rule.peer)

namespace PeerBook

/-- The peers that a use gives to its addresses, and the book after it. -/
def serve (book : PeerBook) :
    PeerRequest → Attempt lookups (List (Text × Option Peer) × PeerBook)
  | .address ip => do
    let (peer, book) ← book.resolve ip
    return ([(ip, some peer)], book)
  | .rules rules => do
    let (rules, book) ← book.resolveRules rules
    return (Rule.answers rules, book)

/-- Any number of uses, one after the other. -/
def serveAll : PeerBook → List PeerRequest → Attempt lookups (List (Text × Option Peer) × PeerBook)
  | book, [] => return ([], book)
  | book, request :: rest => do
    let (answers, book) ← book.serve request
    let (more, book) ← book.serveAll rest
    return (answers ++ more, book)

/-- Addresses resolved one after the other. -/
def resolveEach : PeerBook → List Text → Attempt lookups (List (Text × Option Peer) × PeerBook)
  | book, [] => return ([], book)
  | book, ip :: rest => do
    let (peer, book) ← book.resolve ip
    let (answers, book) ← book.resolveEach rest
    return ((ip, some peer) :: answers, book)

theorem resolveRules_answers : ∀ (rules : List Rule) (book : PeerBook),
    (do let (rules, next) ← book.resolveRules rules; return (Rule.answers rules, next))
      = book.resolveEach (rules.map (·.peerIp))
  | [], _ => rfl
  | rule :: rest, book => by
    rw [List.map_cons, resolveEach, resolveRules]
    simp only [bind_assoc, pure_bind, ← resolveRules_answers rest]
    rfl

theorem serve_eq (book : PeerBook) (request : PeerRequest) :
    book.serve request = book.resolveEach request.addresses := by
  cases request with
  | address ip => simp only [serve, PeerRequest.addresses, resolveEach, pure_bind]
  | rules given => exact resolveRules_answers given book

theorem resolveEach_append (later : List Text) : ∀ (earlier : List Text) (book : PeerBook),
    book.resolveEach (earlier ++ later) = (do
      let (answers, book) ← book.resolveEach earlier
      let (more, book) ← book.resolveEach later
      return (answers ++ more, book))
  | [], book => by
    simp only [List.nil_append, resolveEach, pure_bind]
    exact (bind_pure _).symm
  | ip :: rest, book => by
    simp only [List.cons_append, resolveEach, resolveEach_append later rest, bind_assoc, pure_bind]

/-- However they are mixed, uses resolve their addresses one after the other. -/
theorem serveAll_eq : ∀ (requests : List PeerRequest) (book : PeerBook),
    book.serveAll requests = book.resolveEach (requests.flatMap (·.addresses))
  | [], _ => rfl
  | request :: rest, book => by
    rw [List.flatMap_cons, resolveEach_append, serveAll, serve_eq]
    simp only [serveAll_eq rest]

/-! ## Turns -/

/-- An address that was resolved, with what was asked for it and the peer that it got. -/
structure Turn where
  ip : Text
  asked : List (Exchange lookups)
  peer : Peer

/-- The turns lead from one book to another: an address that is kept gives its peer again, and any
other is resolved and then kept. -/
inductive Turns : PeerBook → List Turn → PeerBook → Prop
  | nil (book : PeerBook) : Turns book [] book
  | kept {book next : PeerBook} {t : Turn} {rest : List Turn}
    (hkept : book.find? t.ip = some t.peer) (hquiet : t.asked = [])
    (hrest : Turns book rest next) : Turns book (t :: rest) next
  | first {book next : PeerBook} {t : Turn} {rest : List Turn} (hnew : book.find? t.ip = none)
    (hends : (Peer.resolve t.ip).Ends t.asked (.ok t.peer))
    (hrest : Turns ((t.ip, t.peer) :: book) rest next) : Turns book (t :: rest) next

theorem find?_cons (book : PeerBook) (ip other : Text) (peer : Peer) :
    find? ((ip, peer) :: book) other = if other = ip then some peer else book.find? other := by
  rw [find?, List.lookup_cons]
  by_cases h : other = ip
  · rw [if_pos h, beq_iff_eq.mpr h]
  · rw [if_neg h, beq_eq_false_iff_ne.mpr h, find?]

/-- One address, on any book. -/
theorem ends_resolve {book : PeerBook} {ip : Text} {log : List (Exchange lookups)}
    {r : Except Fault (Peer × PeerBook)} (h : (book.resolve ip).Ends log r) :
    (∃ peer, book.find? ip = some peer ∧ log = [] ∧ r = .ok (peer, book)) ∨
    (book.find? ip = none ∧ ∃ y, (Peer.resolve ip).Ends log y ∧
      r = y.map fun peer => (peer, (ip, peer) :: book)) := by
  unfold PeerBook.resolve at h
  cases hfound : book.find? ip with
  | some peer =>
    rw [hfound] at h
    obtain ⟨rfl, rfl⟩ := Attempt.ends_pure.mp h
    exact .inl ⟨peer, rfl, rfl, rfl⟩
  | none =>
    rw [hfound] at h
    rcases Attempt.ends_bind.mp h with ⟨fault, rfl, hx⟩ | ⟨_, peer, _, rfl, hx, hrest⟩
    · exact .inr ⟨rfl, _, hx, rfl⟩
    · obtain ⟨rfl, rfl⟩ := Attempt.ends_pure.mp hrest
      exact .inr ⟨rfl, _, by rwa [List.append_nil], rfl⟩

/-- What a sequence of turns asked. -/
def askedIn (turns : List Turn) : List (Exchange lookups) :=
  turns.flatMap (·.asked)

/-- The addresses of turns with the peers that they got. -/
def answersOf (turns : List Turn) : List (Text × Option Peer) :=
  turns.map fun t => (t.ip, some t.peer)

theorem askedIn_cons (t : Turn) (turns : List Turn) :
    askedIn (t :: turns) = t.asked ++ askedIn turns :=
  rfl

/-- The run over the addresses is a sequence of turns, up to the last address or to one whose
resolution fails. -/
def InTurns (book : PeerBook) (ips : List Text) (log : List (Exchange lookups)) :
    Except Fault (List (Text × Option Peer) × PeerBook) → Prop
  | .ok (answers, next) => ∃ turns, Turns book turns next ∧ turns.map (·.ip) = ips ∧
      log = askedIn turns ∧ answers = answersOf turns
  | .error fault => ∃ turns next ip later asked, Turns book turns next ∧
      ips = turns.map (·.ip) ++ ip :: later ∧ next.find? ip = none ∧
      log = askedIn turns ++ asked ∧ (Peer.resolve ip).Ends asked (.error fault)

/-- A turn before all others. -/
theorem InTurns.cons {book middle : PeerBook} {t : Turn} {ips : List Text}
    {log : List (Exchange lookups)} {r : Except Fault (List (Text × Option Peer) × PeerBook)}
    (hturn : ∀ {turns next}, Turns middle turns next → Turns book (t :: turns) next)
    (h : middle.InTurns ips log r) : book.InTurns (t.ip :: ips) (t.asked ++ log)
      (r.map fun out => ((t.ip, some t.peer) :: out.1, out.2)) := by
  cases r with
  | ok out =>
    obtain ⟨turns, hturns, rfl, rfl, e⟩ := h
    exact ⟨t :: turns, hturn hturns, rfl, askedIn_cons t turns, by rw [e]; rfl⟩
  | error fault =>
    obtain ⟨turns, next, ip, later, asked, hturns, rfl, hnew, rfl, hends⟩ := h
    refine ⟨t :: turns, next, ip, later, asked, hturn hturns, rfl, hnew, ?_, hends⟩
    rw [askedIn_cons, List.append_assoc]

theorem ends_resolveEach : ∀ {ips : List Text} {book : PeerBook} {log : List (Exchange lookups)}
    {r : Except Fault (List (Text × Option Peer) × PeerBook)},
    (book.resolveEach ips).Ends log r → book.InTurns ips log r
  | [], book, log, r, h => by
    obtain ⟨rfl, rfl⟩ := Attempt.ends_pure.mp h
    exact ⟨[], .nil book, rfl, rfl, rfl⟩
  | ip :: rest, book, log, r, h => by
    -- Whatever the first address gave, the others go on from the book in the middle.
    have follow : ∀ {peer : Peer} {middle : PeerBook} {later : List (Exchange lookups)},
        Attempt.Ends (do
          let (answers, book) ← middle.resolveEach rest
          return ((ip, some peer) :: answers, book)) later r → ∃ y, middle.InTurns rest later y ∧
        r = y.map fun out => ((ip, some peer) :: out.1, out.2) := by
      intro peer middle later hlater
      rcases Attempt.ends_bind.mp hlater with ⟨fault, rfl, hx⟩ | ⟨_, out, _, rfl, hx, hpure⟩
      · exact ⟨_, ends_resolveEach hx, rfl⟩
      · obtain ⟨rfl, rfl⟩ := Attempt.ends_pure.mp hpure
        exact ⟨_, by rw [List.append_nil]; exact ends_resolveEach hx, rfl⟩
    rcases Attempt.ends_bind.mp h with ⟨fault, rfl, hx⟩ | ⟨first, out, later, rfl, hx, hlater⟩
    · rcases ends_resolve hx with ⟨peer, -, -, e⟩ | ⟨hnew, y, hends, e⟩
      · cases e
      · cases y with
        | ok peer => cases e
        | error found =>
          cases e
          exact ⟨[], book, ip, rest, log, .nil book, rfl, hnew, rfl, hends⟩
    · rcases ends_resolve hx with ⟨peer, hkept, rfl, e⟩ | ⟨hnew, y, hends, e⟩
      · cases e
        obtain ⟨y, hy, rfl⟩ := follow hlater
        exact InTurns.cons (t := ⟨ip, [], peer⟩) (.kept hkept rfl) hy
      · cases y with
        | error found => cases e
        | ok peer =>
          cases e
          obtain ⟨y, hy, rfl⟩ := follow hlater
          exact InTurns.cons (t := ⟨ip, first, peer⟩) (.first hnew hends) hy

/-- An answer that is kept stays. -/
theorem Turns.find?_kept {book next : PeerBook} {turns : List Turn} (h : Turns book turns next)
    {ip : Text} {peer : Peer} (hip : book.find? ip = some peer) : next.find? ip = some peer := by
  induction h with
  | nil book => exact hip
  | kept _ _ _ ih => exact ih hip
  | @first book next t rest hnew _ _ ih =>
    -- What is added is another address: this one was there already.
    refine ih ?_
    rw [find?_cons, if_neg, hip]
    rintro rfl
    cases hnew.symm.trans hip

/-- What a turn gives is kept. -/
theorem Turns.find?_of_mem {book next : PeerBook} {turns : List Turn} (h : Turns book turns next)
    {t : Turn} (ht : t ∈ turns) : next.find? t.ip = some t.peer := by
  induction h with
  | nil book => exact absurd ht List.not_mem_nil
  | kept hkept _ hrest ih =>
    rcases List.mem_cons.mp ht with rfl | ht
    · exact hrest.find?_kept hkept
    · exact ih ht
  | first _ _ hrest ih =>
    rcases List.mem_cons.mp ht with rfl | ht
    · exact hrest.find?_kept (by rw [find?_cons, if_pos rfl])
    · exact ih ht

/-- An address that no turn is about is kept only if it was. -/
theorem Turns.find?_of_not_mem {book next : PeerBook} {turns : List Turn}
    (h : Turns book turns next) {ip : Text} (hip : ∀ t ∈ turns, t.ip ≠ ip) :
    next.find? ip = book.find? ip := by
  induction h with
  | nil book => rfl
  | kept _ _ _ ih => exact ih (List.forall_mem_cons.mp hip).2
  | first _ _ _ ih =>
    obtain ⟨hne, hrest⟩ := List.forall_mem_cons.mp hip
    rw [ih hrest, find?_cons, if_neg (Ne.symm hne)]

/-- Before and after a turn there are turns. -/
theorem Turns.at {t : Turn} {after : List Turn} : ∀ {before : List Turn} {book next : PeerBook},
    Turns book (before ++ t :: after) next → ∃ here, Turns book before here ∧
      ((here.find? t.ip = some t.peer ∧ t.asked = []) ∨
        (here.find? t.ip = none ∧ (Peer.resolve t.ip).Ends t.asked (.ok t.peer)))
  | [], book, _, h => by
    cases h with
    | kept hkept hquiet _ => exact ⟨book, .nil book, .inl ⟨hkept, hquiet⟩⟩
    | first hnew hends _ => exact ⟨book, .nil book, .inr ⟨hnew, hends⟩⟩
  | s :: before, book, _, h => by
    cases h with
    | kept hkept hquiet hrest =>
      obtain ⟨here, hbefore, ht⟩ := Turns.at hrest
      exact ⟨here, .kept hkept hquiet hbefore, ht⟩
    | first hnew hends hrest =>
      obtain ⟨here, hbefore, ht⟩ := Turns.at hrest
      exact ⟨here, .first hnew hends hbefore, ht⟩

/-- The first turn of an address looks it up, and every later one asks nothing and gives the same
peer. -/
structure Settled (turns : List Turn) : Prop where
  first : ∀ before t after, turns = before ++ t :: after → (∀ s ∈ before, s.ip ≠ t.ip) →
    Peer.FirstLookups t.ip t.asked ∧ (Peer.resolve t.ip).Ends t.asked (.ok t.peer)
  again : ∀ before t after, turns = before ++ t :: after → ∀ s ∈ before, s.ip = t.ip →
    t.asked = [] ∧ t.peer = s.peer

theorem Turns.settled {turns : List Turn} {next : PeerBook} (h : Turns [] turns next) :
    Settled turns where
  first := by
    rintro before t after rfl hnew
    obtain ⟨here, hbefore, ⟨hkept, -⟩ | ⟨-, hends⟩⟩ := h.at
    · rw [hbefore.find?_of_not_mem hnew] at hkept
      cases hkept
    · exact ⟨Peer.resolve_lookups hends, hends⟩
  again := by
    rintro before t after rfl s hs hip
    obtain ⟨here, hbefore, ht⟩ := h.at
    have hkept : here.find? t.ip = some s.peer := hip ▸ hbefore.find?_of_mem hs
    rcases ht with ⟨hpeer, hquiet⟩ | ⟨hnew, -⟩
    · exact ⟨hquiet, Option.some.inj (hpeer.symm.trans hkept)⟩
    · cases hnew.symm.trans hkept

/-- Answers from one book for one address are the same peer. -/
theorem peer_eq_of_answers {book : PeerBook} {requests : List PeerRequest}
    {log : List (Exchange lookups)} {answers : List (Text × Option Peer)} {next : PeerBook}
    (h : (book.serveAll requests).Ends log (.ok (answers, next))) {ip : Text}
    {peer peer' : Option Peer} (hpeer : (ip, peer) ∈ answers) (hpeer' : (ip, peer') ∈ answers) :
    peer = peer' ∧ peer.isSome := by
  rw [serveAll_eq] at h
  obtain ⟨turns, hturns, -, -, rfl⟩ := ends_resolveEach h
  have hkept : ∀ {p}, (ip, p) ∈ answersOf turns → p = next.find? ip ∧ p.isSome := by
    intro p hp
    obtain ⟨t, ht, e⟩ := List.mem_map.mp hp
    cases e
    exact ⟨(hturns.find?_of_mem ht).symm, rfl⟩
  obtain ⟨e, hsome⟩ := hkept hpeer
  exact ⟨e.trans (hkept hpeer').1.symm, hsome⟩

theorem ends_serve_rules {book next : PeerBook} {rules rules' : List Rule}
    {log : List (Exchange lookups)} (h : (book.resolveRules rules).Ends log (.ok (rules', next))) :
    (book.serve (.rules rules)).Ends log (.ok (Rule.answers rules', next)) := by
  have hserve : Attempt.Ends (book.resolveRules rules >>= fun out =>
      pure (Rule.answers out.1, out.2)) (log ++ []) (.ok (Rule.answers rules', next)) :=
    h.bind (Attempt.ends_pure.mpr ⟨rfl, rfl⟩)
  rwa [List.append_nil] at hserve

theorem ends_serveAll_nil (book : PeerBook) : (book.serveAll []).Ends [] (.ok ([], book)) :=
  Attempt.ends_pure.mpr ⟨rfl, rfl⟩

theorem ends_serveAll_cons {book middle next : PeerBook} {request : PeerRequest}
    {rest : List PeerRequest} {first later : List (Exchange lookups)}
    {answers more : List (Text × Option Peer)}
    (h : (book.serve request).Ends first (.ok (answers, middle)))
    (hrest : (middle.serveAll rest).Ends later (.ok (more, next))) :
    (book.serveAll (request :: rest)).Ends (first ++ later) (.ok (answers ++ more, next)) := by
  have hlater : Attempt.Ends (middle.serveAll rest >>= fun out => pure (answers ++ out.1, out.2))
      (later ++ []) (.ok (answers ++ more, next)) :=
    hrest.bind (Attempt.ends_pure.mpr ⟨rfl, rfl⟩)
  rw [List.append_nil] at hlater
  exact h.bind hlater

end PeerBook

/-- What is rendered are the rules of the aggregation with peers from one book, so rules of one
address have the same peer, whatever their direction. -/
theorem Policy.ends_generate_peers {byName : Bool} {pod : Text} {schema : Schema}
    {ns : Option Text} {log : List (Exchange lookups)} {policy : Policy}
    (h : (generate byName pod schema ns).Ends log (.ok policy)) :
    ∃ records target a selector ingress egress asked next,
      (aggregate records target).1 = .ok a ∧
      (PeerBook.serveAll [] [.rules a.ingress, .rules a.egress]).Ends asked
        (.ok (Rule.answers ingress ++ Rule.answers egress, next)) ∧
      asked <:+: log ∧ render schema target selector ingress egress = .ok policy := by
  obtain ⟨flows, records, _, rfl, -, h⟩ := h.bind_ok
  obtain ⟨found, target, _, rfl, -, h⟩ := h.bind_ok
  obtain ⟨read, a, _, rfl, hrules, h⟩ := h.bind_ok
  obtain ⟨first, ⟨ingress, book⟩, _, rfl, hingress, h⟩ := h.bind_ok
  obtain ⟨second, ⟨egress, next⟩, _, rfl, hegress, h⟩ := h.bind_ok
  obtain ⟨own, selector, _, rfl, -, h⟩ := h.bind_ok
  obtain ⟨said, made, last, rfl, hrender, h⟩ := (Attempt.ends_tellAll_bind.mp h).bind_ok
  have haggregate : (aggregate records target).1 = .ok a :=
    (Attempt.ends_ofExcept.mp (Attempt.ends_tellAll_bind.mp hrules)).2.symm
  have hrendered : render schema target selector ingress egress = .ok policy := by
    rw [← (Attempt.ends_ofExcept.mp hrender).2, (Attempt.ends_tell_pure.mp h).2]
  have hserved := PeerBook.ends_serveAll_cons (PeerBook.ends_serve_rules hingress)
    (PeerBook.ends_serveAll_cons (PeerBook.ends_serve_rules hegress)
      (PeerBook.ends_serveAll_nil next))
  rw [List.append_nil, List.append_nil] at hserved
  refine ⟨records, target, a, selector, ingress, egress, _, next, haggregate, hserved, ?_,
    hrendered⟩
  exact ⟨flows ++ found ++ read, own ++ (said ++ last), by simp only [List.append_assoc]⟩

namespace PeerBook

/-- While the answers to lookups change at will, each address is looked up on its first turn only
and has one peer from then on, whether it stands for itself or for a rule; and so in one generation
the rules of both directions that share an address share the peer. A run stops only where a lookup
is answered with a fault that is not the program's own. -/
theorem answers_kept (requests : List PeerRequest) :
    (∀ log r, (serveAll [] requests).Ends log r → ∃ turns, Settled turns ∧
      (∀ answers next, r = .ok (answers, next) →
        turns.map (·.ip) = requests.flatMap (·.addresses) ∧ answers = answersOf turns ∧
        log = askedIn turns) ∧
      ∀ fault, r = .error fault → ∃ ip later asked,
        requests.flatMap (·.addresses) = turns.map (·.ip) ++ ip :: later ∧
        (∀ t ∈ turns, t.ip ≠ ip) ∧ log = askedIn turns ++ asked ∧ Peer.FirstLookups ip asked ∧
        fault.isOperational = false ∧ ∃ e ∈ asked, e.fault? = some fault) ∧
    ∀ byName pod schema ns log policy,
      (Policy.generate byName pod schema ns).Ends log (.ok policy) →
      ∃ records target a selector ingress egress asked next,
        (aggregate records target).1 = .ok a ∧
        (serveAll [] [.rules a.ingress, .rules a.egress]).Ends asked
          (.ok (Rule.answers ingress ++ Rule.answers egress, next)) ∧
        asked <:+: log ∧ Policy.render schema target selector ingress egress = .ok policy ∧
        ∀ rule ∈ ingress ++ egress, ∀ other ∈ ingress ++ egress, rule.peerIp = other.peerIp →
          rule.peer = other.peer ∧ rule.peer.isSome := by
  refine ⟨fun log r h => ?_, fun byName pod schema ns log policy h => ?_⟩
  · rw [serveAll_eq] at h
    have hrun := ends_resolveEach h
    cases r with
    | ok out =>
      obtain ⟨turns, hturns, hips, hlog, hanswers⟩ := hrun
      refine ⟨turns, hturns.settled, fun answers next e => ?_, nofun⟩
      cases e
      exact ⟨hips, hanswers, hlog⟩
    | error fault =>
      obtain ⟨turns, next, ip, later, asked, hturns, hips, hnew, hlog, hends⟩ := hrun
      refine ⟨turns, hturns.settled, nofun, fun found e => ?_⟩
      cases e
      have hforeign := Peer.guarded_resolve.keeps _ _ hends
      have hfails := (Peer.guarded_resolve.passes _ _ hends fault hforeign).mp rfl
      refine ⟨ip, later, asked, hips, fun t ht e => ?_, hlog, Peer.resolve_lookups hends, hforeign,
        hfails⟩
      subst e
      cases hnew.symm.trans (hturns.find?_of_mem ht)
  · obtain ⟨records, target, a, selector, ingress, egress, asked, next, ha, hserved, hpart,
      hrendered⟩ := Policy.ends_generate_peers h
    refine ⟨records, target, a, selector, ingress, egress, asked, next, ha, hserved, hpart,
      hrendered, fun rule hrule other hother e => ?_⟩
    have answered : ∀ {rule}, rule ∈ ingress ++ egress →
        (rule.peerIp, rule.peer) ∈ Rule.answers ingress ++ Rule.answers egress := by
      intro rule h
      unfold Rule.answers
      rw [← List.map_append]
      exact List.mem_map.mpr ⟨rule, h, rfl⟩
    exact peer_eq_of_answers hserved (answered hrule) (e ▸ answered hother)

/-- Lookups of which the first fails, and which know a service at every address from then on. -/
def recovering : (q : Lookup) → StateM Nat (Lookup.Answer q)
  | .serviceAt ip => fun asked => (if asked = 0 then .error (.broker (.unreachable ip "refused"))
      else .ok (some { ns := "prod", name := "db", selector := [label "app" "db"] }), asked + 1)
  | .podAt _ => fun asked => (.ok none, asked + 1)
  | .flows _ => fun asked => (.ok [], asked + 1)
  | .controller .. => fun asked => (.ok none, asked + 1)
  | .pod .. => fun asked => (.ok none, asked + 1)

/-- One address, then rules for it and another, then the address again. -/
def recoveringUses : List PeerRequest :=
  [.address "10.0.0.5", .rules [{ peerIp := "10.0.0.5", direction := .ingress },
    { peerIp := "10.0.0.6", direction := .egress }], .address "10.0.0.5"]

/-- The block that stands in for the first address after the failure, and the service that the
second one finds. -/
def recoveringAnswers : List (Text × Option Peer) :=
  [("10.0.0.5", some (.ofIp "10.0.0.5")), ("10.0.0.5", some (.ofIp "10.0.0.5")),
    ("10.0.0.6", some (.selector [label "app" "db"] "prod")),
    ("10.0.0.5", some (.ofIp "10.0.0.5"))]

/-- The block is kept, and three lookups are all. -/
theorem answers_kept_recovering :
    ∃ log next, (serveAll [] recoveringUses).Ends log (.ok (recoveringAnswers, next)) ∧
      log.length = 3 ∧
      ∃ turns, Settled turns ∧ recoveringAnswers = answersOf turns ∧ log = askedIn turns := by
  have hends := Inquiry.ends_answered recovering (serveAll [] recoveringUses).outcome 0
  have hresult : ((serveAll [] recoveringUses).outcome.answered recovering 0).2
      = .ok (recoveringAnswers, _) := rfl
  rw [hresult] at hends
  obtain ⟨turns, hsettled, hok, -⟩ := (answers_kept recoveringUses).1 _ _ hends
  obtain ⟨-, hanswers, hlog⟩ := hok _ _ rfl
  exact ⟨_, _, hends, rfl, turns, hsettled, hanswers, hlog⟩

end PeerBook

end LeastPrivilege
