import LeastPrivilege.Proofs.Parity
import LeastPrivilege.Proofs.PeerBook
import LeastPrivilege.Proofs.Run

/-!
Generation among answers that stand still, whatever they are. A book of peers is then true to what
the addresses stand for (`PeerBook.TrueTo`), so rules are settled one by one
(`PeerBook.evalBy_resolveRules`), and what becomes of them is one expression
(`Policy.evalBy_ofRules`). Neither what addresses stand for nor the labels of a pod are found out
from its flows (`evalBy_recording`). The flows enter by the first of them, which says whose they
are, and by the rules that they come to (`Policy.evalBy_generate_recording`).
-/

namespace LeastPrivilege

/-! ## Other flows among the same answers -/

/-- Answers that agree on all that is asked give the same result. -/
theorem Inquiry.run_congr {I : Interface} {α : Type} {P : I.Question → Prop}
    {known known' : (q : I.Question) → I.Answer q} (h : ∀ q, P q → known q = known' q) :
    ∀ {x : Inquiry I α}, (∀ log a, x.Ends log a → ∀ e ∈ log, P e.question) →
      x.run (m := Id) known (fun _ => pure ()) = x.run (m := Id) known' fun _ => pure ()
  | .done _, _ => rfl
  | .note _ rest, hx => run_congr h (x := rest) fun log a hends => hx log a (.note hends)
  | .ask q next, hx => by
    -- The question is asked, for the inquiry comes to an end whatever it is answered.
    have hasked := ends_known known (next (known q))
    have hq : P q := hx _ _ (.ask _ hasked) _ (List.mem_cons_self ..)
    have hnext := run_congr h (x := next (known q)) fun log a hends e he =>
      hx _ a (.ask _ hends) e (List.mem_cons_of_mem _ he)
    show (next (known q)).run (m := Id) known _ = (next (known' q)).run (m := Id) known' _
    rw [hnext, h q hq]

/-- The lookup is about pods, services or controllers, and not about flows. -/
def Lookup.IsAboutObjects : Lookup → Prop
  | .flows _ => False
  | _ => True

theorem Policy.asksOnly_findTarget (byName : Bool) (pod : Text) (records : List Record)
    (ns : Option Text) : (findTarget byName pod records ns).AsksOnly Lookup.IsAboutObjects := by
  cases records with
  | nil =>
    show (findIdle byName pod ns).AsksOnly Lookup.IsAboutObjects
    unfold findIdle
    cases ns.filter fun n => byName && !n.isEmpty with
    | none => exact Attempt.AsksOnly.throw' _
    | some given =>
      have asked : (Lookup.getPod given pod).AsksOnly Lookup.IsAboutObjects :=
        (Careful.ofLookup (q := .pod given pod) trivial
          fun _ r hends => ⟨r, Inquiry.ends_put.mp hends, rfl⟩).asks
      refine asked.bind fun found => ?_
      cases found with
      | none => exact Attempt.AsksOnly.throw' _
      | some target => exact (Attempt.AsksOnly.tell _).bind fun _ => Attempt.AsksOnly.pure' target
  | cons first rest =>
    show (findRecorded pod first).AsksOnly Lookup.IsAboutObjects
    refine Attempt.AsksOnly.bind (Careful.getPodAt trivial).asks fun found => ?_
    cases found with
    | none => exact Attempt.AsksOnly.throw' _
    | some target => exact Attempt.AsksOnly.pure' target

/-- Of the records, the first alone says whose they are. -/
theorem Policy.findTarget_congr {records records' : List Record}
    (h : records.head? = records'.head?) (byName : Bool) (pod : Text) (ns : Option Text) :
    findTarget byName pod records ns = findTarget byName pod records' ns := by
  cases records with
  | nil =>
    rw [List.head?_nil, eq_comm, List.head?_eq_none_iff] at h
    rw [h]
  | cons first rest =>
    rw [List.head?_cons, eq_comm, List.head?_eq_some_iff] at h
    obtain ⟨rest', rfl⟩ := h
    rfl

/-- An answer to every lookup. -/
abbrev Lookup.Answers := (q : lookups.Question) → lookups.Answer q

/-- The same answers, but for the recorded flows of a pod. -/
def Lookup.Answers.recording (known : Answers) (pod : Text) (records : List Record) : Answers
  | .flows name => if name = pod then .ok records else known (.flows name)
  | q => known q

variable {known : Lookup.Answers}

/-- What takes no account of flows is the same whatever they are. -/
theorem evalBy_recording (pod : Text) (records : List Record) {α : Type} {x : Attempt lookups α}
    (hx : x.AsksOnly Lookup.IsAboutObjects) :
    x.evalBy (known.recording pod records) = x.evalBy known := by
  refine Inquiry.run_congr (P := Lookup.IsAboutObjects) (fun q hq => ?_)
    fun log r hends => hx log r hends
  cases q with
  | flows name => exact hq.elim
  | _ => rfl

/-! ## Rules among answers that stand still -/

/-- What an address stands for, if that can be said. -/
def Peer.foundBy (known : Lookup.Answers) (ip : Text) : Except Fault Peer :=
  (Peer.resolve ip).evalBy known

/-- The rule with what its address stands for. -/
def Rule.settledBy (known : Lookup.Answers) (rule : Rule) : Except Fault Rule :=
  (Peer.foundBy known rule.peerIp).map fun peer => { rule with peer := some peer }

theorem settledBy_recording (pod : Text) (records : List Record) :
    Rule.settledBy (known.recording pod records) = Rule.settledBy known := by
  funext rule
  have hasks : (Peer.resolve rule.peerIp).AsksOnly Lookup.IsAboutObjects := by
    intro log r hends e he
    have hasked := Peer.guarded_resolve.asks log r hends e he
    cases hq : e.question with
    | flows name => rwa [hq] at hasked
    | _ => trivial
  rw [Rule.settledBy, Peer.foundBy, evalBy_recording pod records hasks, Rule.settledBy,
    Peer.foundBy]

/-- Every peer of a book is what its address stands for. -/
def PeerBook.TrueTo (known : Lookup.Answers) (book : PeerBook) : Prop :=
  ∀ ip peer, book.find? ip = some peer → Peer.foundBy known ip = .ok peer

namespace PeerBook

theorem TrueTo.nil : TrueTo known [] :=
  nofun

theorem TrueTo.cons {book : PeerBook} (h : TrueTo known book) {ip : Text} {peer : Peer}
    (hpeer : Peer.foundBy known ip = .ok peer) : TrueTo known ((ip, peer) :: book) := by
  intro other found hfound
  rw [find?_cons] at hfound
  split at hfound
  · rename_i hsame
    cases hfound
    rw [hsame]
    exact hpeer
  · exact h other found hfound

/-- A true book gives what the address stands for, and stays true. -/
theorem evalBy_resolve {book : PeerBook} (h : TrueTo known book) (ip : Text) :
    ∃ next, TrueTo known next ∧ (book.resolve ip).evalBy known
      = (Peer.foundBy known ip).map fun peer => (peer, next) := by
  unfold resolve
  cases hkept : book.find? ip with
  | some peer => exact ⟨book, h, by rw [h ip peer hkept]; rfl⟩
  | none =>
    show ∃ next, _ ∧ (Peer.resolve ip >>= _).evalBy known = _
    rw [Attempt.evalBy_bind]
    show ∃ next, _ ∧ (Peer.foundBy known ip >>= _) = _
    cases hpeer : Peer.foundBy known ip with
    | error fault => exact ⟨book, h, rfl⟩
    | ok peer => exact ⟨_, h.cons hpeer, rfl⟩

/-- Rules are settled one by one, as if there were no book. -/
theorem evalBy_resolveRules : ∀ (rules : List Rule) {book : PeerBook}, TrueTo known book →
    ∃ next, TrueTo known next ∧ (book.resolveRules rules).evalBy known
      = (rules.mapM (Rule.settledBy known)).map fun settled => (settled, next)
  | [], book, h => ⟨book, h, rfl⟩
  | rule :: rest, book, h => by
    -- The rest is resolved from the book that the first rule leaves, which is true as well.
    obtain ⟨kept, hkept, hrule⟩ := evalBy_resolve h rule.peerIp
    obtain ⟨next, hnext, hrest⟩ := evalBy_resolveRules rest hkept
    rw [resolveRules, Attempt.evalBy_bind, hrule, List.mapM_cons, Rule.settledBy]
    cases Peer.foundBy known rule.peerIp with
    | error fault => exact ⟨kept, hkept, rfl⟩
    | ok peer =>
      refine ⟨next, hnext, ?_⟩
      show (kept.resolveRules rest >>= _).evalBy known = _
      rw [Attempt.evalBy_bind, hrest]
      cases rest.mapM (Rule.settledBy known) <;> rfl

end PeerBook

/-! ## Policies among answers that stand still -/

namespace Policy

/-- The part of a generation that has the rules of its pod. -/
def ofRules (schema : Schema) (pod : Text) (target : Pod) (ingress egress : List Rule) :
    Attempt lookups Policy := do
  let (ingress, book) ← PeerBook.resolveRules [] ingress
  let (egress, _) ← book.resolveRules egress
  let selector ← Selector.labelsOfTarget target
  Attempt.ofInquiry (.tellAll (renderNotices target ingress egress))
  let policy ← Attempt.ofExcept (render schema target selector ingress egress)
  Attempt.tell (.policyMade schema.name policy.name pod)
  return policy

theorem generate_eq (byName : Bool) (pod : Text) (schema : Schema) (ns : Option Text) :
    generate byName pod schema ns = (do
      let records ← Lookup.getFlows pod
      let target ← findTarget byName pod records ns
      let a ← collect records target
      ofRules schema pod target a.ingress a.egress) :=
  rfl

theorem evalBy_ofRules (schema : Schema) (pod : Text) (target : Pod) (ingress egress : List Rule) :
    (ofRules schema pod target ingress egress).evalBy known = (do
      let ingress ← ingress.mapM (Rule.settledBy known)
      let egress ← egress.mapM (Rule.settledBy known)
      let selector ← (Selector.labelsOfTarget target).evalBy known
      render schema target selector ingress egress) := by
  obtain ⟨book, hbook, hingress⟩ := PeerBook.evalBy_resolveRules ingress PeerBook.TrueTo.nil
  obtain ⟨last, -, hegress⟩ := PeerBook.evalBy_resolveRules egress hbook
  rw [ofRules, Attempt.evalBy_bind, hingress]
  cases ingress.mapM (Rule.settledBy known) with
  | error fault => rfl
  | ok ingress =>
    show (book.resolveRules egress >>= _).evalBy known = _
    rw [Attempt.evalBy_bind, hegress]
    cases egress.mapM (Rule.settledBy known) with
    | error fault => rfl
    | ok egress =>
      show (Selector.labelsOfTarget target >>= _).evalBy known = _
      rw [Attempt.evalBy_bind]
      cases (Selector.labelsOfTarget target).evalBy known with
      | error fault => rfl
      | ok selector =>
        show (Attempt.ofInquiry _ >>= _).evalBy known = _
        rw [Attempt.evalBy_bind, Attempt.evalBy_tellAll]
        show (Attempt.ofExcept _ >>= _).evalBy known = _
        rw [Attempt.evalBy_bind]
        show (render schema target selector ingress egress >>= _)
          = render schema target selector ingress egress
        cases render schema target selector ingress egress <;> rfl

theorem evalBy_ofRules_recording (flowsOf : Text) (records : List Record) (schema : Schema)
    (pod : Text) (target : Pod) (ingress egress : List Rule) :
    (ofRules schema pod target ingress egress).evalBy (known.recording flowsOf records)
      = (ofRules schema pod target ingress egress).evalBy known := by
  have hlabels : (Selector.labelsOfTarget target).AsksOnly Lookup.IsAboutObjects :=
    (guarded_labelsOfTarget (fun _ _ _ => trivial) target).asks
  rw [evalBy_ofRules, evalBy_ofRules, settledBy_recording, evalBy_recording flowsOf records hlabels]

theorem evalBy_collect (records : List Record) (target : Pod) :
    (collect records target).evalBy known = (aggregate records target).1 := by
  show (Attempt.ofInquiry _ >>= _).evalBy known = _
  rw [Attempt.evalBy_bind, Attempt.evalBy_tellAll]
  rfl

/-- The flows enter a policy by their first, which says whose they are, and by their rules. -/
theorem evalBy_generate_recording (byName : Bool) (pod : Text) (schema : Schema)
    (ns : Option Text) (records : List Record) :
    (generate byName pod schema ns).evalBy (known.recording pod records) = (do
      let target ← (findTarget byName pod records ns).evalBy known
      let a ← (aggregate records target).1
      (ofRules schema pod target a.ingress a.egress).evalBy known) := by
  have hflows : (Lookup.getFlows pod).evalBy (known.recording pod records)
      = .ok records := if_pos rfl
  have hfound : (findTarget byName pod records ns).evalBy (known.recording pod records)
      = (findTarget byName pod records ns).evalBy known :=
    evalBy_recording pod records (asksOnly_findTarget byName pod records ns)
  rw [generate_eq, Attempt.evalBy_bind, hflows]
  show (findTarget byName pod records ns >>= _).evalBy _ = _
  rw [Attempt.evalBy_bind, hfound]
  congr 1
  funext target
  rw [Attempt.evalBy_bind, evalBy_collect]
  congr 1
  funext a
  exact evalBy_ofRules_recording pod records schema pod target a.ingress a.egress

end Policy

/-! ## Settled rules -/

/-- The rule with the peer that its address stands for, if any. -/
def Rule.withFound (known : Lookup.Answers) (rule : Rule) : Rule :=
  { rule with peer := (Peer.foundBy known rule.peerIp).toOption }

theorem settledBy_ok_iff {rule settled : Rule} :
    rule.settledBy known = .ok settled ↔
      (∃ peer, Peer.foundBy known rule.peerIp = .ok peer) ∧ settled = rule.withFound known := by
  unfold Rule.settledBy Rule.withFound
  cases Peer.foundBy known rule.peerIp with
  | error fault => exact ⟨nofun, fun ⟨⟨_, h⟩, _⟩ => nomatch h⟩
  | ok peer => exact ⟨fun h => ⟨⟨peer, rfl⟩, (Except.ok.inj h).symm⟩, fun ⟨_, h⟩ => by rw [h]; rfl⟩

/-- Rules are settled exactly if all their addresses stand for something. -/
theorem mapM_settledBy_ok_iff {rules settled : List Rule} :
    rules.mapM (Rule.settledBy known) = .ok settled ↔
      (∀ rule ∈ rules, ∃ peer, Peer.foundBy known rule.peerIp = .ok peer) ∧
      settled = rules.map (·.withFound known) := by
  induction rules generalizing settled with
  | nil => exact ⟨fun h => ⟨nofun, (Except.ok.inj h).symm⟩, fun ⟨_, h⟩ => by rw [h]; rfl⟩
  | cons rule rest ih =>
    rw [List.mapM_cons, List.forall_mem_cons, List.map_cons]
    constructor
    · intro h
      obtain ⟨first, hfirst, h⟩ := bind_ok h
      obtain ⟨later, hlater, h⟩ := bind_ok h
      obtain ⟨hfound, rfl⟩ := settledBy_ok_iff.mp hfirst
      obtain ⟨hall, rfl⟩ := ih.mp hlater
      exact ⟨⟨hfound, hall⟩, (Except.ok.inj h).symm⟩
    · rintro ⟨⟨hfound, hall⟩, rfl⟩
      rw [settledBy_ok_iff.mpr ⟨hfound, rfl⟩, ih.mpr ⟨hall, rfl⟩]
      rfl

namespace Policy

variable {schema : Schema} {pod : Text} {target : Pod} {ingress egress : List Rule}

/-- Rules with what their addresses stand for are all rendered. -/
theorem render_withFound (selector : Labels)
    (h : ∀ rule ∈ ingress ++ egress, ∃ peer, Peer.foundBy known rule.peerIp = .ok peer) :
    render schema target selector (ingress.map (·.withFound known)) (egress.map (·.withFound known))
      = .ok (made schema target selector (ingress.map (·.withFound known))
          (egress.map (·.withFound known))) := by
  refine render_ok fun rule hrule => ?_
  rw [← List.map_append] at hrule
  obtain ⟨given, hgiven, rfl⟩ := List.mem_map.mp hrule
  obtain ⟨peer, hpeer⟩ := h given hgiven
  rw [Rule.withFound, hpeer]
  rfl

/-- Rules become a policy exactly if their addresses stand for something and the pod's own labels
are to be had. -/
theorem evalBy_ofRules_ok_iff {p : Policy} :
    (ofRules schema pod target ingress egress).evalBy known = .ok p ↔
      (∀ rule ∈ ingress ++ egress, ∃ peer, Peer.foundBy known rule.peerIp = .ok peer) ∧
      ∃ selector, (Selector.labelsOfTarget target).evalBy known = .ok selector ∧
        p = made schema target selector (ingress.map (·.withFound known))
          (egress.map (·.withFound known)) := by
  rw [evalBy_ofRules]
  constructor
  · intro h
    obtain ⟨_, hingress, h⟩ := bind_ok h
    obtain ⟨_, hegress, h⟩ := bind_ok h
    obtain ⟨selector, hselector, h⟩ := bind_ok h
    obtain ⟨hi, rfl⟩ := mapM_settledBy_ok_iff.mp hingress
    obtain ⟨he, rfl⟩ := mapM_settledBy_ok_iff.mp hegress
    have hfound := List.forall_mem_append.mpr ⟨hi, he⟩
    rw [render_withFound selector hfound] at h
    exact ⟨hfound, selector, hselector, (Except.ok.inj h).symm⟩
  · rintro ⟨hfound, selector, hselector, rfl⟩
    obtain ⟨hi, he⟩ := List.forall_mem_append.mp hfound
    rw [mapM_settledBy_ok_iff.mpr ⟨hi, rfl⟩, mapM_settledBy_ok_iff.mpr ⟨he, rfl⟩, hselector]
    exact render_withFound selector hfound

/-- An entry as it is read back from the manifest. -/
def readEntryOf (schema : Schema) (rule : Rule) : Entry :=
  ⟨(rule.peer.map schema.descriptor).toList, rule.ports⟩

theorem mapM_readEntry?_entries (schema : Schema) (d : Direction) {rules : List Rule}
    (hpeers : ∀ rule ∈ rules, rule.peer.isSome = true)
    (hports : ∀ rule ∈ rules, ∀ p ∈ rule.ports, 1 ≤ p.number) :
    (schema.entries d rules).mapM (fun n => schema.readEntry? d n.value)
      = some (rules.map (readEntryOf schema)) := by
  induction rules with
  | nil => rfl
  | cons rule rest ih =>
    obtain ⟨hrule, hrest⟩ := List.forall_mem_cons.mp hpeers
    obtain ⟨hfirst, hlater⟩ := List.forall_mem_cons.mp hports
    obtain ⟨peer, hpeer⟩ := Option.isSome_iff_exists.mp hrule
    rw [Schema.entries_cons hpeer, List.mapM_cons, schema.readEntry?_entry d peer hfirst,
      ih hrest hlater, List.map_cons, readEntryOf, hpeer]
    rfl

/-- The manifest has one entry for each rule, in the same order. -/
theorem readEntries?_made {selector : Labels} (d : Direction)
    (hpeers : ∀ rule ∈ d.pick ingress egress, rule.peer.isSome = true)
    (hports : ∀ rule ∈ d.pick ingress egress, ∀ p ∈ rule.ports, 1 ≤ p.number) :
    schema.readEntries? d (made schema target selector ingress egress).manifest.value
      = some ((d.pick ingress egress).map (readEntryOf schema)) := by
  have hpick : d.pick (schema.entries .ingress ingress) (schema.entries .egress egress)
      = schema.entries d (d.pick ingress egress) := by
    cases d <;> rfl
  have hread := mapM_readEntry?_entries schema d hpeers hports
  simp only [made]
  rw [readEntries?_manifestOf, hpick, hread]
  split
  · rfl
  · -- A direction that is not written has no rules.
    rename_i hk
    have hnil : d.pick ingress egress = [] := by
      by_contra hne
      exact hk (List.contains_iff_mem.mpr ((mem_enforced_iff d).mpr (.inl hne)))
    rw [hnil, List.map_nil]

end Policy

end LeastPrivilege
