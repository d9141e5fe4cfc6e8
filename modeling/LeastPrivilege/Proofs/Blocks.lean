import LeastPrivilege.Proofs.Address
import LeastPrivilege.Proofs.Generation

/-!
The blocks of a policy. A peer is a block where no labels stand for its address
(`World.peerAt_eq_ofIp_iff`), and the block always has 32 bits that count. So it admits one host
where the address has 32 bits. Where the address has 128 it admits all that begin like it, and that
is never one host (`World.generate_blocks`, `World.generate_wide_frontier`).
-/

namespace LeastPrivilege

/-! ## Addresses that give a block -/

theorem Peer.ofSelector?_eq_none_iff {s : Selector} : ofSelector? s = none ↔ s.labels = [] := by
  simp [ofSelector?]

theorem Peer.ofSelector?_ne_ofIp (s : Selector) (ip : Text) : ofSelector? s ≠ some (.ofIp ip) := by
  unfold ofSelector?
  split
  · simp
  · simp [ofIp]

theorem OwnFault.join_toOption_eq_some_iff {α : Type} {r : Except OwnFault (Option α)} {a : α} :
    r.toOption.join = some a ↔ r = .ok (some a) := by
  constructor
  · exact fun h => ok_of_toOption (Option.join_eq_some_iff.mp h)
  · rintro rfl
    rfl

namespace World

variable (w : World)

/-- No labels stand for the address: its service selects by none, and its pod is unknown, or on the
host network, or has no selector with labels. -/
structure Unlabelled (ip : Text) : Prop where
  service : ∀ s, w.serviceAt ip = .ok (some s) → s.selector = []
  pod : ∀ p, w.podAt ip = .ok (some p) → p.hostNetwork = false →
    ∀ s, w.selectorOf p = .ok s → s.labels = []

theorem servicePeer?_eq_none_iff (ip : Text) :
    w.servicePeer? ip = none ↔ ∀ s, w.serviceAt ip = .ok (some s) → s.selector = [] := by
  rw [servicePeer?]
  constructor
  · intro h s hs
    rw [OwnFault.join_toOption_eq_some_iff.mpr hs] at h
    exact Peer.ofSelector?_eq_none_iff.mp h
  · intro h
    cases hs : (w.serviceAt ip).toOption.join with
    | none => rfl
    | some s =>
      have hselector := h s (OwnFault.join_toOption_eq_some_iff.mp hs)
      exact Peer.ofSelector?_eq_none_iff.mpr hselector

/-- What the pod of an address gives is the block or nothing, unless it has a selector with
labels. -/
theorem podPeer?_getD_eq_ofIp_iff (ip : Text) :
    (w.podPeer? ip).getD (.ofIp ip) = .ofIp ip ↔
      ∀ p, w.podAt ip = .ok (some p) → p.hostNetwork = false →
        ∀ s, w.selectorOf p = .ok s → s.labels = [] := by
  rw [podPeer?]
  cases hp : (w.podAt ip).toOption.join with
  | none =>
    refine iff_of_true rfl fun p h => ?_
    rw [OwnFault.join_toOption_eq_some_iff.mpr h] at hp
    cases hp
  | some p =>
    have hpod := OwnFault.join_toOption_eq_some_iff.mp hp
    simp only [hpod, Except.ok.injEq, Option.some.injEq, forall_eq']
    show (if p.hostNetwork then some (.ofIp ip) else
      (w.selectorOf p).toOption.bind Peer.ofSelector?).getD _ = _ ↔ _
    cases p.hostNetwork with
    | true => exact iff_of_true rfl fun h => by cases h
    | false =>
      cases w.selectorOf p with
      | error fault => exact iff_of_true rfl fun _ s h => by cases h
      | ok s =>
        simp only [Except.ok.injEq, forall_eq', forall_const]
        rw [← Peer.ofSelector?_eq_none_iff]
        show (Peer.ofSelector? s).getD _ = _ ↔ _
        cases hs : Peer.ofSelector? s with
        | none => simp
        | some peer =>
          have hne : peer ≠ .ofIp ip := fun e => Peer.ofSelector?_ne_ofIp s ip (e ▸ hs)
          simp [hne]

/-- An address gives a block just if no labels stand for it. -/
theorem peerAt_eq_ofIp_iff (ip : Text) : w.peerAt ip = .ofIp ip ↔ w.Unlabelled ip := by
  rw [peerAt]
  cases hs : w.servicePeer? ip with
  | none =>
    have hservice := (w.servicePeer?_eq_none_iff ip).mp hs
    rw [Option.getD_none, w.podPeer?_getD_eq_ofIp_iff]
    exact ⟨fun hpod => ⟨hservice, hpod⟩, fun h => h.pod⟩
  | some peer =>
    obtain ⟨s, -, hpeer⟩ := Option.bind_eq_some_iff.mp hs
    -- What a service gives is a selector, so both sides fail.
    refine iff_of_false ?_ fun h => ?_
    · rintro rfl
      exact Peer.ofSelector?_ne_ofIp _ ip hpeer
    · rw [(w.servicePeer?_eq_none_iff ip).mpr h.service] at hs
      cases hs

end World

/-! ## What a block contains -/

/-- The text is the block written for an address. Where that is well formed, the block contains the
addresses of its family that have its first 32 bits, and it is for this one host just if the family
has no more bits. -/
structure Text.BlockOf (cidr ip : Text) : Prop where
  written : cidr = ip ++ "/32"
  contents : ∀ a, Address.read? ip = some a → ∃ b, Block.read? cidr = some b ∧
    (∀ c, b.Contains c ↔ c.width = a.width ∧ ∀ i < 32, c.bit i = a.bit i) ∧
    (b.IsHost a ↔ ∃ bits, a = .v4 bits)

theorem Text.blockOf_append (ip : Text) : Text.BlockOf (ip ++ "/32") ip := by
  refine ⟨rfl, fun a ha => ?_⟩
  obtain ⟨b, hread, rfl, hlength⟩ := Block.read?_append ha
  refine ⟨b, hread, fun c => ?_, ?_⟩
  · rw [Block.Contains, hlength]
  · rw [b.isHost_iff, hlength]
    cases b.base with
    | v4 bits => simp [Address.width]
    | v6 bits => simp [Address.width]

/-- Only a block is read as one. -/
theorem Schema.peerBlock?_descriptor (schema : Schema) (peer : Peer) (cidr : Text) :
    schema.peerBlock? (schema.descriptor peer) = some cidr ↔ peer = .block cidr := by
  cases schema <;> cases peer <;>
    simp +decide [peerBlock?, NetworkPolicy.peerBlock?, CiliumNetworkPolicy.peerBlock?, descriptor,
      NetworkPolicy.descriptor, CiliumNetworkPolicy.descriptor, Value.at?_map,
      Value.getKey?_cons_text, Value.getKey?_nil]

namespace World

variable {w : World} {byName : Bool} {pod : Text} {schema : Schema} {ns : Option Text} {p : Policy}

/-- The block that stands for an address, if one does. -/
theorem peerAt_eq_block_iff (w : World) (ip cidr : Text) :
    w.peerAt ip = .block cidr ↔ w.Unlabelled ip ∧ cidr = ip ++ "/32" := by
  rw [← w.peerAt_eq_ofIp_iff]
  constructor
  · intro h
    rcases w.peerAt_cases ip with ⟨labels, ns, hpeer, -⟩ | hpeer
    · rw [hpeer] at h
      cases h
    · rw [hpeer] at h
      cases h
      exact ⟨hpeer, rfl⟩
  · rintro ⟨hpeer, rfl⟩
    exact hpeer

/-- **A policy names a block for each address that no labels stand for, and the block is for one
host only where the address is of the shorter family.** -/
theorem generate_blocks (h : w.eval (Policy.generate byName pod schema ns) = .ok p) :
    ∃ records target, w.flows pod = .ok records ∧
      w.eval (Policy.findTarget byName pod records ns) = .ok target ∧
      ∀ d, ∃ entries, schema.readEntries? d p.manifest.value = some entries ∧
        ∀ cidr, (∃ e ∈ entries, ∃ D, e.peers = [D] ∧ schema.peerBlock? D = some cidr) ↔
          ∃ r ∈ records, ∃ ip port, ip = Text.trim r.peerIp ∧ r.Shows target ⟨d, ip, port⟩ ∧
            w.Unlabelled ip ∧ cidr.BlockOf ip := by
  obtain ⟨records, target, a, hrecords, htarget, ha, rfl⟩ := w.eval_generate_ok h
  refine ⟨records, target, hrecords, htarget, fun d => ?_⟩
  refine ⟨_, w.readEntries?_policyOf schema (aggregate_sound ha) d, fun cidr => ?_⟩
  constructor
  · rintro ⟨e, he, D, hD, hcidr⟩
    obtain ⟨rule, hrule, rfl⟩ := List.mem_map.mp he
    obtain rfl : schema.descriptor (w.peerAt rule.peerIp) = D := by
      simpa [entryFor] using hD
    rw [Schema.peerBlock?_descriptor, peerAt_eq_block_iff] at hcidr
    obtain ⟨hlabels, rfl⟩ := hcidr
    obtain ⟨r, hr, port, hshown⟩ := (exists_rule_iff ha d _).mp ⟨rule, hrule, rfl⟩
    exact ⟨r, hr, _, port, hshown.form.2.2.1, hshown, hlabels, Text.blockOf_append _⟩
  · rintro ⟨r, hr, ip, port, -, hshown, hlabels, hcidr⟩
    obtain ⟨rule, hrule, rfl⟩ := (exists_rule_iff ha d ip).mpr ⟨r, hr, port, hshown⟩
    refine ⟨_, List.mem_map_of_mem hrule, _, rfl, ?_⟩
    rw [Schema.peerBlock?_descriptor, peerAt_eq_block_iff]
    exact ⟨hlabels, hcidr.written⟩

theorem generate_blocks_shop : ∃ p,
    shop.eval (Policy.generate true "web" .standard none) = .ok p ∧
    ∃ records target, shop.flows "web" = .ok records ∧
      shop.eval (Policy.findTarget true "web" records none) = .ok target ∧
      ∀ d, ∃ entries, Schema.standard.readEntries? d p.manifest.value = some entries ∧
        ∀ cidr, (∃ e ∈ entries, ∃ D, e.peers = [D] ∧
            Schema.standard.peerBlock? D = some cidr) ↔
          ∃ r ∈ records, ∃ ip port, ip = Text.trim r.peerIp ∧ r.Shows target ⟨d, ip, port⟩ ∧
            shop.Unlabelled ip ∧ cidr.BlockOf ip := by
  have made : shop.eval (Policy.generate true "web" .standard none) = .ok _ := rfl
  exact ⟨_, made, generate_blocks made⟩

/-- A world where a pod was reached from one address of 128 bits. -/
def frontier : World where
  flows _ := .ok [
    { targetIp := "10.0.0.7", peerIp := "2001:db8::1", direction := "ingress"
      targetPort := "8080" }]
  podAt ip := .ok (if ip = "10.0.0.7" then
    some { ns := "shop", name := "web", ip := "10.0.0.7", labels := [label "app" "web"] } else none)
  serviceAt _ := .ok none
  controller _ _ _ := .ok none
  pod _ _ := .ok none

/-- There the policy admits its neighbour too. -/
theorem generate_wide_frontier : ∃ p D ports a b,
    frontier.eval (Policy.generate true "web" .standard none) = .ok p ∧
    Schema.standard.readEntries? .ingress p.manifest.value = some [⟨[D], ports⟩] ∧
    Schema.standard.peerBlock? D = some "2001:db8::1/32" ∧
    Address.read? "2001:db8::1" = some a ∧ Block.read? "2001:db8::1/32" = some b ∧
    b.Contains a.neighbour ∧ a.neighbour ≠ a := by
  have made : frontier.eval (Policy.generate true "web" .standard none) = .ok _ := rfl
  let a : Address := .v6 0x20010db8000000000000000000000001
  refine ⟨_, Schema.standard.descriptor (.block "2001:db8::1/32"), [⟨8080, .tcp⟩], a,
    ⟨a, 32, by decide⟩, made, rfl, rfl, ?_, ?_, ?_, ?_⟩
  all_goals decide

end World

end LeastPrivilege
