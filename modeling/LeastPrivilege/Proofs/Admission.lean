import LeastPrivilege.Proofs.Generation

/-!
What a generated policy lets through. It admits just what some record shows, under the peer that the
record's address stands for (`World.generate_exact`), and it is never a wildcard: it selects its pod
by at least one label, and every entry names one peer and lists at least one port
(`World.generate_narrow`). A peer keeps one of its own labels, but for one case that belongs to the
Cilium form: there the namespace goes among the labels under a key of its own, and takes the place
of a label that had that key.
-/

namespace LeastPrivilege

/-! ## Exactness -/

/-- In each direction the manifest lists, under each single peer, the ports that some record shows
for an address that stands for this peer, and no others. -/
def World.Exact (w : World) (schema : Schema) (records : List Record) (target : Pod)
    (manifest : Value) : Prop :=
  ∀ d, ∃ entries, schema.readEntries? d manifest = some entries ∧
    ∀ (D : Value) (port : Port), (∃ e ∈ entries, e.peers = [D] ∧ port ∈ e.ports) ↔
      ∃ r ∈ records, ∃ c peer, r.Shows target c ∧ c.direction = d ∧ c.port = port ∧
        w.eval (Peer.resolve c.peerIp) = .ok peer ∧ D = schema.descriptor peer

namespace World

variable {w : World} {byName : Bool} {pod : Text} {schema : Schema} {ns : Option Text} {p : Policy}

theorem exact_policyOf {records : List Record} {target : Pod} {a : Aggregation}
    (h : (aggregate records target).1 = .ok a) :
    w.Exact schema records target (w.policyOf schema target a).manifest.value := by
  intro d
  refine ⟨_, w.readEntries?_policyOf schema (aggregate_sound h) d, fun D port => ?_⟩
  -- The entries are the rules, so what they list is what the rules admit.
  have admits : (∃ e ∈ (a.rules d).map (w.entryFor schema), e.peers = [D] ∧ port ∈ e.ports) ↔
      ∃ ip, a.Admits ⟨d, ip, port⟩ ∧ D = schema.descriptor (w.peerAt ip) := by
    constructor
    · rintro ⟨e, he, hpeer, hport⟩
      obtain ⟨rule, hrule, rfl⟩ := List.mem_map.mp he
      obtain rfl : schema.descriptor (w.peerAt rule.peerIp) = D := by
        simpa [entryFor] using hpeer
      exact ⟨rule.peerIp, ⟨rule, hrule, rfl, hport⟩, rfl⟩
    · rintro ⟨ip, ⟨rule, hrule, rfl, hport⟩, rfl⟩
      exact ⟨_, List.mem_map_of_mem hrule, rfl, hport⟩
  rw [admits]
  constructor
  · rintro ⟨ip, hip, hD⟩
    obtain ⟨r, hr, hshown⟩ := (aggregate_admits_iff h ⟨d, ip, port⟩).mp hip
    exact ⟨r, hr, _, w.peerAt ip, hshown, rfl, rfl, w.eval_resolve ip, hD⟩
  · rintro ⟨r, hr, ⟨d', ip, port'⟩, peer, hshown, rfl, rfl, hpeer, rfl⟩
    rw [eval_resolve] at hpeer
    cases hpeer
    exact ⟨ip, (aggregate_admits_iff h _).mpr ⟨r, hr, hshown⟩, rfl⟩

/-- **A policy admits what was recorded, and nothing else.** -/
theorem generate_exact (h : w.eval (Policy.generate byName pod schema ns) = .ok p) :
    ∃ records target, w.flows pod = .ok records ∧
      w.eval (Policy.findTarget byName pod records ns) = .ok target ∧
      w.Exact schema records target p.manifest.value := by
  obtain ⟨records, target, a, hrecords, htarget, ha, rfl⟩ := w.eval_generate_ok h
  exact ⟨records, target, hrecords, htarget, exact_policyOf ha⟩

theorem generate_exact_shop : ∃ p, shop.eval (Policy.generate true "web" .cilium none) = .ok p ∧
    ∃ records target, shop.flows "web" = .ok records ∧
      shop.eval (Policy.findTarget true "web" records none) = .ok target ∧
      shop.Exact .cilium records target p.manifest.value := by
  have made : shop.eval (Policy.generate true "web" .cilium none) = .ok _ := rfl
  exact ⟨_, made, generate_exact made⟩

end World

/-! ## No wildcards -/

/-- Labels keep one of their number when a namespace goes among them, unless there is only one and
it has the namespace's key. -/
theorem CiliumNetworkPolicy.shownLabels_keeps {labels : Labels} (h : labels ≠ []) (ns : Text) :
    (∃ l ∈ labels, l ∈ shownLabels labels ns) ∨
      ∃ v, labels = [(.text namespaceLabel, v)] ∧ ns ≠ [] ∧
        shownLabels labels ns = [label namespaceLabel ns] := by
  unfold shownLabels
  split
  · obtain ⟨l, hl⟩ := List.exists_mem_of_ne_nil labels h
    exact .inl ⟨l, hl, hl⟩
  · rename_i hns
    have hns : ns ≠ [] := fun e => hns (by simp [e])
    cases labels with
    | nil => exact absurd rfl h
    | cons first rest =>
      obtain ⟨k, v⟩ := first
      simp only [Value.setKey]
      split
      · rename_i hk
        cases rest with
        | nil =>
          obtain rfl := Value.eq_text_of_sameKey hk
          exact .inr ⟨v, rfl, hns, rfl⟩
        | cons second more => exact .inl ⟨second, by simp, by simp⟩
      · exact .inl ⟨(k, v), by simp, by simp⟩

namespace World

variable {w : World} {byName : Bool} {pod : Text} {schema : Schema} {ns : Option Text} {p : Policy}

/-- The peer is what some address stands for: labels of which at least one is its own, or the block
for this address, which is trimmed and not empty. -/
inductive NamesOwn (w : World) (schema : Schema) (D : Value) : Prop
  | labels (ip : Text) (own : Labels) (ns : Text) (shown : Labels)
      (resolved : w.eval (Peer.resolve ip) = .ok (.selector own ns))
      (shows : D = schema.descriptor (.selector own ns))
      (read : schema.peerLabels? D = some shown) (kept : ∃ l ∈ own, l ∈ shown)
  | block (ip : Text) (resolved : w.eval (Peer.resolve ip) = .ok (.ofIp ip))
      (shows : D = schema.descriptor (.ofIp ip))
      (read : schema.peerBlock? D = some (ip ++ "/32")) (named : ip ≠ [])
      (trimmed : Text.trim ip = ip)

/-- The peer has one label of its own, under the key where a namespace goes, and its namespace,
which is not empty, stands there instead. -/
structure NamesNamespace (w : World) (schema : Schema) (D : Value) : Prop where
  isCilium : schema = .cilium
  names : ∃ ip v ns, w.eval (Peer.resolve ip)
      = .ok (.selector [(.text CiliumNetworkPolicy.namespaceLabel, v)] ns) ∧ ns ≠ [] ∧
    D = schema.descriptor (.selector [(.text CiliumNetworkPolicy.namespaceLabel, v)] ns) ∧
    schema.peerLabels? D = some [label CiliumNetworkPolicy.namespaceLabel ns]

/-- An entry for one peer that is not everyone, and for ports without repetition, at least one. -/
structure Narrow (w : World) (schema : Schema) (e : Entry) : Prop where
  onePeer : ∃ D, e.peers = [D] ∧ (w.NamesOwn schema D ∨ w.NamesNamespace schema D)
  hasPorts : e.ports ≠ []
  distinct : e.ports.Nodup
  inRange : ∀ port ∈ e.ports, 1 ≤ port.number ∧ port.number ≤ 65535

/-- What an address stands for is named as it should be in either schema. -/
theorem descriptor_peerAt (schema : Schema) {ip : Text} (hne : ip ≠ [])
    (htrim : Text.trim ip = ip) : w.NamesOwn schema (schema.descriptor (w.peerAt ip)) ∨
      w.NamesNamespace schema (schema.descriptor (w.peerAt ip)) := by
  have hresolve := w.eval_resolve ip
  rcases w.peerAt_cases ip with ⟨labels, ns, hpeer, hlabels⟩ | hpeer
  · rw [hpeer] at hresolve ⊢
    cases schema with
    | standard =>
      obtain ⟨l, hl⟩ := List.exists_mem_of_ne_nil labels hlabels
      refine .inl (.labels ip labels ns labels hresolve rfl ?_ ⟨l, hl, hl⟩)
      simp +decide [Schema.peerLabels?, NetworkPolicy.peerLabels?, Schema.descriptor,
        NetworkPolicy.descriptor, Value.at?_map, Value.getKey?_cons_text]
    | cilium =>
      have hread : Schema.cilium.peerLabels? (Schema.cilium.descriptor (.selector labels ns))
          = some (CiliumNetworkPolicy.shownLabels labels ns) := by
        simp [Schema.peerLabels?, CiliumNetworkPolicy.peerLabels?, Schema.descriptor,
          CiliumNetworkPolicy.descriptor, Value.at?_map, Value.getKey?_cons_text]
      rcases CiliumNetworkPolicy.shownLabels_keeps hlabels ns with hkept | ⟨v, rfl, hns, hshown⟩
      · exact .inl (.labels ip labels ns _ hresolve rfl hread hkept)
      · exact .inr ⟨rfl, ip, v, ns, hresolve, hns, rfl, hread.trans (by rw [hshown])⟩
  · rw [hpeer] at hresolve ⊢
    refine .inl (.block ip hresolve rfl ?_ hne htrim)
    cases schema <;>
      simp +decide [Schema.peerBlock?, NetworkPolicy.peerBlock?, CiliumNetworkPolicy.peerBlock?,
        Schema.descriptor, NetworkPolicy.descriptor, CiliumNetworkPolicy.descriptor, Peer.ofIp,
        Value.at?_map, Value.getKey?_cons_text]

theorem narrow_entryFor {target : Pod} {rule : Rule} (h : rule.Sound target) :
    w.Narrow schema (w.entryFor schema rule) where
  onePeer := ⟨_, rfl, descriptor_peerAt schema h.named h.trimmed⟩
  hasPorts := h.hasPorts
  distinct := h.distinct
  inRange := h.inRange

/-- **A policy is never a wildcard.** -/
theorem generate_narrow (h : w.eval (Policy.generate byName pod schema ns) = .ok p) :
    (∃ own, schema.readOwnLabels? p.manifest.value = some own ∧ own ≠ []) ∧
      ∀ d, ∃ entries, schema.readEntries? d p.manifest.value = some entries ∧
        ∀ e ∈ entries, w.Narrow schema e := by
  obtain ⟨records, target, a, -, -, ha, rfl⟩ := w.eval_generate_ok h
  have hsound := aggregate_sound ha
  refine ⟨⟨_, w.readOwnLabels?_policyOf schema target a, w.labelsOf_ne_nil target⟩, fun d => ?_⟩
  refine ⟨_, w.readEntries?_policyOf schema hsound d, fun e he => ?_⟩
  obtain ⟨rule, hrule, rfl⟩ := List.mem_map.mp he
  exact narrow_entryFor (hsound d rule hrule)

theorem generate_narrow_shop : ∃ p, shop.eval (Policy.generate true "web" .cilium none) = .ok p ∧
    (∃ own, Schema.cilium.readOwnLabels? p.manifest.value = some own ∧ own ≠ []) ∧
      ∀ d, ∃ entries, Schema.cilium.readEntries? d p.manifest.value = some entries ∧
        ∀ e ∈ entries, shop.Narrow .cilium e := by
  have made : shop.eval (Policy.generate true "web" .cilium none) = .ok _ := rfl
  exact ⟨_, made, generate_narrow made⟩

/-- A world where the selector of every service has just the key under which a namespace goes. -/
def crowded : World where
  flows _ := .ok [
    { targetIp := "10.0.0.7", peerIp := "10.0.0.5", direction := "egress", peerPort := "5432" }]
  podAt _ := .ok (some
    { ns := "shop", name := "web", ip := "10.0.0.7", labels := [label "app" "web"] })
  serviceAt _ := .ok (some
    { ns := "prod", name := "db", selector := [label CiliumNetworkPolicy.namespaceLabel "x"] })
  controller _ _ _ := .ok none
  pod _ _ := .ok none

/-- There the entry is for all of a namespace, and the peer's own label is gone. -/
theorem generate_not_own_crowded : ∃ p D ports,
    crowded.eval (Policy.generate true "web" .cilium none) = .ok p ∧
    Schema.cilium.readEntries? .egress p.manifest.value = some [⟨[D], ports⟩] ∧
    ¬ crowded.NamesOwn .cilium D := by
  have made : crowded.eval (Policy.generate true "web" .cilium none) = .ok _ := rfl
  refine ⟨_, Schema.cilium.descriptor
    (.selector [label CiliumNetworkPolicy.namespaceLabel "x"] "prod"), [⟨5432, .tcp⟩], made, rfl,
    ?_⟩
  rintro (⟨ip, own, ns, shown, resolved, -, read, l, hown, hshown⟩ | ⟨ip, -, -, read, -, -⟩)
  · obtain ⟨rfl, rfl⟩ : own = [label CiliumNetworkPolicy.namespaceLabel "x"] ∧ ns = "prod" := by
      have peer : crowded.eval (Peer.resolve ip)
          = .ok (.selector [label CiliumNetworkPolicy.namespaceLabel "x"] "prod") := rfl
      rw [peer] at resolved
      cases resolved
      exact ⟨rfl, rfl⟩
    obtain rfl : [label CiliumNetworkPolicy.namespaceLabel "prod"] = shown := Option.some.inj read
    simp only [List.mem_singleton] at hown hshown
    rw [hown] at hshown
    simp +decide [label] at hshown
  · cases read

end World

end LeastPrivilege
