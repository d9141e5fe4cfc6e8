import LeastPrivilege.Policy.Batch
import LeastPrivilege.Proofs.Generation

/-!
Worlds of well-formed labels. Labels are meant to be pairs of texts, and a world that keeps to that
is `World.WellTyped`. Then the labels of every peer and every pod are pairs of texts too, however
they were found (`World.peerAt_typed`, `World.labelsOf_typed`), so a manifest is nested no more than
nine deep (`World.depth_policyOf`), and its text can always be written.
-/

namespace LeastPrivilege

/-! ## Depth -/

namespace Node

theorem itemDepth_le {ns : List Node} {n : Nat} (h : ∀ m ∈ ns, m.depth ≤ n) : itemDepth ns ≤ n := by
  induction ns with
  | nil => exact Nat.zero_le n
  | cons m rest ih =>
    have hm := h m (by simp)
    have hrest := ih fun k hk => h k (by simp [hk])
    rw [itemDepth]
    omega

theorem entryDepth_le {es : List (Scalar × Node)} {n : Nat} (h : ∀ e ∈ es, e.2.depth ≤ n) :
    entryDepth es ≤ n := by
  induction es with
  | nil => exact Nat.zero_le n
  | cons e rest ih =>
    have he := h e (by simp)
    have hrest := ih fun k hk => h k (by simp [hk])
    rw [entryDepth]
    omega

theorem depth_items_le {ns : List Node} {n : Nat} (h : ∀ m ∈ ns, m.depth ≤ n) :
    (items ns).depth ≤ n + 1 := by
  have := itemDepth_le h
  rw [depth]
  omega

theorem depth_map_le {mark : Option Mark} {es : List (Scalar × Node)} {n : Nat}
    (h : ∀ e ∈ es, e.2.depth ≤ n) : (map mark es).depth ≤ n + 1 := by
  have := entryDepth_le h
  rw [depth]
  omega

theorem depth_fields_le {es : List (Text × Node)} {n : Nat} (h : ∀ e ∈ es, e.2.depth ≤ n) :
    (fields es).depth ≤ n + 1 := by
  refine depth_map_le fun e he => ?_
  obtain ⟨f, hf, rfl⟩ := List.mem_map.mp he
  exact h f hf

end Node

/-- Every label is a pair of texts. -/
def Labels.AreTexts (labels : Labels) : Prop :=
  ∀ l ∈ labels, ∃ name value : Text, l = label name value

theorem Node.depth_ofEntriesAt_le (ip : Option Text) (path : List Nat) {labels : Labels}
    (h : Labels.AreTexts labels) : ∀ index, ∀ e ∈ Node.ofEntriesAt ip path index labels,
      e.2.depth ≤ 1 := by
  induction labels with
  | nil =>
    intro index e he
    cases he
  | cons l rest ih =>
    obtain ⟨name, value, rfl⟩ := h l (by simp)
    intro index e he
    rw [label, Node.ofEntriesAt] at he
    rcases List.mem_cons.mp he with rfl | he
    · simp [Node.ofValueAt, Node.depth]
    · exact ih (fun k hk => h k (by simp [hk])) _ e he

theorem Node.depth_ofLabels_le (ip : Option Text) {labels : Labels} (h : Labels.AreTexts labels) :
    (Node.ofLabels ip labels).depth ≤ 2 :=
  Node.depth_map_le (Node.depth_ofEntriesAt_le ip [] h 0)

theorem Value.mem_setKey {α : Type} {key : Scalar} {v : α} {es : List (Scalar × α)}
    {e : Scalar × α} (h : e ∈ Value.setKey key v es) : e.2 = v ∨ e ∈ es := by
  induction es with
  | nil =>
    obtain rfl : e = (key, v) := by simpa [Value.setKey] using h
    exact .inl rfl
  | cons first rest ih =>
    obtain ⟨k, u⟩ := first
    rw [Value.setKey] at h
    split at h
    · rcases List.mem_cons.mp h with rfl | h
      · exact .inl rfl
      · exact .inr (by simp [h])
    · rcases List.mem_cons.mp h with rfl | h
      · exact .inr (by simp)
      · rcases ih h with h | h
        · exact .inl h
        · exact .inr (by simp [h])

/-- The labels that a peer names are pairs of texts. -/
def Peer.Typed (peer : Peer) : Prop :=
  ∀ labels ns, peer = .selector labels ns → Labels.AreTexts labels

theorem NetworkPolicy.depth_entry_le (d : Direction) (rule : Rule) {peer : Peer}
    (h : peer.Typed) : (NetworkPolicy.entry d rule peer).depth ≤ 6 := by
  have hpeer : (NetworkPolicy.peerNode rule.peerIp peer).depth ≤ 4 := by
    cases peer with
    | selector labels ns =>
      have hlabels := Node.depth_ofLabels_le (some rule.peerIp) (h labels ns rfl)
      simp only [NetworkPolicy.peerNode, NetworkPolicy.matching, Node.fields, List.map_cons,
        List.map_nil, Node.depth, Node.entryDepth]
      omega
    | block cidr => simp [NetworkPolicy.peerNode, Node.fields, Node.depth, Node.entryDepth]
  have hports : (Node.items (rule.ports.map NetworkPolicy.portNode)).depth ≤ 3 := by
    refine Node.depth_items_le fun n hn => ?_
    obtain ⟨p, -, rfl⟩ := List.mem_map.mp hn
    simp [NetworkPolicy.portNode, Node.fields, Node.depth, Node.entryDepth]
  refine Node.depth_fields_le fun e he => ?_
  simp only [List.mem_cons, List.not_mem_nil, or_false] at he
  rcases he with rfl | rfl
  · refine Node.depth_items_le fun n hn => ?_
    obtain rfl : n = _ := by simpa using hn
    exact hpeer
  · exact hports.trans (by omega)

theorem CiliumNetworkPolicy.depth_entry_le (d : Direction) (rule : Rule) {peer : Peer}
    (h : peer.Typed) : (CiliumNetworkPolicy.entry d rule peer).depth ≤ 6 := by
  have hpeer : (CiliumNetworkPolicy.peerField d rule.peerIp peer).2.depth ≤ 4 := by
    cases peer with
    | selector labels ns =>
      have hlabels : (Node.map none (CiliumNetworkPolicy.withNamespace
          (Node.ofEntriesAt (some rule.peerIp) [] 0 labels) ns)).depth ≤ 2 := by
        refine Node.depth_map_le fun e he => ?_
        have hown := Node.depth_ofEntriesAt_le (some rule.peerIp) [] (h labels ns rfl) 0
        unfold CiliumNetworkPolicy.withNamespace at he
        split at he
        · exact hown e he
        · rcases Value.mem_setKey he with hv | he
          · simp [hv, Node.depth]
          · exact hown e he
      simp only [CiliumNetworkPolicy.peerField, Node.fields, List.map_cons, List.map_nil,
        Node.depth, Node.itemDepth, Node.entryDepth] at hlabels ⊢
      omega
    | block cidr => simp [CiliumNetworkPolicy.peerField, Node.depth, Node.itemDepth]
  have hports : (Node.items (rule.ports.map CiliumNetworkPolicy.portNode)).depth ≤ 3 := by
    refine Node.depth_items_le fun n hn => ?_
    obtain ⟨p, -, rfl⟩ := List.mem_map.mp hn
    simp [CiliumNetworkPolicy.portNode, Node.fields, Node.depth, Node.entryDepth]
  refine Node.depth_fields_le fun e he => ?_
  simp only [List.mem_cons, List.not_mem_nil, or_false] at he
  rcases he with rfl | rfl
  · omega
  · simp only [Node.fields, List.map_cons, List.map_nil, Node.depth, Node.itemDepth,
      Node.entryDepth] at hports ⊢
    omega

theorem Schema.depth_entry_le (schema : Schema) (d : Direction) (rule : Rule) {peer : Peer}
    (h : peer.Typed) : (schema.entry d rule peer).depth ≤ 6 := by
  cases schema with
  | standard => exact NetworkPolicy.depth_entry_le d rule h
  | cilium => exact CiliumNetworkPolicy.depth_entry_le d rule h

theorem Schema.depth_header_le (schema : Schema) (pod : Text) {selector : Labels}
    (kinds : List Direction) (h : Labels.AreTexts selector) :
    ∀ e ∈ schema.header pod selector kinds, e.2.depth ≤ 7 := by
  have hlabels := Node.depth_ofLabels_le none h
  intro e he
  cases schema with
  | standard =>
    simp only [Schema.header, NetworkPolicy.header, List.mem_cons, List.not_mem_nil,
      or_false] at he
    rcases he with rfl | rfl
    · simp only [NetworkPolicy.matching, Node.fields, List.map_cons, List.map_nil, Node.depth,
        Node.entryDepth]
      omega
    · refine (Node.depth_items_le (n := 1) fun n hn => ?_).trans (by omega)
      obtain ⟨d, -, rfl⟩ := List.mem_map.mp hn
      simp [Node.depth]
  | cilium =>
    simp only [Schema.header, CiliumNetworkPolicy.header, List.mem_cons, List.not_mem_nil,
      or_false] at he
    rcases he with rfl | rfl | rfl
    · simp [Node.depth]
    · simp only [Node.fields, List.map_cons, List.map_nil, Node.depth, Node.entryDepth]
      omega
    · simp [Node.fields, Node.depth, Node.entryDepth]

/-- A manifest is one level for its fields, one for its specification, and its entries. -/
theorem Policy.depth_manifestOf_le (schema : Schema) (pod : Pod) {selector : Labels} (name : Text)
    {labels : Labels} (kinds : List Direction) {ingress egress : List Node}
    (hselector : Labels.AreTexts selector) (hlabels : Labels.AreTexts labels)
    (hi : ∀ n ∈ ingress, n.depth ≤ 6) (he : ∀ n ∈ egress, n.depth ≤ 6) :
    (Policy.manifestOf schema pod selector name labels kinds ingress egress).depth ≤ 9 := by
  have hfield : ∀ {d : Direction} {key : Text} {ns : List Node}, (∀ n ∈ ns, n.depth ≤ 6) →
      ∀ e ∈ Policy.directionFields kinds d key ns, e.2.depth ≤ 7 := by
    intro d key ns hns e he
    unfold Policy.directionFields at he
    split at he
    · obtain rfl : e = _ := by simpa using he
      exact Node.depth_items_le hns
    · cases he
  have hmeta := Node.depth_ofLabels_le none hlabels
  refine Node.depth_fields_le fun e hmem => ?_
  simp only [List.mem_cons, List.not_mem_nil, or_false] at hmem
  rcases hmem with rfl | rfl | rfl | rfl
  · simp [Node.depth]
  · simp [Node.depth]
  · simp only [Node.fields, List.map_cons, List.map_nil, Node.depth, Node.entryDepth]
    omega
  · refine Node.depth_fields_le fun e hmem => ?_
    rcases List.mem_append.mp hmem with hmem | hmem
    · rcases List.mem_append.mp hmem with hmem | hmem
      · exact schema.depth_header_le pod.name kinds hselector e hmem
      · exact hfield hi e hmem
    · exact hfield he e hmem

/-! ## Well-typed worlds -/

namespace World

variable {α β : Type}

/-- Whatever a lookup gives has labels that are pairs of texts. -/
structure WellTyped (w : World) : Prop where
  podAt : ∀ ip p, w.podAt ip = .ok (some p) → Labels.AreTexts p.labels
  serviceAt : ∀ ip s, w.serviceAt ip = .ok (some s) → Labels.AreTexts s.selector
  controller : ∀ ns kind name c, w.controller ns kind name = .ok (some c) →
    Labels.AreTexts c.matchLabels
  pod : ∀ ns name p, w.pod ns name = .ok (some p) → Labels.AreTexts p.labels

/-- If the attempt gives a result, it has the property. -/
def Gives (w : World) (P : α → Prop) (x : Attempt lookups α) : Prop :=
  ∀ a, w.eval x = .ok a → P a

variable {w : World}

theorem Gives.bind {P : α → Prop} {Q : β → Prop} {x : Attempt lookups α}
    {f : α → Attempt lookups β} (hx : w.Gives P x) (hf : ∀ a, P a → w.Gives Q (f a)) :
    w.Gives Q (x >>= f) := by
  intro b h
  rw [eval_bind] at h
  obtain ⟨a, ha, h⟩ := bind_ok h
  exact hf a (hx a ha) b h

theorem Gives.pure' {P : α → Prop} {a : α} (h : P a) : w.Gives P (pure a) := by
  rintro b e
  cases e
  exact h

theorem Gives.throw' {P : α → Prop} (fault : Fault) :
    w.Gives P (throw fault : Attempt lookups α) := by
  rintro b e
  cases e

theorem Gives.anything (x : Attempt lookups α) : w.Gives (fun _ => True) x :=
  fun _ _ => trivial

namespace WellTyped

variable (h : w.WellTyped)

include h

theorem get (ns kind name : Text) :
    w.Gives (fun c => Labels.AreTexts c.matchLabels) (Controller.get ns kind name) := by
  have found : w.Gives (fun found => ∀ c, found = some c → Labels.AreTexts c.matchLabels)
      (Lookup.getController ns kind name) := by
    rintro found e c rfl
    exact h.controller ns kind name c (OwnFault.ok_of_plain e)
  refine found.bind fun found hfound => ?_
  cases found with
  | some c => exact .pure' (hfound c rfl)
  | none => exact .throw' _

theorem ofOwner (ns : Text) (owner : OwnerRef) :
    w.Gives (fun c => Labels.AreTexts c.matchLabels) (Controller.ofOwner ns owner) := by
  unfold Controller.ofOwner
  split
  · refine (h.get ns _ owner.name).bind fun rs hrs => ?_
    cases rs.owner with
    | none => exact .pure' hrs
    | some above =>
      show w.Gives _ (if above.kind = _ then _ else _)
      split
      · exact h.get ns _ above.name
      · exact .throw' _
  · split
    · exact h.get ns owner.kind owner.name
    · exact .throw' _

/-- The selector of a pod is its own labels or those of a controller. -/
theorem selectorOf {p : Pod} (hp : Labels.AreTexts p.labels) {s : Selector}
    (hs : w.selectorOf p = .ok s) : Labels.AreTexts s.labels := by
  have gives : w.Gives (fun s => Labels.AreTexts s.labels) (Selector.ofPod p) := by
    unfold Selector.ofPod
    cases p.owner with
    | none => exact .pure' hp
    | some owner =>
      refine (h.ofOwner p.ns owner).bind fun c hc => ?_
      show w.Gives _ (if c.matchLabels.isEmpty then _ else _)
      split
      · exact .throw' _
      · exact (Gives.anything _).bind fun _ _ => .pure' hc
  exact gives s hs

theorem labelsOf {p : Pod} (hp : Labels.AreTexts p.labels) : Labels.AreTexts (w.labelsOf p) := by
  have named : Labels.AreTexts [label "app" p.name] := by
    intro l hl
    exact ⟨_, _, by simpa using hl⟩
  unfold World.labelsOf
  split
  · rename_i s hs
    split
    · exact named
    · exact h.selectorOf hp hs
  · exact named

/-- The peer of an address is typed, wherever it was found. -/
theorem peerAt (ip : Text) : (w.peerAt ip).Typed := by
  have ofSelector : ∀ {s : Selector} {peer : Peer}, Labels.AreTexts s.labels →
      Peer.ofSelector? s = some peer → peer.Typed := by
    intro s peer hs hpeer labels ns e
    unfold Peer.ofSelector? at hpeer
    split at hpeer
    · cases hpeer
    · cases hpeer
      cases e
      exact hs
  have block : (Peer.ofIp ip).Typed := by
    intro labels ns e
    cases e
  unfold World.peerAt
  cases hservice : w.servicePeer? ip with
  | some peer =>
    obtain ⟨s, hs, hpeer⟩ := Option.bind_eq_some_iff.mp hservice
    exact ofSelector (h.serviceAt ip s (ok_of_toOption (Option.join_eq_some_iff.mp hs))) hpeer
  | none =>
    cases hpod : w.podPeer? ip with
    | none => exact block
    | some peer =>
      obtain ⟨p, hp, hpeer⟩ := Option.bind_eq_some_iff.mp hpod
      split at hpeer
      · cases hpeer
        exact block
      · obtain ⟨s, hs, hpeer⟩ := Option.bind_eq_some_iff.mp hpeer
        have hp := h.podAt ip p (ok_of_toOption (Option.join_eq_some_iff.mp hp))
        exact ofSelector (h.selectorOf hp (ok_of_toOption hs)) hpeer

theorem findTarget {byName : Bool} {pod : Text} {records : List Record} {ns : Option Text} :
    w.Gives (fun target => Labels.AreTexts target.labels)
      (Policy.findTarget byName pod records ns) := by
  cases records with
  | nil =>
    show w.Gives _ (Policy.findIdle byName pod ns)
    unfold Policy.findIdle
    cases ns.filter fun n => byName && !n.isEmpty with
    | none => exact .throw' _
    | some given =>
      have found : w.Gives (fun found => ∀ p, found = some p → Labels.AreTexts p.labels)
          (Lookup.getPod given pod) := by
        rintro found e p rfl
        exact h.pod given pod p (OwnFault.ok_of_plain e)
      refine found.bind fun found hfound => ?_
      cases found with
      | none => exact .throw' _
      | some target => exact (Gives.anything _).bind fun _ _ => .pure' (hfound target rfl)
  | cons first rest =>
    have found (ip : Text) : w.Gives
        (fun found => ∀ p, found = some p → Labels.AreTexts p.labels) (Lookup.getPodAt ip) := by
      rintro found e p rfl
      exact h.podAt ip p (OwnFault.ok_of_plain e)
    refine (found _).bind fun found hfound => ?_
    cases found with
    | none => exact .throw' _
    | some target => exact .pure' (hfound target rfl)

theorem depth_policyOf (schema : Schema) {target : Pod} (htarget : Labels.AreTexts target.labels)
    (a : Aggregation) : (w.policyOf schema target a).manifest.depth ≤ 9 := by
  -- Nine levels: the manifest, its specification, a direction, and six for an entry.
  have entries (d : Direction) (rules : List Rule) :
      ∀ n ∈ w.entriesOf schema d rules, n.depth ≤ 6 := by
    intro n hn
    obtain ⟨rule, -, rfl⟩ := List.mem_map.mp hn
    exact schema.depth_entry_le d rule (h.peerAt rule.peerIp)
  refine Policy.depth_manifestOf_le schema target _ _ (h.labelsOf htarget) ?_ (entries _ _)
    (entries _ _)
  intro l hl
  simp only [Policy.labelsFor, List.mem_cons, List.not_mem_nil, or_false] at hl
  rcases hl with rfl | rfl | rfl | rfl <;> exact ⟨_, _, rfl⟩

/-- In a well-typed world a policy that is made can be written as text. -/
theorem textOf {byName : Bool} {pod : Text} {schema : Schema} {ns : Option Text} {p : Policy}
    (hp : w.eval (Policy.generate byName pod schema ns) = .ok p) :
    Plan.textOf p = .ok (Yaml.write p.manifest) := by
  obtain ⟨records, target, a, -, htarget, -, rfl⟩ := w.eval_generate_ok hp
  have hdepth := h.depth_policyOf schema (h.findTarget target htarget) a
  unfold Plan.textOf
  rw [if_neg (by rw [Plan.maxDepth]; omega)]

end WellTyped

end World

end LeastPrivilege
