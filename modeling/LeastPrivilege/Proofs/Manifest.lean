import LeastPrivilege.Policy.Rendering
import LeastPrivilege.Proofs.Decimal

/-!
Manifests read back. A manifest is read as a plain value: the labels of the pod it selects, and for
each direction its entries, each a list of peers and a list of ports. The readers of the two schemas
are written from their layouts, and they are strict: an entry with any other member, or a port that
spells no number or no protocol, is not read at all. What rendering writes is read back as the rules
it was given (`readEntries?_manifestOf`, `readEntry?_entry`), and a peer stands there as its
`descriptor`.
-/

namespace LeastPrivilege

namespace Value

/-- The member of a map under a text key. -/
def at? (v : Value) (key : Text) : Option Value :=
  match v with
  | map entries => getKey? (.text key) entries
  | _ => none

theorem eq_text_of_sameKey {k : Scalar} {t : Text} (h : k.sameKey (.text t) = true) :
    k = .text t := by
  cases k <;> simp_all [Scalar.sameKey, Scalar.asInt?]

theorem getKey?_cons_text {α : Type} (key k : Text) (v : α) (rest : List (Scalar × α)) :
    getKey? (.text key) ((.text k, v) :: rest)
      = if k = key then some v else getKey? (.text key) rest := by
  have same : (Scalar.text k).sameKey (.text key) = decide (k = key) := by
    show decide (Scalar.text k = Scalar.text key) = _
    simp only [Scalar.text.injEq]
  unfold getKey?
  rw [List.find?_cons, same]
  by_cases h : k = key <;> simp [h]

theorem getKey?_nil {α : Type} (key : Scalar) : getKey? key ([] : List (Scalar × α)) = none :=
  rfl

/-- A key that none of the entries has is looked for behind them. -/
theorem getKey?_append {α : Type} {key : Scalar} {entries : List (Scalar × α)}
    (h : ∀ e ∈ entries, ¬ e.1.sameKey key = true) (rest : List (Scalar × α)) :
    getKey? key (entries ++ rest) = getKey? key rest := by
  unfold getKey?
  rw [List.find?_append, List.find?_eq_none.mpr h, Option.none_or]

/-- A key that none of the entries has is set behind them. -/
theorem setKey_append {α : Type} {key : Scalar} {v : α} {entries : List (Scalar × α)}
    (h : ∀ e ∈ entries, ¬ e.1.sameKey key = true) :
    setKey key v entries = entries ++ [(key, v)] := by
  induction entries with
  | nil => rfl
  | cons e rest ih =>
    obtain ⟨he, hrest⟩ := List.forall_mem_cons.mp h
    rw [setKey, if_neg he, ih hrest, List.cons_append]

theorem at?_map (entries : List (Scalar × Value)) (key : Text) :
    (map entries).at? key = getKey? (.text key) entries :=
  rfl

/-- The items of the list under a text key, each of them read; none where the key is not there. -/
def itemsAt? {α : Type} (v : Value) (key : Text) (read : Value → Option α) : Option (List α) :=
  match v.at? key with
  | none => some []
  | some (list items) => items.mapM read
  | some _ => none

end Value

/-! ## Plain values of nodes -/

namespace Node

theorem itemValues_eq_map (ns : List Node) : itemValues ns = ns.map value := by
  induction ns with
  | nil => rfl
  | cons n rest ih => rw [itemValues, ih, List.map_cons]

theorem entryValues_eq_map (es : List (Scalar × Node)) :
    entryValues es = es.map fun e => (e.1, e.2.value) := by
  induction es with
  | nil => rfl
  | cons e rest ih => rw [entryValues, ih, List.map_cons]

theorem value_scalar (s : Scalar) : (scalar s).value = .scalar s := by
  rw [value]

theorem value_list (mark : Option Mark) (ns : List Node) :
    (list mark ns).value = .list (ns.map value) := by
  rw [value, itemValues_eq_map]

theorem value_map (mark : Option Mark) (es : List (Scalar × Node)) :
    (map mark es).value = .map (es.map fun e => (e.1, e.2.value)) := by
  rw [value, entryValues_eq_map]

theorem value_fields (es : List (Text × Node)) :
    (fields es).value = .map (es.map fun e => (.text e.1, e.2.value)) := by
  rw [fields, value_map, List.map_map]
  rfl

mutual

/-- A value made into a node is read back as it was, whatever its marks. -/
theorem value_ofValueAt (ip : Option Text) (path : List Nat) :
    ∀ v : Value, (ofValueAt ip path v).value = v
  | .scalar s => by rw [ofValueAt, value]
  | .list vs => by rw [ofValueAt, value, itemValues_ofItemsAt]
  | .map es => by rw [ofValueAt, value, entryValues_ofEntriesAt]

theorem itemValues_ofItemsAt (ip : Option Text) (path : List Nat) (index : Nat) :
    ∀ vs : List Value, itemValues (ofItemsAt ip path index vs) = vs
  | [] => by rw [ofItemsAt, itemValues]
  | v :: rest => by
    rw [ofItemsAt, itemValues, value_ofValueAt ip _ v, itemValues_ofItemsAt ip path _ rest]

theorem entryValues_ofEntriesAt (ip : Option Text) (path : List Nat) (index : Nat) :
    ∀ es : List (Scalar × Value), entryValues (ofEntriesAt ip path index es) = es
  | [] => by rw [ofEntriesAt, entryValues]
  | (k, v) :: rest => by
    rw [ofEntriesAt, entryValues, value_ofValueAt ip _ v, entryValues_ofEntriesAt ip path _ rest]

end

theorem value_ofLabels (ip : Option Text) (labels : Labels) :
    (ofLabels ip labels).value = .map labels := by
  rw [ofLabels, value, entryValues_ofEntriesAt]

theorem entryValues_setKey (key : Scalar) (n : Node) (es : List (Scalar × Node)) :
    entryValues (Value.setKey key n es) = Value.setKey key n.value (entryValues es) := by
  induction es with
  | nil => rfl
  | cons e rest ih =>
    obtain ⟨k, m⟩ := e
    simp only [Value.setKey, entryValues]
    split
    · rw [entryValues]
    · rw [entryValues, ih]

end Node

/-! ## What is read -/

/-- The protocol that policies write so. -/
def Protocol.ofName? (name : Text) : Option Protocol :=
  [.tcp, .udp, .sctp].find? fun p => p.name == name

theorem Protocol.ofName?_name (p : Protocol) : ofName? p.name = some p := by
  cases p <;> decide

/-- The key under which a specification lists the entries of a direction. -/
def Direction.entriesKey : Direction → Text
  | ingress => "ingress"
  | egress => "egress"

/-- What belongs to a direction, of a pair for both. -/
def Direction.pick {α : Type} (forIngress forEgress : α) : Direction → α
  | ingress => forIngress
  | egress => forEgress

/-- An entry of a manifest: the peers it names and the ports it lists. -/
structure Entry where
  peers : List Value
  ports : List Port

namespace NetworkPolicy

/-- A peer as it stands in a manifest. -/
def descriptor : Peer → Value
  | .selector labels ns => .map [
      (.text "podSelector", .map [(.text "matchLabels", .map labels)]),
      (.text "namespaceSelector", .map [
        (.text "matchLabels", .map [(.text namespaceLabel, .text ns)])])]
  | .block cidr => .map [(.text "ipBlock", .map [(.text "cidr", .text cidr)])]

/-- A port: a whole number and a protocol. -/
def readPort? : Value → Option Port
  | .map [(.text k, .scalar (.int n)), (.text l, .scalar (.text name))] =>
    if k = "port" ∧ l = "protocol" then (Protocol.ofName? name).map fun p => ⟨n, p⟩ else none
  | _ => none

/-- An entry: one list of peers and one of ports. -/
def readEntry? (direction : Direction) : Value → Option Entry
  | .map [(.text k, .list peers), (.text l, .list ports)] =>
    if k = peerKey direction ∧ l = "ports" then
      (ports.mapM readPort?).map fun ports => ⟨peers, ports⟩
    else none
  | _ => none

/-- The key of the pod's own selector. -/
def selectorKey : Text := "podSelector"

/-- The labels that a peer must carry. -/
def peerLabels? (peer : Value) : Option Labels := do
  match ← (← peer.at? "podSelector").at? "matchLabels" with
  | .map labels => some labels
  | _ => none

/-- The block of addresses that a peer is. -/
def peerBlock? (peer : Value) : Option Text := do
  match ← (← peer.at? "ipBlock").at? "cidr" with
  | .scalar (.text cidr) => some cidr
  | _ => none

end NetworkPolicy

namespace CiliumNetworkPolicy

/-- The labels of a peer as they stand in a manifest, with its namespace among them. -/
def shownLabels (labels : Labels) (ns : Text) : Labels :=
  if ns.isEmpty then labels else Value.setKey (.text namespaceLabel) (.text ns) labels

/-- A peer as it stands in a manifest. -/
def descriptor : Peer → Value
  | .selector labels ns => .map [(.text "matchLabels", .map (shownLabels labels ns))]
  | .block cidr => .text cidr

/-- A port: decimal text and a protocol. -/
def readPort? : Value → Option Port
  | .map [(.text k, .scalar (.text digits)), (.text l, .scalar (.text name))] =>
    if k = "port" ∧ l = "protocol" then do
      return ⟨← Text.readDecimal? digits, ← Protocol.ofName? name⟩
    else none
  | _ => none

/-- The key of the pod's own selector. -/
def selectorKey : Text := "endpointSelector"

/-- The labels that a peer must carry. -/
def peerLabels? (peer : Value) : Option Labels := do
  match ← peer.at? "matchLabels" with
  | .map labels => some labels
  | _ => none

/-- The block of addresses that a peer is. -/
def peerBlock? : Value → Option Text
  | .scalar (.text cidr) => some cidr
  | _ => none

/-- Peers stand under the key of their kind. -/
def fitsKey (direction : Direction) (key : Text) (peers : List Value) : Bool :=
  (key == endpointsKey direction && peers.all fun p => (peerLabels? p).isSome) ||
    (key == blockKey direction && peers.all fun p => (peerBlock? p).isSome)

/-- An entry: one list of peers or of blocks, and one list with one list of ports. -/
def readEntry? (direction : Direction) : Value → Option Entry
  | .map [(.text k, .list peers), (.text l, .list [.map [(.text m, .list ports)]])] =>
    if fitsKey direction k peers ∧ l = "toPorts" ∧ m = "ports" then
      (ports.mapM readPort?).map fun ports => ⟨peers, ports⟩
    else none
  | _ => none

end CiliumNetworkPolicy

namespace Schema

/-- A peer as it stands in a manifest. -/
def descriptor : Schema → Peer → Value
  | standard => NetworkPolicy.descriptor
  | cilium => CiliumNetworkPolicy.descriptor

/-- Reads an entry of a direction. -/
def readEntry? : Schema → Direction → Value → Option Entry
  | standard => NetworkPolicy.readEntry?
  | cilium => CiliumNetworkPolicy.readEntry?

/-- The key of the pod's own selector. -/
def selectorKey : Schema → Text
  | standard => NetworkPolicy.selectorKey
  | cilium => CiliumNetworkPolicy.selectorKey

/-- The labels that a peer of a manifest must carry. -/
def peerLabels? : Schema → Value → Option Labels
  | standard => NetworkPolicy.peerLabels?
  | cilium => CiliumNetworkPolicy.peerLabels?

/-- The block of addresses that a peer of a manifest is. -/
def peerBlock? : Schema → Value → Option Text
  | standard => NetworkPolicy.peerBlock?
  | cilium => CiliumNetworkPolicy.peerBlock?

/-- The labels of the pod that a manifest is for. -/
def readOwnLabels? (schema : Schema) (manifest : Value) : Option Labels := do
  match ← (← (← manifest.at? "spec").at? schema.selectorKey).at? "matchLabels" with
  | .map labels => some labels
  | _ => none

/-- The entries of a direction; a direction that is not written has none. -/
def readEntries? (schema : Schema) (direction : Direction) (manifest : Value) :
    Option (List Entry) := do
  match (← manifest.at? "spec").at? direction.entriesKey with
  | none => some []
  | some (.list entries) => entries.mapM (schema.readEntry? direction)
  | some _ => none

end Schema

/-! ## What rendering writes is read back -/

theorem mapM_map_some {α β γ : Type} {f : β → Option γ} {g : α → β} {h : α → γ} {l : List α}
    (hf : ∀ a ∈ l, f (g a) = some (h a)) : (l.map g).mapM f = some (l.map h) := by
  induction l with
  | nil => rfl
  | cons a rest ih =>
    rw [List.map_cons, List.mapM_cons, hf a (by simp), ih fun b hb => hf b (by simp [hb])]
    rfl

theorem NetworkPolicy.readPort?_portNode (p : Port) :
    NetworkPolicy.readPort? (NetworkPolicy.portNode p).value = some p := by
  rw [NetworkPolicy.portNode, Node.value_fields]
  simp [Node.value_scalar, NetworkPolicy.readPort?, Protocol.ofName?_name]

theorem CiliumNetworkPolicy.readPort?_portNode {p : Port} (h : 1 ≤ p.number) :
    CiliumNetworkPolicy.readPort? (CiliumNetworkPolicy.portNode p).value = some p := by
  have hn : Text.readDecimal? (Text.ofInt p.number) = some p.number.natAbs := by
    rw [Text.ofInt_of_nonneg (by omega), Text.readDecimal?_decimal]
  have habs : (p.number.natAbs : Int) = p.number := by omega
  rw [CiliumNetworkPolicy.portNode, Node.value_fields]
  simp [Node.value_scalar, CiliumNetworkPolicy.readPort?, Protocol.ofName?_name, hn, habs]

theorem NetworkPolicy.value_peerNode (ip : Text) (peer : Peer) :
    (NetworkPolicy.peerNode ip peer).value = NetworkPolicy.descriptor peer := by
  cases peer <;>
    simp [NetworkPolicy.peerNode, NetworkPolicy.matching, NetworkPolicy.descriptor,
      Node.value_fields, Node.value_ofLabels, Node.value_scalar]

theorem NetworkPolicy.readEntry?_entry (direction : Direction) (rule : Rule) (peer : Peer) :
    NetworkPolicy.readEntry? direction (NetworkPolicy.entry direction rule peer).value
      = some ⟨[NetworkPolicy.descriptor peer], rule.ports⟩ := by
  have hports : (rule.ports.map fun p => (NetworkPolicy.portNode p).value).mapM
      NetworkPolicy.readPort? = some (rule.ports.map id) :=
    mapM_map_some fun p _ => NetworkPolicy.readPort?_portNode p
  rw [NetworkPolicy.entry, Node.value_fields]
  simp [Node.value_list, NetworkPolicy.value_peerNode, NetworkPolicy.readEntry?,
    Function.comp_def, hports]

theorem CiliumNetworkPolicy.value_peerField (direction : Direction) (ip : Text) (peer : Peer) :
    ∃ key, fitsKey direction key [CiliumNetworkPolicy.descriptor peer] ∧
      (CiliumNetworkPolicy.peerField direction ip peer).1 = key ∧
      (CiliumNetworkPolicy.peerField direction ip peer).2.value
        = .list [CiliumNetworkPolicy.descriptor peer] := by
  cases peer with
  | selector labels ns =>
    refine ⟨endpointsKey direction, ?_, rfl, ?_⟩
    · simp [fitsKey, descriptor, peerLabels?, Value.at?_map, Value.getKey?_cons_text]
    have hlabels : Node.entryValues (withNamespace (Node.ofEntriesAt (some ip) [] 0 labels) ns)
        = shownLabels labels ns := by
      unfold withNamespace shownLabels
      split
      · rw [Node.entryValues_ofEntriesAt]
      · rw [Node.entryValues_setKey, Node.entryValues_ofEntriesAt, Node.value_scalar]
    simp only [peerField, Node.value_list, Node.value_fields, List.map_cons, List.map_nil,
      Node.value, hlabels, descriptor]
  | block cidr =>
    refine ⟨blockKey direction, by simp [fitsKey, descriptor, peerBlock?], rfl, ?_⟩
    simp only [peerField, Node.value_list, List.map_cons, List.map_nil, Node.value_scalar,
      descriptor]

theorem CiliumNetworkPolicy.readEntry?_entry (direction : Direction) {rule : Rule} (peer : Peer)
    (h : ∀ p ∈ rule.ports, 1 ≤ p.number) :
    CiliumNetworkPolicy.readEntry? direction (CiliumNetworkPolicy.entry direction rule peer).value
      = some ⟨[CiliumNetworkPolicy.descriptor peer], rule.ports⟩ := by
  have hports : (rule.ports.map fun p => (CiliumNetworkPolicy.portNode p).value).mapM
      CiliumNetworkPolicy.readPort? = some (rule.ports.map id) :=
    mapM_map_some fun p hp => CiliumNetworkPolicy.readPort?_portNode (h p hp)
  obtain ⟨key, hkey, hfst, hsnd⟩ := CiliumNetworkPolicy.value_peerField direction rule.peerIp peer
  rw [CiliumNetworkPolicy.entry, Node.value_fields]
  simp [Node.value_list, Node.value_fields, hfst, hsnd, CiliumNetworkPolicy.readEntry?, hkey,
    Function.comp_def, hports]

/-- An entry is read back as the one peer and the ports it was made from. -/
theorem Schema.readEntry?_entry (schema : Schema) (direction : Direction) {rule : Rule}
    (peer : Peer) (h : ∀ p ∈ rule.ports, 1 ≤ p.number) :
    schema.readEntry? direction (schema.entry direction rule peer).value
      = some ⟨[schema.descriptor peer], rule.ports⟩ := by
  cases schema with
  | standard => exact NetworkPolicy.readEntry?_entry direction rule peer
  | cilium => exact CiliumNetworkPolicy.readEntry?_entry direction peer h

namespace Policy

variable (schema : Schema) (pod : Pod) (selector : Labels) (name : Text) (labels : Labels)
  (kinds : List Direction) (ingress egress : List Node)

theorem at?_spec_manifestOf :
    (manifestOf schema pod selector name labels kinds ingress egress).value.at? "spec"
      = some (.map ((schema.header pod.name selector kinds
          ++ directionFields kinds .ingress "ingress" ingress
          ++ directionFields kinds .egress "egress" egress).map
        fun e => (.text e.1, e.2.value))) := by
  rw [manifestOf, Node.value_fields, Value.at?_map]
  simp +decide only [List.map_cons, List.map_nil, Value.getKey?_cons_text, if_false, if_true,
    Node.value_fields]

/-- The selector of a manifest is read back. -/
theorem readOwnLabels?_manifestOf :
    schema.readOwnLabels? (manifestOf schema pod selector name labels kinds ingress egress).value
      = some selector := by
  rw [Schema.readOwnLabels?, at?_spec_manifestOf]
  cases schema with
  | standard =>
    simp +decide [Schema.header, NetworkPolicy.header, NetworkPolicy.matching, Schema.selectorKey,
      NetworkPolicy.selectorKey, Value.at?_map, Value.getKey?_cons_text, Node.value_fields,
      Node.value_ofLabels]
  | cilium =>
    simp +decide [Schema.header, CiliumNetworkPolicy.header, Schema.selectorKey,
      CiliumNetworkPolicy.selectorKey, Value.at?_map, Value.getKey?_cons_text, Node.value_fields,
      Node.value_ofLabels]

/-- A specification has the key of a direction exactly if the direction is enforced. -/
theorem at?_entriesKey_manifestOf (d : Direction) :
    ((manifestOf schema pod selector name labels kinds ingress egress).value.at? "spec").bind
        (·.at? d.entriesKey)
      = if kinds.contains d then some (.list ((d.pick ingress egress).map Node.value))
        else none := by
  rw [at?_spec_manifestOf, Option.bind_some, Value.at?_map]
  cases schema <;> cases d <;> cases hi : kinds.contains .ingress <;>
    cases he : kinds.contains .egress <;>
    simp +decide only [Schema.header, NetworkPolicy.header, CiliumNetworkPolicy.header,
      directionFields, hi, he, Direction.entriesKey, Direction.pick, List.map_cons,
      List.map_nil, List.cons_append, List.nil_append, Value.getKey?_cons_text,
      Value.getKey?_nil, if_false, if_true, Node.value_list]

/-- The entries of an enforced direction are read one by one; any other direction has none. -/
theorem itemsAt?_manifestOf {α : Type} (d : Direction) (read : Value → Option α) :
    ((manifestOf schema pod selector name labels kinds ingress egress).value.at? "spec").bind
        (·.itemsAt? d.entriesKey read)
      = if kinds.contains d then (d.pick ingress egress).mapM fun n => read n.value
        else some [] := by
  have hat := at?_entriesKey_manifestOf schema pod selector name labels kinds ingress egress d
  rw [at?_spec_manifestOf, Option.bind_some] at hat ⊢
  rw [Value.itemsAt?, hat]
  by_cases hk : kinds.contains d = true
  · simp only [hk, if_true]
    exact List.mapM_map
  · simp only [hk]
    rfl

theorem readEntries?_manifestOf (d : Direction) :
    schema.readEntries? d (manifestOf schema pod selector name labels kinds ingress egress).value
      = if kinds.contains d then (d.pick ingress egress).mapM fun n => schema.readEntry? d n.value
        else some [] :=
  itemsAt?_manifestOf schema pod selector name labels kinds ingress egress d (schema.readEntry? d)

/-- A direction is enforced exactly if it has rules or neither has any. -/
theorem mem_enforced_iff {ingress egress : List Rule} (d : Direction) :
    d ∈ enforced ingress egress ↔ d.pick ingress egress ≠ [] ∨ (ingress = [] ∧ egress = []) := by
  cases d <;> cases ingress <;> cases egress <;> simp [enforced, Direction.pick]

end Policy

end LeastPrivilege
