import LeastPrivilege.Proofs.Manifest
import Mathlib.Data.List.Forall2

/-!
Parity of the two schemas. What rules say is what they grant: a peer, and ports in order. Either
manifest alone gives that back, with the pod's own selector and the directions it enforces
(`Policy.Tells`), although the schemas write namespaces, ports and directions differently. So the
two policies of the same rules agree, and where a rule has no peer both are refused for the same one
(`Policy.render_parity`). What makes this hold is that the labels of a peer do not have the key
under which the Cilium form sets the namespace.
-/

namespace LeastPrivilege

/-- What a rule or an entry grants: ports, to a peer. -/
structure Grant where
  peer : Peer
  ports : List Port

/-- What a resolved rule grants. -/
def Rule.grant? (rule : Rule) : Option Grant :=
  rule.peer.map fun peer => ⟨peer, rule.ports⟩

/-- The peer's labels do not have the key under which a namespace goes among them. -/
def Peer.Unreserved (peer : Peer) : Prop :=
  ∀ labels ns, peer = .selector labels ns →
    ∀ l ∈ labels, l.1 ≠ .text CiliumNetworkPolicy.namespaceLabel

/-- The rule has a peer, which can be written in either schema. -/
def Rule.Writable (rule : Rule) : Prop :=
  ∃ peer, rule.peer = some peer ∧ peer.Unreserved

/-! ## Readers -/

/-- The direction that a policy declares so. -/
def Direction.ofKindName? (name : Text) : Option Direction :=
  [.ingress, .egress].find? fun d => d.kindName == name

namespace NetworkPolicy

/-- A peer: labels in a namespace, or a block. -/
def readPeer? : Value → Option Peer
  | .map [(.text k, .map [(.text l, .map labels)]),
      (.text m, .map [(.text n, .map [(.text o, .scalar (.text ns))])])] =>
    if k = "podSelector" ∧ l = "matchLabels" ∧ m = "namespaceSelector" ∧ n = "matchLabels" ∧
        o = namespaceLabel then some (.selector labels ns)
    else none
  | .map [(.text k, .map [(.text l, .scalar (.text cidr))])] =>
    if k = "ipBlock" ∧ l = "cidr" then some (.block cidr) else none
  | _ => none

/-- What an entry of a direction grants. -/
def readGrant? (direction : Direction) : Value → Option Grant
  | .map [(.text k, .list [peer]), (.text l, .list ports)] =>
    if k = peerKey direction ∧ l = "ports" then do
      return ⟨← readPeer? peer, ← ports.mapM readPort?⟩
    else none
  | _ => none

/-- The directions that a specification lists. -/
def readKinds? (spec : Value) : Option (List Direction) := do
  match ← spec.at? "policyTypes" with
  | .list names => names.mapM fun
    | .scalar (.text name) => Direction.ofKindName? name
    | _ => none
  | _ => none

end NetworkPolicy

namespace CiliumNetworkPolicy

/-- Labels, and the namespace that stands among them; where none does, it is empty. -/
def splitNamespace? (shown : Labels) : Option (Labels × Text) :=
  match Value.getKey? (.text namespaceLabel) shown with
  | none => some (shown, [])
  | some (.scalar (.text ns)) => some (shown.filter (·.1 ≠ .text namespaceLabel), ns)
  | some _ => none

/-- A peer under its key: labels with the namespace among them, or a block. -/
def readPeer? (direction : Direction) (key : Text) : Value → Option Peer
  | .map [(.text k, .map shown)] =>
    if key = endpointsKey direction ∧ k = "matchLabels" then
      (splitNamespace? shown).map fun (labels, ns) => .selector labels ns
    else none
  | .scalar (.text cidr) => if key = blockKey direction then some (.block cidr) else none
  | _ => none

/-- A port: the decimal text of a number of either sign, and a protocol. -/
def readSignedPort? : Value → Option Port
  | .map [(.text k, .scalar (.text number)), (.text l, .scalar (.text name))] =>
    if k = "port" ∧ l = "protocol" then do
      return ⟨← Text.readInt? number, ← Protocol.ofName? name⟩
    else none
  | _ => none

/-- What an entry of a direction grants. -/
def readGrant? (direction : Direction) : Value → Option Grant
  | .map [(.text k, .list [peer]), (.text l, .list [.map [(.text m, .list ports)]])] =>
    if l = "toPorts" ∧ m = "ports" then do
      return ⟨← readPeer? direction k peer, ← ports.mapM readSignedPort?⟩
    else none
  | _ => none

/-- The directions that a specification switches on. -/
def readKinds? (spec : Value) : Option (List Direction) := do
  match ← spec.at? "enableDefaultDeny" with
  | .map [(.text k, .scalar (.bool ingress)), (.text l, .scalar (.bool egress))] =>
    if k = "ingress" ∧ l = "egress" then
      some ([.ingress, .egress].filter fun d => d.pick ingress egress)
    else none
  | _ => none

end CiliumNetworkPolicy

namespace Schema

/-- What an entry of a direction grants. -/
def readGrant? : Schema → Direction → Value → Option Grant
  | standard => NetworkPolicy.readGrant?
  | cilium => CiliumNetworkPolicy.readGrant?

/-- What a manifest grants in a direction, entry by entry; a direction that is not written grants
nothing. -/
def readGrants? (schema : Schema) (direction : Direction) (manifest : Value) :
    Option (List Grant) := do
  (← manifest.at? "spec").itemsAt? direction.entriesKey (schema.readGrant? direction)

/-- The directions that a manifest enforces. -/
def readKinds? (schema : Schema) (manifest : Value) : Option (List Direction) := do
  let spec ← manifest.at? "spec"
  match schema with
  | standard => NetworkPolicy.readKinds? spec
  | cilium => CiliumNetworkPolicy.readKinds? spec

end Schema

/-! ## One entry -/

theorem NetworkPolicy.readPeer?_descriptor (peer : Peer) :
    NetworkPolicy.readPeer? (NetworkPolicy.descriptor peer) = some peer := by
  cases peer <;> simp [NetworkPolicy.descriptor, NetworkPolicy.readPeer?]

theorem NetworkPolicy.readGrant?_entry (direction : Direction) (rule : Rule) (peer : Peer) :
    NetworkPolicy.readGrant? direction (NetworkPolicy.entry direction rule peer).value
      = some ⟨peer, rule.ports⟩ := by
  have hports : (rule.ports.map fun p => (NetworkPolicy.portNode p).value).mapM
      NetworkPolicy.readPort? = some (rule.ports.map id) :=
    mapM_map_some fun p _ => NetworkPolicy.readPort?_portNode p
  rw [NetworkPolicy.entry, Node.value_fields]
  simp [Node.value_list, NetworkPolicy.value_peerNode, NetworkPolicy.readGrant?,
    NetworkPolicy.readPeer?_descriptor, Function.comp_def, hports]

/-- A namespace is found again among labels that do not have its key. -/
theorem CiliumNetworkPolicy.splitNamespace?_shownLabels {labels : Labels} (ns : Text)
    (h : ∀ l ∈ labels, l.1 ≠ .text namespaceLabel) :
    splitNamespace? (shownLabels labels ns) = some (labels, ns) := by
  have hfresh : ∀ l ∈ labels, ¬ l.1.sameKey (.text namespaceLabel) = true :=
    fun l hl hkey => h l hl (Value.eq_text_of_sameKey hkey)
  have hnone : Value.getKey? (.text namespaceLabel) labels = none := by
    rw [← labels.append_nil, Value.getKey?_append hfresh, Value.getKey?_nil]
  unfold shownLabels
  split
  · rename_i hns
    rw [splitNamespace?, hnone, List.isEmpty_iff.mp hns]
  · have hget : Value.getKey? (.text namespaceLabel) (labels ++ [(.text namespaceLabel, .text ns)])
        = some (.text ns) :=
      Value.getKey?_append hfresh _
    have hfilter : labels.filter (·.1 ≠ .text namespaceLabel) = labels :=
      List.filter_eq_self.mpr fun l hl => by simp [h l hl]
    rw [Value.setKey_append hfresh, splitNamespace?, hget]
    show some ((labels ++ [(Scalar.text namespaceLabel, Value.text ns)]).filter _, ns) = _
    rw [List.filter_append, hfilter]
    simp

theorem CiliumNetworkPolicy.readPeer?_descriptor (direction : Direction) (ip : Text) {peer : Peer}
    (h : peer.Unreserved) :
    CiliumNetworkPolicy.readPeer? direction (CiliumNetworkPolicy.peerField direction ip peer).1
      (CiliumNetworkPolicy.descriptor peer) = some peer := by
  cases peer with
  | selector labels ns =>
    simp [peerField, descriptor, readPeer?, splitNamespace?_shownLabels ns (h labels ns rfl)]
  | block cidr => simp [peerField, descriptor, readPeer?]

theorem CiliumNetworkPolicy.readSignedPort?_portNode (p : Port) :
    CiliumNetworkPolicy.readSignedPort? (CiliumNetworkPolicy.portNode p).value = some p := by
  rw [CiliumNetworkPolicy.portNode, Node.value_fields]
  simp [Node.value_scalar, CiliumNetworkPolicy.readSignedPort?, Protocol.ofName?_name,
    Text.readInt?_ofInt]

theorem CiliumNetworkPolicy.readGrant?_entry (direction : Direction) (rule : Rule) {peer : Peer}
    (h : peer.Unreserved) :
    CiliumNetworkPolicy.readGrant? direction (CiliumNetworkPolicy.entry direction rule peer).value
      = some ⟨peer, rule.ports⟩ := by
  have hports : (rule.ports.map fun p => (CiliumNetworkPolicy.portNode p).value).mapM
      CiliumNetworkPolicy.readSignedPort? = some (rule.ports.map id) :=
    mapM_map_some fun p _ => CiliumNetworkPolicy.readSignedPort?_portNode p
  obtain ⟨_, -, -, hpeer⟩ := CiliumNetworkPolicy.value_peerField direction rule.peerIp peer
  rw [CiliumNetworkPolicy.entry, Node.value_fields]
  simp [Node.value_list, Node.value_fields, hpeer, CiliumNetworkPolicy.readGrant?,
    CiliumNetworkPolicy.readPeer?_descriptor direction rule.peerIp h, Function.comp_def, hports]

/-- An entry grants what it was made from. -/
theorem Schema.readGrant?_entry (schema : Schema) (direction : Direction) (rule : Rule)
    {peer : Peer} (h : peer.Unreserved) :
    schema.readGrant? direction (schema.entry direction rule peer).value
      = some ⟨peer, rule.ports⟩ := by
  cases schema with
  | standard => exact NetworkPolicy.readGrant?_entry direction rule peer
  | cilium => exact CiliumNetworkPolicy.readGrant?_entry direction rule h

/-! ## All rules of a direction -/

/-- The entries of those rules that have a peer. -/
def Schema.entries (schema : Schema) (direction : Direction) (rules : List Rule) : List Node :=
  rules.filterMap fun rule => rule.peer.map (schema.entry direction rule)

section

variable {schema : Schema} {d : Direction} {rule : Rule} {rules : List Rule}

theorem Schema.entries_cons {peer : Peer} (h : rule.peer = some peer) (rest : List Rule) :
    schema.entries d (rule :: rest) = schema.entry d rule peer :: schema.entries d rest :=
  List.filterMap_cons_some (by rw [h, Option.map_some])

theorem Policy.entryOf_some {peer : Peer} (h : rule.peer = some peer) :
    entryOf schema d rule = .ok (schema.entry d rule peer) := by
  rw [entryOf, h]

theorem Policy.entryOf_none (h : rule.peer = none) :
    entryOf schema d rule = .error (.value (.unresolvedPeer rule.peerIp)) := by
  rw [entryOf, h]

theorem Rule.Writable.isSome (h : rule.Writable) : rule.peer.isSome = true := by
  obtain ⟨peer, hpeer, -⟩ := h
  rw [hpeer, Option.isSome_some]

/-- Rules that all have peers are all written. -/
theorem Policy.mapM_entryOf_ok (h : ∀ rule ∈ rules, rule.peer.isSome = true) :
    rules.mapM (entryOf schema d) = .ok (schema.entries d rules) := by
  induction rules with
  | nil => rfl
  | cons rule rest ih =>
    obtain ⟨hrule, hrest⟩ := List.forall_mem_cons.mp h
    obtain ⟨peer, hpeer⟩ := Option.isSome_iff_exists.mp hrule
    rw [List.mapM_cons, entryOf_some hpeer, ih hrest, Schema.entries_cons hpeer]
    rfl

/-- Rules of which one has no peer are refused for the first such rule. -/
theorem Policy.mapM_entryOf_error (h : rules.find? (·.peer.isNone) = some rule) :
    rules.mapM (entryOf schema d) = .error (.value (.unresolvedPeer rule.peerIp)) := by
  induction rules with
  | nil => cases h
  | cons first rest ih =>
    rw [List.find?_cons] at h
    cases hpeer : first.peer with
    | none =>
      rw [hpeer] at h
      obtain rfl : first = rule := Option.some.inj h
      rw [List.mapM_cons, entryOf_none hpeer]
      rfl
    | some peer =>
      rw [hpeer] at h
      rw [List.mapM_cons, entryOf_some hpeer, ih h]
      rfl

/-- Entries grant, one by one, what their rules do. -/
theorem Schema.mapM_readGrant?_entries (schema : Schema) (d : Direction)
    (h : ∀ rule ∈ rules, rule.Writable) :
    ∃ grants, rules.mapM Rule.grant? = some grants ∧
      (schema.entries d rules).mapM (fun n => schema.readGrant? d n.value) = some grants := by
  induction rules with
  | nil => exact ⟨[], rfl, rfl⟩
  | cons rule rest ih =>
    obtain ⟨⟨peer, hpeer, hfree⟩, hrest⟩ := List.forall_mem_cons.mp h
    obtain ⟨grants, hgrants, hread⟩ := ih hrest
    refine ⟨⟨peer, rule.ports⟩ :: grants, ?_, ?_⟩
    · have hgrant : rule.grant? = some ⟨peer, rule.ports⟩ := by
        rw [Rule.grant?, hpeer, Option.map_some]
      rw [List.mapM_cons, hgrant, hgrants]
      rfl
    · rw [entries_cons hpeer, List.mapM_cons, schema.readGrant?_entry d rule hfree, hread]
      rfl

theorem Schema.length_entries (h : ∀ rule ∈ rules, rule.peer.isSome = true) :
    (schema.entries d rules).length = rules.length := by
  induction rules with
  | nil => rfl
  | cons rule rest ih =>
    obtain ⟨hrule, hrest⟩ := List.forall_mem_cons.mp h
    obtain ⟨peer, hpeer⟩ := Option.isSome_iff_exists.mp hrule
    rw [entries_cons hpeer, List.length_cons, List.length_cons, ih hrest]

end

namespace Policy

/-! ## Directions and names -/

variable {schema : Schema} {target : Pod} {selector : Labels} {ingress egress : List Rule}

/-- What a policy that denies everything is called by ends so, and no other does. -/
theorem denyAll_suffix_iff (front : Text) (schema : Schema) (denyAll : Bool) :
    ("-deny-all" : Text) <:+ front ++ component schema denyAll ↔ denyAll = true := by
  cases denyAll with
  | true =>
    simp only [iff_true]
    exact ⟨front ++ (schema.name ++ "-policy"), by simp [component]⟩
  | false =>
    simp only [Bool.false_eq_true, iff_false]
    rintro ⟨before, h⟩
    -- Their last letters differ.
    have hlast := congrArg List.getLast? h
    have hdeny : ("-deny-all" : Text).getLast? = some (.char 'l') := by decide
    have hpolicy : ("-policy" : Text).getLast? = some (.char 'y') := by decide
    have hempty : ("" : Text).getLast? = none := rfl
    simp [component, List.getLast?_append, hdeny, hpolicy, hempty] at hlast

theorem enforced_cases (ingress egress : List Rule) :
    enforced ingress egress = [.ingress, .egress] ∨ enforced ingress egress = [.ingress] ∨
      enforced ingress egress = [.egress] := by
  cases ingress <;> cases egress <;> simp [enforced]

/-- Either schema says which directions it enforces. -/
theorem readKinds?_manifestOf (schema : Schema) (pod : Pod) (selector : Labels) (name : Text)
    (labels : Labels) (entries entries' : List Node) :
    schema.readKinds? (manifestOf schema pod selector name labels (enforced ingress egress)
      entries entries').value = some (enforced ingress egress) := by
  rw [Schema.readKinds?, at?_spec_manifestOf]
  -- One schema lists the directions and the other has a flag for each.
  rcases enforced_cases ingress egress with h | h | h <;> rw [h] <;> cases schema <;> rfl

/-! ## Whole policies -/

/-- The policy of rules, of those that have peers. -/
def made (schema : Schema) (target : Pod) (selector : Labels) (ingress egress : List Rule) :
    Policy :=
  let denyAll := ingress.isEmpty && egress.isEmpty
  let name := nameFor target.name schema denyAll
  let labels := labelsFor target.name (component schema denyAll)
  let kinds := enforced ingress egress
  let ingress := schema.entries .ingress ingress
  let egress := schema.entries .egress egress
  { name, ns := target.ns, schema, podSelector := selector, ingress, egress, kinds, labels
    defaultDeny := denyAll
    manifest := manifestOf schema target selector name labels kinds ingress egress }

theorem render_ok (h : ∀ rule ∈ ingress ++ egress, rule.peer.isSome = true) :
    render schema target selector ingress egress
      = .ok (made schema target selector ingress egress) := by
  obtain ⟨hi, he⟩ := List.forall_mem_append.mp h
  simp only [render, mapM_entryOf_ok hi, mapM_entryOf_ok he]
  rfl

/-- A rule without a peer is refused in either schema, ingress before egress. -/
theorem render_error {rule : Rule}
    (h : (ingress ++ egress).find? (·.peer.isNone) = some rule) :
    render schema target selector ingress egress
      = .error (.value (.unresolvedPeer rule.peerIp)) := by
  rw [List.find?_append] at h
  cases hi : ingress.find? (·.peer.isNone) with
  | some first =>
    rw [hi] at h
    obtain rfl : first = rule := Option.some.inj h
    simp only [render, mapM_entryOf_error hi]
    rfl
  | none =>
    rw [hi, Option.none_or] at h
    have hresolved : ∀ rule ∈ ingress, rule.peer.isSome = true := by
      intro rule hrule
      have hpeer := List.find?_eq_none.mp hi rule hrule
      rwa [Bool.not_eq_true, Option.isNone_eq_false_iff] at hpeer
    simp only [render, mapM_entryOf_ok hresolved, mapM_entryOf_error h]
    rfl

/-- What a policy tells of the rules that it was made from. -/
structure Tells (p : Policy) (schema : Schema) (selector : Labels) (ingress egress : List Rule) :
    Prop where
  own : schema.readOwnLabels? p.manifest.value = some selector
  /-- The peers and the ports of all rules, in order. -/
  grants : ∀ d, ∃ grants, (d.pick ingress egress).mapM Rule.grant? = some grants ∧
    schema.readGrants? d p.manifest.value = some grants
  counts : p.ingress.length = ingress.length ∧ p.egress.length = egress.length
  kinds : schema.readKinds? p.manifest.value = some p.kinds
  enforces : ∀ d, d ∈ p.kinds ↔ d.pick ingress egress ≠ [] ∨ (ingress = [] ∧ egress = [])
  keys : ∀ d, ((p.manifest.value.at? "spec").bind (·.at? d.entriesKey)).isSome ↔ d ∈ p.kinds
  deniesAll : p.defaultDeny = true ↔ ingress = [] ∧ egress = []
  name : ("-deny-all" : Text) <:+ p.name ↔ p.defaultDeny = true
  component : ∃ component,
    Value.getKey? (.text "app.kubernetes.io/component") p.labels = some (.text component) ∧
    (("-deny-all" : Text) <:+ component ↔ p.defaultDeny = true)

/-- A NetworkPolicy and a CiliumNetworkPolicy say the same. -/
structure Agrees (p q : Policy) : Prop where
  own : ∃ selector, Schema.standard.readOwnLabels? p.manifest.value = some selector ∧
    Schema.cilium.readOwnLabels? q.manifest.value = some selector
  grants : ∀ d, ∃ grants, Schema.standard.readGrants? d p.manifest.value = some grants ∧
    Schema.cilium.readGrants? d q.manifest.value = some grants
  counts : p.ingress.length = q.ingress.length ∧ p.egress.length = q.egress.length
  kinds : p.kinds = q.kinds
  defaultDeny : p.defaultDeny = q.defaultDeny

theorem readGrants?_manifestOf (schema : Schema) (pod : Pod) (selector : Labels) (name : Text)
    (labels : Labels) (kinds : List Direction) (ingress egress : List Node) (d : Direction) :
    schema.readGrants? d (manifestOf schema pod selector name labels kinds ingress egress).value
      = if kinds.contains d then (d.pick ingress egress).mapM fun n => schema.readGrant? d n.value
        else some [] :=
  itemsAt?_manifestOf schema pod selector name labels kinds ingress egress d (schema.readGrant? d)

theorem readGrants?_made (h : ∀ rule ∈ ingress ++ egress, rule.Writable) (d : Direction) :
    ∃ grants, (d.pick ingress egress).mapM Rule.grant? = some grants ∧
      schema.readGrants? d (made schema target selector ingress egress).manifest.value
        = some grants := by
  obtain ⟨hi, he⟩ := List.forall_mem_append.mp h
  have hrules : ∀ rule ∈ d.pick ingress egress, rule.Writable := by
    cases d
    · exact hi
    · exact he
  obtain ⟨grants, hgrants, hread⟩ := schema.mapM_readGrant?_entries d hrules
  have hpick : d.pick (schema.entries .ingress ingress) (schema.entries .egress egress)
      = schema.entries d (d.pick ingress egress) := by
    cases d <;> rfl
  refine ⟨grants, hgrants, ?_⟩
  simp only [made]
  rw [readGrants?_manifestOf, hpick, hread]
  split
  · rfl
  · -- A direction that is not written has no rules.
    rename_i hk
    have hnil : d.pick ingress egress = [] := by
      by_contra hne
      exact hk (List.contains_iff_mem.mpr ((mem_enforced_iff d).mpr (.inl hne)))
    rw [hnil] at hgrants
    exact hgrants

theorem tells_made (h : ∀ rule ∈ ingress ++ egress, rule.Writable) :
    (made schema target selector ingress egress).Tells schema selector ingress egress := by
  have hsome : ∀ rule ∈ ingress ++ egress, rule.peer.isSome = true :=
    fun rule hrule => (h rule hrule).isSome
  obtain ⟨hi, he⟩ := List.forall_mem_append.mp hsome
  refine ⟨?_, readGrants?_made h, ?_, ?_, ?_, ?_, ?_, ?_, ?_⟩
  · exact readOwnLabels?_manifestOf ..
  · exact ⟨Schema.length_entries hi, Schema.length_entries he⟩
  · exact readKinds?_manifestOf ..
  · exact mem_enforced_iff
  · intro d
    simp only [made]
    rw [at?_entriesKey_manifestOf]
    by_cases hd : d ∈ enforced ingress egress <;> simp [hd]
  · simp [made]
  · exact denyAll_suffix_iff ..
  · exact ⟨_, rfl, denyAll_suffix_iff [] ..⟩

/-- What rules say is one thing, so policies that tell it say the same. -/
theorem agrees_made (h : ∀ rule ∈ ingress ++ egress, rule.Writable) :
    (made .standard target selector ingress egress).Agrees
      (made .cilium target selector ingress egress) := by
  have hp : (made .standard target selector ingress egress).Tells .standard selector ingress
    egress := tells_made h
  have hq : (made .cilium target selector ingress egress).Tells .cilium selector ingress egress :=
    tells_made h
  refine ⟨⟨selector, hp.own, hq.own⟩, fun d => ?_, ?_, rfl, rfl⟩
  · obtain ⟨grants, hgrants, hread⟩ := hp.grants d
    obtain ⟨grants', hgrants', hread'⟩ := hq.grants d
    obtain rfl : grants = grants' := Option.some.inj (hgrants.symm.trans hgrants')
    exact ⟨grants, hread, hread'⟩
  · exact ⟨hp.counts.1.trans hq.counts.1.symm, hp.counts.2.trans hq.counts.2.symm⟩

/-- **Both schemas tell all that the rules say, and so the same.** -/
theorem render_parity (target : Pod) (selector : Labels) (ingress egress : List Rule) :
    ((∀ rule ∈ ingress ++ egress, rule.Writable) → ∃ p q,
      render .standard target selector ingress egress = .ok p ∧
      render .cilium target selector ingress egress = .ok q ∧
      p.Tells .standard selector ingress egress ∧ q.Tells .cilium selector ingress egress ∧
      p.Agrees q) ∧
    ∀ rule, (ingress ++ egress).find? (·.peer.isNone) = some rule → ∀ schema,
      render schema target selector ingress egress
        = .error (.value (.unresolvedPeer rule.peerIp)) := by
  refine ⟨fun h => ?_, fun rule hrule schema => render_error hrule⟩
  have hsome : ∀ rule ∈ ingress ++ egress, rule.peer.isSome = true :=
    fun rule hrule => (h rule hrule).isSome
  refine ⟨_, _, render_ok hsome, render_ok hsome, tells_made h, tells_made h, ?_⟩
  exact agrees_made h

/-- Rules of three kinds: for labels without a namespace, for labels in one, and for a block. -/
def sampleRules : List Rule := [
  { peerIp := "10.0.0.5", direction := .ingress, ports := [⟨8080, .tcp⟩, ⟨53, .udp⟩]
    peer := some (.selector [label "app" "db"] "") },
  { peerIp := "10.0.0.6", direction := .ingress, ports := [⟨443, .tcp⟩]
    peer := some (.selector [label "app" "api", label "tier" "front"] "data") },
  { peerIp := "192.0.2.4", direction := .ingress, ports := [⟨9100, .sctp⟩]
    peer := some (.block "192.0.2.4/32") }]

/-- A rule that was not resolved. -/
def strayRule : Rule :=
  { peerIp := "10.0.0.9", direction := .egress, ports := [⟨80, .tcp⟩] }

theorem render_parity_samples :
    (∀ rule ∈ sampleRules ++ [], rule.Writable) ∧
    (∃ p q,
      render .standard { ns := "shop", name := "web" } [label "app" "web"] sampleRules []
        = .ok p ∧
      render .cilium { ns := "shop", name := "web" } [label "app" "web"] sampleRules []
        = .ok q ∧
      p.Tells .standard [label "app" "web"] sampleRules [] ∧
      q.Tells .cilium [label "app" "web"] sampleRules [] ∧ p.Agrees q) ∧
    (sampleRules ++ [strayRule]).find? (·.peer.isNone) = some strayRule ∧
    ∀ schema, render schema { ns := "shop", name := "web" } [label "app" "web"] sampleRules
      [strayRule] = .error (.value (.unresolvedPeer "10.0.0.9")) := by
  have writable : ∀ rule ∈ sampleRules ++ [], rule.Writable := by
    intro rule hrule
    simp only [sampleRules, List.append_nil, List.mem_cons, List.not_mem_nil, or_false] at hrule
    rcases hrule with rfl | rfl | rfl <;> refine ⟨_, rfl, ?_⟩ <;> intro labels ns e <;> cases e
    · intro l hl
      obtain rfl : l = label "app" "db" := by simpa using hl
      decide
    · intro l hl
      simp only [List.mem_cons, List.not_mem_nil, or_false] at hl
      rcases hl with rfl | rfl <;> decide
  have stray : (sampleRules ++ [strayRule]).find? (·.peer.isNone) = some strayRule := rfl
  exact ⟨writable, (render_parity _ _ sampleRules []).1 writable, stray,
    (render_parity _ _ sampleRules [strayRule]).2 strayRule stray⟩

end Policy

end LeastPrivilege
