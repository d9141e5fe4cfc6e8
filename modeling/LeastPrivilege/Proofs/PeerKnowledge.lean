import LeastPrivilege.Proofs.Generation

/-!
What generation owes to the knowledge about peers: nothing but selectors and peers. Two worlds are
compared that know the same flows and the same pod they belong to, and that may differ in everything
else, failures included (`World.AgreeOnTarget`). Generation fails in both with the same fault or
gives policies that differ at most in selectors and peers (`World.generate_sameOutcome`). The faults
are those of the flows, of the pod, and of records; that a rule is left without a peer is not among
them (`World.generate_resolved`).
-/

namespace LeastPrivilege

/-! ## Manifests without selectors and peers -/

namespace Value

/-- The value with its member under a key changed. -/
def alter (key : Text) (f : Value → Value) : Value → Value
  | map es => map (es.map fun e => if e.1 = .text key then (e.1, f e.2) else e)
  | v => v

/-- The list with each item changed. -/
def each (f : Value → Value) : Value → Value
  | list vs => list (vs.map f)
  | v => v

/-- The value without its members under some keys. -/
def without (keys : List Text) : Value → Value
  | map es => map (es.filter fun e => keys.all fun key => e.1 ≠ .text key)
  | v => v

theorem alter_map (key : Text) (f : Value → Value) (es : List (Scalar × Value)) :
    alter key f (map es) = map (es.map fun e => if e.1 = .text key then (e.1, f e.2) else e) :=
  rfl

theorem without_map (keys : List Text) (es : List (Scalar × Value)) :
    without keys (map es) = map (es.filter fun e => keys.all fun key => e.1 ≠ .text key) :=
  rfl

end Value

namespace Schema

/-- The keys under which an entry names its peers. -/
def peerKeys : Schema → Direction → List Text
  | standard, d => [NetworkPolicy.peerKey d]
  | cilium, d => [CiliumNetworkPolicy.endpointsKey d, CiliumNetworkPolicy.blockKey d]

/-- The manifest without the pod's own selector and without the peers of its entries. -/
def frame (schema : Schema) (manifest : Value) : Value :=
  let unpeered (d : Direction) :=
    Value.alter d.entriesKey (Value.each (Value.without (schema.peerKeys d)))
  manifest.alter "spec" fun spec =>
    unpeered .egress (unpeered .ingress (spec.without [schema.selectorKey]))

/-- Entries without their peers. -/
def bare (schema : Schema) (d : Direction) (entries : List Node) : List Value :=
  entries.map fun n => n.value.without (schema.peerKeys d)

/-- Without its peer an entry says nothing about it. -/
theorem without_entry (schema : Schema) (d : Direction) (rule : Rule) (peer peer' : Peer) :
    (schema.entry d rule peer).value.without (schema.peerKeys d)
      = (schema.entry d rule peer').value.without (schema.peerKeys d) := by
  cases schema with
  | standard =>
    cases d <;> simp +decide [entry, NetworkPolicy.entry, peerKeys, NetworkPolicy.peerKey,
      Node.value_fields, Value.without_map]
  | cilium =>
    cases d <;> cases peer <;> cases peer' <;>
      simp +decide [entry, CiliumNetworkPolicy.entry, CiliumNetworkPolicy.peerField, peerKeys,
        CiliumNetworkPolicy.endpointsKey, CiliumNetworkPolicy.blockKey, Node.value_fields,
        Value.without_map]

end Schema

/-- Entries that are the same but for their peers make manifests that are the same but for selector
and peers. -/
theorem Policy.frame_manifestOf (schema : Schema) (pod : Pod) {selector selector' : Labels}
    (name : Text) (labels : Labels) (kinds : List Direction)
    {ingress egress ingress' egress' : List Node}
    (hi : schema.bare .ingress ingress = schema.bare .ingress ingress')
    (he : schema.bare .egress egress = schema.bare .egress egress') :
    schema.frame (manifestOf schema pod selector name labels kinds ingress egress).value
      = schema.frame
        (manifestOf schema pod selector' name labels kinds ingress' egress').value := by
  simp only [Schema.bare] at hi he
  cases schema <;> by_cases hki : Direction.ingress ∈ kinds <;>
    by_cases hke : Direction.egress ∈ kinds <;>
    simp +decide [Schema.frame, manifestOf, Schema.header, NetworkPolicy.header,
      CiliumNetworkPolicy.header, Schema.selectorKey, NetworkPolicy.selectorKey,
      CiliumNetworkPolicy.selectorKey, directionFields, hki, hke, Node.value_fields,
      Node.value_list, Value.alter_map, Value.without_map, Value.each, Direction.entriesKey,
      Function.comp_def, hi, he]

/-! ## Two worlds -/

/-- Both results are there and related, or both attempts fail with the same fault. -/
inductive SameOutcome {α : Type} (related : α → α → Prop) :
    Except Fault α → Except Fault α → Prop
  | ok {a b : α} (h : related a b) : SameOutcome related (.ok a) (.ok b)
  | error (fault : Fault) : SameOutcome related (.error fault) (.error fault)

/-- Policies that differ at most in selectors and peers. -/
structure Policy.SameFrame (schema : Schema) (p q : Policy) : Prop where
  name : p.name = q.name
  ns : p.ns = q.ns
  labels : p.labels = q.labels
  kinds : p.kinds = q.kinds
  defaultDeny : p.defaultDeny = q.defaultDeny
  isSchema : p.schema = schema ∧ q.schema = schema
  entries : p.ingress.length = q.ingress.length ∧ p.egress.length = q.egress.length
  ports : ∀ d, ∃ entries entries', schema.readEntries? d p.manifest.value = some entries ∧
    schema.readEntries? d q.manifest.value = some entries' ∧
    entries.map (·.ports) = entries'.map (·.ports)
  manifest : schema.frame p.manifest.value = schema.frame q.manifest.value

namespace World

/-- The address under which the pod of a record is looked up. -/
def targetAddress (first : Record) : Text :=
  if first.targetIp.isEmpty then first.peerIp else first.targetIp

/-- The worlds know the same flows of the pod, and the same pod behind them. -/
structure AgreeOnTarget (w w' : World) (pod : Text) (ns : Option Text) : Prop where
  flows : w.flows pod = w'.flows pod
  recorded : ∀ first rest, w.flows pod = .ok (first :: rest) →
    w.podAt (targetAddress first) = w'.podAt (targetAddress first)
  idle : w.flows pod = .ok [] → ∀ given, ns = some given → w.pod given pod = w'.pod given pod

variable {w w' : World} {byName : Bool} {pod : Text} {schema : Schema} {ns : Option Text}

theorem AgreeOnTarget.findTarget (h : w.AgreeOnTarget w' pod ns) {records : List Record}
    (hrecords : w.flows pod = .ok records) :
    w.eval (Policy.findTarget byName pod records ns)
      = w'.eval (Policy.findTarget byName pod records ns) := by
  cases records with
  -- One lookup is made at most, and the records, which both worlds have, say which.
  | nil =>
    simp only [Policy.findTarget, Policy.findIdle]
    cases hns : ns.filter fun n => byName && !n.isEmpty with
    | none => rfl
    | some given =>
      have hgiven : ns = some given := (Option.filter_eq_some_iff.mp hns).1
      simp only [eval_bind, eval_getPod, h.idle hrecords given hgiven]
      cases OwnFault.plain (w'.pod given pod) with
      | error fault => rfl
      | ok found => cases found <;> rfl
  | cons first rest =>
    have hpod : w.podAt _ = w'.podAt _ := h.recorded first rest hrecords
    simp only [Policy.findTarget, Policy.findRecorded, eval_bind, eval_getPodAt]
    rw [targetAddress] at hpod
    rw [hpod]
    congr 1
    funext found
    cases found <;> rfl

/-- Both worlds give the rules of a pod the same frame. -/
theorem sameFrame_policyOf (schema : Schema) {target : Pod} {a : Aggregation}
    (h : a.Sound target) :
    Policy.SameFrame schema (w.policyOf schema target a) (w'.policyOf schema target a) where
  name := rfl
  ns := rfl
  labels := rfl
  kinds := rfl
  defaultDeny := rfl
  isSchema := ⟨rfl, rfl⟩
  entries := by simp [policyOf, entriesOf]
  ports d := by
    refine ⟨_, _, w.readEntries?_policyOf schema h d, w'.readEntries?_policyOf schema h d, ?_⟩
    simp only [List.map_map]
    rfl
  manifest := by
    have hbare (d : Direction) (rules : List Rule) :
        schema.bare d (w.entriesOf schema d rules)
          = schema.bare d (w'.entriesOf schema d rules) := by
      simp only [Schema.bare, entriesOf, List.map_map]
      exact List.map_congr_left fun rule _ => schema.without_entry d rule _ _
    exact Policy.frame_manifestOf schema target _ _ _ (hbare .ingress _) (hbare .egress _)

theorem AgreeOnTarget.generate (h : w.AgreeOnTarget w' pod ns) :
    SameOutcome (Policy.SameFrame schema) (w.eval (Policy.generate byName pod schema ns))
      (w'.eval (Policy.generate byName pod schema ns)) := by
  rw [eval_generate, eval_generate, ← h.flows]
  cases hrecords : w.flows pod with
  | error own => exact .error own.fault
  | ok records =>
    show SameOutcome _ (w.eval (Policy.findTarget byName pod records ns) >>= _)
      (w'.eval (Policy.findTarget byName pod records ns) >>= _)
    rw [h.findTarget hrecords]
    cases w'.eval (Policy.findTarget byName pod records ns) with
    | error fault => exact .error fault
    | ok target =>
      show SameOutcome _ ((aggregate records target).1 >>= _) ((aggregate records target).1 >>= _)
      cases ha : (aggregate records target).1 with
      | error fault => exact .error fault
      | ok a => exact .ok (sameFrame_policyOf schema (aggregate_sound ha))

theorem generate_resolved (w : World) (ip : Text) :
    w.eval (Policy.generate byName pod schema ns) ≠ .error (.value (.unresolvedPeer ip)) := by
  intro h
  rcases w.eval_generate_error h with operational | ⟨-, n, e⟩
  · cases operational
  · cases e

/-- **What is not known about peers costs selectors and peers, and nothing else.** -/
theorem generate_sameOutcome (h : w.AgreeOnTarget w' pod ns) :
    SameOutcome (Policy.SameFrame schema) (w.eval (Policy.generate byName pod schema ns))
        (w'.eval (Policy.generate byName pod schema ns)) ∧
      ∀ ip, w.eval (Policy.generate byName pod schema ns) ≠ .error (.value (.unresolvedPeer ip)) ∧
        w'.eval (Policy.generate byName pod schema ns) ≠ .error (.value (.unresolvedPeer ip)) :=
  ⟨h.generate, fun ip => ⟨generate_resolved w ip, generate_resolved w' ip⟩⟩

/-- The shop, where services, controllers and peers are not to be had. -/
def darkShop : World where
  flows := shop.flows
  podAt ip := if ip = "10.0.0.7" then shop.podAt ip else
    .error ⟨.reported .broker "down", rfl⟩
  serviceAt _ := .error ⟨.reported .broker "down", rfl⟩
  controller _ _ _ := .error ⟨.reported .cluster "down", rfl⟩
  pod _ _ := .error ⟨.reported .cluster "down", rfl⟩

theorem generate_sameOutcome_darkShop :
    shop.AgreeOnTarget darkShop "web" none ∧
    SameOutcome (Policy.SameFrame .cilium) (shop.eval (Policy.generate true "web" .cilium none))
        (darkShop.eval (Policy.generate true "web" .cilium none)) ∧
      ∀ ip, shop.eval (Policy.generate true "web" .cilium none)
          ≠ .error (.value (.unresolvedPeer ip)) ∧
        darkShop.eval (Policy.generate true "web" .cilium none)
          ≠ .error (.value (.unresolvedPeer ip)) := by
  have agree : shop.AgreeOnTarget darkShop "web" none := by
    refine ⟨rfl, ?_, ?_⟩
    · rintro first rest h
      cases h
      rfl
    · intro h
      cases h
  exact ⟨agree, generate_sameOutcome agree⟩

end World

end LeastPrivilege
