import LeastPrivilege.Policy.Generation
import LeastPrivilege.Proofs.Aggregation
import LeastPrivilege.Proofs.Manifest
import LeastPrivilege.Proofs.Peers

/-!
Generation in a world. A policy is made in four steps, of which only the first three can fail: the
flows are fetched, their pod is found, the records are aggregated, and the policy follows from the
rules and the world (`World.eval_generate`, `World.policyOf`). Its manifest is read back as one
entry for each rule (`World.readEntries?_policyOf`); that a direction without rules may not be
written at all makes no difference, since it has no entries either way.
-/

namespace LeastPrivilege

theorem Schema.entry_settle (w : World) (schema : Schema) (direction : Direction) (rule : Rule)
    (peer : Peer) :
    schema.entry direction (w.settle rule) peer = schema.entry direction rule peer := by
  cases schema <;> rfl

namespace World

variable (w : World)

/-- The entries of rules, each with what its address stands for. -/
def entriesOf (schema : Schema) (direction : Direction) (rules : List Rule) : List Node :=
  rules.map fun rule => schema.entry direction rule (w.peerAt rule.peerIp)

/-- The policy that rules for a pod come to. -/
def policyOf (schema : Schema) (target : Pod) (a : Aggregation) : Policy :=
  let denyAll := a.ingress.isEmpty && a.egress.isEmpty
  let name := Policy.nameFor target.name schema denyAll
  let labels := Policy.labelsFor target.name (Policy.component schema denyAll)
  let kinds := Policy.enforced a.ingress a.egress
  let ingress := w.entriesOf schema .ingress a.ingress
  let egress := w.entriesOf schema .egress a.egress
  { name, ns := target.ns, schema, podSelector := w.labelsOf target, ingress, egress, kinds, labels
    defaultDeny := denyAll
    manifest :=
      Policy.manifestOf schema target (w.labelsOf target) name labels kinds ingress egress }

/-! ## The steps -/

/-- Settled rules have peers, so none is refused. -/
theorem mapM_entryOf_settle (schema : Schema) (direction : Direction) (rules : List Rule) :
    (rules.map w.settle).mapM (Policy.entryOf schema direction)
      = .ok (w.entriesOf schema direction rules) := by
  induction rules with
  | nil => rfl
  | cons rule rest ih =>
    have hrule : Policy.entryOf schema direction (w.settle rule)
        = .ok (schema.entry direction rule (w.peerAt rule.peerIp)) := by
      simp only [Policy.entryOf, settle]
      rw [← Schema.entry_settle w schema direction rule]
      rfl
    rw [List.map_cons, List.mapM_cons, hrule, ih]
    rfl

theorem enforced_settle (ingress egress : List Rule) :
    Policy.enforced (ingress.map w.settle) (egress.map w.settle)
      = Policy.enforced ingress egress := by
  simp [Policy.enforced]

theorem render_settle (schema : Schema) (target : Pod) (a : Aggregation) :
    Policy.render schema target (w.labelsOf target) (a.ingress.map w.settle)
      (a.egress.map w.settle) = .ok (w.policyOf schema target a) := by
  simp only [Policy.render, mapM_entryOf_settle, enforced_settle, List.isEmpty_map]
  rfl

theorem eval_collect (records : List Record) (target : Pod) :
    w.eval (Policy.collect records target) = (aggregate records target).1 :=
  Policy.evalBy_collect records target

/-- Generation fails where the flows, the pod or the rules are not to be had, and nowhere else. -/
theorem eval_generate (byName : Bool) (pod : Text) (schema : Schema) (ns : Option Text) :
    w.eval (Policy.generate byName pod schema ns) = do
      let records ← OwnFault.plain (w.flows pod)
      let target ← w.eval (Policy.findTarget byName pod records ns)
      let a ← (aggregate records target).1
      return w.policyOf schema target a := by
  rw [Policy.generate, eval_bind, eval_getFlows]
  congr 1
  funext records
  rw [eval_bind]
  congr 1
  funext target
  rw [eval_bind, eval_collect]
  congr 1
  funext a
  -- From here on nothing fails.
  show (Policy.ofRules schema pod target a.ingress a.egress).evalBy w.answer = _
  rw [Policy.evalBy_ofRules, mapM_settledBy_answer, mapM_settledBy_answer]
  show (w.eval (Selector.labelsOfTarget target) >>= _) = _
  rw [eval_labelsOfTarget]
  exact w.render_settle schema target a

/-- Each step of a generation that went through. -/
theorem eval_generate_ok {byName : Bool} {pod : Text} {schema : Schema} {ns : Option Text}
    {p : Policy} (h : w.eval (Policy.generate byName pod schema ns) = .ok p) :
    ∃ records target a, w.flows pod = .ok records ∧
      w.eval (Policy.findTarget byName pod records ns) = .ok target ∧
      (aggregate records target).1 = .ok a ∧ p = w.policyOf schema target a := by
  rw [eval_generate] at h
  obtain ⟨records, hrecords, h⟩ := bind_ok h
  obtain ⟨target, htarget, h⟩ := bind_ok h
  obtain ⟨a, ha, h⟩ := bind_ok h
  exact ⟨records, target, a, OwnFault.ok_of_plain hrecords, htarget, ha, (Except.ok.inj h).symm⟩

theorem ownFailures_findTarget (byName : Bool) (pod : Text) (records : List Record)
    (ns : Option Text) : w.OwnFailures (Policy.findTarget byName pod records ns) := by
  cases records with
  | nil =>
    show w.OwnFailures (Policy.findIdle byName pod ns)
    unfold Policy.findIdle
    cases ns.filter fun n => byName && !n.isEmpty with
    | none => exact OwnFailures.throw' rfl
    | some given =>
      refine OwnFailures.bind (OwnFailures.getPod given pod) fun found => ?_
      cases found with
      | none => exact OwnFailures.throw' rfl
      | some target =>
        intro fault h
        cases h
  | cons first rest =>
    refine OwnFailures.bind (OwnFailures.getPodAt _) fun found => ?_
    cases found with
    | none => exact OwnFailures.throw' rfl
    | some target => exact OwnFailures.pure' target

/-- The pod's flows and the pod itself are there, and a record is overlong. -/
def Overlong (byName : Bool) (pod : Text) (ns : Option Text) : Prop :=
  ∃ records target, w.flows pod = .ok records ∧
    w.eval (Policy.findTarget byName pod records ns) = .ok target ∧
    ∃ r ∈ records, ∃ direction, r.Overlong target direction

/-- A generation that fails does so with a fault of the program's own, or at an overlong record. -/
theorem eval_generate_error {byName : Bool} {pod : Text} {schema : Schema} {ns : Option Text}
    {fault : Fault} (h : w.eval (Policy.generate byName pod schema ns) = .error fault) :
    fault.isOperational = true ∨
      (w.Overlong byName pod ns ∧ ∃ n, fault = .value (.tooManyDigits n)) := by
  rw [eval_generate] at h
  rcases bind_error h with h | ⟨records, hrecords, h⟩
  · exact .inl (OwnFault.isOperational_of_plain h)
  rcases bind_error h with h | ⟨target, htarget, h⟩
  · exact .inl (w.ownFailures_findTarget byName pod records ns fault h)
  rcases bind_error h with ha | ⟨a, -, h⟩
  · have hlong := aggregate_error_iff.mp ⟨fault, ha⟩
    exact .inr ⟨⟨records, target, OwnFault.ok_of_plain hrecords, htarget, hlong⟩,
      aggregate_error ha⟩
  · cases h

theorem eval_generate_overlong {byName : Bool} {pod : Text} {ns : Option Text}
    (h : w.Overlong byName pod ns) (schema : Schema) :
    ∃ n, w.eval (Policy.generate byName pod schema ns) = .error (.value (.tooManyDigits n)) := by
  obtain ⟨records, target, hrecords, htarget, hlong⟩ := h
  obtain ⟨fault, ha⟩ := aggregate_error_iff.mpr hlong
  obtain ⟨n, rfl⟩ := aggregate_error ha
  refine ⟨n, ?_⟩
  rw [eval_generate, hrecords]
  show (w.eval (Policy.findTarget byName pod records ns) >>= _) = _
  rw [htarget]
  show ((aggregate records target).1 >>= _) = _
  rw [ha]
  rfl

/-! ## What the manifest says -/

/-- An entry as it is read back from the manifest. -/
def entryFor (schema : Schema) (rule : Rule) : Entry :=
  ⟨[schema.descriptor (w.peerAt rule.peerIp)], rule.ports⟩

theorem readOwnLabels?_policyOf (schema : Schema) (target : Pod) (a : Aggregation) :
    schema.readOwnLabels? (w.policyOf schema target a).manifest.value = some (w.labelsOf target) :=
  Policy.readOwnLabels?_manifestOf ..

/-- The manifest has one entry for each rule, in the same order. -/
theorem readEntries?_policyOf (schema : Schema) {target : Pod} {a : Aggregation}
    (h : a.Sound target) (d : Direction) :
    schema.readEntries? d (w.policyOf schema target a).manifest.value
      = some ((a.rules d).map (w.entryFor schema)) := by
  have hpeers : ∀ rule ∈ a.ingress.map w.settle ++ a.egress.map w.settle,
      rule.peer.isSome = true := by
    intro rule hrule
    rw [← List.map_append] at hrule
    obtain ⟨_, -, rfl⟩ := List.mem_map.mp hrule
    rfl
  have hmade := (w.render_settle schema target a).symm.trans (Policy.render_ok hpeers)
  have hpick : d.pick (a.ingress.map w.settle) (a.egress.map w.settle)
      = (a.rules d).map w.settle := by
    cases d <;> rfl
  rw [Except.ok.inj hmade, Policy.readEntries?_made d, hpick, List.map_map]
  · rfl
  · intro rule hrule
    rw [hpick] at hrule
    obtain ⟨_, -, rfl⟩ := List.mem_map.mp hrule
    rfl
  · intro rule hrule p hp
    rw [hpick] at hrule
    obtain ⟨given, hgiven, rfl⟩ := List.mem_map.mp hrule
    exact ((h d given hgiven).inRange p hp).1

end World

end LeastPrivilege
