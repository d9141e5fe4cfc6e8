import LeastPrivilege.Proofs.Site
import LeastPrivilege.Proofs.TypedWorld
import Mathlib.Data.List.Forall2

/-!
Batches. The work on one pod ends with a result, unless the pod stops it: a record with too many
digits in its port, or a path that the system cannot read (`World.Stops`, `World.runPod_cases`).
From this, by induction on the pods: a batch ends with results exactly if no pod of it stops it, and
then there is one result for each pod, in order, the same as if the pod had been alone
(`World.runBatch_spec`). Pods write into one tree of files, so what is kept from one pod to the next
is that the tree has the same directories (`World.runPod_alike`); where names have slashes, the
cause for which a path is refused can still differ. The pods are any list, so in whatever order they
are worked on, each has the result that it has alone.
-/

namespace LeastPrivilege

namespace World

variable (w : World) (plan : Plan) (schema : Schema) (namespaces : List (Text × Text))

/-- Answers the questions of a batch. -/
def workAnswer : (q : work.Question) → StateM Site (work.Answer q)
  | .inl q => pure (w.answer q)
  | .inr q => Site.answer q

/-- What generation comes to for a pod of a batch. -/
def madeFor (pod : Text) : Except Fault Policy :=
  w.eval (Policy.generate plan.byName pod schema (Plan.namespaceOf namespaces pod))

/-- Runs the work on one pod. -/
def runPod (pod : Text) (s : Site) : Except Fault (PodResult Policy) × Site :=
  (plan.processOne schema (Plan.namespaceOf namespaces pod) pod).runOn w.workAnswer s

/-- Runs a batch. -/
def runBatch (pods : List Text) (s : Site) : Except Fault (List (PodResult Policy)) × Site :=
  (plan.processAll schema pods namespaces).runOn w.workAnswer s

/-- The result of a pod, from what became of its policy, unless that stops the batch. -/
def podOutcome (pod : Text) (made : Option Policy) :
    Except Fault (Option FilePath) → Except Fault (PodResult Policy)
  | .ok path => .ok { pod, made, path }
  | .error fault =>
    if fault.isOfOnePod then .ok { pod, made, fault := some fault } else .error fault

theorem podOutcome_ofOnePod (pod : Text) (made : Option Policy) {fault : Fault}
    (h : fault.isOfOnePod = true) :
    podOutcome pod made (.error fault) = .ok { pod, made, fault := some fault } :=
  if_pos h

theorem podOutcome_stop (pod : Text) (made : Option Policy) {fault : Fault}
    (h : fault.isOfOnePod = false) : podOutcome pod made (.error fault) = .error fault :=
  if_neg (by simp [h])

theorem runOn_lookups {α : Type} (x : Attempt lookups α) (s : Site) :
    (Attempt.inLeft x : Attempt work α).runOn w.workAnswer s = (w.eval x, s) := by
  rw [Attempt.runOn_inLeft]
  exact Attempt.runOn_known s w.answer x

theorem runOn_output {α : Type} (x : Attempt outlet α) (s : Site) :
    (Attempt.inRight x : Attempt work α).runOn w.workAnswer s = x.runOn Site.answer s := by
  rw [Attempt.runOn_inRight]
  rfl

variable {w}

theorem runPod_eq (pod : Text) (s : Site) :
    w.runPod plan schema namespaces pod s =
      match w.madeFor plan schema namespaces pod with
      | .error fault => (podOutcome pod none (.error fault), s)
      | .ok p =>
        let (outcome, next) := plan.putOut p (some pod) s
        (podOutcome pod (some p) outcome, next) := by
  unfold runPod Plan.processOne
  rw [Attempt.runOn_bind, Attempt.runOn_outcome, runOn_lookups, ← madeFor]
  have hfail (made : Option Policy) (fault : Fault) (s : Site) :
      (Plan.processOne.fail pod made fault).runOn w.workAnswer s
        = (podOutcome pod made (.error fault), s) := by
    unfold Plan.processOne.fail
    cases hone : fault.isOfOnePod with
    | true =>
      rw [podOutcome_ofOnePod pod made hone]
      rfl
    | false =>
      rw [podOutcome_stop pod made hone]
      rfl
  cases hp : w.madeFor plan schema namespaces pod with
  | error fault => exact hfail none fault s
  | ok p =>
    show (Attempt.ofInquiry (Attempt.inRight (plan.deliver p (some pod))).outcome >>= _).runOn
      w.workAnswer s = (podOutcome pod (some p) (plan.putOut p (some pod) s).1,
        (plan.putOut p (some pod) s).2)
    rw [Attempt.runOn_bind, Attempt.runOn_outcome, runOn_output, Plan.runOn_deliver]
    rcases plan.putOut p (some pod) s with ⟨outcome, next⟩
    cases outcome with
    | error fault => exact hfail (some p) fault next
    | ok path => rfl

/-! ## One pod -/

/-- The work on the pod ends a batch: one of its records is overlong, or its policy belongs into a
file whose path cannot be read. -/
def Stops (w : World) (plan : Plan) (schema : Schema) (namespaces : List (Text × Text))
    (pod : Text) : Prop :=
  w.Overlong plan.byName pod (Plan.namespaceOf namespaces pod) ∨
    ∃ p, w.madeFor plan schema namespaces pod = .ok p ∧
      plan.Unreadable p (some pod)

end World

/-- There is a policy and no fault, or there is a fault. -/
def PodResult.Settled (r : PodResult Policy) : Prop :=
  (r.made.isSome ∧ r.fault = none) ∨ r.fault.isSome

/-- The results are the same but for the cause of a refused path. -/
structure PodResult.Alike (r r' : PodResult Policy) : Prop where
  pod : r.pod = r'.pod
  made : r.made = r'.made
  path : r.path = r'.path
  fault : r.fault = r'.fault ∨ ∃ f f' : Fault, f.Alike f' ∧ r.fault = some f ∧ r'.fault = some f'

namespace World

variable {w : World} {plan : Plan} {schema : Schema} {namespaces : List (Text × Text)}

/-- Outcomes that are alike give results that are alike, or stop the batch both. -/
theorem podOutcome_alike {pod : Text} {made : Option Policy}
    {outcome outcome' : Except Fault (Option FilePath)} (h : AlikeOutcome outcome outcome')
    {r : PodResult Policy} (e : podOutcome pod made outcome = .ok r) :
    ∃ r', podOutcome pod made outcome' = .ok r' ∧ r.Alike r' := by
  cases h with
  | ok path =>
    cases e
    exact ⟨_, rfl, rfl, rfl, rfl, .inl rfl⟩
  | @error f f' hf =>
    have hone : f'.isOfOnePod = f.isOfOnePod := by
      rcases hf with rfl | ⟨c, c', path, -, rfl, rfl⟩
      · rfl
      · rfl
    simp only [podOutcome] at e
    split at e
    · rename_i hf'
      cases e
      exact ⟨_, podOutcome_ofOnePod pod made (hone.trans hf'), rfl, rfl, rfl,
        .inr ⟨f, f', hf, rfl, rfl⟩⟩
    · cases e

/-- The work on a pod ends a batch, or it ends with a settled result and leaves the directories as
they were. -/
theorem runPod_cases (hw : w.WellTyped) (pod : Text) (s : Site) :
    (w.Stops plan schema namespaces pod ∧
      ∃ fault next, w.runPod plan schema namespaces pod s = (.error fault, next)) ∨
    (¬ w.Stops plan schema namespaces pod ∧
      ∃ r next, w.runPod plan schema namespaces pod s = (.ok r, next) ∧ r.pod = pod ∧
        r.Settled ∧ s.tree.SameDirs next.tree) := by
  rw [runPod_eq]
  cases hp : w.madeFor plan schema namespaces pod with
  | error fault =>
    dsimp only
    rcases w.eval_generate_error hp with operational | ⟨hlong, n, rfl⟩
    · have hone : fault.isOfOnePod = true := by simp [Fault.isOfOnePod, operational]
      refine .inr ⟨?_, _, s, Prod.ext (podOutcome_ofOnePod pod none hone) rfl, rfl, .inr rfl,
        .refl _⟩
      rintro (hlong | ⟨p, hmade, -⟩)
      · obtain ⟨n, hlong⟩ := w.eval_generate_overlong hlong schema
        obtain rfl : fault = _ := Except.error.inj (hp.symm.trans hlong)
        cases operational
      · cases hp.symm.trans hmade
    · have hstop : (Fault.value (.tooManyDigits n)).isOfOnePod = false := rfl
      exact .inl ⟨.inl hlong, _, s, Prod.ext (podOutcome_stop pod none hstop) rfl⟩
  | ok p =>
    have hshort : ¬ w.Overlong plan.byName pod (Plan.namespaceOf namespaces pod) := by
      intro hlong
      obtain ⟨n, hlong⟩ := w.eval_generate_overlong hlong schema
      cases hp.symm.trans hlong
    have hreadable (h : ¬ plan.Unreadable p (some pod)) : ¬ w.Stops plan schema namespaces pod := by
      rintro (hlong | ⟨p', hmade, hunreadable⟩)
      · exact hshort hlong
      · obtain rfl : p = p' := Except.ok.inj (hp.symm.trans hmade)
        exact h hunreadable
    dsimp only
    -- A policy of a well-typed world has a text, so only its way out can fail.
    rw [Plan.putOut_of_textOf (some pod) (hw.textOf hp)]
    rcases plan.delivered_cases (some pod) p (Yaml.write p.manifest) s with
      ⟨hunreadable, fault, e, hfault⟩ | ⟨h, path, next, e, hnext⟩ | ⟨h, f, e⟩
    · rw [e]
      exact .inl ⟨.inr ⟨p, hp, hunreadable⟩, fault, s,
        Prod.ext (podOutcome_stop pod (some p) hfault) rfl⟩
    · rw [e]
      exact .inr ⟨hreadable h, _, next, rfl, rfl, .inl ⟨rfl, rfl⟩, hnext⟩
    · rw [e]
      exact .inr ⟨hreadable h, _, s, rfl, rfl, .inr rfl, .refl _⟩

/-- What the work on a pod comes to where it ends with a result: a fault and no change, or a policy
that is printed at most, or a policy that is written in its place. -/
inductive Effect (w : World) (plan : Plan) (schema : Schema) (namespaces : List (Text × Text))
    (pod : Text) (s : Site) : PodResult Policy → Site → Prop
  | failed (made : Option Policy) (fault : Fault) :
    Effect w plan schema namespaces pod s { pod, made, fault := some fault } s
  | shown (p : Policy) (made : w.madeFor plan schema namespaces pod = .ok p)
      (nowhere : plan.directory = none) :
    Effect w plan schema namespaces pod s { pod, made := some p }
      (if plan.dryRun then { s with printed := s.printed ++ ["---\n" ++ Yaml.write p.manifest] }
        else s)
  | filed (p : Policy) (d : OutputDirectory) (place : List Text)
      (made : w.madeFor plan schema namespaces pod = .ok p) (somewhere : plan.directory = some d)
      (located : s.tree.locate (Plan.pathIn d p (some pod)) = .ok place)
      (free : s.tree.refusal? place = none) :
    Effect w plan schema namespaces pod s
      { pod, made := some p, path := some (Plan.pathIn d p (some pod)) }
      { s with tree := s.tree.put place (.file (Yaml.write p.manifest)) }

theorem podOutcome_error {pod : Text} {made : Option Policy} {fault : Fault}
    {r : PodResult Policy} (e : podOutcome pod made (.error fault) = .ok r) :
    r = { pod, made, fault := some fault } := by
  simp only [podOutcome] at e
  split at e
  · cases e
    rfl
  · cases e

/-- Each way in which the work on a pod can end with a result. -/
theorem runPod_effect {pod : Text} {s next : Site} {r : PodResult Policy}
    (e : w.runPod plan schema namespaces pod s = (.ok r, next)) :
    w.Effect plan schema namespaces pod s r next := by
  have failed {made : Option Policy} {fault : Fault} {after : Site}
      (e : (podOutcome pod made (.error fault), s) = (.ok r, after)) :
      w.Effect plan schema namespaces pod s r after := by
    obtain ⟨hr, rfl⟩ := Prod.ext_iff.mp e
    rw [podOutcome_error hr]
    exact .failed made fault
  rw [runPod_eq] at e
  cases hp : w.madeFor plan schema namespaces pod with
  | error fault =>
    rw [hp] at e
    exact failed e
  | ok p =>
    rw [hp] at e
    change (podOutcome pod (some p) (plan.putOut p (some pod) s).1,
      (plan.putOut p (some pod) s).2) = _ at e
    cases htext : Plan.textOf p with
    | error fault =>
      simp only [Plan.putOut, htext] at e
      exact failed e
    | ok text =>
      obtain rfl := Plan.eq_write_of_textOf htext
      rw [Plan.putOut_of_textOf (some pod) htext, Plan.delivered] at e
      cases hd : plan.directory with
      | none =>
        rw [hd] at e
        cases e
        exact .shown p hp hd
      | some d =>
        simp only [hd] at e
        cases hpath : Fault.ofPathText (Plan.pathIn d p (some pod)).text with
        | error fault =>
          rw [hpath] at e
          exact failed e
        | ok u =>
          simp only [hpath] at e
          cases hwrite : s.tree.write (Plan.pathIn d p (some pod)) (Yaml.write p.manifest) with
          | error cause =>
            rw [hwrite] at e
            exact failed e
          | ok tree =>
            obtain ⟨place, hplace, hfree, rfl⟩ := FileTree.write_ok hwrite
            rw [hwrite] at e
            cases e
            exact .filed p d place hp hd hplace hfree

namespace Effect

variable {pod : Text} {s next : Site} {r : PodResult Policy}
  (h : w.Effect plan schema namespaces pod s r next)

include h

theorem pod_eq : r.pod = pod := by
  cases h <;> rfl

theorem settled : r.Settled := by
  cases h with
  | failed => exact .inr rfl
  | shown => exact .inl ⟨rfl, rfl⟩
  | filed => exact .inl ⟨rfl, rfl⟩

/-- The directories stay as they were. -/
theorem sameDirs : s.tree.SameDirs next.tree := by
  cases h with
  | failed => exact .refl _
  | shown => split <;> exact .refl _
  | filed p d place made somewhere located free => exact FileTree.put_sameDirs _ free

end Effect

/-- A pod that has a result has one like it wherever the directories are the same. -/
theorem runPod_alike {pod : Text} {s s' next : Site} (h : s.tree.SameDirs s'.tree)
    {r : PodResult Policy} (e : w.runPod plan schema namespaces pod s = (.ok r, next)) :
    ∃ r' next', w.runPod plan schema namespaces pod s' = (.ok r', next') ∧ r.Alike r' := by
  have e := congrArg Prod.fst e
  rw [runPod_eq] at e ⊢
  cases hp : w.madeFor plan schema namespaces pod with
  | error fault =>
    rw [hp] at e
    obtain ⟨r', e', halike⟩ := podOutcome_alike (.error (.inl rfl)) e
    exact ⟨r', s', Prod.ext e' rfl, halike⟩
  | ok p =>
    rw [hp] at e
    obtain ⟨r', e', halike⟩ := podOutcome_alike (Plan.putOut_alike h) e
    exact ⟨r', _, Prod.ext e' rfl, halike⟩

/-- The pod's policy, if it is made, is put out under names without slashes. -/
def Unslashed (w : World) (plan : Plan) (schema : Schema) (namespaces : List (Text × Text))
    (pod : Text) : Prop :=
  ∀ p, w.madeFor plan schema namespaces pod = .ok p →
    Plan.Unslashed p (some pod)

/-- Without slashes in the names of files, it makes no difference which pods came before. -/
theorem runPod_exact {pod : Text}
    (hpod : ∀ d, plan.directory = some d → w.Unslashed plan schema namespaces pod) {s s' : Site}
    (h : plan.Stands s s') :
    (w.runPod plan schema namespaces pod s).1 = (w.runPod plan schema namespaces pod s').1 ∧
      plan.Stands s (w.runPod plan schema namespaces pod s').2 := by
  rw [runPod_eq, runPod_eq]
  cases hp : w.madeFor plan schema namespaces pod with
  | error fault => exact ⟨rfl, h⟩
  | ok p =>
    obtain ⟨hsame, hstands⟩ := Plan.putOut_exact h fun d hd => hpod d hd p hp
    exact ⟨congrArg (podOutcome pod (some p)) hsame, hstands⟩

/-! ## All pods -/

/-- Runs the work on pods one after the other. -/
def runEach (w : World) (plan : Plan) (schema : Schema) (namespaces : List (Text × Text))
    (pods : List Text) (s : Site) : Except Fault (List (PodResult Policy)) × Site :=
  (plan.processEach schema namespaces pods).runOn w.workAnswer s

theorem runEach_cons (pod : Text) (rest : List Text) (s : Site) :
    w.runEach plan schema namespaces (pod :: rest) s =
      match w.runPod plan schema namespaces pod s with
      | (.error fault, next) => (.error fault, next)
      | (.ok r, next) => match w.runEach plan schema namespaces rest next with
        | (.error fault, last) => (.error fault, last)
        | (.ok results, last) => (.ok (r :: results), last) := by
  unfold runEach runPod
  rw [Plan.processEach, Attempt.runOn_bind]
  rcases (plan.processOne schema (Plan.namespaceOf namespaces pod) pod).runOn w.workAnswer s
    with ⟨outcome, next⟩
  cases outcome with
  | error fault => rfl
  | ok r =>
    dsimp only
    rw [Attempt.runOn_bind]
    rcases (plan.processEach schema namespaces rest).runOn w.workAnswer next with ⟨outcome, last⟩
    cases outcome <;> rfl

/-- What a batch says at its beginning and its end changes nothing. -/
theorem runBatch_eq (pods : List Text) (s : Site) :
    w.runBatch plan schema namespaces pods s = w.runEach plan schema namespaces pods s := by
  unfold runBatch runEach
  cases pods with
  | nil => rfl
  | cons pod rest =>
    show (plan.processEach schema namespaces (pod :: rest) >>= _).runOn w.workAnswer s = _
    rw [Attempt.runOn_bind]
    rcases (plan.processEach schema namespaces (pod :: rest)).runOn w.workAnswer s
      with ⟨outcome, last⟩
    cases outcome with
    | error fault => rfl
    | ok results =>
      show ((if (failures results).length != 0 then _ else _ : Attempt work _)).runOn _ last = _
      split <;> rfl

/-- A batch ends with results exactly if no pod of it ends it. -/
theorem runEach_ok_iff (hw : w.WellTyped) : ∀ (pods : List Text) (s : Site),
    (∃ results next, w.runEach plan schema namespaces pods s = (.ok results, next)) ↔
      ∀ pod ∈ pods, ¬ w.Stops plan schema namespaces pod
  | [], s => by
    simp only [List.not_mem_nil, false_implies, implies_true, iff_true]
    exact ⟨[], s, rfl⟩
  | pod :: rest, s => by
    rw [runEach_cons, List.forall_mem_cons]
    rcases runPod_cases hw pod s with ⟨hstop, fault, next, e⟩ | ⟨hgo, r, next, e, -⟩
    · rw [e]
      constructor
      · rintro ⟨results, last, h⟩
        cases h
      · rintro ⟨hgo, -⟩
        exact absurd hstop hgo
    · rw [e, ← runEach_ok_iff hw rest next]
      dsimp only
      rcases w.runEach plan schema namespaces rest next with ⟨outcome, last⟩
      cases outcome with
      | error fault => simp
      | ok results => simp [hgo]

/-- A run that ends with results has a result for the first pod and goes on from there. -/
theorem runEach_cons_ok {pod : Text} {rest : List Text} {s last : Site}
    {results : List (PodResult Policy)}
    (h : w.runEach plan schema namespaces (pod :: rest) s = (.ok results, last)) :
    ∃ r next more, results = r :: more ∧ w.runPod plan schema namespaces pod s = (.ok r, next) ∧
      w.runEach plan schema namespaces rest next = (.ok more, last) := by
  rw [runEach_cons] at h
  cases hpod : w.runPod plan schema namespaces pod s with
  | mk outcome next =>
    rw [hpod] at h
    cases outcome with
    | error fault => cases h
    | ok r =>
      dsimp only at h
      cases hrest : w.runEach plan schema namespaces rest next with
      | mk outcome after =>
        rw [hrest] at h
        cases outcome with
        | error fault => cases h
        | ok more =>
          cases h
          exact ⟨r, next, more, rfl, rfl, hrest⟩

/-- The results of pods one after the other, each beside the result of that pod from the start. -/
theorem runEach_results {s : Site} : ∀ (pods : List Text) {s' next : Site}
    {results : List (PodResult Policy)}, s.tree.SameDirs s'.tree →
    w.runEach plan schema namespaces pods s' = (.ok results, next) →
    List.Forall₂ (fun pod r => r.pod = pod ∧ r.Settled ∧
      ∃ r' after, w.runPod plan schema namespaces pod s = (.ok r', after) ∧ r.Alike r') pods results
  | [], _, _, _, _, h => by
    cases h
    exact .nil
  | pod :: rest, s', next, results, hdirs, h => by
    obtain ⟨r, after, more, rfl, e, hrest⟩ := runEach_cons_ok h
    have heffect := runPod_effect e
    refine .cons ⟨heffect.pod_eq, heffect.settled, ?_⟩
      (runEach_results rest (hdirs.trans heffect.sameDirs) hrest)
    -- The pods before this one left the directories as they were at the start.
    exact runPod_alike hdirs.symm e

theorem runEach_exact {s : Site} : ∀ (pods : List Text) {s' next : Site}
    {results : List (PodResult Policy)},
    (∀ pod ∈ pods, ∀ d, plan.directory = some d → w.Unslashed plan schema namespaces pod) →
    plan.Stands s s' → w.runEach plan schema namespaces pods s' = (.ok results, next) →
    List.Forall₂ (fun pod r => ∃ after, w.runPod plan schema namespaces pod s = (.ok r, after))
      pods results
  | [], _, _, _, _, _, h => by
    cases h
    exact .nil
  | pod :: rest, s', next, results, hnames, hstands, h => by
    obtain ⟨hpod, hrest⟩ := List.forall_mem_cons.mp hnames
    obtain ⟨r, after, more, rfl, e, hmore⟩ := runEach_cons_ok h
    obtain ⟨hsame, hnext⟩ := runPod_exact hpod hstands
    rw [e] at hsame hnext
    exact .cons ⟨(w.runPod plan schema namespaces pod s).2, Prod.ext hsame rfl⟩
      (runEach_exact rest hrest hnext hmore)

theorem runBatch_one {pod : Text} {s next : Site} {r : PodResult Policy}
    (h : w.runPod plan schema namespaces pod s = (.ok r, next)) :
    w.runBatch plan schema namespaces [pod] s = (.ok [r], next) := by
  rw [runBatch_eq, runEach_cons, h]
  rfl

/-- Everything that is to be said of the results of a batch. -/
structure Complete (w : World) (plan : Plan) (schema : Schema) (namespaces : List (Text × Text))
    (pods : List Text) (s : Site) (results : List (PodResult Policy)) : Prop where
  order : results.map (·.pod) = pods
  settled : ∀ r ∈ results, r.Settled
  /-- Each is what a batch of that pod alone gives, but for the cause of a refused path. -/
  alone : List.Forall₂ (fun pod r => ∃ r' after,
    w.runBatch plan schema namespaces [pod] s = (.ok [r'], after) ∧ r.Alike r') pods results
  /-- Without slashes in names each is exactly that. -/
  exact : (∀ pod ∈ pods, w.Unslashed plan schema namespaces pod) →
    List.Forall₂ (fun pod r => ∃ after,
      w.runBatch plan schema namespaces [pod] s = (.ok [r], after)) pods results
  first : ∀ fault, firstFault results = some fault ↔ ∃ before r after,
    results = before ++ r :: after ∧ r.fault = some fault ∧ ∀ b ∈ before, b.fault = none
  clean : firstFault results = none ↔ ∀ r ∈ results, r.fault = none

/-- **A batch goes through exactly if no pod stops it, and then each pod has its own result.** -/
theorem runBatch_spec (hw : w.WellTyped) (pods : List Text) (s : Site) :
    ((∃ results next, w.runBatch plan schema namespaces pods s = (.ok results, next)) ↔
      ∀ pod ∈ pods, ¬ w.Stops plan schema namespaces pod) ∧
    ∀ results next, w.runBatch plan schema namespaces pods s = (.ok results, next) →
      w.Complete plan schema namespaces pods s results := by
  simp only [runBatch_eq]
  refine ⟨runEach_ok_iff hw pods s, fun results next h => ?_⟩
  -- All but the last two parts are read off the results one by one.
  have hresults := runEach_results pods (.refl s.tree) h
  refine ⟨?_, ?_, ?_, ?_, ?_, ?_⟩
  · have hpods : List.Forall₂ (· = ·) pods (results.map (·.pod)) :=
      List.forall₂_map_right_iff.mpr (hresults.imp fun _ _ hr => hr.1.symm)
    rw [List.forall₂_eq_eq_eq] at hpods
    exact hpods.symm
  · have hsettled : List.Forall₂ (fun r _ => PodResult.Settled r ∧ True) results pods :=
      .flip (hresults.imp fun _ _ hr => ⟨hr.2.1, trivial⟩)
    exact (List.forall₂_and_left ..).mp hsettled |>.1
  · refine hresults.imp fun pod r hr => ?_
    obtain ⟨-, -, r', after, e, halike⟩ := hr
    exact ⟨r', after, runBatch_one e, halike⟩
  · intro hnames
    have hnames' : ∀ pod ∈ pods, ∀ d, plan.directory = some d →
        w.Unslashed plan schema namespaces pod := fun pod hpod _ _ => hnames pod hpod
    refine (runEach_exact pods hnames' (.refl plan s) h).imp fun pod r hr => ?_
    obtain ⟨after, e⟩ := hr
    exact ⟨after, runBatch_one e⟩
  · exact fun fault => List.findSome?_eq_some_iff
  · exact List.findSome?_eq_none_iff

theorem shop_typed : shop.WellTyped := by
  have texts (name value : Text) : Labels.AreTexts [label name value] := by
    intro l hl
    exact ⟨name, value, by simpa using hl⟩
  refine ⟨?_, ?_, ?_, ?_⟩
  · intro ip p h
    simp only [shop, Except.ok.injEq] at h
    split at h
    · cases h
      exact texts "app" "web"
    · cases h
  · intro ip s h
    simp only [shop, Except.ok.injEq] at h
    split at h
    · cases h
      exact texts "app" "db"
    · cases h
  · intro ns kind name c h
    cases h
  · intro ns name p h
    cases h

theorem runBatch_spec_shop : shop.WellTyped ∧
    (∃ results, (shop.runBatch {} .cilium [] ["web", "idle"] {}).1 = .ok results) ∧
    ((∃ results next, shop.runBatch {} .cilium [] ["web", "idle"] {} = (.ok results, next)) ↔
      ∀ pod ∈ (["web", "idle"] : List Text), ¬ shop.Stops {} .cilium [] pod) ∧
    ∀ results next, shop.runBatch {} .cilium [] ["web", "idle"] {} = (.ok results, next) →
      shop.Complete {} .cilium [] ["web", "idle"] {} results :=
  ⟨shop_typed, ⟨_, rfl⟩, runBatch_spec shop_typed _ _⟩

/-- The shop, but for the one record of the web pod, whose port has more digits than a number is
read from. -/
def floodedShop : World :=
  { shop with
    flows pod := .ok (if pod = "web" then [
      { targetIp := "10.0.0.7", peerIp := "192.0.2.4", direction := "ingress"
        targetPort := List.replicate (Number.maxDigits + 1) (.char '9') }]
      else if pod = "api" then [
      { targetIp := "10.0.0.7", peerIp := "192.0.2.4", direction := "ingress"
        targetPort := "443" }]
      else []) }

theorem floodedShop_stops (plan : Plan) (schema : Schema) :
    floodedShop.Stops plan schema [] "web" := by
  refine .inl ⟨_, _, rfl, rfl, _, List.mem_singleton.mpr rfl, .ingress, ?_⟩
  exact Record.overlong_replicate (by decide) (by decide) (by decide) (by decide) (by decide) rfl

/-- One record of one pod ends the batch, and the other pod, which is fine, has no result. -/
theorem runBatch_floodedShop : floodedShop.WellTyped ∧
    (∃ r, (floodedShop.runBatch {} .standard [] ["api"] {}).1 = .ok [r] ∧ r.fault = none) ∧
    ¬ ∃ results next, floodedShop.runBatch {} .standard [] ["web", "api"] {}
      = (.ok results, next) := by
  have typed : floodedShop.WellTyped :=
    ⟨shop_typed.podAt, shop_typed.serviceAt, shop_typed.controller, shop_typed.pod⟩
  refine ⟨typed, ⟨_, rfl, rfl⟩, ?_⟩
  rw [runBatch_eq, runEach_ok_iff typed]
  intro h
  exact h "web" (by simp) (floodedShop_stops {} .standard)

end World

end LeastPrivilege
