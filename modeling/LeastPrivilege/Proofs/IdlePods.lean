import LeastPrivilege.Proofs.Batch
import LeastPrivilege.Proofs.PeerLookups

/-!
Pods without flows. Where a pod has none and is found by its name, generation asks for nothing but
these two and the labels that select it, and its policy denies everything
(`Policy.ends_generate_idle`). The labels are to be had, and they are texts, where the cluster's own
labels are (`Selector.labelsOfTarget_texts`); then the policy can be put out, but for the file
system (`Plan.ends_processOne_idle`).
-/

namespace LeastPrivilege

/-! ## Labels -/

/-- Whatever the attempt gives, given what it was answered, has the property. -/
def Yields {α : Type} (given : Exchange lookups → Prop) (P : α → Prop)
    (x : Attempt lookups α) : Prop :=
  ∀ log a, x.Ends log (.ok a) → (∀ e ∈ log, given e) → P a

namespace Yields

variable {α β : Type} {given : Exchange lookups → Prop} {P : α → Prop} {Q : β → Prop}

theorem bind {x : Attempt lookups α} {f : α → Attempt lookups β} (hx : Yields given P x)
    (hf : ∀ a, P a → Yields given Q (f a)) : Yields given Q (x >>= f) := by
  intro log b h hgiven
  rcases Attempt.ends_bind.mp h with ⟨_, e, _⟩ | ⟨first, a, rest, rfl, hfirst, hrest⟩
  · cases e
  · have ha : P a := hx first a hfirst fun e he => hgiven e (List.mem_append_left rest he)
    exact hf a ha rest b hrest fun e he => hgiven e (List.mem_append_right first he)

theorem pure' {a : α} (h : P a) : Yields given P (pure a) := by
  intro log b hends _
  cases (Attempt.ends_pure.mp hends).2
  exact h

theorem throw' (fault : Fault) : Yields given P (throw fault) := by
  intro log b hends _
  cases (Attempt.ends_throw.mp hends).2

theorem anything (x : Attempt lookups α) : Yields given (fun _ => True) x :=
  fun _ _ _ _ => trivial

end Yields

/-- A controller that was found is matched by labels that are texts. -/
def Exchange.HasTexts : Exchange lookups → Prop
  | ⟨.controller .., .ok (some c)⟩ => Labels.AreTexts c.matchLabels
  | _ => True

namespace Selector

theorem get_texts (ns kind name : Text) : Yields Exchange.HasTexts
    (fun c => Labels.AreTexts c.matchLabels) (Controller.get ns kind name) := by
  have lookup : Yields Exchange.HasTexts (fun found => ∀ c, found = some c →
      Labels.AreTexts c.matchLabels) (Lookup.getController ns kind name) := by
    intro log found h hgiven c e
    subst e
    obtain rfl := Inquiry.ends_put.mp h
    exact hgiven _ (List.mem_singleton.mpr rfl)
  refine lookup.bind fun found hfound => ?_
  cases found with
  | some c => exact Yields.pure' (hfound c rfl)
  | none => exact Yields.throw' _

theorem ofOwner_texts (ns : Text) (owner : OwnerRef) : Yields Exchange.HasTexts
    (fun c => Labels.AreTexts c.matchLabels) (Controller.ofOwner ns owner) := by
  unfold Controller.ofOwner
  split
  · refine (get_texts ns _ owner.name).bind fun rs hrs => ?_
    cases rs.owner with
    | none => exact Yields.pure' hrs
    | some above =>
      show Yields _ _ (if above.kind = _ then _ else _)
      split
      · exact get_texts ns _ above.name
      · exact Yields.throw' _
  · split
    · exact get_texts ns owner.kind owner.name
    · exact Yields.throw' _

theorem ofPod_texts {pod : Pod} (hpod : Labels.AreTexts pod.labels) : Yields Exchange.HasTexts
    (fun s => Labels.AreTexts s.labels) (Selector.ofPod pod) := by
  unfold Selector.ofPod
  cases pod.owner with
  | none => exact Yields.pure' hpod
  | some owner =>
    refine (ofOwner_texts pod.ns owner).bind fun c hc => ?_
    show Yields _ _ (if c.matchLabels.isEmpty then _ else _)
    split
    · exact Yields.throw' _
    · exact (Yields.anything _).bind fun _ _ => Yields.pure' hc

/-- The labels that select a pod are texts, where those of the pod and of controllers are. -/
theorem labelsOfTarget_texts {pod : Pod} (hpod : Labels.AreTexts pod.labels) :
    Yields Exchange.HasTexts Labels.AreTexts (Selector.labelsOfTarget pod) := by
  have byName : Labels.AreTexts [label "app" pod.name] := by
    intro l hl
    exact ⟨_, _, List.mem_singleton.mp hl⟩
  have outcome : Yields Exchange.HasTexts (fun (y : Except Fault Selector) =>
      ∀ s, y = .ok s → Labels.AreTexts s.labels)
      (Attempt.ofInquiry (Selector.ofPod pod).outcome) := by
    intro log y h hgiven s e
    subst e
    obtain ⟨_, hpod', e⟩ := Attempt.ends_ofInquiry.mp h
    cases e
    exact ofPod_texts hpod log s hpod' hgiven
  refine outcome.bind fun y hy => ?_
  cases y with
  | ok s =>
    show Yields _ _ (if s.labels.isEmpty then _ else _)
    split
    · exact (Yields.anything _).bind fun _ _ => Yields.pure' byName
    · exact Yields.pure' (hy s rfl)
  | error fault =>
    show Yields _ _ (if fault.isOperational then _ else _)
    split
    · exact (Yields.anything _).bind fun _ _ => Yields.pure' byName
    · exact Yields.throw' _

end Selector

/-- What is asked for a selector: controllers. -/
def Lookup.IsController : Lookup → Prop
  | .controller .. => True
  | _ => False

/-! ## Policies -/

namespace Policy

/-- The policy that denies everything to a pod. -/
def denyAll (schema : Schema) (target : Pod) (selector : Labels) : Policy :=
  let name := nameFor target.name schema true
  let labels := labelsFor target.name (component schema true)
  let kinds : List Direction := [.ingress, .egress]
  { name, ns := target.ns, schema, podSelector := selector, ingress := [], egress := [], kinds
    labels, defaultDeny := true
    manifest := manifestOf schema target selector name labels kinds [] [] }

theorem render_nil (schema : Schema) (target : Pod) (selector : Labels) :
    render schema target selector [] [] = .ok (denyAll schema target selector) :=
  rfl

theorem textOf_denyAll (schema : Schema) (target : Pod) {selector : Labels}
    (h : Labels.AreTexts selector) :
    ∃ text, Plan.textOf (denyAll schema target selector) = .ok text := by
  have own : Labels.AreTexts (labelsFor target.name (component schema true)) := by
    intro l hl
    simp only [labelsFor, List.mem_cons, List.not_mem_nil, or_false] at hl
    rcases hl with rfl | rfl | rfl | rfl <;> exact ⟨_, _, rfl⟩
  have hdepth : (denyAll schema target selector).manifest.depth ≤ 9 :=
    depth_manifestOf_le schema target _ _ h own (fun _ h => absurd h List.not_mem_nil)
      (fun _ h => absurd h List.not_mem_nil)
  have hshallow : ¬ Plan.maxDepth < (denyAll schema target selector).manifest.depth := by
    rw [Plan.maxDepth]
    omega
  exact ⟨_, if_neg hshallow⟩

/-- Without records there are no rules, so only the labels that select the pod are asked for. -/
theorem ends_rest_idle {schema : Schema} {target : Pod} {pod : Text} {log : List (Exchange lookups)}
    {made : Except Fault Policy}
    (h : Attempt.Ends (do
      let rules ← collect [] target
      let (ingress, book) ← PeerBook.resolveRules [] rules.ingress
      let (egress, _) ← book.resolveRules rules.egress
      let selector ← Selector.labelsOfTarget target
      Attempt.ofInquiry (.tellAll (renderNotices target ingress egress))
      let policy ← Attempt.ofExcept (render schema target selector ingress egress)
      Attempt.tell (.policyMade schema.name policy.name pod)
      return policy) log made) :
    ∃ labels, (Selector.labelsOfTarget target).Ends log labels ∧
      made = labels.map (denyAll schema target) := by
  have hlabels : Attempt.Ends (do
      let selector ← Selector.labelsOfTarget target
      Attempt.ofInquiry (.tellAll (renderNotices target [] []))
      let policy ← Attempt.ofExcept (render schema target selector [] [])
      Attempt.tell (.policyMade schema.name policy.name pod)
      return policy) log made := by
    cases h with
    | note h => exact h
  rcases Attempt.ends_bind.mp hlabels with
    ⟨fault, rfl, hfault⟩ | ⟨_, selector, rest, rfl, hx, hrest⟩
  · exact ⟨_, hfault, rfl⟩
  · have hmade := Attempt.ends_tellAll_bind.mp hrest
    rw [render_nil] at hmade
    obtain ⟨rfl, rfl⟩ := Attempt.ends_tell_pure.mp hmade
    exact ⟨.ok selector, by rwa [List.append_nil], rfl⟩

/-- Generation for a pod that has no flows and is found by its name. -/
theorem ends_generate_idle {schema : Schema} {ns pod : Text} {log : List (Exchange lookups)}
    {made : Except Fault Policy} (h : (generate true pod schema (some ns)).Ends log made)
    (hns : ns ≠ []) (hflows : ∀ answer, ⟨.flows pod, answer⟩ ∈ log → answer = .ok [])
    (hfound : ∀ answer, ⟨.pod ns pod, answer⟩ ∈ log → ∃ target, answer = .ok (some target)) :
    ∃ target asked labels, log = ⟨.flows pod, .ok []⟩ :: ⟨.pod ns pod, .ok (some target)⟩ :: asked ∧
      (Selector.labelsOfTarget target).Ends asked labels ∧
      made = labels.map (denyAll schema target) := by
  obtain ⟨records, rest, rfl, hrest⟩ := Inquiry.ends_put_bind.mp h
  cases hflows records (List.mem_cons_self ..)
  change Attempt.Ends (findIdle true pod (some ns) >>= _) rest made at hrest
  have hgiven : (some ns).filter (fun n => true && !n.isEmpty) = some ns := by
    simp [hns]
  unfold findIdle at hrest
  rw [hgiven] at hrest
  obtain ⟨found, asked, rfl, hfrom⟩ := Inquiry.ends_put_bind.mp hrest
  obtain ⟨target, e⟩ := hfound found (List.mem_cons_of_mem _ (List.mem_cons_self ..))
  subst e
  cases hfrom with
  | note hfrom =>
    obtain ⟨labels, hlabels, hmade⟩ := ends_rest_idle hfrom
    exact ⟨target, asked, labels, rfl, hlabels, hmade⟩

end Policy

namespace Plan

variable {plan : Plan} {schema : Schema} {pod : Text}

/-- Where the path of a file can be read, only the file system keeps it from being written. -/
theorem ends_write {path : FilePath} {text : Text} {log : List (Exchange outlet)}
    {x : Except Fault Unit} (hpath : Fault.ofPathText path.text = .ok ())
    (h : (Outlet.write path text).Ends log x) :
    ∀ fault, x = .error fault → fault.isFile = true := by
  unfold Outlet.write Outlet.checkPath at h
  rw [hpath] at h
  obtain ⟨written, rest, rfl, hrest⟩ := Inquiry.ends_put_bind.mp h
  intro fault e
  subst e
  cases written with
  | ok u => cases (Attempt.ends_pure.mp hrest).2
  | error cause =>
    cases (Attempt.ends_throw.mp hrest).2
    rfl

/-- What is left to say of a policy that was put out is said. -/
theorem ends_finish {p : Policy} (path : Option FilePath) {log : List (Exchange outlet)}
    {x : Except Fault (Option FilePath)} (h : Attempt.Ends
      (if (!plan.dryRun) = true then Attempt.tell (.notApplied p.name) >>= fun _ => pure path
        else pure path) log x) : x = .ok path := by
  split at h
  · exact (Attempt.ends_tell_pure.mp h).2
  · exact (Attempt.ends_pure.mp h).2

/-- A policy that has a text, and belongs into a file whose path can be read, is put out, or
refused by the file system. -/
theorem ends_deliver {p : Policy} {given : Option Text} {text : Text}
    {log : List (Exchange outlet)} {x : Except Fault (Option FilePath)}
    (htext : textOf p = .ok text) (hpath : ¬ plan.Unreadable p given)
    (h : (plan.deliver p given).Ends log x) : ∀ fault, x = .error fault → fault.isFile = true := by
  intro fault e
  subst e
  unfold deliver at h
  rcases Attempt.ends_bind.mp h with ⟨_, _, hnot⟩ | ⟨_, written, rest, rfl, hwritten, hrest⟩
  · cases htext.symm.trans (Attempt.ends_ofExcept.mp hnot).2.symm
  cases hd : plan.directory with
  | some d =>
    have hreadable : Fault.ofPathText (pathIn d p given).text = .ok () := by
      cases hread : Fault.ofPathText (pathIn d p given).text with
      | ok u => rfl
      | error other => exact absurd ⟨d, hd, by rw [hread]; exact nofun⟩ hpath
    rw [hd] at hrest
    rcases Attempt.ends_bind.mp hrest with ⟨_, e, hwrite⟩ | ⟨_, path, last, rfl, _, hlast⟩
    · cases e
      rcases Attempt.ends_bind.mp hwrite with ⟨_, e, hrefused⟩ | ⟨_, u, last, rfl, _, hlast⟩
      · cases e
        exact ends_write hreadable hrefused fault rfl
      · cases (Attempt.ends_tell_pure.mp hlast).2
    · cases ends_finish (some path) hlast
  | none =>
    rw [hd] at hrest
    change Attempt.Ends (if plan.dryRun = true then _ else _) rest _ at hrest
    split at hrest
    · rcases Attempt.ends_bind.mp hrest with ⟨_, e, hprint⟩ | ⟨_, u, last, rfl, _, hlast⟩
      · cases e
        obtain ⟨_, _, e⟩ := Attempt.ends_ofInquiry.mp hprint
        cases e
      · cases ends_finish none hlast
    · cases ends_finish none hrest

/-- A fault is recorded or passed on. -/
theorem ends_fail {made : Option Policy} {fault : Fault} {log : List (Exchange work)}
    {r : Except Fault (PodResult Policy)} (h : (processOne.fail pod made fault).Ends log r) :
    log = [] ∧ r = World.podOutcome pod made (.error fault) := by
  unfold processOne.fail at h
  cases hone : fault.isOfOnePod with
  | true =>
    rw [hone, if_pos rfl] at h
    rw [World.podOutcome_ofOnePod pod made hone]
    exact Attempt.ends_tell_pure.mp h
  | false =>
    rw [hone, if_neg nofun] at h
    rw [World.podOutcome_stop pod made hone]
    exact Attempt.ends_throw.mp h

/-- The work on a pod: what generation comes to, and for a policy what its way out comes to. -/
theorem ends_processOne {ns : Option Text} {log : List (Exchange work)}
    {r : Except Fault (PodResult Policy)} (h : (plan.processOne schema ns pod).Ends log r) :
    (∃ fault, (Policy.generate plan.byName pod schema ns).Ends (Exchange.lefts log) (.error fault) ∧
      r = World.podOutcome pod none (.error fault)) ∨
    ∃ p x, (Policy.generate plan.byName pod schema ns).Ends (Exchange.lefts log) (.ok p) ∧
      (plan.deliver p (some pod)).Ends (Exchange.rights log) x ∧
      r = World.podOutcome pod (some p) x := by
  unfold processOne at h
  rcases Attempt.ends_bind.mp h with ⟨_, _, hnot⟩ | ⟨first, made, rest, rfl, hfirst, hrest⟩
  · obtain ⟨_, _, e⟩ := Attempt.ends_ofInquiry.mp hnot
    cases e
  · obtain ⟨_, hmade, e⟩ := Attempt.ends_ofInquiry.mp hfirst
    cases e
    obtain ⟨asked, hgenerate, rfl⟩ := Attempt.ends_inLeft.mp hmade
    cases made with
    | error fault =>
      obtain ⟨rfl, rfl⟩ := ends_fail hrest
      exact .inl ⟨fault, by simpa using hgenerate, rfl⟩
    | ok p =>
      rcases Attempt.ends_bind.mp hrest with ⟨_, _, hnot⟩ | ⟨second, x, last, rfl, hsecond, hlast⟩
      · obtain ⟨_, _, e⟩ := Attempt.ends_ofInquiry.mp hnot
        cases e
      · obtain ⟨_, hout, e⟩ := Attempt.ends_ofInquiry.mp hsecond
        cases e
        obtain ⟨put, hdeliver, rfl⟩ := Attempt.ends_inRight.mp hout
        have hend : last = [] ∧ r = World.podOutcome pod (some p) x := by
          cases x with
          | error fault => exact ends_fail hlast
          | ok path => exact Attempt.ends_pure.mp hlast
        obtain ⟨rfl, rfl⟩ := hend
        exact .inr ⟨p, x, by simpa using hgenerate, by simpa using hdeliver, rfl⟩

/-- The pod has no flows and is found by its namespace and name, with labels that are texts.
Controllers have such labels too, and are not found for a fault of the program's own at worst. -/
structure FindsIdle (ns pod : Text) (log : List (Exchange lookups)) : Prop where
  named : ns ≠ []
  flows : ∀ answer, ⟨.flows pod, answer⟩ ∈ log → answer = .ok []
  found : ∀ answer, ⟨.pod ns pod, answer⟩ ∈ log →
    ∃ target, answer = .ok (some target) ∧ Labels.AreTexts target.labels
  texts : ∀ e ∈ log, e.HasTexts
  own : ∀ e ∈ log, Lookup.IsController e.question →
    ∀ fault, e.fault? = some fault → fault.isOperational = true

/-- The result is the policy that denies everything to the pod that was found by this namespace and
name, with the labels that single it out. Only the file system can have refused it. -/
structure DeniesAll (schema : Schema) (ns pod : Text) (log : List (Exchange lookups))
    (r : PodResult Policy) : Prop where
  about : r.pod = pod
  made : ∃ target asked labels, ⟨.pod ns pod, .ok (some target)⟩ ∈ log ∧
    (∀ e ∈ asked, e ∈ log) ∧ (Selector.labelsOfTarget target).Ends asked (.ok labels) ∧
    r.made = some (Policy.denyAll schema target labels)
  fault : ∀ fault, r.fault = some fault → fault.isFile = true

/-- Generation for an idle pod goes through. -/
theorem FindsIdle.generate {ns : Text} {log : List (Exchange lookups)} {made : Except Fault Policy}
    (hidle : FindsIdle ns pod log) (h : (Policy.generate true pod schema (some ns)).Ends log made) :
    ∃ target asked labels, ⟨.pod ns pod, .ok (some target)⟩ ∈ log ∧
      (∀ e ∈ asked, e ∈ log) ∧ (Selector.labelsOfTarget target).Ends asked (.ok labels) ∧
      Labels.AreTexts labels ∧ made = .ok (Policy.denyAll schema target labels) := by
  have hfound : ∀ answer, ⟨.pod ns pod, answer⟩ ∈ log → ∃ target, answer = .ok (some target) := by
    intro answer hanswer
    obtain ⟨target, e, -⟩ := hidle.found answer hanswer
    exact ⟨target, e⟩
  obtain ⟨target, asked, labels, hlog, hlabels, hmade⟩ :=
    Policy.ends_generate_idle h hidle.named hidle.flows hfound
  have hasked : ∀ e ∈ asked, e ∈ log := by
    intro e he
    rw [hlog]
    exact List.mem_cons_of_mem _ (List.mem_cons_of_mem _ he)
  have htarget : ⟨.pod ns pod, .ok (some target)⟩ ∈ log := by
    rw [hlog]
    exact List.mem_cons_of_mem _ (List.mem_cons_self ..)
  have hguarded : Guarded Lookup.IsController (Selector.labelsOfTarget target) :=
    guarded_labelsOfTarget (fun _ _ _ => trivial) target
  cases labels with
  | error fault =>
    -- Only a controller could have failed so, and none does.
    have hnot := hguarded.keeps _ _ hlabels
    obtain ⟨e, he, hfails⟩ := (hguarded.passes _ _ hlabels fault hnot).mp rfl
    have hown := hidle.own e (hasked e he) (hguarded.asks _ _ hlabels e he) fault hfails
    exact nomatch hnot.symm.trans hown
  | ok labels =>
    obtain ⟨target', e, hpod⟩ := hidle.found _ htarget
    obtain rfl : target = target' := Option.some.inj (Except.ok.inj e)
    have htexts : Labels.AreTexts labels := Selector.labelsOfTarget_texts hpod _ _ hlabels
      fun e he => hidle.texts e (hasked e he)
    exact ⟨target, asked, labels, htarget, hasked, hlabels, htexts, hmade⟩

/-- The work on an idle pod ends with its policy. -/
theorem ends_processOne_idle {ns : Text} {log : List (Exchange work)}
    {r : Except Fault (PodResult Policy)} (hplan : plan.byName = true)
    (h : (plan.processOne schema (some ns) pod).Ends log r)
    (hidle : FindsIdle ns pod (Exchange.lefts log))
    (hreadable : ∀ target labels, ⟨.pod ns pod, .ok (some target)⟩ ∈ Exchange.lefts log →
      ¬ plan.Unreadable (Policy.denyAll schema target labels) (some pod)) :
    ∃ result, r = .ok result ∧ DeniesAll schema ns pod (Exchange.lefts log) result := by
  rcases ends_processOne h with ⟨fault, hgenerate, -⟩ | ⟨p, x, hgenerate, hdeliver, rfl⟩
  · rw [hplan] at hgenerate
    obtain ⟨_, _, _, _, _, _, _, e⟩ := hidle.generate hgenerate
    cases e
  · rw [hplan] at hgenerate
    obtain ⟨target, asked, labels, htarget, hasked, hlabels, htexts, e⟩ :=
      hidle.generate hgenerate
    cases e
    obtain ⟨text, htext⟩ := Policy.textOf_denyAll schema target htexts
    have hfile := ends_deliver htext (hreadable target labels htarget) hdeliver
    cases x with
    | ok path => exact ⟨_, rfl, rfl, ⟨target, asked, labels, htarget, hasked, hlabels, rfl⟩, nofun⟩
    | error fault =>
      have hone : fault.isOfOnePod = true := by
        rw [Fault.isOfOnePod, hfile fault rfl, Bool.or_true]
      refine ⟨_, World.podOutcome_ofOnePod pod _ hone, rfl,
        ⟨target, asked, labels, htarget, hasked, hlabels, rfl⟩, fun fault' e => ?_⟩
      cases e
      exact hfile fault rfl

/-! ## All pods -/

variable {namespaces : List (Text × Text)} {P : Text → PodResult Policy → Prop}

/-- Where the work on each pod ends with a result, so does the work on all of them, in order. -/
theorem ends_processEach : ∀ {pods : List Text} {log : List (Exchange work)}
    {r : Except Fault (List (PodResult Policy))},
    (plan.processEach schema namespaces pods).Ends log r →
    (∀ pod ∈ pods, ∀ part x, (∀ e ∈ part, e ∈ log) →
      (plan.processOne schema (namespaceOf namespaces pod) pod).Ends part x →
      ∃ result, x = .ok result ∧ P pod result) →
    ∃ results, r = .ok results ∧ List.Forall₂ P pods results
  | [], log, r, h, _ => by
    obtain ⟨-, rfl⟩ := Attempt.ends_pure.mp h
    exact ⟨[], rfl, .nil⟩
  | pod :: pods, log, r, h, hone => by
    obtain ⟨hpod, hpods⟩ := List.forall_mem_cons.mp hone
    rcases Attempt.ends_bind.mp h with
      ⟨fault, _, hfault⟩ | ⟨first, result, rest, rfl, hfirst, hrest⟩
    · obtain ⟨_, e, -⟩ := hpod log _ (fun e he => he) hfault
      cases e
    obtain ⟨_, e, hresult⟩ := hpod first _ (fun e he => List.mem_append_left rest he) hfirst
    cases e
    have hlater : ∀ part x, (plan.processEach schema namespaces pods).Ends part x →
        (∀ e ∈ part, e ∈ rest) → ∃ results, x = .ok results ∧ List.Forall₂ P pods results := by
      intro part x hends hpart
      refine ends_processEach hends fun pod hmem part' x hsub hx => hpods pod hmem part' x ?_ hx
      exact fun e he => List.mem_append_right first (hpart e (hsub e he))
    rcases Attempt.ends_bind.mp hrest with
      ⟨fault, _, hfault⟩ | ⟨second, results, last, rfl, hsecond, hlast⟩
    · obtain ⟨_, e, -⟩ := hlater rest _ hfault fun e he => he
      cases e
    · obtain ⟨_, e, hresults⟩ := hlater second _ hsecond fun e he => List.mem_append_left last he
      cases e
      obtain ⟨-, rfl⟩ := Attempt.ends_pure.mp hlast
      exact ⟨_, rfl, .cons hresult hresults⟩

/-- What a batch says at its beginning and its end changes nothing. -/
theorem ends_processAll {pods : List Text} {log : List (Exchange work)}
    {r : Except Fault (List (PodResult Policy))}
    (h : (plan.processAll schema pods namespaces).Ends log r)
    (hone : ∀ pod ∈ pods, ∀ part x, (∀ e ∈ part, e ∈ log) →
      (plan.processOne schema (namespaceOf namespaces pod) pod).Ends part x →
      ∃ result, x = .ok result ∧ P pod result) :
    ∃ results, r = .ok results ∧ List.Forall₂ P pods results := by
  cases pods with
  | nil =>
    obtain ⟨-, rfl⟩ := Attempt.ends_pure.mp h
    exact ⟨[], rfl, .nil⟩
  | cons pod rest =>
    have hall := Attempt.ends_tell_bind.mp h
    rcases Attempt.ends_bind.mp hall with
      ⟨fault, _, hfault⟩ | ⟨first, results, last, rfl, hfirst, hlast⟩
    · obtain ⟨_, e, -⟩ := ends_processEach hfault hone
      cases e
    · obtain ⟨_, e, hresults⟩ := ends_processEach hfirst fun pod hpod part x hsub hx =>
        hone pod hpod part x (fun e he => List.mem_append_left last (hsub e he)) hx
      cases e
      refine ⟨results, ?_, hresults⟩
      change Attempt.Ends (if (failures results).length != 0 then _ else _) last r at hlast
      split at hlast
      · exact (Attempt.ends_tell_pure.mp hlast).2
      · exact (Attempt.ends_pure.mp hlast).2

end Plan

end LeastPrivilege
