import LeastPrivilege.Proofs.ProfileFiles

/-!
The results of runs. A line of words that passes its checks asks for one pod by name or for all
pods of one or of every namespace (`Task.checked_ofWords`). The run works on the pods that it
selects, and where it comes to results at all there is one for each of them, in order: the work goes
through the pods one after the other, so this is by induction on them (`Plan.forall₂_processEach`,
`Run.forall₂_makeProfiles`). A result without a fault stands for a policy or a profile that was
made, and written where it was to be (`Run.PolicyDone`, `Run.ProfileDone`).
-/

namespace LeastPrivilege

/-! ## Selections -/

/-- A pod is named by a text, and then it is the only one asked for. -/
def Selection.Checked (selection : Selection) : Prop :=
  ∀ pod, selection.pod = some pod → pod ≠ [] ∧ selection.everywhere = false

namespace Task

/-- The selection of a task. -/
def selected : Task → Selection
  | policies _ selection _ => selection
  | profiles _ selection _ _ => selection

theorem checked_selection {given : List Given} {pod : Option Text} {selected : Selection}
    (h : selection given pod = .ok selected) : selected.Checked := by
  unfold selection at h
  dsimp only at h
  split at h
  · cases h
  · rename_i hboth
    split at h
    · cases h
    · cases h
      intro name hname
      change pod.filter (!·.isEmpty) = some name at hname
      have hsome : (pod.filter (!·.isEmpty)).isSome = true := by rw [hname]; rfl
      obtain ⟨-, hfilled⟩ := Option.filter_eq_some_iff.mp hname
      have hfew : isGiven given "everywhere" = false := by
        simp only [hsome, Bool.true_and, Bool.or_eq_true, not_or, Bool.not_eq_true] at hboth
        exact hboth.2
      exact ⟨by simpa using hfilled, hfew⟩

theorem ok_of_mapError {ε ε' α : Type} {f : ε → ε'} {x : Except ε α} {a : α}
    (h : x.mapError f = .ok a) : x = .ok a := by
  cases x with
  | error e => cases h
  | ok b => exact congrArg Except.ok (Except.ok.inj h)

theorem checked_ofPolicyWords {settings : Except Fault Settings} {words : List Text} {t : Task}
    (h : ofPolicyWords settings words = .ok t) : t.selected.Checked := by
  obtain ⟨⟨given, pod⟩, -, h⟩ := bind_ok h
  obtain ⟨loaded, -, h⟩ := bind_ok h
  obtain ⟨workers, -, h⟩ := bind_ok h
  obtain ⟨selected, hselected, h⟩ := bind_ok h
  cases h
  exact checked_selection (ok_of_mapError hselected)

theorem checked_ofProfileWords {settings : Except Fault Settings} {words : List Text} {t : Task}
    (h : ofProfileWords settings words = .ok t) : t.selected.Checked := by
  obtain ⟨⟨given, pod⟩, -, h⟩ := bind_ok h
  obtain ⟨loaded, -, h⟩ := bind_ok h
  obtain ⟨selected, hselected, h⟩ := bind_ok h
  cases h
  exact checked_selection (ok_of_mapError hselected)

theorem unknownCommand_ne_ok {α : Type} {spellings : List Spelling} {commands : List Text}
    {command : Resolved} {a : α} : unknownCommand spellings commands command ≠ .ok a := by
  intro h
  obtain ⟨_, -, h⟩ := bind_ok h
  cases h

theorem checked_ofGroupWords {settings : Except Fault Settings} {words : List Text} {t : Task}
    (h : ofGroupWords settings words = .ok t) : t.selected.Checked := by
  obtain ⟨⟨_, command, rest⟩, -, h⟩ := bind_ok h
  dsimp only at h
  split at h
  · exact checked_ofPolicyWords h
  · split at h
    · exact checked_ofProfileWords h
    · exact absurd h unknownCommand_ne_ok

/-- A line that asks for a task selects one pod by name, or all of some. -/
theorem checked_ofWords {env : Environment} {words : List Text} {t : Task}
    (h : (ofWords env words).1 = .ok t) : t.selected.Checked := by
  unfold ofWords at h
  split at h
  · cases h
  · split at h
    · exact absurd h unknownCommand_ne_ok
    · split at h
      · cases h
      · exact checked_ofGroupWords h

end Task

/-! ## Writing -/

theorem Outlet.mem_of_write {path : FilePath} {text : Text} {log : List (Exchange outlet)}
    (h : (Outlet.write path text).Ends log (.ok ())) : ⟨.write path text, .ok ()⟩ ∈ log := by
  obtain ⟨_, _, rest, rfl, -, hrest⟩ := h.bind_ok
  obtain ⟨answer, last, rfl, hlast⟩ := Attempt.ends_put_bind.mp hrest
  cases answer with
  | ok u => simp
  | error cause => cases (Attempt.ends_throw.mp hlast).2

/-- A path that is given is that of the file, which was written. -/
theorem OutputDirectory.ends_write_ok {d : OutputDirectory} {ns pod kind ext text : Text}
    {path : FilePath} {log : List (Exchange outlet)}
    (h : (d.write ns pod kind ext text).Ends log (.ok path)) :
    path = d.pathFor ns pod kind ext ∧ ⟨.write path text, .ok ()⟩ ∈ log := by
  obtain ⟨first, u, rest, rfl, hwritten, hrest⟩ := h.bind_ok
  obtain ⟨rfl, e⟩ := Attempt.ends_tell_pure.mp hrest
  cases e
  exact ⟨rfl, List.mem_append_left _ (Outlet.mem_of_write hwritten)⟩

namespace Plan

variable {plan : Plan} {schema : Schema} {pod : Text} {namespaces : List (Text × Text)}

/-- A policy that goes into a directory is put out by writing its file. -/
theorem ends_deliver_ok {p : Policy} {given : Option Text} {path : Option FilePath}
    {d : OutputDirectory} {log : List (Exchange outlet)} (hd : plan.directory = some d)
    (h : (plan.deliver p given).Ends log (.ok path)) : ∃ text, textOf p = .ok text ∧
      path = some (pathIn d p given) ∧ ⟨.write (pathIn d p given) text, .ok ()⟩ ∈ log := by
  obtain ⟨_, text, rest, rfl, htext, hrest⟩ := h.bind_ok
  obtain ⟨rfl, hok⟩ := Attempt.ends_ofExcept.mp htext
  rw [hd] at hrest
  obtain ⟨first, written, last, rfl, hwritten, hlast⟩ := hrest.bind_ok
  obtain ⟨rfl, hmem⟩ := OutputDirectory.ends_write_ok hwritten
  cases ends_finish (some _) hlast
  exact ⟨text, hok.symm, rfl, List.mem_append_right _ (List.mem_append_left _ hmem)⟩

/-- A result is the pod's own, and has a policy that was generated and put out unless it has a
fault. -/
theorem ends_processOne_ok {ns : Option Text} {log : List (Exchange work)} {r : PodResult Policy}
    (h : (plan.processOne schema ns pod).Ends log (.ok r)) : r.pod = pod ∧ (r.isOk = true →
      ∃ p, r.made = some p ∧
        (Policy.generate plan.byName pod schema ns).Ends (Exchange.lefts log) (.ok p) ∧
        (plan.deliver p (some pod)).Ends (Exchange.rights log) (.ok r.path)) := by
  have failed {made : Option Policy} {fault : Fault}
      (e : .ok r = World.podOutcome pod made (.error fault)) : r.pod = pod ∧ r.isOk = false := by
    cases hone : fault.isOfOnePod with
    | true =>
      rw [World.podOutcome_ofOnePod pod made hone] at e
      cases e
      exact ⟨rfl, rfl⟩
    | false =>
      rw [World.podOutcome_stop pod made hone] at e
      cases e
  rcases ends_processOne h with ⟨fault, -, e⟩ | ⟨p, x, hgenerate, hdeliver, e⟩
  · obtain ⟨hpod, hnot⟩ := failed e
    exact ⟨hpod, fun hok => nomatch hnot.symm.trans hok⟩
  · cases x with
    | error fault =>
      obtain ⟨hpod, hnot⟩ := failed e
      exact ⟨hpod, fun hok => nomatch hnot.symm.trans hok⟩
    | ok path =>
      cases e
      exact ⟨rfl, fun _ => ⟨p, rfl, hgenerate, hdeliver⟩⟩

/-- The work on a pod, as a part of an exchange, gave this result. -/
def Worked (plan : Plan) (schema : Schema) (namespaces : List (Text × Text))
    (log : List (Exchange work)) (pod : Text) (r : PodResult Policy) : Prop :=
  ∃ part, (∀ e ∈ part, e ∈ log) ∧
    (plan.processOne schema (namespaceOf namespaces pod) pod).Ends part (.ok r)

theorem Worked.mono {log log' : List (Exchange work)} {r : PodResult Policy}
    (h : plan.Worked schema namespaces log pod r) (hsub : ∀ e ∈ log, e ∈ log') :
    plan.Worked schema namespaces log' pod r := by
  obtain ⟨part, hpart, hends⟩ := h
  exact ⟨part, fun e he => hsub e (hpart e he), hends⟩

/-- Results belong to the pods, in order. -/
theorem forall₂_processEach {pods : List Text} {log : List (Exchange work)}
    {results : List (PodResult Policy)}
    (h : (plan.processEach schema namespaces pods).Ends log (.ok results)) :
    List.Forall₂ (plan.Worked schema namespaces log) pods results := by
  induction pods generalizing log results with
  | nil =>
    obtain ⟨-, e⟩ := Attempt.ends_pure.mp h
    cases e
    exact .nil
  | cons pod pods ih =>
    obtain ⟨first, result, rest, rfl, hfirst, hrest⟩ := h.bind_ok
    obtain ⟨second, others, last, rfl, hsecond, hlast⟩ := hrest.bind_ok
    obtain ⟨rfl, e⟩ := Attempt.ends_pure.mp hlast
    cases e
    have here : plan.Worked schema namespaces first pod result := ⟨first, fun _ he => he, hfirst⟩
    refine .cons (here.mono fun e he => List.mem_append_left _ he) ?_
    apply (ih hsecond).imp
    intro pod result hworked
    apply hworked.mono
    intro e he
    simp [he]

theorem forall₂_processAll {pods : List Text} {log : List (Exchange work)}
    {results : List (PodResult Policy)}
    (h : (plan.processAll schema pods namespaces).Ends log (.ok results)) :
    List.Forall₂ (plan.Worked schema namespaces log) pods results := by
  cases pods with
  | nil =>
    obtain ⟨-, e⟩ := Attempt.ends_pure.mp h
    cases e
    exact .nil
  | cons pod rest =>
    obtain ⟨first, made, last, rfl, hfirst, hlast⟩ := (Attempt.ends_tell_bind.mp h).bind_ok
    have hmade : results = made := by
      change Attempt.Ends (if (failures made).length != 0 then _ else _) last _ at hlast
      split at hlast
      · exact Except.ok.inj (Attempt.ends_tell_pure.mp hlast).2
      · exact Except.ok.inj (Attempt.ends_pure.mp hlast).2
    rw [hmade]
    apply (forall₂_processEach hfirst).imp
    intro pod result hworked
    exact hworked.mono fun e he => List.mem_append_left _ he

end Plan

namespace Run

open Session

variable {env : Environment} {s : Settings} {selection : Selection} {schema : Schema}
  {pods : List Pod} {log : List (Exchange outside)} {action : Text} {path : FilePath}

/-- These pods were selected in the course of an exchange. -/
def Selects (env : Environment) (s : Settings) (selection : Selection)
    (log : List (Exchange outside)) (pods : List Pod) : Prop :=
  ∃ part, (∀ e ∈ part, e ∈ log) ∧ (selectPods env s selection).Ends part (.ok pods)

theorem Selects.mono {log' : List (Exchange outside)} (h : Selects env s selection log pods)
    (hsub : ∀ e ∈ log, e ∈ log') : Selects env s selection log' pods := by
  obtain ⟨part, hpart, hends⟩ := h
  exact ⟨part, fun e he => hsub e (hpart e he), hends⟩

/-- A pod that is named is the only one. -/
theorem Selects.named (h : Selects env s selection log pods) (hchecked : selection.Checked)
    {name : Text} (hname : selection.pod = some name) : ∃ ns, pods = [{ ns, name }] := by
  obtain ⟨part, -, h⟩ := h
  unfold selectPods at h
  rw [(hchecked name hname).2, if_neg nofun, hname] at h
  cases hns : selection.ns with
  | some ns =>
    rw [hns] at h
    exact ⟨ns, Except.ok.inj (Attempt.ends_pure.mp h).2⟩
  | none =>
    rw [hns] at h
    obtain ⟨_, ns, _, rfl, -, hrest⟩ := h.bind_ok
    exact ⟨ns, Except.ok.inj (Attempt.ends_pure.mp hrest).2⟩

/-! ## Policies -/

/-- The directory for output, made if there is to be one. -/
def prepareOutput (s : Settings) : Attempt outside (Option OutputDirectory) :=
  match s.outputDir with
  | some path => do pure (some (← makeDirectory path))
  | none => pure none

/-- What a run for policies says of its work. -/
def announcement (schema : Schema) (pods : List Pod) : Text :=
  "[bold]flowpolicy[/bold] generating [cyan]" ++ schema.name ++ "[/cyan] policies for "
    ++ Text.decimal pods.length ++ " pod(s)"

/-- The plan of a run. -/
def planFor (s : Settings) (directory : Option OutputDirectory) : Plan :=
  { byName := true, directory, dryRun := s.dryRun, maxWorkers := s.maxWorkers }

/-- What a run for policies does after its selection. -/
theorem policies_eq : policies env s selection schema = (do
    Session.ofCluster (Cluster.connect s)
    let pods ← selectPods env s selection
    if pods.isEmpty then
      sayShown (Console.render (Console.widthIn env) "[yellow]No running pods found.[/yellow]")
      return none
    let directory ← prepareOutput s
    sayShown (Console.render (Console.widthIn env) (announcement schema pods))
    return some (← withBroker s (makePolicies s (planFor s directory) schema pods))) := by
  unfold policies prepareOutput
  cases s.outputDir with
  | some path =>
    simp only [bind_assoc, pure_bind]
    rfl
  | none => rfl

theorem ends_prepareOutput {directory : Option OutputDirectory}
    (h : (prepareOutput s).Ends log (.ok directory)) :
    directory = s.outputDir.map OutputDirectory.mk := by
  unfold prepareOutput at h
  cases hdir : s.outputDir with
  | none =>
    rw [hdir] at h
    exact Except.ok.inj (Attempt.ends_pure.mp h).2
  | some path =>
    rw [hdir] at h
    obtain ⟨_, d, _, rfl, hmade, hrest⟩ := h.bind_ok
    rw [eq_of_makeDirectory hmade] at hrest
    exact Except.ok.inj (Attempt.ends_pure.mp hrest).2

/-- The result stands for the policy of a pod, generated from answers of the session. Where there is
a directory for output, the policy was written there. -/
structure PolicyDone (s : Settings) (schema : Schema) (log : List (Exchange outside))
    (ns : Option Text) (r : PodResult Policy) (policy : Policy) : Prop where
  made : r.made = some policy
  generated : ∃ asked, (Policy.generate true r.pod schema ns).Ends asked (.ok policy) ∧
    ∀ e ∈ asked, ∃ part, (∀ d ∈ part, d ∈ log) ∧
      (answer (brokerOf s) s.requestTimeout e.question).Ends part e.answer
  written : ∀ path, s.outputDir = some path → ∃ text, Plan.textOf policy = .ok text ∧
    r.path = some (Plan.pathIn ⟨path⟩ policy (some r.pod)) ∧
    overOutlet ⟨.write (Plan.pathIn ⟨path⟩ policy (some r.pod)) text, .ok ()⟩ ∈ log

theorem PolicyDone.mono {log' : List (Exchange outside)} {ns : Option Text} {r : PodResult Policy}
    {policy : Policy} (h : PolicyDone s schema log ns r policy) (hsub : ∀ e ∈ log, e ∈ log') :
    PolicyDone s schema log' ns r policy := by
  obtain ⟨asked, hgenerate, hasked⟩ := h.generated
  refine ⟨h.made, ⟨asked, hgenerate, fun e he => ?_⟩, fun path hpath => ?_⟩
  · obtain ⟨part, hpart, hends⟩ := hasked e he
    exact ⟨part, fun d hd => hsub d (hpart d hd), hends⟩
  · obtain ⟨text, htext, hfile, hmem⟩ := h.written path hpath
    exact ⟨text, htext, hfile, hsub _ hmem⟩

/-- The namespace in which a run looks for the policy of a pod: that of the last selected pod with
its name. -/
def nsFor (pods : List Pod) (pod : Pod) : Option Text :=
  Plan.namespaceOf (pods.map fun p => (p.name, p.ns)) pod.name

/-- The result is the pod's own. Without a fault it stands for a policy of the pod. -/
def PolicyResult (s : Settings) (schema : Schema) (log : List (Exchange outside)) (pods : List Pod)
    (pod : Pod) (r : PodResult Policy) : Prop :=
  r.pod = pod.name ∧
    (r.isOk = true → ∃ policy, PolicyDone s schema log (nsFor pods pod) r policy)

theorem PolicyResult.mono {log' : List (Exchange outside)} {pod : Pod} {r : PodResult Policy}
    (h : PolicyResult s schema log pods pod r) (hsub : ∀ e ∈ log, e ∈ log') :
    PolicyResult s schema log' pods pod r := by
  obtain ⟨hname, hdone⟩ := h
  refine ⟨hname, fun hok => ?_⟩
  obtain ⟨policy, hpolicy⟩ := hdone hok
  exact ⟨policy, hpolicy.mono hsub⟩

/-- The work on selected pods gives a result for each of them, in order. -/
theorem forall₂_makePolicies {results : List (PodResult Policy)}
    (h : (makePolicies s (planFor s (s.outputDir.map OutputDirectory.mk)) schema pods
      (brokerOf s)).Ends log (.ok results)) :
    List.Forall₂ (PolicyResult s schema log pods) pods results := by
  obtain ⟨asked, hasked, hpassed⟩ := Attempt.ends_through.mp h
  have hworked := Plan.forall₂_processAll hasked
  rw [List.forall₂_map_left_iff] at hworked
  apply hworked.imp
  rintro pod r ⟨part, hpart, hends⟩
  obtain ⟨hname, hok⟩ := Plan.ends_processOne_ok hends
  refine ⟨hname, fun h => ?_⟩
  obtain ⟨policy, hmade, hgenerate, hdeliver⟩ := hok h
  refine ⟨policy, hmade, ⟨Exchange.lefts part, ?_, ?_⟩, ?_⟩
  · rw [hname]
    exact hgenerate
  · intro e he
    exact hpassed.exists_of_mem (hpart _ (Exchange.inLeft_mem_of_mem_lefts he))
  · intro path hpath
    have hdirectory : (planFor s (s.outputDir.map OutputDirectory.mk)).directory = some ⟨path⟩ := by
      rw [planFor, hpath]
      rfl
    obtain ⟨text, htext, hfile, hwritten⟩ := Plan.ends_deliver_ok hdirectory hdeliver
    rw [hname]
    refine ⟨text, htext, hfile, ?_⟩
    obtain ⟨part', hpart', hput⟩ :=
      hpassed.exists_of_mem (hpart _ (Exchange.inRight_mem_of_mem_rights hwritten))
    have hone := Inquiry.ends_put.mp hput
    apply hpart'
    rw [hone]
    exact List.mem_singleton.mpr rfl

/-- A run for policies that comes to results has one for each of the pods that it selected, of
which there are some. -/
theorem ends_policies_ok {results : List (PodResult Policy)}
    (h : (policies env s selection schema).Ends log (.ok (some results))) :
    ∃ pods, Selects env s selection log pods ∧ pods ≠ [] ∧
      List.Forall₂ (PolicyResult s schema log pods) pods results := by
  rw [policies_eq] at h
  obtain ⟨first, _, rest, rfl, -, h⟩ := h.bind_ok
  obtain ⟨second, pods, rest, rfl, hselected, h⟩ := h.bind_ok
  cases hempty : pods.isEmpty with
  | true =>
    rw [hempty, if_pos rfl] at h
    obtain ⟨_, _, _, rfl, -, h⟩ := h.bind_ok
    cases (Attempt.ends_pure.mp h).2
  | false =>
    rw [hempty, if_neg nofun] at h
    obtain ⟨third, directory, rest, rfl, hdirectory, h⟩ := h.bind_ok
    obtain ⟨fourth, _, rest, rfl, -, h⟩ := h.bind_ok
    obtain ⟨work, made, last, rfl, hmade, h⟩ := h.bind_ok
    obtain ⟨rfl, e⟩ := Attempt.ends_pure.mp h
    cases e
    rw [ends_prepareOutput hdirectory] at hmade
    rcases ends_withBroker hmade with ⟨fault, e, -⟩ | ⟨part, hpart, hwork⟩
    · cases e
    · refine ⟨pods, ⟨second, fun e he => by simp [he], hselected⟩, ?_, ?_⟩
      · intro hnil
        simp [hnil] at hempty
      · apply (forall₂_makePolicies hwork).imp
        intro pod r hresult
        apply hresult.mono
        intro e he
        have hmem : e ∈ work := hpart.mem e he
        simp [hmem]

/-! ## Profiles -/

variable {b : Broker} {directory : OutputDirectory}

/-- The result stands for the profile of a pod: one of the calls that the broker gave first under
the pod's name, which has passed its check and was written. -/
structure ProfileDone (b : Broker) (directory : OutputDirectory) (action : Text)
    (log : List (Exchange outside)) (pod : Pod) (r : PodResult Seccomp.Profile)
    (calls : RecordedCalls) : Prop where
  recorded : ∃ body row rest, replied b (.calls pod.name) (.response 200 body) ∈ log ∧
    Json.read body = .ok (.list (row :: rest)) ∧ RecordedCalls.ofRow row = .ok calls
  checked : (Seccomp.Profile.ofRecorded calls action).check = .ok ()
  path : r.path = some (directory.pathFor pod.ns pod.name "seccomp" "json")
  written : overOutlet ⟨.write (directory.pathFor pod.ns pod.name "seccomp" "json")
    (Seccomp.Profile.ofRecorded calls action).text, .ok ()⟩ ∈ log

theorem ProfileDone.mono {log' : List (Exchange outside)} {pod : Pod}
    {r : PodResult Seccomp.Profile} {calls : RecordedCalls}
    (h : ProfileDone b directory action log pod r calls) (hsub : ∀ e ∈ log, e ∈ log') :
    ProfileDone b directory action log' pod r calls := by
  obtain ⟨body, row, rest, hreply, hread⟩ := h.recorded
  exact ⟨⟨body, row, rest, hsub _ hreply, hread⟩, h.checked, h.path, hsub _ h.written⟩

/-- The result is the pod's own. Without a fault it stands for a profile of the pod. -/
def ProfileResult (b : Broker) (directory : OutputDirectory) (action : Text)
    (log : List (Exchange outside)) (pod : Pod) (r : PodResult Seccomp.Profile) : Prop :=
  r.pod = pod.name ∧ (r.isOk = true → ∃ calls, ProfileDone b directory action log pod r calls)

theorem ProfileResult.mono {log' : List (Exchange outside)} {pod : Pod}
    {r : PodResult Seccomp.Profile} (h : ProfileResult b directory action log pod r)
    (hsub : ∀ e ∈ log, e ∈ log') : ProfileResult b directory action log' pod r := by
  obtain ⟨hname, hdone⟩ := h
  refine ⟨hname, fun hok => ?_⟩
  obtain ⟨calls, hcalls⟩ := hdone hok
  exact ⟨calls, hcalls.mono hsub⟩

theorem check_of_recordedProfile {name : Text} {profile : Seccomp.Profile}
    (h : (recordedProfile b action name).Ends log (.ok profile)) : profile.check = .ok () := by
  obtain ⟨_, found, _, rfl, -, hrest⟩ := h.bind_ok
  cases found with
  | none => cases (Attempt.ends_throw.mp hrest).2
  | some calls =>
    obtain ⟨_, _, _, rfl, hcheck, hdone⟩ := hrest.bind_ok
    cases (Attempt.ends_pure.mp hdone).2
    exact (Attempt.ends_ofExcept.mp hcheck).2.symm

/-- A path that the work on a pod gives is that of the pod's profile. -/
theorem ends_writeProfile_ok {pod : Pod} {path : FilePath}
    (h : (writeProfile b directory action pod).Ends log (.ok path)) : ∃ calls,
      ProfileDone b directory action log pod { pod := pod.name, path := some path } calls := by
  obtain ⟨first, profile, rest, rfl, hprofile, hrest⟩ := h.bind_ok
  obtain ⟨body, row, rows, calls, hreply, hread, hcalls, hmade⟩ := ends_recordedProfile hprofile
  have hcheck := check_of_recordedProfile hprofile
  rw [hmade] at hcheck hrest
  obtain ⟨asked, hasked, rfl⟩ := ends_ofOutlet.mp hrest
  obtain ⟨rfl, hmem⟩ := OutputDirectory.ends_write_ok hasked
  have hwritten := List.mem_append_right first (List.mem_map_of_mem (f := overOutlet) hmem)
  exact ⟨calls, ⟨body, row, rows, List.mem_append_left _ hreply, hread, hcalls⟩, hcheck, rfl,
    hwritten⟩

/-- Results belong to the pods, in order. -/
theorem forall₂_makeProfiles {results : List (PodResult Seccomp.Profile)}
    (h : (makeProfiles directory action b pods).Ends log (.ok results)) :
    List.Forall₂ (ProfileResult b directory action log) pods results := by
  induction pods generalizing log results with
  | nil =>
    obtain ⟨-, e⟩ := Attempt.ends_pure.mp h
    cases e
    exact .nil
  | cons pod pods ih =>
    obtain ⟨first, made, rest, rfl, hfirst, hrest⟩ := h.bind_ok
    obtain ⟨outcome, hmade, e⟩ := Attempt.ends_ofInquiry.mp hfirst
    cases e
    -- The rest of the work is the same after either outcome, so it is told once.
    have after {r : PodResult Seccomp.Profile} (hr : ProfileResult b directory action first pod r)
        (hlater : Attempt.Ends (do
          return r :: (← makeProfiles directory action b pods)) rest (.ok results)) :
        List.Forall₂ (ProfileResult b directory action (first ++ rest)) (pod :: pods) results := by
      obtain ⟨second, others, last, rfl, hsecond, hlast⟩ := hlater.bind_ok
      obtain ⟨rfl, e⟩ := Attempt.ends_pure.mp hlast
      cases e
      refine .cons (hr.mono fun e he => List.mem_append_left _ he) ?_
      apply (ih hsecond).imp
      intro pod r hresult
      apply hresult.mono
      intro e he
      simp [he]
    cases made with
    | ok path =>
      refine after ⟨rfl, fun _ => ?_⟩ hrest
      exact ends_writeProfile_ok hmade
    | error fault =>
      change Attempt.Ends (if fault.isOfOnePod || fault.isValue then _ else _) rest _ at hrest
      split at hrest
      · refine after ⟨rfl, fun hok => ?_⟩ (Attempt.ends_tell_bind.mp hrest)
        cases hok
      · cases (Attempt.ends_throw.mp hrest).2

/-- A run for profiles that comes to results has one for each of the pods that it selected, of
which there may be none. -/
theorem ends_profiles_ok {results : List (PodResult Seccomp.Profile)}
    (h : (profiles env s selection action path).Ends log (.ok results)) :
    ∃ pods, Selects env s selection log pods ∧
      List.Forall₂ (ProfileResult (brokerOf s) ⟨path⟩ action log) pods results := by
  obtain ⟨first, _, rest, rfl, -, h⟩ := h.bind_ok
  obtain ⟨second, pods, rest, rfl, hselected, h⟩ := h.bind_ok
  obtain ⟨third, directory, rest, rfl, hmade, h⟩ := h.bind_ok
  rw [eq_of_makeDirectory hmade] at h
  rcases ends_withBroker h with ⟨fault, e, -⟩ | ⟨part, hpart, hwork⟩
  · cases e
  · refine ⟨pods, ⟨second, fun e he => by simp [he], hselected⟩, ?_⟩
    apply (forall₂_makeProfiles hwork).imp
    intro pod r hresult
    apply hresult.mono
    intro e he
    have hmem : e ∈ rest := hpart.mem e he
    simp [hmem]

end Run

end LeastPrivilege
