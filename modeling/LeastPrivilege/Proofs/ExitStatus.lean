import LeastPrivilege.Proofs.RunResults
import LeastPrivilege.Proofs.ShownTables

/-!
The exit status of runs that pass the checks of their line. A task is its work, the table of the
results of that, and the status which they give (`Run.task_eq`). The status is 0 or 1, and it is 0
exactly if the work came to results, the table of them can be shown, and either some pod was dealt
with or there are no results at all (`Run.exit_status`). Policies are never made of no pods, so the
last can be said of profiles only: a run for profiles that selects nothing succeeds.

One law covers both commands. A pod that is named is the only one, so that a single fault and faults
throughout are the same (`Run.status_eq_zero_iff`).
-/

namespace LeastPrivilege

namespace Task

/-- What a task makes for a pod. -/
def Made : Task → Type
  | policies .. => Policy
  | profiles .. => Seccomp.Profile

/-- The task makes profiles. -/
def MakesProfiles : Task → Prop
  | policies .. => False
  | profiles .. => True

/-- The settings of a task. -/
def settings : Task → Settings
  | policies s .. => s
  | profiles s .. => s

/-- The title over the results of a task. -/
def title : Task → Text
  | policies .. => "Network policies"
  | profiles .. => "Seccomp profiles"

/-- What is told of something that was made, where it has no file. -/
def nameOf : (t : Task) → t.Made → Text
  | policies .., (p : Policy) => p.name
  | profiles .., _ => []

end Task

namespace Run

open Session

/-! ## Tasks as work and a table -/

/-- The results of a task, unless there are no pods to work on. -/
def results (env : Environment) : (t : Task) → Attempt outside (Option (List (PodResult t.Made)))
  | .policies s selection schema => policies env s selection schema
  | .profiles s selection action path => do
    let made ← profiles env s selection action path
    return some made

/-- The status that results give. -/
def status : (t : Task) → List (PodResult t.Made) → Nat
  | .policies _ selection _, made => policyStatus selection made
  | .profiles .., made => profileStatus made

variable {env : Environment} {t : Task} {log : List (Exchange outside)} {α : Type}

/-- A task is its work and then, unless there was nothing to do, the table of its results. -/
theorem task_eq (env : Environment) (t : Task) : task env t = (do
    match ← results env t with
    | none => return 1
    | some made =>
      sayResults (Console.widthIn env) t.title t.nameOf made
      return status t made) := by
  cases t with
  | policies s selection schema =>
    unfold task results
    apply bind_congr
    intro found
    cases found <;> rfl
  | profiles s selection action path =>
    unfold results
    simp only [bind_assoc, pure_bind]
    rfl

/-! ## The status of results -/

theorem allFailed_iff {made : List (PodResult α)} :
    allFailed made = true ↔ ∀ r ∈ made, r.isOk = false := by
  simp [allFailed]

theorem firstFault_isSome_iff {made : List (PodResult α)} :
    (firstFault made).isSome = true ↔ ∃ r ∈ made, r.isOk = false := by
  simp [firstFault, PodResult.isOk, List.findSome?_isSome_iff]

theorem status_le_one (t : Task) (made : List (PodResult t.Made)) : status t made ≤ 1 := by
  cases t with
  | policies s selection schema =>
    show (if _ then 1 else 0) ≤ 1
    split <;> omega
  | profiles s selection action path =>
    show (if _ then 1 else 0) ≤ 1
    split <;> omega

/-- After policies of one pod or of many, the status is 0 unless all pods failed. -/
theorem policyStatus_eq_zero_iff {selection : Selection} {made : List (PodResult Policy)}
    (hone : selection.pod.isSome = true → made.length = 1) :
    policyStatus selection made = 0 ↔ made = [] ∨ ∃ r ∈ made, r.isOk = true := by
  have hstatus : policyStatus selection made = 0 ↔
      ¬ ((∃ r ∈ made, r.isOk = false) ∧
        (selection.pod.isSome = true ∨ ∀ r ∈ made, r.isOk = false)) := by
    rw [← firstFault_isSome_iff, ← allFailed_iff]
    simp [policyStatus]
  rw [hstatus]
  cases made with
  | nil => simp
  | cons r rest =>
    cases hnamed : selection.pod.isSome with
    | true =>
      -- The pod is the only one, so it is the first that failed if any did.
      have hrest : rest = [] := by simpa using hone hnamed
      simp [hrest]
    | false =>
      constructor
      · intro h
        by_contra hall
        push Not at hall
        have hfailed : ∀ r' ∈ r :: rest, r'.isOk = false := by
          intro r' hr'
          exact Bool.eq_false_iff.mpr (hall.2 r' hr')
        exact h ⟨⟨r, List.mem_cons_self, hfailed r List.mem_cons_self⟩, .inr hfailed⟩
      · rintro (hnil | ⟨ok, hok, htrue⟩) ⟨-, hnever | hall⟩
        · cases hnil
        · cases hnil
        · cases hnever
        · exact absurd htrue (by simp [hall ok hok])

theorem profileStatus_eq_zero_iff {made : List (PodResult Seccomp.Profile)} :
    profileStatus made = 0 ↔ made = [] ∨ ∃ r ∈ made, r.isOk = true := by
  have hall : allFailed made = false ↔ ∃ r ∈ made, r.isOk = true := by
    rw [← Bool.not_eq_true, allFailed_iff]
    push Not
    simp only [Bool.not_eq_false, ne_eq]
  rw [← hall]
  cases made with
  | nil => simp [profileStatus]
  | cons r rest => simp [profileStatus]

/-- The status is 0 if some pod was dealt with, or there is no result. -/
theorem status_eq_zero_iff {made : List (PodResult t.Made)}
    (hone : t.selected.pod.isSome = true → made.length = 1) :
    status t made = 0 ↔ made = [] ∨ ∃ r ∈ made, r.isOk = true := by
  cases t with
  | policies s selection schema => exact policyStatus_eq_zero_iff hone
  | profiles s selection action path => exact profileStatus_eq_zero_iff

/-! ## The table of results -/

/-- The table of results can be shown on the terminal. -/
def Shown (env : Environment) (t : Task) (made : List (PodResult t.Made)) : Prop :=
  ∃ lines, (resultTable t.title t.nameOf made).lines (Console.widthIn env) = .ok lines

/-- Results are said if the table of them can be shown. -/
theorem ends_sayResults {made : List (PodResult t.Made)} {x : Except Fault Unit}
    (h : (sayResults (Console.widthIn env) t.title t.nameOf made).Ends log x) :
    x = .ok () ↔ Shown env t made := by
  cases htable : (resultTable t.title t.nameOf made).lines (Console.widthIn env) with
  | error fault =>
    have hnot : ¬ Shown env t made := by
      rintro ⟨lines, hlines⟩
      rw [htable] at hlines
      cases hlines
    rcases Attempt.ends_bind.mp h with ⟨_, rfl, -⟩ | ⟨_, u, _, rfl, hsaid, -⟩
    · exact ⟨nofun, fun hshown => absurd hshown hnot⟩
    · rw [htable] at hsaid
      obtain ⟨_, lines, _, rfl, hread, -⟩ := hsaid.bind_ok
      cases (Attempt.ends_ofExcept.mp hread).2
  | ok lines =>
    refine ⟨fun _ => ⟨lines, htable⟩, fun _ => ?_⟩
    rcases Attempt.ends_bind.mp h with ⟨fault, -, hsaid⟩ | ⟨_, u, last, rfl, -, hlast⟩
    · rw [htable] at hsaid
      cases ends_sayShown ⟨lines, rfl⟩ hsaid
    · -- The line below the table holds numbers, so no tag begins in it.
      apply ends_sayShown _ hlast
      have hplain : Console.Showable ("\nGenerated "
          ++ Text.decimal (made.length - (failures made).length) ++ " of "
          ++ Text.decimal made.length) := by
        apply Console.showable_of_not_mem
        intro hmem
        simp only [List.mem_append] at hmem
        rcases hmem with ((h | h) | h) | h
        · exact absurd h (by decide)
        · exact (Console.Unmarked.of_digits (Text.all_isDigit_decimal _) _ h).2 rfl
        · exact absurd h (by decide)
        · exact (Console.Unmarked.of_digits (Text.all_isDigit_decimal _) _ h).2 rfl
      obtain ⟨m, hmarked, hknown⟩ := hplain
      exact Console.render_of_known hmarked hknown _

/-! ## What results stand for -/

/-- The pod had its policy or its profile made, which the result stands for. -/
def Done : (t : Task) → List (Exchange outside) → List Pod → Pod → PodResult t.Made → Prop
  | .policies s _ schema, log, pods, pod, r =>
    ∃ policy, PolicyDone s schema log (nsFor pods pod) r policy
  | .profiles s _ action path, log, _, pod, r =>
    ∃ calls, ProfileDone (brokerOf s) ⟨path⟩ action log pod r calls

/-- The results of a run are those of the pods that it selected, one for each and in order. Without
a fault, a result stands for what was made for its pod. A pod that is named is the only one, and
where there is none the task makes profiles. -/
structure ResultsOf (env : Environment) (t : Task) (log : List (Exchange outside))
    (pods : List Pod) (made : List (PodResult t.Made)) : Prop where
  selected : Selects env t.settings t.selected log pods
  each : List.Forall₂ (fun pod r => r.pod = pod.name ∧ (r.isOk = true → Done t log pods pod r))
    pods made
  named : ∀ name, t.selected.pod = some name → ∃ ns, pods = [{ ns, name }]
  idle : pods = [] → t.MakesProfiles

theorem ResultsOf.length_eq_one {pods : List Pod} {made : List (PodResult t.Made)}
    (h : ResultsOf env t log pods made) (hnamed : t.selected.pod.isSome = true) :
    made.length = 1 := by
  obtain ⟨name, hname⟩ := Option.isSome_iff_exists.mp hnamed
  obtain ⟨ns, hpods⟩ := h.named name hname
  rw [← h.each.length_eq, hpods]
  rfl

/-- A result without a fault is that of a selected pod, which had something made for it. -/
theorem ResultsOf.exists_done {pods : List Pod} {made : List (PodResult t.Made)}
    (h : ResultsOf env t log pods made) {r : PodResult t.Made} (hr : r ∈ made)
    (hok : r.isOk = true) : ∃ pod ∈ pods, r.pod = pod.name ∧ Done t log pods pod r := by
  obtain ⟨i, hi, rfl⟩ := List.mem_iff_getElem.mp hr
  have hlength := h.each.length_eq
  have hpod : i < pods.length := by omega
  obtain ⟨hname, hdone⟩ := h.each.get hpod hi
  exact ⟨pods[i], List.getElem_mem hpod, hname, hdone hok⟩

/-- Results that a task comes to are those of the pods that it selected. -/
theorem resultsOf_ends {made : List (PodResult t.Made)} (hchecked : t.selected.Checked)
    (h : (results env t).Ends log (.ok (some made))) : ∃ pods, ResultsOf env t log pods made := by
  cases t with
  | policies s selection schema =>
    obtain ⟨pods, hselected, hfilled, heach⟩ := ends_policies_ok h
    refine ⟨pods, hselected, heach, fun name hname => ?_, fun hnil => absurd hnil hfilled⟩
    exact hselected.named hchecked hname
  | profiles s selection action path =>
    obtain ⟨x, hmade, e⟩ := h.of_bind_pure
    cases x with
    | error fault => cases e
    | ok found =>
      cases e
      obtain ⟨pods, hselected, heach⟩ := ends_profiles_ok hmade
      exact ⟨pods, hselected, heach, fun name hname => hselected.named hchecked hname,
        fun _ => trivial⟩

/-- The status of a task is 0 exactly if its work came to results that can be shown, of which one is
without a fault unless there are none. -/
theorem ends_task {r : Except Fault Nat} (hchecked : t.selected.Checked)
    (h : (task env t).Ends log r) :
    ∃ part x, (∀ e ∈ part, e ∈ log) ∧ (results env t).Ends part x ∧ statusOf r ≤ 1 ∧
      (statusOf r = 0 ↔ ∃ made, x = .ok (some made) ∧ Shown env t made ∧
        (made = [] ∨ ∃ r ∈ made, r.isOk = true)) := by
  rw [task_eq] at h
  rcases Attempt.ends_bind.mp h with ⟨fault, rfl, hfails⟩ | ⟨part, found, rest, rfl, hfound, h⟩
  · refine ⟨log, _, fun e he => he, hfails, le_rfl, ?_⟩
    simp
  · refine ⟨part, _, fun e he => List.mem_append_left _ he, hfound, ?_⟩
    cases found with
    | none =>
      rw [(Attempt.ends_pure.mp h).2]
      simp
    | some made =>
      obtain ⟨pods, hmade⟩ := resultsOf_ends hchecked hfound
      have hstatus := status_eq_zero_iff hmade.length_eq_one
      have hresults : (∃ made', (Except.ok (some made) : Except Fault _) = .ok (some made') ∧
          Shown env t made' ∧ (made' = [] ∨ ∃ r ∈ made', r.isOk = true)) ↔
          Shown env t made ∧ status t made = 0 := by
        rw [hstatus]
        constructor
        · rintro ⟨_, e, hshown, hok⟩
          cases e
          exact ⟨hshown, hok⟩
        · rintro ⟨hshown, hok⟩
          exact ⟨made, rfl, hshown, hok⟩
      rw [hresults]
      rcases Attempt.ends_bind.mp h with ⟨fault, rfl, hsaid⟩ | ⟨_, _, _, rfl, hsaid, hlast⟩
      · -- The table was not shown, so the run failed whatever the results.
        have hnot : ¬ Shown env t made := fun hshown => nomatch (ends_sayResults hsaid).mpr hshown
        exact ⟨le_rfl, by simp [hnot]⟩
      · have hshown : Shown env t made := (ends_sayResults hsaid).mp rfl
        rw [(Attempt.ends_pure.mp hlast).2]
        exact ⟨status_le_one t made, by simp [hshown]⟩

/-- What the status of a run says of its work, which ended in this way. -/
structure StatusSays (env : Environment) (t : Task) (part : List (Exchange outside))
    (x : Except Fault (Option (List (PodResult t.Made)))) (status : Nat) : Prop where
  le_one : status ≤ 1
  eq_zero_iff : status = 0 ↔ ∃ made, x = .ok (some made) ∧ Shown env t made ∧
    (made = [] ∨ ∃ r ∈ made, r.isOk = true)
  /-- The results are those of the selected pods. -/
  belong : ∀ made, x = .ok (some made) → ∃ pods, ResultsOf env t part pods made
  /-- A status of 0 means that something was made, or that there was nothing to make. -/
  achieved : status = 0 → ∃ pods, Selects env t.settings t.selected part pods ∧
    ((pods = [] ∧ t.MakesProfiles) ∨
      ∃ pod ∈ pods, ∃ r, r.isOk = true ∧ r.pod = pod.name ∧ Done t part pods pod r)
  /-- A pod that is named must succeed. -/
  named : ∀ name, t.selected.pod = some name →
    (status = 0 ↔ ∃ r, x = .ok (some [r]) ∧ Shown env t [r] ∧ r.isOk = true)
  /-- One pod that succeeds is enough, unless what is told about some pod begins a tag. -/
  enough : ∀ made, x = .ok (some made) → (∀ r ∈ made, Untagged t.nameOf r) →
    (∃ r ∈ made, r.isOk = true) → status = 0

/-- What the status says follows from when it is 0. -/
theorem StatusSays.of_eq_zero_iff {part : List (Exchange outside)}
    {x : Except Fault (Option (List (PodResult t.Made)))} {status : Nat}
    (hchecked : t.selected.Checked) (hends : (results env t).Ends part x) (hle : status ≤ 1)
    (hzero : status = 0 ↔ ∃ made, x = .ok (some made) ∧ Shown env t made ∧
      (made = [] ∨ ∃ r ∈ made, r.isOk = true)) : StatusSays env t part x status := by
  have hresults : ∀ made, x = .ok (some made) → ∃ pods, ResultsOf env t part pods made := by
    intro made hx
    rw [hx] at hends
    exact resultsOf_ends hchecked hends
  refine ⟨hle, hzero, hresults, fun h => ?_, fun name hname => ?_, fun made hx hplain hok => ?_⟩
  · obtain ⟨made, hx, -, hmade⟩ := hzero.mp h
    obtain ⟨pods, hof⟩ := hresults made hx
    refine ⟨pods, hof.selected, ?_⟩
    rcases hmade with hnil | ⟨r, hr, hok⟩
    · have hpods : pods = [] := by
        have hlength := hof.each.length_eq
        rw [hnil] at hlength
        exact List.length_eq_zero_iff.mp hlength
      exact .inl ⟨hpods, hof.idle hpods⟩
    · obtain ⟨pod, hpod, hname, hdone⟩ := hof.exists_done hr hok
      exact .inr ⟨pod, hpod, r, hok, hname, hdone⟩
  · rw [hzero]
    constructor
    · rintro ⟨made, hx, hshown, hmade⟩
      obtain ⟨pods, hof⟩ := hresults made hx
      have hone : made.length = 1 := hof.length_eq_one (by rw [hname]; rfl)
      obtain ⟨r, rfl⟩ := List.length_eq_one_iff.mp hone
      refine ⟨r, hx, hshown, ?_⟩
      simpa using hmade
    · rintro ⟨r, hx, hshown, hok⟩
      exact ⟨[r], hx, hshown, .inr ⟨r, List.mem_cons_self, hok⟩⟩
  · apply hzero.mpr
    exact ⟨made, hx, resultTable_shown hplain _, .inr hok⟩

/-- The status of a run of either command, for every line that passes its checks and whatever the
cluster, the broker and the file system do: 0 exactly if the work came to results, their table can
be shown, and a pod was dealt with or there was none. -/
theorem exit_status {words : List Text} {ending : Ending}
    (ht : (Task.ofWords env words).1 = .ok t)
    (h : (ofTask env (Task.ofWords env words).1).Ends log ending) :
    ∃ part x, (∀ e ∈ part, e ∈ log) ∧ (results env t).Ends part x ∧
      StatusSays env t part x ending.status := by
  have hchecked := Task.checked_ofWords ht
  rw [ht] at h
  obtain ⟨whole, r, hwhole, htask, -, hstatus⟩ := ends_finish h
  obtain ⟨part, x, hpart, hends, hle, hzero⟩ := ends_task hchecked htask
  rw [hstatus]
  exact ⟨part, x, fun e he => hwhole e (hpart e he), hends,
    .of_eq_zero_iff hchecked hends hle hzero⟩

/-! ## Two runs -/

/-- An environment that names a broker. -/
def directEnvironment : Environment := [("FLOWPOLICY_BROKER_URL", "http://b:1/")]

theorem ofWords_gen (rest : List Text) : (Task.ofWords directEnvironment ("gen" :: rest)).1 =
    Task.ofGroupWords (.ok directSettings) rest := by
  have hgroup : Task.readGroup Task.programOptions ("gen" :: rest) = .ok ([], "gen", rest) := rfl
  have hload : (Settings.load directEnvironment).map (Task.configure []) = .ok directSettings :=
    ok_of_toOption (by decide +kernel)
  unfold Task.ofWords
  rw [hgroup]
  dsimp only
  rw [hload]
  rfl

/-- A run of the command for profiles in this environment, in front of an outside that stands
still. -/
def runOf (words : List Text) (o : StillOutside) : List (Exchange outside) × Ending :=
  (ofTask directEnvironment (Task.ofWords directEnvironment ("gen" :: "seccomp" :: words)).1).known
    o.answer

/-- The task of making profiles of a selection. -/
def profilesOf (selection : Selection) : Task :=
  .profiles directSettings selection Seccomp.standardAction (.ofText "seccomp-profiles")

theorem ends_runOf (words : List Text) (o : StillOutside) :
    (ofTask directEnvironment
      (Task.ofWords directEnvironment ("gen" :: "seccomp" :: words)).1).Ends
      (runOf words o).1 (runOf words o).2 :=
  Inquiry.ends_known _ _

theorem runOf_eq (words : List Text) (selection : Selection)
    (h : (Task.ofGroupWords (.ok directSettings) ("seccomp" :: words)).toOption =
      some (profilesOf selection)) (o : StillOutside) :
    (Task.ofWords directEnvironment ("gen" :: "seccomp" :: words)).1 = .ok (profilesOf selection) ∧
      runOf words o = (finish directEnvironment (profilesOf selection)).known o.answer := by
  have hwords := (ofWords_gen ("seccomp" :: words)).trans (ok_of_toOption h)
  refine ⟨hwords, ?_⟩
  unfold runOf
  rw [hwords]
  rfl

/-- What results tell: the pod, its file, and whether it was dealt with. -/
def told : Except Fault (Option (List (PodResult α))) → List (Text × Option FilePath × Bool)
  | .ok (some made) => made.map fun r => (r.pod, r.path, r.isOk)
  | _ => []

theorem eq_of_told {x : Except Fault (Option (List (PodResult α)))} {pod : Text}
    {path : Option FilePath} (h : told x = [(pod, path, true)]) : ∃ r : PodResult α,
      x = .ok (some [r]) ∧ r.pod = pod ∧ r.path = path ∧ r.fault = none := by
  unfold told at h
  split at h
  · rename_i made
    obtain ⟨r, rfl, e⟩ := List.map_eq_singleton_iff.mp h
    simp only [Prod.mk.injEq, PodResult.isOk, Option.isNone_iff_eq_none] at e
    exact ⟨r, rfl, e⟩
  · cases h

/-- The task of making a profile of the pod with the name web. -/
def webProfile : Task := profilesOf { pod := some "web", ns := some "a" }

theorem told_webProfile :
    told ((results directEnvironment webProfile).outcome.known
      (recording [] (replyWith ownRow otherRow)).answer).2 =
      [(("web" : Text), some (FilePath.ofText "seccomp-profiles/a-web-seccomp.json"), true)] := by
  decide +kernel

/-- A pod that is named and has recorded calls succeeds, and with it the run. -/
theorem exit_status_recorded :
    (runOf ["web", "-n", "a"] (recording [] (replyWith ownRow otherRow))).2.status = 0 ∧
      ∃ part, ∃ r : PodResult Seccomp.Profile, r.isOk = true ∧
        (results directEnvironment webProfile).Ends part (.ok (some [r])) := by
  obtain ⟨ht, -⟩ := runOf_eq ["web", "-n", "a"] { pod := some "web", ns := some "a" }
    (by decide +kernel) (recording [] (replyWith ownRow otherRow))
  obtain ⟨part, x, hpart, hends, hlaw⟩ :=
    exit_status ht (ends_runOf _ (recording [] (replyWith ownRow otherRow)))
  have hknown := hends.eq_known fun e he => Inquiry.answer_of_mem_known (hpart e he)
  have htold := told_webProfile
  rw [webProfile, hknown] at htold
  obtain ⟨r, rfl, hpod, hpath, hfault⟩ := eq_of_told htold
  have hok : r.isOk = true := by
    rw [PodResult.isOk, hfault]
    rfl
  refine ⟨hlaw.enough _ rfl ?_ ⟨r, List.mem_cons_self, hok⟩, part, r, hok, hends⟩
  intro r' hr'
  obtain rfl := List.mem_singleton.mp hr'
  have hdetail : detail (Task.nameOf _) r' =
      (FilePath.ofText "seccomp-profiles/a-web-seccomp.json").text := by
    rw [detail, hfault, hpath]
    rfl
  rw [Untagged, hpod, hdetail]
  decide

/-- Where no pod runs, a run for profiles ends with the status 0, though there is no pod that it
could have made a profile for. -/
theorem exit_status_noPods :
    (runOf ["-A"] (onlyPods [])).2.status = 0 ∧
      ∀ pods, Selects directEnvironment directSettings { everywhere := true }
        (runOf ["-A"] (onlyPods [])).1 pods → pods = [] := by
  obtain ⟨-, hrun⟩ := runOf_eq ["-A"] { everywhere := true } (by decide +kernel) (onlyPods [])
  rw [hrun]
  refine ⟨by decide +kernel, ?_⟩
  rintro pods ⟨part, hpart, hselected⟩
  obtain ⟨reply, hreply, hgives⟩ := ends_selectPods rfl hselected
  obtain rfl : reply = .ok [] := Inquiry.answer_of_mem_known (hpart _ hreply)
  exact Except.ok.inj (hgives [] rfl)

end Run

end LeastPrivilege
