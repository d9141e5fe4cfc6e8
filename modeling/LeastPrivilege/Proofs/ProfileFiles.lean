import LeastPrivilege.Proofs.EveryNamespace

/-!
The files that a run for profiles writes. Only the work on the selected pods writes anything, and
what it writes for a pod is the profile of the first row that the broker gave under the pod's name.
That row's namespace is not compared with the pod's, so the file belongs to the pod just as far as
the row does (`Run.profiles_firstRow`).
-/

namespace LeastPrivilege

/-! ## Profiles of rows -/

theorem mem_insertName {name other : Text} {names : List Text} :
    other ∈ insertName name names ↔ other = name ∨ other ∈ names := by
  induction names with
  | nil => simp [insertName]
  | cons n rest ih =>
    unfold insertName
    split
    · rw [List.mem_cons]
    · split
      · rename_i hn
        subst hn
        rw [List.mem_cons]
        tauto
      · rw [List.mem_cons, ih, List.mem_cons]
        tauto

theorem mem_mergeNames {name : Text} {lists : List (List Text)} :
    name ∈ mergeNames lists ↔ ∃ names ∈ lists, name ∈ names := by
  have insertAll : ∀ names : List Text, name ∈ names.foldr insertName [] ↔ name ∈ names := by
    intro names
    induction names with
    | nil => exact Iff.rfl
    | cons n rest ih => rw [List.foldr_cons, mem_insertName, ih, List.mem_cons]
  rw [mergeNames, insertAll, List.mem_flatten]

namespace Seccomp.Profile

/-- The profile lets a call through. -/
def Allows (p : Profile) (name : Text) : Prop :=
  ∃ rule ∈ p.rules, rule.action = allowAction ∧ name ∈ rule.names

/-- A profile of recorded calls allows these and no others. -/
theorem allows_ofRecorded {calls : RecordedCalls} {action name : Text} :
    (ofRecorded calls action).Allows name ↔ name ∈ calls.names := by
  have hmerged : name ∈ mergeNames [calls.names] ↔ name ∈ calls.names := by
    simp [mem_mergeNames]
  rw [← hmerged]
  unfold Allows ofRecorded
  dsimp only
  split
  · rename_i hempty
    rw [List.isEmpty_iff.mp hempty]
    simp
  · simp

/-- Some row of the namespace, or of none, has all calls that the profile allows. -/
def OwnTo (p : Profile) (ns : Text) (rows : List Value) : Prop :=
  ∃ row ∈ rows, ∃ calls, RecordedCalls.ofRow row = .ok calls ∧ (calls.ns = [] ∨ calls.ns = ns) ∧
    ∀ name, p.Allows name → name ∈ calls.names

theorem ownTo_ofRecorded {calls : RecordedCalls} {action ns : Text} {rows : List Value} :
    (ofRecorded calls action).OwnTo ns rows ↔ ∃ row ∈ rows, ∃ other,
      RecordedCalls.ofRow row = .ok other ∧ (other.ns = [] ∨ other.ns = ns) ∧
      calls.names ⊆ other.names := by
  unfold OwnTo
  simp only [allows_ofRecorded]
  rfl

end Seccomp.Profile

/-! ## Writing -/

/-- The question is no request to write a file. -/
def OutletQuestion.WritesNot : OutletQuestion → Prop
  | write .. => False
  | _ => True

namespace Outlet

theorem makeDirectory_writesNot (path : FilePath) :
    (makeDirectory path).AsksOnly OutletQuestion.WritesNot := by
  refine (Attempt.AsksOnly.ofExcept _).bind fun _ => ?_
  have asked : Attempt.AsksOnly (I := outlet) OutletQuestion.WritesNot
      (Attempt.ofInquiry (Inquiry.put (I := outlet) (.makeDirectory path))) :=
    Attempt.AsksOnly.put trivial
  refine asked.bind fun made => ?_
  cases made with
  | ok u => exact Attempt.AsksOnly.pure' _
  | error cause => exact Attempt.AsksOnly.pure' _

theorem acceptExisting_writesNot (path : FilePath) (cause : FileCause) :
    (acceptExisting path cause).AsksOnly OutletQuestion.WritesNot := by
  have asked : (isDirectory path).AsksOnly OutletQuestion.WritesNot := Attempt.AsksOnly.put trivial
  refine asked.bind fun there => ?_
  cases there with
  | true => exact Attempt.AsksOnly.pure' _
  | false => exact Attempt.AsksOnly.throw' _

theorem makeIn_writesNot (path : FilePath) :
    (makeIn path).AsksOnly OutletQuestion.WritesNot := by
  refine (makeDirectory_writesNot path).bind fun made => ?_
  cases made with
  | none => exact Attempt.AsksOnly.pure' _
  | some cause =>
    cases cause with
    | missing => exact Attempt.AsksOnly.throw' _
    | _ => exact acceptExisting_writesNot path _

theorem makeWithParents_writesNot (root : Text) : ∀ names : List Text,
    (makeWithParents root names).AsksOnly OutletQuestion.WritesNot
  | [] => makeIn_writesNot _
  | name :: above => by
    refine (makeDirectory_writesNot _).bind fun made => ?_
    cases made with
    | none => exact Attempt.AsksOnly.pure' _
    | some cause =>
      cases cause with
      | missing => exact (makeWithParents_writesNot root above).bind fun _ => makeIn_writesNot _
      | _ => exact acceptExisting_writesNot _ _

end Outlet

/-- Writing a file asks for that file only. -/
theorem OutputDirectory.write_asks (d : OutputDirectory) (ns pod kind ext text : Text) :
    (d.write ns pod kind ext text).AsksOnly
      fun q => q = OutletQuestion.write (d.pathFor ns pod kind ext) text := by
  have asked : Attempt.AsksOnly (fun q => q = OutletQuestion.write (d.pathFor ns pod kind ext) text)
      (Attempt.ofInquiry (Inquiry.put (I := outlet) (.write (d.pathFor ns pod kind ext) text))) :=
    Attempt.AsksOnly.put rfl
  have written : (Outlet.write (d.pathFor ns pod kind ext) text).AsksOnly
      fun q => q = OutletQuestion.write (d.pathFor ns pod kind ext) text := by
    refine (Attempt.AsksOnly.ofExcept _).bind fun _ => asked.bind fun answer => ?_
    cases answer with
    | ok u => exact Attempt.AsksOnly.pure' _
    | error cause => exact Attempt.AsksOnly.throw' _
  refine written.bind fun _ => Attempt.AsksOnly.of_nil fun _ _ h => ?_
  exact (Attempt.ends_tell_pure.mp h).1

namespace Run

open Session

variable {env : Environment} {s : Settings} {selection : Selection} {log : List (Exchange outside)}

/-- The question to the outside is no request to write a file. -/
def WritesNot : outside.Question → Prop
  | .inr (.inr q) => q.WritesNot
  | _ => True

theorem ofCluster_writesNot {α : Type} (x : Attempt cluster α) :
    (ofCluster x).AsksOnly WritesNot := by
  intro log r h
  obtain ⟨asked, -, rfl⟩ := ends_ofCluster.mp h
  intro e he
  obtain ⟨d, -, rfl⟩ := List.mem_map.mp he
  trivial

theorem ofWeb_writesNot {α : Type} (x : Attempt web α) : (ofWeb x).AsksOnly WritesNot := by
  intro log r h
  obtain ⟨asked, -, rfl⟩ := ends_ofWeb.mp h
  intro e he
  obtain ⟨d, -, rfl⟩ := List.mem_map.mp he
  trivial

theorem ofOutlet_writesNot {α : Type} {x : Attempt outlet α}
    (hx : x.AsksOnly OutletQuestion.WritesNot) : (ofOutlet x).AsksOnly WritesNot := by
  intro log r h
  obtain ⟨asked, hasked, rfl⟩ := ends_ofOutlet.mp h
  intro e he
  obtain ⟨d, hd, rfl⟩ := List.mem_map.mp he
  exact hx _ _ hasked d hd

theorem sayLines_writesNot : ∀ lines : List Text, (lines.forM say).AsksOnly WritesNot
  | [] => Attempt.AsksOnly.pure' ()
  | line :: rest => by
    have said : (Outlet.say line).AsksOnly OutletQuestion.WritesNot := Attempt.AsksOnly.put trivial
    exact (ofOutlet_writesNot said).bind fun _ => sayLines_writesNot rest

theorem sayShown_writesNot (lines : Except Fault (List Text)) :
    (sayShown lines).AsksOnly WritesNot :=
  (Attempt.AsksOnly.ofExcept lines).bind sayLines_writesNot

theorem sayResults_writesNot {α : Type} (width : Nat) (title : Text) (nameOf : α → Text)
    (results : List (PodResult α)) :
    (sayResults width title nameOf results).AsksOnly WritesNot :=
  (sayShown_writesNot _).bind fun _ => sayShown_writesNot _

theorem selectPods_writesNot (env : Environment) (s : Settings) (selection : Selection) :
    (selectPods env s selection).AsksOnly WritesNot := by
  unfold selectPods
  split
  · exact ofCluster_writesNot _
  · cases selection.pod with
    | some pod =>
      cases selection.ns with
      | some ns => exact (Attempt.AsksOnly.pure' ns).bind fun _ => Attempt.AsksOnly.pure' _
      | none => exact (ofCluster_writesNot _).bind fun _ => Attempt.AsksOnly.pure' _
    | none =>
      cases selection.ns with
      | some ns => exact (Attempt.AsksOnly.pure' ns).bind fun _ => ofCluster_writesNot _
      | none => exact (ofCluster_writesNot _).bind fun _ => ofCluster_writesNot _

theorem makeDirectory_writesNot (path : FilePath) :
    (makeDirectory path).AsksOnly WritesNot := by
  have prepared : (ofOutlet (OutputDirectory.prepare ⟨path⟩)).AsksOnly WritesNot :=
    ofOutlet_writesNot (Outlet.makeWithParents_writesNot _ _)
  refine prepared.ofOutcome.bind fun made => ?_
  cases made with
  | ok u => exact Attempt.AsksOnly.pure' _
  | error fault => cases fault <;> exact Attempt.AsksOnly.throw' _

/-! ## The work on pods -/

/-- The file that an exchange is about, with its text. -/
def fileOf : Exchange outside → Option (FilePath × Text)
  | ⟨.inr (.inr (.write path text)), _⟩ => some (path, text)
  | _ => none

/-- The files that were written or refused, with their texts. -/
def filesIn (log : List (Exchange outside)) : List (FilePath × Text) :=
  log.filterMap fileOf

theorem filesIn_append (log log' : List (Exchange outside)) :
    filesIn (log ++ log') = filesIn log ++ filesIn log' :=
  List.filterMap_append

theorem fileOf_eq_none {e : Exchange outside} (h : WritesNot e.question) : fileOf e = none := by
  unfold fileOf
  split
  · exact h.elim
  · rfl

theorem filesIn_eq_nil {α : Type} {x : Attempt outside α} {r : Except Fault α}
    (hx : x.AsksOnly WritesNot) (h : x.Ends log r) : filesIn log = [] :=
  List.filterMap_eq_nil_iff.mpr fun e he => fileOf_eq_none (hx _ _ h e he)

/-- After a step that writes nothing, what is written is written by the rest. -/
theorem exists_rest_of_writesNot {α β : Type} {x : Attempt outside α} {f : α → Attempt outside β}
    {r : Except Fault β} (hx : x.AsksOnly WritesNot) (h : (x >>= f).Ends log r)
    {file : FilePath × Text} (hfile : file ∈ filesIn log) : ∃ first a rest, log = first ++ rest ∧
      x.Ends first (.ok a) ∧ (f a).Ends rest r ∧ file ∈ filesIn rest := by
  rcases Attempt.ends_bind.mp h with ⟨_, -, hfirst⟩ | ⟨first, a, rest, rfl, hfirst, hrest⟩
  · rw [filesIn_eq_nil hx hfirst] at hfile
    cases hfile
  · rw [filesIn_append, filesIn_eq_nil hx hfirst, List.nil_append] at hfile
    exact ⟨first, a, rest, rfl, hfirst, hrest, hfile⟩

theorem isOutput_of_fileOf {e : Exchange outside} {file : FilePath × Text}
    (h : fileOf e = some file) : IsOutput e := by
  unfold fileOf at h
  split at h
  · exact ⟨_, rfl⟩
  · cases h

/-- What is written belongs to the part that has all output. -/
theorem mem_filesIn_of_hasOutputOf {part : List (Exchange outside)} (h : HasOutputOf part log)
    {file : FilePath × Text} (hfile : file ∈ filesIn log) : file ∈ filesIn part := by
  obtain ⟨e, he, hof⟩ := List.mem_filterMap.mp hfile
  exact List.mem_filterMap.mpr ⟨e, h.output e he (isOutput_of_fileOf hof), hof⟩

variable {b : Broker} {directory : OutputDirectory} {action : Text} {pod : Pod}

/-- A profile comes from the first row that the broker gave under the name. -/
theorem ends_recordedProfile {name : Text} {profile : Seccomp.Profile}
    (h : (recordedProfile b action name).Ends log (.ok profile)) : ∃ body row rest calls,
      replied b (.calls name) (.response 200 body) ∈ log ∧
      Json.read body = .ok (.list (row :: rest)) ∧ RecordedCalls.ofRow row = .ok calls ∧
      profile = .ofRecorded calls action := by
  obtain ⟨first, found, rest, rfl, hfound, hrest⟩ := h.bind_ok
  cases found with
  | none => cases (Attempt.ends_throw.mp hrest).2
  | some calls =>
    obtain ⟨_, u, _, rfl, -, hdone⟩ := hrest.bind_ok
    obtain ⟨asked, hasked, rfl⟩ := ends_ofWeb.mp hfound
    have hrequest : (b.getResult (.calls name)).Ends asked (.ok (some calls)) := hasked
    rcases Broker.ends_getResult hrequest with ⟨_, -, -, e⟩ | ⟨-, reply, rfl, e⟩
    · cases e
    · obtain ⟨body, row, rows, rfl, hjson, hrow⟩ := Broker.resultOf_calls e.symm
      refine ⟨body, row, rows, calls, ?_, hjson, hrow, Except.ok.inj (Attempt.ends_pure.mp hdone).2⟩
      exact List.mem_append_left _ (List.mem_singleton.mpr rfl)

/-- What the broker gave under the pod's name, of which the file has the profile of the first
row. -/
structure FirstRow (b : Broker) (directory : OutputDirectory) (action : Text)
    (log : List (Exchange outside)) (pod : Pod) (file : FilePath × Text) (rows : List Value)
    (calls : RecordedCalls) : Prop where
  path : file.1 = directory.pathFor pod.ns pod.name "seccomp" "json"
  text : file.2 = (Seccomp.Profile.ofRecorded calls action).text
  reply : ∃ body, replied b (.calls pod.name) (.response 200 body) ∈ log ∧
    Json.read body = .ok (.list rows)
  first : ∃ row rest, rows = row :: rest ∧ RecordedCalls.ofRow row = .ok calls

theorem FirstRow.mono {log' : List (Exchange outside)} {file : FilePath × Text}
    {rows : List Value} {calls : RecordedCalls}
    (h : FirstRow b directory action log pod file rows calls) (hsub : ∀ e ∈ log, e ∈ log') :
    FirstRow b directory action log' pod file rows calls := by
  obtain ⟨body, hreply, hread⟩ := h.reply
  exact ⟨h.path, h.text, ⟨body, hsub _ hreply, hread⟩, h.first⟩

/-- The work on a pod writes the profile of the first row. -/
theorem mem_filesIn_writeProfile {x : Except Fault FilePath}
    (h : (writeProfile b directory action pod).Ends log x) {file : FilePath × Text}
    (hfile : file ∈ filesIn log) : ∃ rows calls,
      FirstRow b directory action log pod file rows calls := by
  have quiet : (recordedProfile b action pod.name).AsksOnly WritesNot := by
    refine (ofWeb_writesNot _).bind fun found => ?_
    cases found with
    | none => exact Attempt.AsksOnly.throw' _
    | some calls =>
      exact (Attempt.AsksOnly.ofExcept _).bind fun _ => Attempt.AsksOnly.pure' _
  obtain ⟨first, profile, rest, rfl, hx, hrest, hfile⟩ := exists_rest_of_writesNot quiet h hfile
  obtain ⟨body, row, rows, calls, hreply, hjson, hrow, rfl⟩ := ends_recordedProfile hx
  obtain ⟨asked, hasked, rfl⟩ := ends_ofOutlet.mp hrest
  -- All that is asked of the outlet is to write this file, so the file is the one in question.
  obtain ⟨e, he, hof⟩ := List.mem_filterMap.mp hfile
  obtain ⟨⟨question, given⟩, hd, rfl⟩ := List.mem_map.mp he
  cases OutputDirectory.write_asks directory _ _ _ _ _ _ _ hasked _ hd
  cases hof
  exact ⟨_, calls, rfl, rfl, ⟨body, List.mem_append_left _ hreply, hjson⟩, row, rows, rfl, hrow⟩

/-- The work on pods writes for each of them, and nothing else. -/
theorem mem_filesIn_makeProfiles : ∀ {pods : List Pod} {log : List (Exchange outside)}
    {x : Except Fault (List (PodResult Seccomp.Profile))},
    (makeProfiles directory action b pods).Ends log x → ∀ {file}, file ∈ filesIn log →
      ∃ pod ∈ pods, ∃ rows calls, FirstRow b directory action log pod file rows calls
  | [], log, x, h, file, hfile => by
    obtain ⟨rfl, -⟩ := Attempt.ends_pure.mp h
    cases hfile
  | pod :: later, log, x, h, file, hfile => by
    obtain ⟨first, outcome, rest, rfl, hx, hrest⟩ := Inquiry.ends_bind.mp h
    obtain ⟨made, hmade, rfl⟩ := Attempt.ends_ofInquiry.mp hx
    -- A fault that is passed on ends the work, and then nothing is asked for the later pods.
    have hlater : rest = [] ∨ ∃ y, (makeProfiles directory action b later).Ends rest y := by
      have after : ∀ result, Attempt.Ends (do
          return result :: (← makeProfiles directory action b later)) rest x →
          ∃ y, (makeProfiles directory action b later).Ends rest y := by
        intro result hafter
        obtain ⟨y, h, -⟩ := hafter.of_bind_pure
        exact ⟨y, h⟩
      cases made with
      | ok path => exact .inr (after _ hrest)
      | error fault =>
        change Attempt.Ends (if fault.isOfOnePod || fault.isValue then _ else _) rest x at hrest
        split at hrest
        · exact .inr (after _ (Attempt.ends_tell_bind.mp hrest))
        · exact .inl (Attempt.ends_throw.mp hrest).1
    rw [filesIn_append, List.mem_append] at hfile
    rcases hfile with hfirst | hrest
    · obtain ⟨rows, calls, hrow⟩ := mem_filesIn_writeProfile hmade hfirst
      exact ⟨pod, List.mem_cons_self, rows, calls, hrow.mono fun e he => List.mem_append_left _ he⟩
    · rcases hlater with rfl | ⟨y, hy⟩
      · cases hrest
      · obtain ⟨other, hother, rows, calls, hrow⟩ := mem_filesIn_makeProfiles hy hrest
        exact ⟨other, List.mem_cons_of_mem pod hother, rows, calls,
          hrow.mono fun e he => List.mem_append_right _ he⟩

/-! ## Whole runs -/

variable {path : FilePath}

theorem eq_of_makeDirectory {d : OutputDirectory} (h : (makeDirectory path).Ends log (.ok d)) :
    d = ⟨path⟩ := by
  obtain ⟨_, made, _, rfl, -, hrest⟩ := h.bind_ok
  cases made with
  | ok u => exact Except.ok.inj (Attempt.ends_pure.mp hrest).2
  | error fault => cases fault <;> cases (Attempt.ends_throw.mp hrest).2

/-- Before the work on the selected pods nothing is written. -/
theorem mem_filesIn_profiles {r : Except Fault (List (PodResult Seccomp.Profile))}
    (h : (profiles env s selection action path).Ends log r) {file : FilePath × Text}
    (hfile : file ∈ filesIn log) : ∃ selecting pods, (∀ e ∈ selecting, e ∈ log) ∧
      (selectPods env s selection).Ends selecting (.ok pods) ∧
      ∃ pod ∈ pods, ∃ rows calls,
        FirstRow (brokerOf s) ⟨path⟩ action log pod file rows calls := by
  obtain ⟨first, _, rest, rfl, -, h, hfile⟩ :=
    exists_rest_of_writesNot (ofCluster_writesNot (Cluster.connect s)) h hfile
  obtain ⟨second, pods, rest, rfl, hselected, h, hfile⟩ :=
    exists_rest_of_writesNot (selectPods_writesNot env s selection) h hfile
  obtain ⟨third, d, rest, rfl, hmade, h, hfile⟩ :=
    exists_rest_of_writesNot (makeDirectory_writesNot path) h hfile
  obtain rfl := eq_of_makeDirectory hmade
  rcases ends_withBroker h with ⟨fault, -, -, hquiet⟩ | ⟨part, hpart, hwork⟩
  · -- The tunnel did not open, so there was no work and no output.
    obtain ⟨e, he, hof⟩ := List.mem_filterMap.mp hfile
    exact absurd (isOutput_of_fileOf hof) (hquiet e he)
  · obtain ⟨pod, hpod, rows, calls, hrow⟩ :=
      mem_filesIn_makeProfiles hwork (mem_filesIn_of_hasOutputOf hpart hfile)
    have hlater : ∀ e ∈ part, e ∈ first ++ (second ++ (third ++ rest)) := fun e he =>
      List.mem_append_right _ (List.mem_append_right _ (List.mem_append_right _ (hpart.mem e he)))
    refine ⟨second, pods, fun e he => ?_, hselected, pod, hpod, rows, calls, hrow.mono hlater⟩
    exact List.mem_append_right _ (List.mem_append_left _ he)

/-- A run that ends with a fault has the status 1, and what is said of it is not written to a
file. -/
theorem ends_endWith {fault : Fault} {ending : Ending}
    (h : (endWith env fault).Ends log ending) : filesIn log = [] ∧ ending.status = 1 := by
  -- The definition is opened by an equation without arguments: between terms with arguments,
  -- comparing the two sides would have the markup rendered.
  obtain ⟨run, hrun⟩ : ∃ run, run = endWith := ⟨_, rfl⟩
  rw [← hrun] at h
  delta endWith at hrun
  rw [hrun] at h
  beta_reduce at h
  split at h
  · obtain ⟨first, said, rest, rfl, hsaid, hdone⟩ := Inquiry.ends_bind.mp h
    obtain ⟨rfl, rfl⟩ := Inquiry.ends_pure.mp hdone
    rw [List.append_nil]
    exact ⟨filesIn_eq_nil (sayLines_writesNot _) hsaid, rfl⟩
  · obtain ⟨rfl, rfl⟩ := Inquiry.ends_pure.mp h
    exact ⟨rfl, rfl⟩

/-- The status of a task that ended: its own, and 1 where it failed. -/
def statusOf : Except Fault Nat → Nat
  | .ok n => n
  | .error _ => 1

@[simp] theorem statusOf_ok (n : Nat) : statusOf (.ok n) = n := rfl

@[simp] theorem statusOf_error (fault : Fault) : statusOf (.error fault) = 1 := rfl

/-- A whole run does its task, has the status of that, and writes nothing after it. -/
theorem ends_finish {t : Task} {ending : Ending} (h : (finish env t).Ends log ending) :
    ∃ part r, (∀ e ∈ part, e ∈ log) ∧ (task env t).Ends part r ∧ filesIn log = filesIn part ∧
      ending.status = statusOf r := by
  obtain ⟨first, r, rest, rfl, hfirst, hrest⟩ := Inquiry.ends_bind.mp h
  refine ⟨first, r, fun e he => List.mem_append_left _ he, hfirst, ?_⟩
  have hquiet : filesIn rest = [] ∧ ending.status = statusOf r := by
    cases r with
    | ok n =>
      obtain ⟨rfl, rfl⟩ := Inquiry.ends_pure.mp hrest
      exact ⟨rfl, rfl⟩
    | error fault =>
      change Inquiry.Ends (if fault.isOperational then _ else _) rest ending at hrest
      split at hrest
      · exact ends_endWith hrest
      · obtain ⟨rfl, rfl⟩ := Inquiry.ends_pure.mp hrest
        exact ⟨rfl, rfl⟩
  rw [filesIn_append, hquiet.1, List.append_nil]
  exact ⟨rfl, hquiet.2⟩

/-- A run for profiles makes them, and writes nothing else. -/
theorem ends_finish_profiles {ending : Ending}
    (h : (finish env (.profiles s selection action path)).Ends log ending) :
    ∃ part r, (∀ e ∈ part, e ∈ log) ∧ (profiles env s selection action path).Ends part r ∧
      filesIn log = filesIn part := by
  obtain ⟨whole, outcome, hwhole, htask, hsame, -⟩ := ends_finish h
  rw [hsame]
  rcases Attempt.ends_bind.mp htask with ⟨_, -, hx⟩ | ⟨part, results, told, rfl, hx, htold⟩
  · exact ⟨whole, _, hwhole, hx, rfl⟩
  · have hsaid : filesIn told = [] := by
      have quiet := (sayResults_writesNot (Console.widthIn env) "Seccomp profiles" (fun _ => [])
        results).bind fun _ => Attempt.AsksOnly.pure' (profileStatus results)
      exact filesIn_eq_nil quiet htold
    rw [filesIn_append, hsaid, List.append_nil]
    exact ⟨part, _, fun e he => hwhole e (List.mem_append_left _ he), hx, rfl⟩

/-- Each file that a run for profiles writes is for a selected pod, and holds the profile of the
first row that the broker gave under the pod's name, whatever the namespace of that row: it allows
the calls of this row and no others. So it is the pod's own, in that a row of the pod's namespace or
of none has all calls that it allows, exactly if such a row has all calls of the first. -/
theorem profiles_firstRow {ending : Ending}
    (h : (finish env (.profiles s selection action path)).Ends log ending)
    {file : FilePath × Text} (hfile : file ∈ filesIn log) :
    ∃ selecting pods, (∀ e ∈ selecting, e ∈ log) ∧
      (selectPods env s selection).Ends selecting (.ok pods) ∧
      ∃ pod ∈ pods, ∃ rows calls, FirstRow (brokerOf s) ⟨path⟩ action log pod file rows calls ∧
        (∀ name, (Seccomp.Profile.ofRecorded calls action).Allows name ↔ name ∈ calls.names) ∧
        (calls.ns = [] ∨ calls.ns = pod.ns →
          (Seccomp.Profile.ofRecorded calls action).OwnTo pod.ns rows) ∧
        ((Seccomp.Profile.ofRecorded calls action).OwnTo pod.ns rows ↔ ∃ row ∈ rows, ∃ other,
          RecordedCalls.ofRow row = .ok other ∧ (other.ns = [] ∨ other.ns = pod.ns) ∧
          calls.names ⊆ other.names) := by
  obtain ⟨part, r, hpart, hprofiles, hsame⟩ := ends_finish_profiles h
  rw [hsame] at hfile
  obtain ⟨selecting, pods, hselecting, hselected, pod, hpod, rows, calls, hrow⟩ :=
    mem_filesIn_profiles hprofiles hfile
  refine ⟨selecting, pods, fun e he => hpart e (hselecting e he), hselected, pod, hpod, rows, calls,
    hrow.mono hpart, fun name => Seccomp.Profile.allows_ofRecorded, fun hns => ?_,
    Seccomp.Profile.ownTo_ofRecorded⟩
  obtain ⟨row, rest, rfl, hcalls⟩ := hrow.first
  exact Seccomp.Profile.ownTo_ofRecorded.mpr
    ⟨row, List.mem_cons_self, calls, hcalls, hns, List.Subset.refl _⟩

/-! ## Namesakes -/

/-- A row of what was recorded for a pod with the name web. -/
structure RecordedRow where
  ns : Text
  names : Text

/-- The row as the broker gives it. -/
def RecordedRow.text (r : RecordedRow) : Text :=
  "\x7b\"pod_name\": \"web\", \"pod_namespace\": \"" ++ r.ns ++ "\", \"syscalls\": \"" ++ r.names
    ++ "\", \"arch\": \"x86_64\"\x7d"

/-- Two rows in one reply. -/
def replyWith (first second : RecordedRow) : Text :=
  "[" ++ first.text ++ ", " ++ second.text ++ "]"

/-- Running pods, and a broker that gives this reply whatever it is asked. -/
def recording (listed : List Listed) (body : Text) : StillOutside where
  cluster := (onlyPods listed).cluster
  web
    | .fetch .. => .response 200 body
    | .close => ()

/-- A run for profiles of these pods, with this broker. -/
def profilesOver (selection : Selection) (listed : List Listed) (body : Text) :
    List (Exchange outside) × Ending :=
  (finish [] (.profiles directSettings selection Seccomp.standardAction
    (.ofText "seccomp-profiles"))).known (recording listed body).answer

/-- The file for a pod. -/
def profileFile (ns name : Text) (calls : RecordedCalls) : FilePath × Text :=
  (OutputDirectory.pathFor ⟨.ofText "seccomp-profiles"⟩ ns name "seccomp" "json",
    (Seccomp.Profile.ofRecorded calls Seccomp.standardAction).text)

theorem ends_profilesOver (selection : Selection) (listed : List Listed) (body : Text) :
    (finish [] (.profiles directSettings selection Seccomp.standardAction
      (.ofText "seccomp-profiles"))).Ends (profilesOver selection listed body).1
      (profilesOver selection listed body).2 :=
  Inquiry.ends_known _ _

/-- The files of the run are those that making profiles by itself writes. -/
theorem filesIn_profilesOver (selection : Selection) (listed : List Listed) (body : Text) :
    filesIn (profilesOver selection listed body).1
      = filesIn ((profiles [] directSettings selection Seccomp.standardAction
        (.ofText "seccomp-profiles")).outcome.known (recording listed body).answer).1 := by
  obtain ⟨part, r, hpart, hprofiles, hsame⟩ :=
    ends_finish_profiles (ends_profilesOver selection listed body)
  have hknown := hprofiles.eq_known fun e he => Inquiry.answer_of_mem_known (hpart e he)
  rw [hsame, hknown]

/-- The calls in the rows of a reply. -/
def callsIn (body : Text) : List (Option RecordedCalls) :=
  match Json.read body with
  | .ok (.list rows) => rows.map fun row => (RecordedCalls.ofRow row).toOption
  | _ => []

theorem callsIn_of_read {body : Text} {rows : List Value} (h : Json.read body = .ok (.list rows)) :
    callsIn body = rows.map fun row => (RecordedCalls.ofRow row).toOption := by
  rw [callsIn, h]

theorem exists_rows {body : Text} (h : callsIn body ≠ []) :
    ∃ rows, Json.read body = .ok (.list rows) := by
  unfold callsIn at h
  split at h
  · rename_i rows hread
    exact ⟨rows, hread⟩
  · exact absurd rfl h

/-- What was recorded for the pod in its own namespace. -/
def ownRow : RecordedRow := ⟨"a", "read"⟩

/-- What was recorded for its namesake. -/
def otherRow : RecordedRow := ⟨"b", "ptrace,read"⟩

/-- The calls of the pod. -/
def ownCalls : RecordedCalls := ⟨"web", "a", ["read"], "x86_64"⟩

/-- The calls of its namesake. -/
def otherCalls : RecordedCalls := ⟨"web", "b", ["ptrace", "read"], "x86_64"⟩

theorem callsIn_ownFirst :
    callsIn (replyWith ownRow otherRow) = [some ownCalls, some otherCalls] := by
  decide +kernel

theorem callsIn_otherFirst :
    callsIn (replyWith otherRow ownRow) = [some otherCalls, some ownCalls] := by
  decide +kernel

/-- Where the pod's own row comes first, the profile in its file is its own. -/
theorem profiles_firstRow_ownFirst :
    ∃ file ∈ filesIn
        (profilesOver { pod := some "web", ns := some "a" } [] (replyWith ownRow otherRow)).1,
      ∃ rows calls, FirstRow (brokerOf directSettings) ⟨.ofText "seccomp-profiles"⟩
        Seccomp.standardAction
        (profilesOver { pod := some "web", ns := some "a" } [] (replyWith ownRow otherRow)).1
        { ns := "a", name := "web" } file rows calls ∧
      (Seccomp.Profile.ofRecorded calls Seccomp.standardAction).OwnTo "a" rows := by
  have hfile : profileFile "a" "web" ownCalls ∈ filesIn
      (profilesOver { pod := some "web", ns := some "a" } [] (replyWith ownRow otherRow)).1 := by
    rw [filesIn_profilesOver]
    decide +kernel
  obtain ⟨selecting, pods, -, hselected, pod, hpod, rows, calls, hrow, -, hown, -⟩ :=
    profiles_firstRow (ends_profilesOver _ _ _) hfile
  obtain rfl : pods = [{ ns := "a", name := "web" }] :=
    Except.ok.inj (Attempt.ends_pure.mp hselected).2
  obtain rfl := List.mem_singleton.mp hpod
  refine ⟨_, hfile, rows, calls, hrow, hown (.inr ?_)⟩
  obtain ⟨body, hreply, hread⟩ := hrow.reply
  cases Inquiry.answer_of_mem_known hreply
  obtain ⟨row, rest, rfl, hcalls⟩ := hrow.first
  have hfirst := (callsIn_of_read hread).symm.trans callsIn_ownFirst
  rw [List.map_cons, hcalls] at hfirst
  obtain rfl : calls = ownCalls := Option.some.inj (List.cons.inj hfirst).1
  rfl

/-- Where the row of a namesake comes first, the pod's file lets through what only the namesake
calls. -/
theorem profiles_otherFirst :
    ∃ rows profile, Json.read (replyWith otherRow ownRow) = .ok (.list rows) ∧
      (OutputDirectory.pathFor ⟨.ofText "seccomp-profiles"⟩ "a" "web" "seccomp" "json",
        Seccomp.Profile.text profile)
        ∈ filesIn (profilesOver { everywhere := true } oneName (replyWith otherRow ownRow)).1 ∧
      profile.Allows "ptrace" ∧ ¬ profile.OwnTo "a" rows := by
  obtain ⟨rows, hread⟩ : ∃ rows, Json.read (replyWith otherRow ownRow) = .ok (.list rows) := by
    refine exists_rows ?_
    rw [callsIn_otherFirst]
    exact List.cons_ne_nil _ _
  refine ⟨rows, .ofRecorded otherCalls Seccomp.standardAction, hread, ?_, ?_, ?_⟩
  · rw [filesIn_profilesOver]
    decide +kernel
  · exact Seccomp.Profile.allows_ofRecorded.mpr List.mem_cons_self
  · intro hown
    obtain ⟨row, hrow, calls, hcalls, hns, hsub⟩ := Seccomp.Profile.ownTo_ofRecorded.mp hown
    have hmem : some calls ∈ callsIn (replyWith otherRow ownRow) := by
      rw [callsIn_of_read hread]
      exact List.mem_map.mpr ⟨row, hrow, by rw [hcalls]; rfl⟩
    rw [callsIn_otherFirst] at hmem
    rcases List.mem_pair.mp hmem with e | e
    · cases e
      exact absurd hns (by decide)
    · cases e
      exact absurd (hsub List.mem_cons_self) (by decide)

end Run

end LeastPrivilege
