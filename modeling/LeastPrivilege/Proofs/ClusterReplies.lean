import LeastPrivilege.Proofs.ClusterAccess

/-!
What becomes of the cluster's replies. A reply is an object, the report that there is none, or
another failure; each step of access keeps the three apart (`Reads`), and a search through
namespaces goes on after the second only (`Finds`). The objects are read part by part, whatever is
missing of them (`PodShown`, `ControllerShown`). `access_exact` puts the four steps together.
-/

namespace LeastPrivilege.Cluster

/-! ## Failures -/

/-- The fault that reports the failure of an action. -/
inductive Reports (action : ClusterAction) : ApiFailure → Fault → Prop
  | refused (status : Int) (reason : Text) :
    Reports action (.refused status reason) (.cluster (.refused action reason))
  | unreachable (reason : Text) :
    Reports action (.unreachable reason) (.cluster (.unreachable action reason))

theorem reports_iff {action : ClusterAction} {failure : ApiFailure} {fault : Fault} :
    Reports action failure fault ↔ fault = faultOf action failure := by
  constructor
  · rintro (_ | _)
    · rfl
    · rfl
  · rintro rfl
    cases failure with
    | refused status reason => exact .refused status reason
    | unreachable reason => exact .unreachable reason

/-- What reading one object comes to, by the reply: nothing exactly if there is no such object, a
fault exactly if the request failed in another way, and else what the object shows. -/
structure Reads {α β : Type} (action : ClusterAction) (shows : α → β → Prop)
    (reply : Except ApiFailure α) (x : Except Fault (Option β)) : Prop where
  nothing : x = .ok none ↔ ∃ reason, reply = .error (.refused 404 reason)
  object : ∀ b, x = .ok (some b) ↔ ∃ a, reply = .ok a ∧ shows a b
  fault : ∀ fault, x = .error fault ↔ ∃ failure, reply = .error failure ∧
    (∀ reason, failure ≠ .refused 404 reason) ∧ Reports action failure fault

theorem found_missing {α : Type} (action : ClusterAction) (reason : Text) :
    found (α := α) action (.error (.refused 404 reason)) = .ok none :=
  rfl

theorem found_failed {α : Type} (action : ClusterAction) {failure : ApiFailure}
    (h : ∀ reason, failure ≠ .refused 404 reason) :
    found (α := α) action (.error failure) = .error (faultOf action failure) := by
  cases failure with
  | refused status reason => exact if_neg fun e => h reason (by rw [e]; rfl)
  | unreachable reason => rfl

theorem reads_found {α β : Type} {action : ClusterAction} {shows : α → β → Prop} {f : α → β}
    (hf : ∀ a b, shows a b ↔ b = f a) (reply : Except ApiFailure α) :
    Reads action shows reply ((found action reply).map (Option.map f)) := by
  rcases reply with failure | a
  · by_cases hmissing : ∃ reason, failure = .refused 404 reason
    · obtain ⟨reason, rfl⟩ := hmissing
      rw [found_missing]
      refine ⟨⟨fun _ => ⟨reason, rfl⟩, fun _ => rfl⟩, fun b => ⟨nofun, nofun⟩,
        fun fault => ⟨nofun, ?_⟩⟩
      rintro ⟨_, e, hother, -⟩
      cases e
      exact absurd rfl (hother reason)
    · have hother : ∀ reason, failure ≠ .refused 404 reason := fun reason e => hmissing ⟨reason, e⟩
      rw [found_failed action hother]
      refine ⟨⟨nofun, ?_⟩, fun b => ⟨nofun, nofun⟩, fun fault => ⟨fun e => ?_, ?_⟩⟩
      · rintro ⟨reason, e⟩
        cases e
        exact absurd rfl (hother reason)
      · exact ⟨failure, rfl, hother, reports_iff.mpr (Except.error.inj e).symm⟩
      · rintro ⟨_, e, -, hreports⟩
        cases e
        rw [reports_iff.mp hreports]
        rfl
  · refine ⟨⟨nofun, nofun⟩, fun b => ⟨fun e => ?_, ?_⟩, fun fault => ⟨nofun, nofun⟩⟩
    · exact ⟨a, rfl, (hf a b).mpr (Option.some.inj (Except.ok.inj e)).symm⟩
    · rintro ⟨_, e, hshows⟩
      cases e
      rw [(hf a b).mp hshows]
      rfl

/-! ## Objects -/

/-- The owner that references name: the first that controls the object, or else the first. -/
inductive OwnerNamed : List OwnerEntry → Option OwnerRef → Prop
  | none : OwnerNamed [] none
  | controls {before later : List OwnerEntry} {e : OwnerEntry}
    (hbefore : ∀ b ∈ before, b.controls = false) (h : e.controls = true) :
    OwnerNamed (before ++ e :: later) (some ⟨e.kind, e.name⟩)
  | first {e : OwnerEntry} {later : List OwnerEntry}
    (h : ∀ b ∈ e :: later, b.controls = false) : OwnerNamed (e :: later) (some ⟨e.kind, e.name⟩)

theorem ownerNamed_iff {owners : Option (List OwnerEntry)} {owner : Option OwnerRef} :
    OwnerNamed (owners.getD []) owner ↔ owner = ownerOf owners := by
  unfold ownerOf
  generalize owners.getD [] = entries
  have hnone : (∀ b ∈ entries, b.controls = false) → entries.find? (·.controls) = none := by
    intro h
    rw [List.find?_eq_none]
    intro b hb
    rw [h b hb]
    exact Bool.false_ne_true
  constructor
  · intro h
    cases h with
    | none => rfl
    | @controls before later e hbefore he =>
      have hfind : (before ++ e :: later).find? (·.controls) = some e :=
        List.find?_eq_some_iff_append.mpr ⟨he, before, later, rfl, fun b hb => by
          rw [hbefore b hb]
          rfl⟩
      show _ = Option.map _ (Option.or _ _)
      rw [hfind]
      rfl
    | first h =>
      show _ = Option.map _ (Option.or _ _)
      rw [hnone h]
      rfl
  · rintro rfl
    show OwnerNamed entries (Option.map _ (Option.or _ _))
    cases hfind : entries.find? (·.controls) with
    | some e =>
      obtain ⟨he, before, later, rfl, hbefore⟩ := List.find?_eq_some_iff_append.mp hfind
      refine .controls (fun b hb => ?_) he
      simpa using hbefore b hb
    | none =>
      cases entries with
      | nil => exact .none
      | cons e later =>
        refine .first fun b hb => ?_
        simpa using List.find?_eq_none.mp hfind b hb

/-- A pod shows what the cluster holds of it; what is missing there is empty. -/
structure PodShown (o : PodObject) (p : Pod) : Prop where
  ns : p.ns = o.ns.getD ""
  name : p.name = o.name.getD ""
  ip : p.ip = (o.status.bind (·.ip)).getD ""
  labels : p.labels = o.labels.getD []
  owner : OwnerNamed (o.owners.getD []) p.owner
  hostNetwork : p.hostNetwork = true ↔ ∃ spec, o.spec = some spec ∧ spec.hostNetwork = some true

theorem hostNetwork_podOf {o : PodObject} : (podOf o).hostNetwork = true ↔
    ∃ spec, o.spec = some spec ∧ spec.hostNetwork = some true := by
  unfold podOf
  rcases o.spec with _ | ⟨_ | _ | _⟩ <;> simp

theorem podShown_iff {o : PodObject} {p : Pod} : PodShown o p ↔ p = podOf o := by
  constructor
  · intro ⟨hns, hname, hip, hlabels, howner, hnet⟩
    have howner' := ownerNamed_iff.mp howner
    have hnet' : p.hostNetwork = (podOf o).hostNetwork :=
      Bool.eq_iff_iff.mpr (hnet.trans hostNetwork_podOf.symm)
    obtain ⟨ns, name, ip, labels, owner, hostNetwork⟩ := p
    cases hns
    cases hname
    cases hip
    cases hlabels
    cases howner'
    cases hnet'
    rfl
  · rintro rfl
    exact ⟨rfl, rfl, rfl, rfl, ownerNamed_iff.mpr rfl, hostNetwork_podOf⟩

/-- A controller shows what the cluster holds of it, under the name by which it was asked for. -/
structure ControllerShown (kind ns name : Text) (o : ControllerObject) (c : Controller) : Prop where
  kind : c.kind = kind
  name : c.name = name
  ns : c.ns = ns
  matchLabels : c.matchLabels = ((o.spec.bind (·.selector)).bind (·.matchLabels)).getD []
  owner : OwnerNamed (o.owners.getD []) c.owner

theorem controllerShown_iff {kind ns name : Text} {o : ControllerObject} {c : Controller} :
    ControllerShown kind ns name o c ↔ c = controllerOf kind ns name o := by
  constructor
  · intro ⟨hkind, hname, hns, hlabels, howner⟩
    have howner' := ownerNamed_iff.mp howner
    obtain ⟨_, _, _, labels, owner⟩ := c
    cases hkind
    cases hname
    cases hns
    cases hlabels
    cases howner'
    rfl
  · rintro rfl
    exact ⟨rfl, rfl, rfl, rfl, ownerNamed_iff.mpr rfl⟩

/-- The cluster says that the pod is running. -/
def Running (o : PodObject) : Prop :=
  ∃ status, o.status = some status ∧ status.phase = some ("Running" : Text)

theorem isRunning_iff {o : PodObject} : isRunning o = true ↔ Running o := by
  unfold isRunning Running
  rw [Option.any_eq_true]
  simp only [beq_iff_eq]

/-- The pods of some objects that are running, in order. -/
inductive RunningAmong : List PodObject → List Pod → Prop
  | nil : RunningAmong [] []
  | running {o : PodObject} {p : Pod} {objects : List PodObject} {pods : List Pod} (h : Running o)
    (hshown : PodShown o p) (hrest : RunningAmong objects pods) :
    RunningAmong (o :: objects) (p :: pods)
  | other {o : PodObject} {objects : List PodObject} {pods : List Pod} (h : ¬ Running o)
    (hrest : RunningAmong objects pods) : RunningAmong (o :: objects) pods

theorem runningAmong_running : ∀ objects, RunningAmong objects (running objects)
  | [] => .nil
  | o :: objects => by
    have hrest := runningAmong_running objects
    unfold running
    by_cases h : Running o
    · rw [List.filter_cons_of_pos (isRunning_iff.mpr h)]
      exact .running h (podShown_iff.mpr rfl) hrest
    · rw [List.filter_cons_of_neg fun e => h (isRunning_iff.mp e)]
      exact .other h hrest

theorem runningAmong_iff {objects : List PodObject} {pods : List Pod} :
    RunningAmong objects pods ↔ pods = running objects := by
  constructor
  · intro h
    induction h with
    | nil => rfl
    | running h hshown _ ih =>
      unfold running
      rw [List.filter_cons_of_pos (isRunning_iff.mpr h), podShown_iff.mp hshown, ih]
      rfl
    | other h _ ih =>
      unfold running
      rw [List.filter_cons_of_neg fun e => h (isRunning_iff.mp e), ih]
      rfl
  · rintro rfl
    exact runningAmong_running objects

/-- A list of pods is given for the objects of a reply, and a fault for any failure. -/
theorem lists_running (reply : Except ApiFailure (List PodObject)) :
    (∀ pods, (reply.mapError (faultOf .listPods)).map running = .ok pods ↔
      ∃ objects, reply = .ok objects ∧ RunningAmong objects pods) ∧
    ∀ fault, (reply.mapError (faultOf .listPods)).map running = .error fault ↔
      ∃ failure, reply = .error failure ∧ Reports .listPods failure fault := by
  rcases reply with failure | objects
  · refine ⟨fun pods => ⟨nofun, nofun⟩, fun fault => ⟨fun e => ?_, ?_⟩⟩
    · exact ⟨failure, rfl, reports_iff.mpr (Except.error.inj e).symm⟩
    · rintro ⟨_, e, hreports⟩
      cases e
      rw [reports_iff.mp hreports]
      rfl
  · refine ⟨fun pods => ⟨fun e => ?_, ?_⟩, fun fault => ⟨nofun, nofun⟩⟩
    · exact ⟨objects, rfl, runningAmong_iff.mpr (Except.ok.inj e).symm⟩
    · rintro ⟨_, e, hamong⟩
      cases e
      rw [runningAmong_iff.mp hamong]
      rfl

/-! ## Kinds of controllers -/

theorem ofName?_eq_none_iff {kind : Text} :
    ControllerKind.ofName? kind = none ↔ ∀ k : ControllerKind, k.name ≠ kind := by
  unfold ControllerKind.ofName?
  rw [List.find?_eq_none]
  constructor
  · intro h k e
    have hk : k ∈ ControllerKind.all := by cases k <;> decide
    exact h k hk (beq_iff_eq.mpr e)
  · intro h k _ e
    exact h k (beq_iff_eq.mp e)

theorem name_of_ofName? {kind : Text} {k : ControllerKind}
    (h : ControllerKind.ofName? kind = some k) : k.name = kind := by
  have hname := List.find?_some (p := fun k : ControllerKind => k.name == kind) h
  exact beq_iff_eq.mp hname

/-! ## Searching for a service -/

variable {timeout : Double} {service : Text}

/-- The reply that a service is not in a namespace, with a reason. -/
def notThere (timeout : Double) (service : Text) (missed : Text × Text) : Exchange cluster :=
  ⟨.request timeout (.service missed.1 service), .error (.refused 404 missed.2)⟩

/-- A search through namespaces, reply by reply. -/
inductive Search (timeout : Double) (service : Text) :
    List Text → List (Exchange cluster) → Except Fault (Option Text) → Prop
  | exhausted : Search timeout service [] [] (.ok none)
  | found {ns : Text} {later : List Text} : Search timeout service (ns :: later)
      [⟨.request timeout (.service ns service), .ok ()⟩] (.ok (some ns))
  | failed {ns : Text} {later : List Text} {failure : ApiFailure} {fault : Fault}
    (h : ∀ reason, failure ≠ .refused 404 reason)
    (hreports : Reports (.readObject "service" ns service) failure fault) :
    Search timeout service (ns :: later)
      [⟨.request timeout (.service ns service), .error failure⟩] (.error fault)
  | missed {ns reason : Text} {later : List Text} {log : List (Exchange cluster)}
    {x : Except Fault (Option Text)} (h : Search timeout service later log x) :
    Search timeout service (ns :: later) (notThere timeout service (ns, reason) :: log) x

/-- The step of a search: what one reply comes to. -/
theorem ends_findService_cons {ns : Text} {later : List Text} {log : List (Exchange cluster)}
    {x : Except Fault (Option Text)} (h : (findService timeout service (ns :: later)).Ends log x)
    (hrest : ∀ {log x}, (findService timeout service later).Ends log x →
      Search timeout service later log x) : Search timeout service (ns :: later) log x := by
  obtain ⟨reply, rest, rfl, hreply⟩ := Attempt.ends_put_bind.mp h
  rcases reply with failure | _
  -- The search goes on after a missing service only; any other failure ends it.
  · by_cases hmissing : ∃ reason, failure = .refused 404 reason
    · obtain ⟨reason, rfl⟩ := hmissing
      exact .missed (hrest (Attempt.ends_tell_bind.mp hreply))
    · have hother : ∀ reason, failure ≠ .refused 404 reason := fun reason e => hmissing ⟨reason, e⟩
      have hfound := found_failed (α := Unit) (.readObject "service" ns service) hother
      rcases Attempt.ends_bind.mp hreply with ⟨fault, rfl, hfault⟩ | ⟨_, object, _, rfl, hok, -⟩
      · obtain ⟨rfl, e⟩ := Attempt.ends_ofExcept.mp hfault
        cases e.trans hfound
        exact .failed hother (reports_iff.mpr rfl)
      · cases (Attempt.ends_ofExcept.mp hok).2.trans hfound
  · obtain ⟨rfl, rfl⟩ := Attempt.ends_pure.mp hreply
    exact .found

theorem search_findService : ∀ (names : List Text) {log : List (Exchange cluster)}
    {x : Except Fault (Option Text)}, (findService timeout service names).Ends log x →
      Search timeout service names log x
  | [], log, x, h => by
    obtain ⟨rfl, rfl⟩ := Attempt.ends_pure.mp h
    exact .exhausted
  | _ :: later, _, _, h => ends_findService_cons h fun h => search_findService later h

namespace Search

variable {names later : List Text} {log : List (Exchange cluster)}
  {x y : Except Fault (Option Text)}

/-- The replies decide what a search comes to. -/
theorem unique (h : Search timeout service names log x) (h' : Search timeout service names log y) :
    x = y := by
  induction h with
  | exhausted =>
    cases h'
    rfl
  | found =>
    cases h'
    rfl
  | failed hother hreports =>
    -- The other search cannot have gone on after this reply.
    cases h' with
    | failed _ hreports' => rw [reports_iff.mp hreports, reports_iff.mp hreports']
    | missed => exact absurd rfl (hother _)
  | missed _ ih =>
    cases h' with
    | failed hother => exact absurd rfl (hother _)
    | missed h' => exact ih h'

/-- A search goes on after the namespaces where the service is not. -/
theorem after (h : Search timeout service later log x) : ∀ missed : List (Text × Text),
    Search timeout service (missed.map (·.1) ++ later)
      (missed.map (notThere timeout service) ++ log) x
  | [] => h
  | _ :: rest => .missed (after h rest)

end Search

/-- What a search for a service comes to: the first namespace in which it is, nothing exactly if it
is in none of them, and a fault exactly if a request failed in another way before it was found. No
namespace is asked about after the one that decides. -/
structure Finds (timeout : Double) (service : Text) (names : List Text)
    (log : List (Exchange cluster)) (x : Except Fault (Option Text)) : Prop where
  found : ∀ ns, x = .ok (some ns) ↔ ∃ (missed : List (Text × Text)) (later : List Text),
    names = missed.map (·.1) ++ ns :: later ∧ log = missed.map (notThere timeout service) ++
      [⟨.request timeout (.service ns service), .ok ()⟩]
  nothing : x = .ok none ↔ ∃ missed : List (Text × Text),
    names = missed.map (·.1) ∧ log = missed.map (notThere timeout service)
  fault : ∀ fault, x = .error fault ↔ ∃ (missed : List (Text × Text)) (ns : Text)
    (later : List Text) (failure : ApiFailure), names = missed.map (·.1) ++ ns :: later ∧
      log = missed.map (notThere timeout service) ++
        [⟨.request timeout (.service ns service), .error failure⟩] ∧
      (∀ reason, failure ≠ .refused 404 reason) ∧
      Reports (.readObject "service" ns service) failure fault

/-- Which of the ways a search went. -/
theorem Search.finds {names : List Text} {log : List (Exchange cluster)}
    {x : Except Fault (Option Text)} (h : Search timeout service names log x) :
    Finds timeout service names log x := by
  refine ⟨fun ns => ⟨fun e => ?_, ?_⟩, ⟨fun e => ?_, ?_⟩, fun fault => ⟨fun e => ?_, ?_⟩⟩
  · induction h with
    | exhausted => cases e
    | failed => cases e
    | @found ns later =>
      cases e
      exact ⟨[], later, rfl, rfl⟩
    | @missed ns reason later log x _ ih =>
      obtain ⟨missed, later, rfl, rfl⟩ := ih e
      exact ⟨(ns, reason) :: missed, later, rfl, rfl⟩
  · rintro ⟨missed, later, rfl, rfl⟩
    exact h.unique (Search.found.after missed)
  · induction h with
    | exhausted => exact ⟨[], rfl, rfl⟩
    | found => cases e
    | failed => cases e
    | @missed ns reason later log x _ ih =>
      obtain ⟨missed, rfl, rfl⟩ := ih e
      exact ⟨(ns, reason) :: missed, rfl, rfl⟩
  · rintro ⟨missed, rfl, rfl⟩
    refine h.unique ?_
    have hafter := (@Search.exhausted timeout service).after missed
    rwa [List.append_nil, List.append_nil] at hafter
  · induction h with
    | exhausted => cases e
    | found => cases e
    | @failed ns later failure fault' hother hreports =>
      cases e
      exact ⟨[], ns, later, failure, rfl, rfl, hother, hreports⟩
    | @missed ns reason later log x _ ih =>
      obtain ⟨missed, at', later, failure, rfl, rfl, hrest⟩ := ih e
      exact ⟨(ns, reason) :: missed, at', later, failure, rfl, rfl, hrest⟩
  · rintro ⟨missed, ns, later, failure, rfl, rfl, hother, hreports⟩
    exact h.unique ((Search.failed hother hreports).after missed)

/-! ## All of access -/

/-- **Access to the cluster keeps a missing object apart from every other failure.** -/
theorem access_exact (timeout : Double) :
    (∀ ns name log x, (getPod timeout ns name).Ends log x → ∃ reply : Except ApiFailure PodObject,
      log = [⟨.request timeout (.pod ns name), reply⟩] ∧
      Reads (.readObject "pod" ns name) PodShown reply x) ∧
    (∀ ns kind name log x, (getController timeout ns kind name).Ends log x →
      ((∀ k : ControllerKind, k.name ≠ kind) ∧ log = [] ∧
        x = .error (.cluster (.unknownOwnerKind kind))) ∨
      ∃ (k : ControllerKind) (reply : Except ApiFailure ControllerObject), k.name = kind ∧
        log = [⟨.request timeout (.controller k ns name), reply⟩] ∧
        Reads (.readObject kind ns name) (ControllerShown kind ns name) reply x) ∧
    (∀ ns log x, (listRunningPods timeout ns).Ends log x →
      ∃ reply : Except ApiFailure (List PodObject), log = [⟨.request timeout (.pods ns), reply⟩] ∧
        (∀ pods, x = .ok pods ↔ ∃ objects, reply = .ok objects ∧ RunningAmong objects pods) ∧
        ∀ fault, x = .error fault ↔ ∃ failure, reply = .error failure ∧
          Reports .listPods failure fault) ∧
    ∀ service names log x, (findService timeout service names).Ends log x →
      Finds timeout service names log x := by
  refine ⟨fun ns name log x h => ?_, fun ns kind name log x h => ?_, fun ns log x h => ?_,
    fun service names log x h => (search_findService names h).finds⟩
  · obtain ⟨reply, rfl, rfl⟩ := ends_getPod h
    exact ⟨reply, rfl, reads_found @podShown_iff reply⟩
  · rcases ends_getController h with ⟨hkind, rfl, rfl⟩ | ⟨k, reply, hkind, rfl, rfl⟩
    · exact .inl ⟨ofName?_eq_none_iff.mp hkind, rfl, rfl⟩
    · exact .inr ⟨k, reply, name_of_ofName? hkind, rfl,
        reads_found (@controllerShown_iff kind ns name) reply⟩
  · obtain ⟨reply, rfl, rfl⟩ := ends_listRunningPods h
    exact ⟨reply, rfl, lists_running reply⟩

/-- The replies of a search that passes over one namespace, and fails in the next. -/
def outage : List (Exchange cluster) :=
  [notThere (.ofNat 10) "broker" ("ops", "Not Found"),
    ⟨.request (.ofNat 10) (.service "default" "broker"), .error (.refused 503 "Unavailable")⟩]

theorem access_exact_outage :
    (findService (.ofNat 10) "broker" ["ops", "default", "prod"]).Ends outage
      (.error (.cluster (.refused (.readObject "service" "default" "broker") "Unavailable"))) ∧
    Finds (.ofNat 10) "broker" ["ops", "default", "prod"] outage
      (.error (.cluster (.refused (.readObject "service" "default" "broker") "Unavailable"))) ∧
    (getController (.ofNat 10) "shop" "CronJob" "nightly").Ends []
      (.error (.cluster (.unknownOwnerKind "CronJob"))) ∧
    ∀ k : ControllerKind, k.name ≠ "CronJob" := by
  have hsearch : (findService (.ofNat 10) "broker" ["ops", "default", "prod"]).Ends outage
      (.error (.cluster (.refused (.readObject "service" "default" "broker") "Unavailable"))) :=
    .ask _ (.note (.ask _ (.done _)))
  have hunknown : (getController (.ofNat 10) "shop" "CronJob" "nightly").Ends []
      (.error (.cluster (.unknownOwnerKind "CronJob"))) := .done _
  obtain ⟨-, hcontroller, -, hfinds⟩ := access_exact (.ofNat 10)
  refine ⟨hsearch, hfinds _ _ _ _ hsearch, hunknown, ?_⟩
  rcases hcontroller _ _ _ _ _ hunknown with ⟨hkind, -⟩ | ⟨_, _, -, e, -⟩
  · exact hkind
  · cases e

end LeastPrivilege.Cluster
