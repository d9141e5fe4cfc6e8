import LeastPrivilege.Proofs.PeerLookups

/-!
Owner chains, by their endings. A pod's owner is looked up, and above a ReplicaSet its Deployment;
`Controller.Walk` lists how that can end. A walk gives a controller exactly if it reaches one
(`Controller.Reached`), and fails exactly for one of the reasons of `Controller.Unreached`. Thus
the lookups for the selector of an identity are known, and decide which selector is given and for
what there is none (`Selector.ofIdentity_exact`).
-/

namespace LeastPrivilege

namespace Controller

/-- What the answer to a lookup comes to where the controller must exist. -/
def demanded (ns kind name : Text) (answer : Except Fault (Option Controller)) :
    Except Fault Controller :=
  answer.bind fun
    | some c => .ok c
    | none => .error (.resolution (.missingOwner kind ns name))

theorem ends_get {ns kind name : Text} {log : List (Exchange lookups)}
    {r : Except Fault Controller} (h : (get ns kind name).Ends log r) :
    ∃ answer : Except Fault (Option Controller),
      log = [⟨.controller ns kind name, answer⟩] ∧ r = demanded ns kind name answer := by
  rcases Attempt.ends_bind.mp h with ⟨fault, rfl, hput⟩ | ⟨_, found, rest, rfl, hput, hrest⟩
  · exact ⟨.error fault, Inquiry.ends_put.mp hput, rfl⟩
  · obtain rfl := Inquiry.ends_put.mp hput
    cases found with
    | some c =>
      obtain ⟨rfl, rfl⟩ := Attempt.ends_pure.mp hrest
      exact ⟨.ok (some c), rfl, rfl⟩
    | none =>
      obtain ⟨rfl, rfl⟩ := Attempt.ends_throw.mp hrest
      exact ⟨.ok none, rfl, rfl⟩

/-- The kinds of owners that are looked up. -/
def ownerKinds : List Text :=
  ["ReplicaSet", "StatefulSet", "DaemonSet", "Job"]

/-- The ways in which the lookups for an owner can end. -/
inductive Walk (ns : Text) : OwnerRef → List (Exchange lookups) → Except Fault Controller → Prop
  /-- The owner is of another kind. -/
  | foreign {kind name : Text} (h : kind ∉ ownerKinds) :
    Walk ns ⟨kind, name⟩ [] (.error (.resolution (.unsupportedOwner kind)))
  /-- The owner is looked up, and nothing is above it. -/
  | owner {kind name : Text} (answer : Except Fault (Option Controller)) (h : kind ∈ ownerKinds)
    (hlast : kind = "ReplicaSet" → ∀ rs, answer = .ok (some rs) → rs.owner = none) :
    Walk ns ⟨kind, name⟩ [⟨.controller ns kind name, answer⟩] (demanded ns kind name answer)
  /-- A ReplicaSet is found, and something else than a Deployment is above it. -/
  | foreignAbove {name above key : Text} {rs : Controller} (howner : rs.owner = some ⟨above, key⟩)
    (h : above ≠ "Deployment") : Walk ns ⟨"ReplicaSet", name⟩
      [⟨.controller ns "ReplicaSet" name, .ok (some rs)⟩]
      (.error (.resolution (.unsupportedOwner above)))
  /-- A ReplicaSet is found, and the Deployment above it is looked up. -/
  | above {name key : Text} {rs : Controller} (answer : Except Fault (Option Controller))
    (howner : rs.owner = some ⟨"Deployment", key⟩) : Walk ns ⟨"ReplicaSet", name⟩
      [⟨.controller ns "ReplicaSet" name, .ok (some rs)⟩, ⟨.controller ns "Deployment" key, answer⟩]
      (demanded ns "Deployment" key answer)

theorem ends_ofReplicaSet {ns name : Text} {log : List (Exchange lookups)}
    {r : Except Fault Controller} (h : (ofReplicaSet ns name).Ends log r) :
    Walk ns ⟨"ReplicaSet", name⟩ log r := by
  have hkind : ("ReplicaSet" : Text) ∈ ownerKinds := List.mem_cons_self ..
  rcases Attempt.ends_bind.mp h with ⟨fault, rfl, hget⟩ | ⟨_, rs, rest, rfl, hget, hrest⟩
  · obtain ⟨answer, rfl, hfault⟩ := ends_get hget
    rw [hfault]
    refine .owner answer hkind fun _ rs hanswer => ?_
    rw [hanswer] at hfault
    cases hfault
  · obtain ⟨answer, rfl, hfound⟩ := ends_get hget
    -- The walk went on, so the ReplicaSet was found.
    obtain rfl : answer = .ok (some rs) := by
      cases answer with
      | error fault => cases hfound
      | ok found =>
        cases found with
        | none => cases hfound
        | some c => cases hfound; rfl
    cases howner : rs.owner with
    | none =>
      rw [howner] at hrest
      obtain ⟨rfl, rfl⟩ := Attempt.ends_pure.mp hrest
      refine .owner (.ok (some rs)) hkind fun _ other hother => ?_
      cases hother
      exact howner
    | some above =>
      obtain ⟨kind, key⟩ := above
      rw [howner] at hrest
      change Attempt.Ends (if kind = "Deployment" then _ else _) rest r at hrest
      split at hrest
      · rename_i hdeployment
        subst hdeployment
        obtain ⟨answer, rfl, rfl⟩ := ends_get hrest
        exact .above answer howner
      · rename_i hforeign
        obtain ⟨rfl, rfl⟩ := Attempt.ends_throw.mp hrest
        exact .foreignAbove howner hforeign

theorem ends_ofOwner {ns : Text} {owner : OwnerRef} {log : List (Exchange lookups)}
    {r : Except Fault Controller} (h : (ofOwner ns owner).Ends log r) : Walk ns owner log r := by
  obtain ⟨kind, name⟩ := owner
  unfold ofOwner at h
  split at h
  · rename_i hkind
    obtain rfl : kind = "ReplicaSet" := hkind
    exact ends_ofReplicaSet h
  · rename_i hreplica
    split at h
    · rename_i hdirect
      obtain ⟨answer, rfl, rfl⟩ := ends_get h
      exact .owner answer (List.mem_cons_of_mem _ hdirect) fun e => absurd e hreplica
    · rename_i hdirect
      obtain ⟨rfl, rfl⟩ := Attempt.ends_throw.mp h
      exact .foreign (List.not_mem_cons_of_ne_of_not_mem hreplica hdirect)

/-! ## What an owner comes to -/

/-- The lookups for an owner: its own if it is of a kind that is looked up, and that of the
Deployment above a ReplicaSet, by the name that the ReplicaSet gives. -/
inductive Chain (ns : Text) : OwnerRef → List (Exchange lookups) → Prop
  | none {kind name : Text} (h : kind ∉ ownerKinds) : Chain ns ⟨kind, name⟩ []
  | owner {kind name : Text} (answer : Except Fault (Option Controller)) (h : kind ∈ ownerKinds)
    (hlast : kind = "ReplicaSet" → ∀ rs key, answer = .ok (some rs) →
      rs.owner ≠ some ⟨"Deployment", key⟩) :
    Chain ns ⟨kind, name⟩ [⟨.controller ns kind name, answer⟩]
  | deployment {name key : Text} {rs : Controller} (answer : Except Fault (Option Controller))
    (h : rs.owner = some ⟨"Deployment", key⟩) : Chain ns ⟨"ReplicaSet", name⟩
      [⟨.controller ns "ReplicaSet" name, .ok (some rs)⟩, ⟨.controller ns "Deployment" key, answer⟩]

/-- The controller behind an owner: a Deployment above a ReplicaSet, or the owner itself where
nothing above it counts. -/
inductive Reached (ns : Text) : OwnerRef → List (Exchange lookups) → Controller → Prop
  | direct {kind name : Text} {c : Controller} (h : kind ∈ ownerKinds)
    (hown : kind ≠ "ReplicaSet") : Reached ns ⟨kind, name⟩
      [⟨.controller ns kind name, .ok (some c)⟩] c
  | replicaSet {name : Text} {rs : Controller} (h : rs.owner = none) :
    Reached ns ⟨"ReplicaSet", name⟩ [⟨.controller ns "ReplicaSet" name, .ok (some rs)⟩] rs
  | deployment {name key : Text} {rs c : Controller} (h : rs.owner = some ⟨"Deployment", key⟩) :
    Reached ns ⟨"ReplicaSet", name⟩ [⟨.controller ns "ReplicaSet" name, .ok (some rs)⟩,
      ⟨.controller ns "Deployment" key, .ok (some c)⟩] c

/-- The reasons for which there is no controller behind an owner. -/
inductive Unreached (ns : Text) : OwnerRef → List (Exchange lookups) → Fault → Prop
  | foreign {kind name : Text} (h : kind ∉ ownerKinds) :
    Unreached ns ⟨kind, name⟩ [] (.resolution (.unsupportedOwner kind))
  | foreignAbove {name above key : Text} {rs : Controller} (howner : rs.owner = some ⟨above, key⟩)
    (h : above ≠ "Deployment") : Unreached ns ⟨"ReplicaSet", name⟩
      [⟨.controller ns "ReplicaSet" name, .ok (some rs)⟩]
      (.resolution (.unsupportedOwner above))
  | missing {owner : OwnerRef} {log : List (Exchange lookups)} {kind name : Text}
    (h : ⟨.controller ns kind name, .ok none⟩ ∈ log) :
    Unreached ns owner log (.resolution (.missingOwner kind ns name))
  | raised {owner : OwnerRef} {log : List (Exchange lookups)} {e : Exchange lookups} {fault : Fault}
    (he : e ∈ log) (h : e.fault? = some fault) : Unreached ns owner log fault

variable {ns kind name : Text} {owner : OwnerRef} {log : List (Exchange lookups)}

theorem demanded_ok_iff {answer : Except Fault (Option Controller)} {c : Controller} :
    demanded ns kind name answer = .ok c ↔ answer = .ok (some c) := by
  rcases answer with fault | _ | found
  · exact ⟨nofun, nofun⟩
  · exact ⟨nofun, nofun⟩
  · constructor
    · intro h
      cases h
      rfl
    · intro h
      cases h
      rfl

theorem demanded_error_iff {answer : Except Fault (Option Controller)} {fault : Fault} :
    demanded ns kind name answer = .error fault ↔
      answer = .ok none ∧ fault = .resolution (.missingOwner kind ns name) ∨
      answer = .error fault := by
  rcases answer with other | _ | found
  · constructor
    · intro h
      cases h
      exact .inr rfl
    · rintro (⟨h, -⟩ | h)
      · cases h
      · cases h
        rfl
  · constructor
    · intro h
      cases h
      exact .inl ⟨rfl, rfl⟩
    · rintro (⟨-, rfl⟩ | h)
      · rfl
      · cases h
  · exact ⟨nofun, by rintro (⟨h, -⟩ | h) <;> cases h⟩

theorem Walk.chain {x : Except Fault Controller} (h : Walk ns owner log x) :
    Chain ns owner log := by
  cases h with
  | foreign h => exact .none h
  | owner answer h hlast =>
    refine .owner answer h fun hkind rs key hanswer howner => ?_
    rw [hlast hkind rs hanswer] at howner
    cases howner
  | foreignAbove howner h =>
    refine .owner _ (List.mem_cons_self ..) fun _ rs key hanswer hdeployment => ?_
    cases hanswer
    rw [howner] at hdeployment
    cases hdeployment
    exact h rfl
  | above answer howner => exact .deployment answer howner

/-- A lookup for an owner gives a controller exactly if the controller behind it is reached. -/
theorem Walk.ok_iff {x : Except Fault Controller} (h : Walk ns owner log x) (c : Controller) :
    x = .ok c ↔ Reached ns owner log c := by
  cases h with
  | foreign h => exact ⟨nofun, nofun⟩
  | @owner kind name answer hkind hlast =>
    rw [demanded_ok_iff]
    constructor
    · rintro rfl
      by_cases hreplica : kind = "ReplicaSet"
      · subst hreplica
        exact .replicaSet (hlast rfl c rfl)
      · exact .direct hkind hreplica
    · intro h
      cases h with
      | direct => rfl
      | replicaSet => rfl
  | @foreignAbove name above key rs howner h =>
    refine ⟨nofun, fun h' => ?_⟩
    cases h' with
    | direct _ hother => exact absurd rfl hother
    | replicaSet hnone => cases hnone.symm.trans howner
  | @above name key rs answer howner =>
    rw [demanded_ok_iff]
    constructor
    · rintro rfl
      exact .deployment howner
    · intro h
      cases h
      rfl

/-- A lookup for an owner fails exactly for one of the reasons. -/
theorem Walk.error_iff {x : Except Fault Controller} (h : Walk ns owner log x) (fault : Fault) :
    x = .error fault ↔ Unreached ns owner log fault := by
  cases h with
  | @foreign kind name h =>
    constructor
    · intro e
      cases e
      exact .foreign h
    · intro h'
      cases h' with
      | foreign => rfl
      | missing hmem => cases hmem
      | raised hmem => cases hmem
  | @owner kind name answer hkind hlast =>
    rw [demanded_error_iff]
    constructor
    · rintro (⟨rfl, rfl⟩ | rfl)
      · exact .missing (List.mem_singleton.mpr rfl)
      · exact .raised (List.mem_singleton.mpr rfl) rfl
    · intro h'
      cases h' with
      | foreignAbove howner =>
        -- Nothing is above the last owner of a walk.
        cases (hlast rfl _ rfl).symm.trans howner
      | missing hmem =>
        cases List.mem_singleton.mp hmem
        exact .inl ⟨rfl, rfl⟩
      | raised hmem hfault =>
        cases List.mem_singleton.mp hmem
        exact .inr (faultOf?_eq_some_iff.mp hfault)
  | @foreignAbove name above key rs howner h =>
    constructor
    · intro e
      cases e
      exact .foreignAbove howner h
    · intro h'
      cases h' with
      | foreignAbove howner' h' =>
        cases howner.symm.trans howner'
        rfl
      | missing hmem => cases List.mem_singleton.mp hmem
      | raised hmem hfault =>
        cases List.mem_singleton.mp hmem
        cases hfault
  | @above name key rs answer howner =>
    rw [demanded_error_iff]
    constructor
    · rintro (⟨rfl, rfl⟩ | rfl)
      · exact .missing (List.mem_cons_of_mem _ (List.mem_singleton.mpr rfl))
      · exact .raised (List.mem_cons_of_mem _ (List.mem_singleton.mpr rfl)) rfl
    · intro h'
      cases h' with
      | missing hmem =>
        rcases List.mem_cons.mp hmem with e | hmem
        · cases e
        · cases List.mem_singleton.mp hmem
          exact .inl ⟨rfl, rfl⟩
      | raised hmem hfault =>
        rcases List.mem_cons.mp hmem with rfl | hmem
        · cases hfault
        · cases List.mem_singleton.mp hmem
          exact .inr (faultOf?_eq_some_iff.mp hfault)

end Controller

namespace Selector

variable {log : List (Exchange lookups)}

/-- The lookups for the selector of an identity. -/
inductive Chain : Identity → List (Exchange lookups) → Prop
  | service (s : Service) : Chain (.service s) []
  | unowned {pod : Pod} (h : pod.owner = none) : Chain (.pod pod) []
  | owned {pod : Pod} {owner : OwnerRef} {log : List (Exchange lookups)}
    (howner : pod.owner = some owner) (h : Controller.Chain pod.ns owner log) :
    Chain (.pod pod) log

/-- The selector that the lookups give: a pod's is in its own namespace, and has the labels of the
controller behind it, or its own where nothing owns it. -/
inductive Given : Identity → List (Exchange lookups) → Selector → Prop
  | service {s : Service} (h : s.selector ≠ []) : Given (.service s) [] ⟨s.selector, s.ns⟩
  | unowned {pod : Pod} (h : pod.owner = none) : Given (.pod pod) [] ⟨pod.labels, pod.ns⟩
  | owned {pod : Pod} {owner : OwnerRef} {log : List (Exchange lookups)} {c : Controller}
    (howner : pod.owner = some owner) (hreached : Controller.Reached pod.ns owner log c)
    (h : c.matchLabels ≠ []) : Given (.pod pod) log ⟨c.matchLabels, pod.ns⟩

/-- The faults for which there is no selector. -/
inductive Refused : Identity → List (Exchange lookups) → Fault → Prop
  | bareService {s : Service} (h : s.selector = []) :
    Refused (.service s) [] (.resolution (.serviceWithoutSelector s.ns s.name))
  | unreached {pod : Pod} {owner : OwnerRef} {log : List (Exchange lookups)} {fault : Fault}
    (howner : pod.owner = some owner) (h : Controller.Unreached pod.ns owner log fault) :
    Refused (.pod pod) log fault
  | bareController {pod : Pod} {owner : OwnerRef} {log : List (Exchange lookups)} {c : Controller}
    (howner : pod.owner = some owner) (hreached : Controller.Reached pod.ns owner log c)
    (h : c.matchLabels = []) :
    Refused (.pod pod) log (.resolution (.controllerWithoutLabels c.kind pod.ns c.name))

/-- The lookups for an identity are those of its chain, and the result is what they give. -/
structure Exact (identity : Identity) (log : List (Exchange lookups)) (r : Except Fault Selector) :
    Prop where
  chain : Chain identity log
  ok_iff : ∀ s, r = .ok s ↔ Given identity log s
  error_iff : ∀ fault, r = .error fault ↔ Refused identity log fault

/-- The selector of a pod through the controller behind it. -/
def through (pod : Pod) (c : Controller) : Except Fault Selector :=
  if c.matchLabels = [] then
    .error (.resolution (.controllerWithoutLabels c.kind pod.ns c.name))
  else .ok ⟨c.matchLabels, pod.ns⟩

theorem through_ok_iff {pod : Pod} {c : Controller} {s : Selector} :
    through pod c = .ok s ↔ c.matchLabels ≠ [] ∧ s = ⟨c.matchLabels, pod.ns⟩ := by
  unfold through
  split
  · rename_i hempty
    exact ⟨nofun, fun ⟨h, _⟩ => absurd hempty h⟩
  · rename_i hlabels
    exact ⟨fun h => ⟨hlabels, (Except.ok.inj h).symm⟩, fun ⟨_, h⟩ => by rw [h]⟩

theorem through_error_iff {pod : Pod} {c : Controller} {fault : Fault} :
    through pod c = .error fault ↔ c.matchLabels = [] ∧
      fault = .resolution (.controllerWithoutLabels c.kind pod.ns c.name) := by
  unfold through
  split
  · rename_i hempty
    exact ⟨fun h => ⟨hempty, (Except.error.inj h).symm⟩, fun ⟨_, h⟩ => by rw [h]⟩
  · rename_i hlabels
    exact ⟨nofun, fun ⟨h, _⟩ => absurd h hlabels⟩

/-- A pod with an owner has the selector of the controller behind it. -/
theorem ends_ofPod_owned {pod : Pod} {owner : OwnerRef} (howner : pod.owner = some owner)
    {r : Except Fault Selector} (h : (ofPod pod).Ends log r) :
    ∃ x : Except Fault Controller,
      (Controller.ofOwner pod.ns owner).Ends log x ∧ r = x.bind (through pod) := by
  unfold ofPod at h
  rw [howner] at h
  rcases Attempt.ends_bind.mp h with ⟨fault, rfl, hfault⟩ | ⟨_, c, rest, rfl, hc, hrest⟩
  · exact ⟨_, hfault, rfl⟩
  · suffices hend : rest = [] ∧ r = through pod c by
      obtain ⟨rfl, rfl⟩ := hend
      exact ⟨_, by rwa [List.append_nil], rfl⟩
    change Attempt.Ends (if c.matchLabels.isEmpty then _ else _) rest r at hrest
    unfold through
    split at hrest
    · rename_i hempty
      rw [if_pos (List.isEmpty_iff.mp hempty)]
      exact Attempt.ends_throw.mp hrest
    · rename_i hlabels
      rw [if_neg fun hnil => hlabels (List.isEmpty_iff.mpr hnil)]
      exact Attempt.ends_tell_pure.mp hrest

/-- The selector of a pod with an owner is that of the controller which is reached. -/
theorem ofPod_owned_exact {pod : Pod} {owner : OwnerRef} (howner : pod.owner = some owner)
    {r : Except Fault Selector} (h : (ofPod pod).Ends log r) : Exact (.pod pod) log r := by
  obtain ⟨x, hx, rfl⟩ := ends_ofPod_owned howner h
  have hwalk := Controller.ends_ofOwner hx
  refine ⟨.owned howner hwalk.chain, fun s => ?_, fun fault => ?_⟩
  · constructor
    · intro hs
      cases x with
      | error fault => cases hs
      | ok c =>
        obtain ⟨hlabels, rfl⟩ := through_ok_iff.mp hs
        exact .owned howner ((hwalk.ok_iff c).mp rfl) hlabels
    · intro hgiven
      cases hgiven with
      | unowned hnone => cases hnone.symm.trans howner
      | owned howner' hreached hlabels =>
        cases howner.symm.trans howner'
        rw [(hwalk.ok_iff _).mpr hreached]
        exact through_ok_iff.mpr ⟨hlabels, rfl⟩
  · constructor
    · intro hfault
      cases x with
      | error found =>
        cases hfault
        exact .unreached howner ((hwalk.error_iff fault).mp rfl)
      | ok c =>
        obtain ⟨hempty, rfl⟩ := through_error_iff.mp hfault
        exact .bareController howner ((hwalk.ok_iff c).mp rfl) hempty
    · intro hrefused
      cases hrefused with
      | unreached howner' hunreached =>
        cases howner.symm.trans howner'
        rw [(hwalk.error_iff _).mpr hunreached]
        rfl
      | bareController howner' hreached hempty =>
        cases howner.symm.trans howner'
        rw [(hwalk.ok_iff _).mpr hreached]
        exact through_error_iff.mpr ⟨hempty, rfl⟩

/-- A pod that nothing owns has its own labels. -/
theorem ofPod_unowned_exact {pod : Pod} (hnone : pod.owner = none) {r : Except Fault Selector}
    (h : (ofPod pod).Ends log r) : Exact (.pod pod) log r := by
  unfold ofPod at h
  rw [hnone] at h
  obtain ⟨rfl, rfl⟩ := Attempt.ends_pure.mp h
  refine ⟨.unowned hnone, fun s => ⟨fun hs => ?_, fun hgiven => ?_⟩, fun fault => ⟨nofun, ?_⟩⟩
  · cases hs
    exact .unowned hnone
  · cases hgiven with
    | unowned => rfl
    | owned howner => cases hnone.symm.trans howner
  · intro hrefused
    cases hrefused with
    | unreached howner => cases hnone.symm.trans howner
    | bareController howner => cases hnone.symm.trans howner

/-- A service has its own selector, unless that is empty. -/
theorem ofService_exact (s : Service) : Exact (.service s) [] (ofService s) := by
  unfold ofService
  split
  · rename_i hempty
    have hbare := List.isEmpty_iff.mp hempty
    refine ⟨.service s, fun given => ⟨nofun, fun hgiven => ?_⟩, fun fault => ⟨fun e => ?_, ?_⟩⟩
    · cases hgiven with
      | service h => exact absurd hbare h
    · cases e
      exact .bareService hbare
    · intro hrefused
      cases hrefused
      rfl
  · rename_i hlabels
    have hne : s.selector ≠ [] := fun hnil => hlabels (List.isEmpty_iff.mpr hnil)
    refine ⟨.service s, fun given => ⟨fun e => ?_, fun hgiven => ?_⟩, fun fault => ⟨nofun, ?_⟩⟩
    · cases e
      exact .service hne
    · cases hgiven
      rfl
    · intro hrefused
      cases hrefused with
      | bareService h => exact absurd h hne

theorem ofPod_exact {pod : Pod} {r : Except Fault Selector} (h : (ofPod pod).Ends log r) :
    Exact (.pod pod) log r := by
  cases howner : pod.owner with
  | none => exact ofPod_unowned_exact howner h
  | some owner => exact ofPod_owned_exact howner h

/-- **The selector of an identity is decided by the lookups of its chain of owners**: which lookups
there are, which selector is given, and for which faults there is none. -/
theorem ofIdentity_exact {identity : Identity} {r : Except Fault Selector}
    (h : (ofIdentity identity).Ends log r) : Exact identity log r := by
  cases identity with
  | service s =>
    obtain ⟨rfl, rfl⟩ := Attempt.ends_ofExcept.mp h
    exact ofService_exact s
  | pod pod => exact ofPod_exact h

/-- A pod of the second rollout of a Deployment. -/
def rolledPod : Pod where
  ns := "shop"
  name := "web-5c9-x7"
  labels := [label "app" "web", label "pod-template-hash" "5c9"]
  owner := some ⟨"ReplicaSet", "web-5c9"⟩

/-- The ReplicaSet of the rollout, which its Deployment owns. -/
def rolledSet : Controller where
  kind := "ReplicaSet"
  name := "web-5c9"
  ns := "shop"
  matchLabels := [label "app" "web", label "pod-template-hash" "5c9"]
  owner := some ⟨"Deployment", "web"⟩

/-- The Deployment. -/
def rollingDeployment : Controller where
  kind := "Deployment"
  name := "web"
  ns := "shop"
  matchLabels := [label "app" "web"]

/-- The owners of the pod, where the Deployment is as given. -/
def rollout (deployment : Except Fault (Option Controller)) : List (Exchange lookups) :=
  [⟨.controller "shop" "ReplicaSet" "web-5c9", .ok (some rolledSet)⟩,
    ⟨.controller "shop" "Deployment" "web", deployment⟩]

theorem ofIdentity_exact_rollout :
    (ofIdentity (.pod rolledPod)).Ends (rollout (.ok (some rollingDeployment)))
      (.ok ⟨[label "app" "web"], "shop"⟩) ∧
    Exact (.pod rolledPod) (rollout (.ok (some rollingDeployment)))
      (.ok ⟨[label "app" "web"], "shop"⟩) ∧
    (ofIdentity (.pod rolledPod)).Ends (rollout (.ok none))
      (.error (.resolution (.missingOwner "Deployment" "shop" "web"))) ∧
    Exact (.pod rolledPod) (rollout (.ok none))
      (.error (.resolution (.missingOwner "Deployment" "shop" "web"))) := by
  have hfound : (ofIdentity (.pod rolledPod)).Ends (rollout (.ok (some rollingDeployment)))
      (.ok ⟨[label "app" "web"], "shop"⟩) := .ask _ (.ask _ (.note (.done _)))
  have hmissing : (ofIdentity (.pod rolledPod)).Ends (rollout (.ok none))
      (.error (.resolution (.missingOwner "Deployment" "shop" "web"))) := .ask _ (.ask _ (.done _))
  exact ⟨hfound, ofIdentity_exact hfound, hmissing, ofIdentity_exact hmissing⟩

end Selector

end LeastPrivilege
