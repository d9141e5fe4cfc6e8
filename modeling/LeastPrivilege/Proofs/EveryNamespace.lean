import LeastPrivilege.Proofs.IdlePods
import LeastPrivilege.Proofs.Startup
import LeastPrivilege.Proofs.StillOutside
import Mathlib.Data.List.Forall2
import Mathlib.Data.List.Nodup

/-!
Runs over every namespace. Pods are listed with their namespaces, but the batch that works on them
gets their names, and the namespaces by name; of pods with one name the namespace of the last is
left (`namespaceOf_pods`). So if none of the listed pods has flows, each ends with the policy that
denies everything to the last listed pod of its name, which is its own exactly if it is that last
one (`Run.policies_everywhere`).
-/

namespace LeastPrivilege

/-! ## Namespaces by name -/

/-- The last of some pods with a name. -/
def lastNamed (pods : List Pod) (name : Text) : Option Pod :=
  pods.reverse.find? fun p => name == p.name

theorem namespaceOf_pods (pods : List Pod) (name : Text) :
    Plan.namespaceOf (pods.map fun p => (p.name, p.ns)) name
      = (lastNamed pods name).map (·.ns) := by
  have hlookup : ∀ l : List Pod, (l.map fun p => (p.name, p.ns)).lookup name
      = (l.find? fun p => name == p.name).map (·.ns) := by
    intro l
    induction l with
    | nil => rfl
    | cons p rest ih =>
      rw [List.map_cons, List.lookup_cons, List.find?_cons]
      cases hname : name == p.name with
      | true => rfl
      | false => exact ih
  rw [Plan.namespaceOf, lastNamed, ← List.map_reverse, hlookup]

theorem lastNamed_some {pods : List Pod} {name : Text} {q : Pod}
    (h : lastNamed pods name = some q) : q ∈ pods ∧ q.name = name := by
  refine ⟨List.mem_reverse.mp (List.mem_of_find?_eq_some h), ?_⟩
  have hname := List.find?_some h
  exact (beq_iff_eq.mp hname).symm

theorem exists_lastNamed {pods : List Pod} {p : Pod} (h : p ∈ pods) :
    ∃ q, lastNamed pods p.name = some q := by
  refine Option.isSome_iff_exists.mp ?_
  rw [lastNamed, List.find?_isSome]
  exact ⟨p, List.mem_reverse.mpr h, by simp⟩

namespace Run

open Session

variable {s : Settings} {schema : Schema} {pods : List Pod} {log : List (Exchange outside)}

/-- What the outside says of the pods that run: these are listed, with legal names, each once. None
has recorded flows, and each is found by its namespace and name. Labels are texts. -/
structure ListsIdle (s : Settings) (pods : List Pod) (log : List (Exchange outside)) : Prop where
  listed : ∀ answer : Except ApiFailure (List PodObject),
    overCluster ⟨.request s.requestTimeout (.pods none), answer⟩ ∈ log →
    ∃ objects, answer = .ok objects ∧ Cluster.running objects = pods
  legal : ∀ p ∈ pods, p.ns ≠ [] ∧ p.name ≠ [] ∧ PodRef.Legal ⟨p.ns, p.name⟩
  apart : (pods.map fun p => (p.ns, p.name)).Nodup
  idle : ∀ p ∈ pods, ∀ reply, replied (brokerOf s) (.flows p.name) reply ∈ log →
    (brokerOf s).resultOf (.flows p.name) reply = .ok (BrokerRequest.flows p.name).nothing
  found : ∀ p ∈ pods, ∀ answer : Except ApiFailure PodObject,
    overCluster ⟨.request s.requestTimeout (.pod p.ns p.name), answer⟩ ∈ log →
    ∃ object, answer = .ok object ∧ (Cluster.podOf object).ns = p.ns ∧
      (Cluster.podOf object).name = p.name ∧ Labels.AreTexts (Cluster.podOf object).labels
  texts : ∀ kind ns name object,
    overCluster ⟨.request s.requestTimeout (.controller kind ns name), .ok object⟩ ∈ log →
    Labels.AreTexts (Cluster.controllerOf kind.name ns name object).matchLabels

/-- The result is the policy that denies everything to the pod that the cluster holds under this
namespace and name, with the labels that single that pod out. Only the file system can have refused
it. -/
structure Denied (s : Settings) (schema : Schema) (log : List (Exchange outside)) (ns name : Text)
    (r : PodResult Policy) : Prop where
  about : r.pod = name
  made : ∃ object part labels,
    overCluster ⟨.request s.requestTimeout (.pod ns name), .ok object⟩ ∈ log ∧
    (Cluster.podOf object).ns = ns ∧ (Cluster.podOf object).name = name ∧ (∀ e ∈ part, e ∈ log) ∧
    ((Selector.labelsOfTarget (Cluster.podOf object)).through
      (answer (brokerOf s) s.requestTimeout)).Ends part (.ok labels) ∧
    r.made = some (Policy.denyAll schema (Cluster.podOf object) labels)
  fault : ∀ fault, r.fault = some fault → fault.isFile = true

/-! ## One pod -/

/-- The lookups were answered by a session with the broker that the settings lead to. -/
def AnsweredIn (s : Settings) (log : List (Exchange outside)) (asked : List (Exchange lookups)) :
    Prop :=
  ∀ e ∈ asked, ∃ part, (∀ d ∈ part, d ∈ log) ∧
    (answer (brokerOf s) s.requestTimeout e.question).Ends part e.answer

variable {asked : List (Exchange lookups)}

theorem ListsIdle.hasTexts (hlists : ListsIdle s pods log) (hanswered : AnsweredIn s log asked)
    {e : Exchange lookups} (he : e ∈ asked) : e.HasTexts := by
  obtain ⟨question, given⟩ := e
  cases question with
  | controller ns kind name =>
    cases given with
    | error fault => trivial
    | ok c =>
      cases c with
      | none => trivial
      | some c =>
        obtain ⟨part, hpart, h⟩ := hanswered _ he
        obtain ⟨requested, hrequested, rfl⟩ := ends_ofCluster.mp h
        rcases Cluster.ends_getController hrequested with
          ⟨-, -, e⟩ | ⟨k, reply, -, rfl, hreply⟩
        · cases e
        · obtain ⟨object, rfl, rfl⟩ := Cluster.found_map_ok_some hreply
          exact hlists.texts k ns name object (hpart _ (List.mem_singleton.mpr rfl))
  | _ => trivial

theorem AnsweredIn.operational (hanswered : AnsweredIn s log asked) {e : Exchange lookups}
    (he : e ∈ asked) (hcontroller : Lookup.IsController e.question) {fault : Fault}
    (hfault : e.fault? = some fault) : fault.isOperational = true := by
  obtain ⟨question, given⟩ := e
  cases question with
  | controller ns kind name =>
    obtain rfl := faultOf?_eq_some_iff.mp hfault
    obtain ⟨part, -, h⟩ := hanswered _ he
    obtain ⟨requested, hrequested, rfl⟩ := ends_ofCluster.mp h
    exact Cluster.getController_operational hrequested
  | _ => exact hcontroller.elim

/-- A listed pod is idle to the lookups. -/
theorem ListsIdle.findsIdle (hlists : ListsIdle s pods log) (hanswered : AnsweredIn s log asked)
    {q : Pod} (hq : q ∈ pods) : Plan.FindsIdle q.ns q.name asked where
  named := (hlists.legal q hq).1
  flows := by
    intro given hgiven
    obtain ⟨part, hpart, h⟩ := hanswered _ hgiven
    have hrequest : (ofWeb ((brokerOf s).getResult (.flows q.name))).Ends part given := h
    obtain ⟨fetched, hfetched, rfl⟩ := ends_ofWeb.mp hrequest
    rcases Broker.ends_getResult hfetched with ⟨run, hkey, -, -⟩ | ⟨-, reply, rfl, rfl⟩
    · exact nomatch hkey.symm.trans (hlists.legal q hq).2.2.halfRun?_name
    · exact hlists.idle q hq reply (hpart _ (List.mem_singleton.mpr rfl))
  found := by
    intro given hgiven
    obtain ⟨part, hpart, h⟩ := hanswered _ hgiven
    obtain ⟨requested, hrequested, rfl⟩ := ends_ofCluster.mp h
    obtain ⟨reply, rfl, hreply⟩ := Cluster.ends_getPod hrequested
    obtain ⟨object, rfl, -, -, htexts⟩ :=
      hlists.found q hq reply (hpart _ (List.mem_singleton.mpr rfl))
    exact ⟨Cluster.podOf object, hreply, htexts⟩
  texts _ he := hlists.hasTexts hanswered he
  own _ he hcontroller _ hfault := hanswered.operational he hcontroller hfault

/-- A pod that was found is the one that the cluster holds. -/
theorem ListsIdle.target (hlists : ListsIdle s pods log) (hanswered : AnsweredIn s log asked)
    {q target : Pod} (hq : q ∈ pods) (h : ⟨.pod q.ns q.name, .ok (some target)⟩ ∈ asked) :
    ∃ object, overCluster ⟨.request s.requestTimeout (.pod q.ns q.name), .ok object⟩ ∈ log ∧
      target = Cluster.podOf object ∧ target.ns = q.ns ∧ target.name = q.name := by
  obtain ⟨part, hpart, hpod⟩ := hanswered _ h
  obtain ⟨requested, hrequested, rfl⟩ := ends_ofCluster.mp hpod
  obtain ⟨reply, rfl, hreply⟩ := Cluster.ends_getPod hrequested
  obtain ⟨object, rfl, rfl⟩ := Cluster.found_map_ok_some hreply
  have hlogged := hpart _ (List.mem_singleton.mpr rfl)
  obtain ⟨_, e, hns, hname, -⟩ := hlists.found q hq _ hlogged
  cases e
  exact ⟨object, hlogged, rfl, hns, hname⟩

/-- What the lookups say of a result, the session says of it. -/
theorem denied_of_deniesAll (hlists : ListsIdle s pods log) (hanswered : AnsweredIn s log asked)
    {q : Pod} (hq : q ∈ pods) {r : PodResult Policy}
    (h : Plan.DeniesAll schema q.ns q.name asked r) : Denied s schema log q.ns q.name r := by
  obtain ⟨target, own, labels, htarget, hown, hlabels, hmade⟩ := h.made
  obtain ⟨object, hlogged, rfl, hns, hname⟩ := hlists.target hanswered hq htarget
  obtain ⟨part, hpart, hpassed⟩ := Inquiry.exists_passed fun e he => hanswered e (hown e he)
  exact ⟨h.about, ⟨object, part, labels, hlogged, hns, hname, hpart,
    Attempt.ends_through.mpr ⟨own, hlabels, hpassed⟩, hmade⟩, h.fault⟩

/-! ## All pods -/

variable {env : Environment} {selection : Selection}

theorem answeredIn_lefts {part : List (Exchange outside)} {worked own : List (Exchange work)}
    (hpassed : Inquiry.Passed (answerWork (brokerOf s) s.requestTimeout) worked part)
    (hpart : ∀ e ∈ part, e ∈ log) (hown : ∀ e ∈ own, e ∈ worked) :
    AnsweredIn s log (Exchange.lefts own) := by
  intro e he
  obtain ⟨answers, hanswers, hends⟩ :=
    hpassed.exists_of_mem (hown _ (Exchange.inLeft_mem_of_mem_lefts he))
  exact ⟨answers, fun d hd => hpart d (hanswers d hd), hends⟩

/-- The file of a listed pod can be written where the directory's path can be read. -/
theorem ListsIdle.readable (hlists : ListsIdle s pods log) (hanswered : AnsweredIn s log asked)
    {plan : Plan} (hdirectory : ∀ d, plan.directory = some d →
      Fault.ofPathText d.path.text = .ok ()) {q target : Pod} (hq : q ∈ pods) {labels : Labels}
    (htarget : ⟨.pod q.ns q.name, .ok (some target)⟩ ∈ asked) :
    ¬ plan.Unreadable (Policy.denyAll schema target labels) (some q.name) := by
  obtain ⟨-, hnamed, hlegal⟩ := hlists.legal q hq
  obtain ⟨object, -, -, hns, -⟩ := hlists.target hanswered hq htarget
  refine Plan.readable_of_legal hdirectory ?_ hnamed
  rw [Policy.denyAll, hns]
  exact hlegal

/-- The work on listed pods ends with a result for each of them: the policy that denies everything
to the last listed pod of its name. -/
theorem ends_makePolicies {plan : Plan} {part : List (Exchange outside)}
    {made : Except Fault (List (PodResult Policy))} (hplan : plan.byName = true)
    (hdirectory : ∀ d, plan.directory = some d → Fault.ofPathText d.path.text = .ok ())
    (hpart : ∀ e ∈ part, e ∈ log) (hlists : ListsIdle s pods log)
    (h : (makePolicies s plan schema pods (brokerOf s)).Ends part made) :
    ∃ results, made = .ok results ∧ List.Forall₂ (fun p r =>
      ∃ q, lastNamed pods p.name = some q ∧ Denied s schema log q.ns p.name r) pods results := by
  obtain ⟨worked, hworked, hpassed⟩ := Attempt.ends_through.mp h
  have hone : ∀ name ∈ pods.map (·.name), ∀ own x, (∀ e ∈ own, e ∈ worked) →
      (plan.processOne schema (Plan.namespaceOf (pods.map fun p => (p.name, p.ns)) name) name).Ends
        own x →
      ∃ result, x = .ok result ∧
        ∃ q, lastNamed pods name = some q ∧ Denied s schema log q.ns name result := by
    intro name hname own x hown hx
    obtain ⟨p, hp, rfl⟩ := List.mem_map.mp hname
    obtain ⟨q, hlast⟩ := exists_lastNamed hp
    obtain ⟨hq, hqname⟩ := lastNamed_some hlast
    rw [namespaceOf_pods, hlast] at hx
    rw [← hqname] at hx ⊢
    have hanswered := answeredIn_lefts hpassed hpart hown
    obtain ⟨result, rfl, hdenies⟩ := Plan.ends_processOne_idle hplan hx
      (hlists.findsIdle hanswered hq) fun _ _ => hlists.readable hanswered hdirectory hq
    exact ⟨result, rfl, q, hqname ▸ hlast, denied_of_deniesAll hlists hanswered hq hdenies⟩
  obtain ⟨results, hmade, hresults⟩ := Plan.ends_processAll hworked hone
  exact ⟨results, hmade, List.forall₂_map_left_iff.mp hresults⟩

/-- The policy that was made lies in the pod's namespace. -/
theorem Denied.exists_policy {ns name : Text} {r : PodResult Policy}
    (h : Denied s schema log ns name r) : ∃ policy, r.made = some policy ∧ policy.ns = ns := by
  obtain ⟨object, part, labels, -, hns, -, -, -, hmade⟩ := h.made
  exact ⟨_, hmade, hns⟩

/-- A pod has a policy of its own exactly if it is the last of its name. -/
theorem ListsIdle.own_iff (hlists : ListsIdle s pods log) {p q : Pod} (hp : p ∈ pods)
    (hlast : lastNamed pods p.name = some q) {r : PodResult Policy}
    (h : Denied s schema log q.ns p.name r) :
    Denied s schema log p.ns p.name r ↔ lastNamed pods p.name = some p := by
  constructor
  · intro hown
    obtain ⟨hq, hname⟩ := lastNamed_some hlast
    obtain ⟨policy, hmade, hns⟩ := h.exists_policy
    obtain ⟨own, hmade', hns'⟩ := hown.exists_policy
    obtain rfl : policy = own := Option.some.inj (hmade.symm.trans hmade')
    have hsame : (p.ns, p.name) = (q.ns, q.name) :=
      Prod.ext (hns'.symm.trans hns) hname.symm
    rwa [← List.inj_on_of_nodup_map hlists.apart hp hq hsame] at hlast
  · intro hself
    rwa [Option.some.inj (hlast.symm.trans hself)] at h

/-- In a run over all namespaces the pods are told apart by their names alone: each listed pod ends
with the policy that denies everything to the last listed pod of its name. So it gets its own policy
exactly if no later pod has its name. There are results for all pods, in order, unless the run stops
before its work. -/
theorem policies_everywhere {r : Except Fault (Option (List (PodResult Policy)))}
    (hall : selection.everywhere = true) (hlists : ListsIdle s pods log)
    (h : (policies env s selection schema).Ends log r) :
    (∃ fault, r = .error fault ∧ Stops s log fault) ∨ (pods = [] ∧ r = .ok none) ∨
    ∃ results, r = .ok (some results) ∧ List.Forall₂ (fun p result =>
      (∃ q, lastNamed pods p.name = some q ∧ Denied s schema log q.ns p.name result) ∧
      (Denied s schema log p.ns p.name result ↔ lastNamed pods p.name = some p)) pods results := by
  rcases ends_policies hall h hlists.listed with hstops | hnone | hworks
  · exact .inl hstops
  · exact .inr (.inl hnone)
  · obtain ⟨plan, part, made, hplan, hdirectory, hpart, hends, rfl⟩ := hworks
    obtain ⟨results, rfl, hresults⟩ := ends_makePolicies hplan hdirectory hpart hlists hends
    refine .inr (.inr ⟨results, rfl, ?_⟩)
    have hlisted := (List.forall₂_and_left _ _).mpr ⟨fun p hp => hp, hresults⟩
    refine hlisted.imp fun p result ⟨hp, q, hlast, hdenied⟩ => ?_
    exact ⟨⟨q, hlast, hdenied⟩, hlists.own_iff hp hlast hdenied⟩

/-! ## Two pods -/

/-- A running pod of a namespace, with a name and a label. -/
structure Listed where
  ns : Text
  name : Text
  label : Text

/-- The pod as the cluster holds it. -/
def Listed.object (l : Listed) : PodObject where
  ns := some l.ns
  name := some l.name
  labels := some [(.text "app", .text l.label)]
  status := some { phase := some "Running" }

/-- An outside with these pods and no controllers, and a broker that knows no flows. -/
def onlyPods (listed : List Listed) : StillOutside where
  cluster
    | .request _ (.pods _) => .ok (listed.map Listed.object)
    | .request _ (.pod ns name) =>
      match listed.find? fun l => l.ns == ns && l.name == name with
      | some l => .ok l.object
      | none => .error (.refused Cluster.notFound "")
    | .request _ (.controller ..) | .request _ (.service ..) =>
      .error (.refused Cluster.notFound "")
    | .loadInCluster | .loadFile .. => .ok ()
    | .contexts _ => .error "no contexts"
  web
    | .fetch .. => .response 404 []
    | .close => ()

/-- Settings with a broker that needs no tunnel. -/
def directSettings : Settings := { brokerUrl := "http://b:1", portForward := false }

/-- A run over all namespaces, where there are only these pods. -/
def runOver (listed : List Listed) :
    List (Exchange outside) × Except Fault (Option (List (PodResult Policy))) :=
  (policies [] directSettings { everywhere := true } .standard).outcome.known
    (onlyPods listed).answer

theorem ends_runOver (listed : List Listed) :
    (policies [] directSettings { everywhere := true } .standard).Ends (runOver listed).1
      (runOver listed).2 :=
  Inquiry.ends_known _ _

variable {listed : List Listed}

theorem running_objects :
    Cluster.running (listed.map Listed.object) = listed.map fun l => Cluster.podOf l.object := by
  rw [Cluster.running, List.filter_eq_self.mpr, List.map_map]
  · rfl
  · intro o ho
    obtain ⟨l, -, rfl⟩ := List.mem_map.mp ho
    rfl

theorem Listed.labels_areTexts (l : Listed) : Labels.AreTexts (Cluster.podOf l.object).labels := by
  intro e he
  exact ⟨_, _, List.mem_singleton.mp he⟩

theorem listsIdle_runOver
    (hlegal : ∀ l ∈ listed, l.ns ≠ [] ∧ l.name ≠ [] ∧ PodRef.Legal ⟨l.ns, l.name⟩)
    (hapart : (listed.map fun l => (l.ns, l.name)).Nodup) :
    ListsIdle directSettings (listed.map fun l => Cluster.podOf l.object) (runOver listed).1 where
  listed := by
    intro given hgiven
    obtain rfl : given = .ok (listed.map Listed.object) := Inquiry.answer_of_mem_known hgiven
    exact ⟨_, rfl, running_objects⟩
  legal := by
    intro p hp
    obtain ⟨l, hl, rfl⟩ := List.mem_map.mp hp
    exact hlegal l hl
  apart := by
    rw [List.map_map]
    exact hapart
  idle := by
    intro p hp reply hreply
    obtain rfl : reply = .response 404 [] := Inquiry.answer_of_mem_known hreply
    rfl
  found := by
    intro p hp given hgiven
    obtain ⟨l, hl, rfl⟩ := List.mem_map.mp hp
    have hanswer : given = (onlyPods listed).cluster
        (.request directSettings.requestTimeout (.pod l.ns l.name)) :=
      Inquiry.answer_of_mem_known hgiven
    obtain ⟨m, hm⟩ : ∃ m, (listed.find? fun m => m.ns == l.ns && m.name == l.name) = some m :=
      Option.isSome_iff_exists.mp (List.find?_isSome.mpr ⟨l, hl, by simp⟩)
    have hnames : m.ns = l.ns ∧ m.name = l.name := by simpa using List.find?_some hm
    refine ⟨m.object, ?_, hnames.1, hnames.2, m.labels_areTexts⟩
    rw [hanswer, onlyPods]
    dsimp only
    rw [hm]
  texts := by
    intro kind ns name object hobject
    cases Inquiry.answer_of_mem_known hobject

/-- Nothing keeps the run from its work. -/
theorem not_stops_runOver (fault : Fault) : ¬ Stops directSettings (runOver listed).1 fault := by
  intro hstops
  cases hstops with
  | @unconnected asked hasked h =>
    have hknown : (Cluster.connect directSettings).outcome.known (onlyPods listed).cluster
        = (asked, .error fault) := by
      refine h.eq_known fun e he => ?_
      have hanswer := Inquiry.answer_of_mem_known (hasked e he)
      exact hanswer
    cases congrArg (isOk ·.2) hknown
  | @noDirectory path part hpath hpart h =>
    have hknown : (makeDirectory path).outcome.known (onlyPods listed).answer
        = (part, .error fault) :=
      h.eq_known fun e he => Inquiry.answer_of_mem_known (hpart e he)
    cases hpath
    have hmade : isOk ((makeDirectory (.ofText "network-policies")).outcome.known
        (onlyPods listed).answer).2 = true := rfl
    rw [hknown] at hmade
    cases hmade
  | noTunnel h => exact nomatch h.1

/-- Pods with different names. -/
def twoNames : List Listed := [⟨"a", "web", "web-a"⟩, ⟨"b", "db", "db-b"⟩]

/-- Pods with one name in two namespaces. -/
def oneName : List Listed := [⟨"a", "web", "web-a"⟩, ⟨"b", "web", "web-b"⟩]

theorem legal_twoNames : ∀ l ∈ twoNames, l.ns ≠ [] ∧ l.name ≠ [] ∧ PodRef.Legal ⟨l.ns, l.name⟩ :=
  List.forall_mem_cons.mpr ⟨⟨by decide, by decide, by decide, by decide⟩,
    List.forall_mem_cons.mpr ⟨⟨by decide, by decide, by decide, by decide⟩, nofun⟩⟩

theorem legal_oneName : ∀ l ∈ oneName, l.ns ≠ [] ∧ l.name ≠ [] ∧ PodRef.Legal ⟨l.ns, l.name⟩ :=
  List.forall_mem_cons.mpr ⟨⟨by decide, by decide, by decide, by decide⟩,
    List.forall_mem_cons.mpr ⟨⟨by decide, by decide, by decide, by decide⟩, nofun⟩⟩

/-- The pods with different names each get their own policy. -/
theorem policies_everywhere_twoNames :
    ListsIdle directSettings (twoNames.map fun l => Cluster.podOf l.object) (runOver twoNames).1 ∧
    ∃ results, (runOver twoNames).2 = .ok (some results) ∧ List.Forall₂ (fun p result =>
      Denied directSettings .standard (runOver twoNames).1 p.ns p.name result)
      (twoNames.map fun l => Cluster.podOf l.object) results := by
  have hlists := listsIdle_runOver legal_twoNames (by decide)
  refine ⟨hlists, ?_⟩
  rcases policies_everywhere rfl hlists (ends_runOver twoNames) with
    ⟨fault, -, hstops⟩ | ⟨hnone, -⟩ | ⟨results, hrun, hresults⟩
  · exact absurd hstops (not_stops_runOver fault)
  · cases hnone
  · refine ⟨results, hrun, ?_⟩
    obtain _ | ⟨⟨-, hweb⟩, _ | ⟨⟨-, hdb⟩, _ | _⟩⟩ := hresults
    exact .cons (hweb.mpr rfl) (.cons (hdb.mpr rfl) .nil)

/-- Both policies of the pods with one name lie in the namespace of the second, so the first pod has
none of its own. -/
theorem policies_everywhere_oneName :
    ListsIdle directSettings (oneName.map fun l => Cluster.podOf l.object) (runOver oneName).1 ∧
    ∃ results, (runOver oneName).2 = .ok (some results) ∧
      List.Forall₂ (fun (_ : Listed) (result : PodResult Policy) =>
        ∃ policy, result.made = some policy ∧ policy.ns = ("b" : Text)) oneName results ∧
      ¬ List.Forall₂ (fun p result =>
        Denied directSettings .standard (runOver oneName).1 p.ns p.name result)
        (oneName.map fun l => Cluster.podOf l.object) results := by
  have hlists := listsIdle_runOver legal_oneName (by decide)
  refine ⟨hlists, ?_⟩
  rcases ends_policies rfl (ends_runOver oneName) hlists.listed with
    ⟨fault, -, hstops⟩ | ⟨hnone, -⟩ | ⟨plan, part, made, hplan, hdirectory, hpart, hends, hrun⟩
  · exact absurd hstops (not_stops_runOver fault)
  · cases hnone
  obtain ⟨results, rfl, hresults⟩ := ends_makePolicies hplan hdirectory hpart hlists hends
  obtain _ | ⟨⟨q, hq, hfirst⟩, _ | ⟨⟨q', hq', hsecond⟩, _ | _⟩⟩ := hresults
  obtain rfl := Option.some.inj hq
  obtain rfl := Option.some.inj hq'
  refine ⟨_, hrun, .cons hfirst.exists_policy (.cons hsecond.exists_policy .nil), fun hown => ?_⟩
  obtain _ | ⟨hown, _⟩ := hown
  obtain ⟨policy, hmade, hns⟩ := hfirst.exists_policy
  obtain ⟨own, hmade', hns'⟩ := hown.exists_policy
  obtain rfl : policy = own := Option.some.inj (hmade.symm.trans hmade')
  exact absurd (hns.symm.trans hns') (by decide)

end Run

end LeastPrivilege
