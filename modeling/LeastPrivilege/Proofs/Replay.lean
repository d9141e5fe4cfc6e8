import LeastPrivilege.Proofs.Grouping
import LeastPrivilege.Proofs.StandingAnswers
import LeastPrivilege.Proofs.World

/-!
Replayed and reordered flows. The rules of a direction are the accepted records in groups, so their
order is all that they owe to the order of the records: records that are the same as a set give
rules that are the same but for their order and that of their ports (`rearranged_grouped`), and
records that were there before add nothing (`grouped_append_of_subset`). Nothing else is found out
from the flows. So where the answers to lookups stand still, the records enter a policy as a set,
but for the first of them, which says whose they are (`Policy.generate_rearranged`).
-/

namespace LeastPrivilege

/-! ## First appearances -/

/-- What appeared before adds nothing. -/
theorem eraseDups_append_of_subset {α : Type} [BEq α] [LawfulBEq α] {as bs : List α}
    (h : bs ⊆ as) : (as ++ bs).eraseDups = as.eraseDups := by
  have hnone : bs.removeAll as = [] := by
    rw [List.removeAll, List.filter_eq_nil_iff]
    intro b hb
    simpa using h hb
  rw [List.eraseDups_append, hnone, List.eraseDups_nil, List.append_nil]

/-- The same members appear first in some order. -/
theorem perm_eraseDups {α : Type} [BEq α] [LawfulBEq α] {as bs : List α}
    (h : ∀ a, a ∈ as ↔ a ∈ bs) : as.eraseDups.Perm bs.eraseDups := by
  rw [List.perm_ext_iff_of_nodup (nodup_eraseDups as) (nodup_eraseDups bs)]
  intro a
  rw [List.mem_eraseDups, List.mem_eraseDups, h]

/-! ## Rules -/

/-- The rules are about the same peer, with the same ports in some order. -/
structure Rule.SameTraffic (rule rule' : Rule) : Prop where
  peerIp : rule.peerIp = rule'.peerIp
  direction : rule.direction = rule'.direction
  peer : rule.peer = rule'.peer
  ports : rule.ports.Perm rule'.ports

/-- The rules are the same but for their order and the order of their ports. -/
def Rule.Rearranged (rules rules' : List Rule) : Prop :=
  ∃ matched, List.Forall₂ Rule.SameTraffic rules matched ∧ matched.Perm rules'

theorem Rule.Rearranged.isEmpty {rules rules' : List Rule} (h : Rearranged rules rules') :
    rules.isEmpty = rules'.isEmpty := by
  obtain ⟨matched, hmatched, hperm⟩ := h
  have hlength : rules.length = rules'.length := hmatched.length_eq.trans hperm.length_eq
  rw [Bool.eq_iff_iff, List.isEmpty_iff_length_eq_zero, List.isEmpty_iff_length_eq_zero, hlength]

/-- What holds of all addresses of some rules holds of those of the others. -/
theorem Rule.Rearranged.forall_peerIp {rules rules' : List Rule} (h : Rearranged rules rules')
    {P : Text → Prop} : (∀ rule ∈ rules, P rule.peerIp) ↔ ∀ rule ∈ rules', P rule.peerIp := by
  obtain ⟨matched, hmatched, hperm⟩ := h
  have haddresses : rules.map (·.peerIp) = matched.map (·.peerIp) := by
    rw [← List.forall₂_eq_eq_eq, List.forall₂_map_left_iff, List.forall₂_map_right_iff]
    exact hmatched.imp fun _ _ hsame => hsame.peerIp
  rw [← List.forall_mem_map, haddresses, List.forall_mem_map]
  simp only [hperm.mem_iff]

/-- A change that treats rules with the same traffic alike keeps that they are the same. -/
theorem Rule.Rearranged.map {rules rules' : List Rule} (h : Rearranged rules rules')
    {f : Rule → Rule} (hf : ∀ rule rule', rule.SameTraffic rule' → (f rule).SameTraffic (f rule')) :
    Rearranged (rules.map f) (rules'.map f) := by
  obtain ⟨matched, hmatched, hperm⟩ := h
  refine ⟨matched.map f, ?_, hperm.map f⟩
  rw [List.forall₂_map_left_iff, List.forall₂_map_right_iff]
  exact hmatched.imp hf

theorem perm_portsOf {shown shown' : List Classified} (h : ∀ c, c ∈ shown ↔ c ∈ shown')
    (ip : Text) : (portsOf shown ip).Perm (portsOf shown' ip) := by
  refine perm_eraseDups fun port => ?_
  simp only [List.mem_map, List.mem_filter, h]

theorem portsOf_append_of_subset {shown again : List Classified} (h : again ⊆ shown) (ip : Text) :
    portsOf (shown ++ again) ip = portsOf shown ip := by
  have hfiltered : (again.filter fun c => c.peerIp = ip) ⊆ shown.filter fun c => c.peerIp = ip := by
    intro c hc
    obtain ⟨hagain, hip⟩ := List.mem_filter.mp hc
    exact List.mem_filter.mpr ⟨h hagain, hip⟩
  rw [portsOf, List.filter_append, List.map_append,
    eraseDups_append_of_subset (List.map_subset _ hfiltered), portsOf]

theorem rearranged_grouped {shown shown' : List Classified} (h : ∀ c, c ∈ shown ↔ c ∈ shown')
    (direction : Direction) :
    Rule.Rearranged (grouped direction shown) (grouped direction shown') := by
  refine ⟨(shown.map (·.peerIp)).eraseDups.map fun ip =>
    { peerIp := ip, direction, ports := portsOf shown' ip }, ?_, ?_⟩
  · rw [grouped, List.forall₂_map_left_iff, List.forall₂_map_right_iff, List.forall₂_same]
    exact fun ip _ => ⟨rfl, rfl, rfl, perm_portsOf h ip⟩
  · refine (perm_eraseDups fun ip => ?_).map _
    simp only [List.mem_map, h]

theorem grouped_append_of_subset {shown again : List Classified} (h : again ⊆ shown)
    (direction : Direction) : grouped direction (shown ++ again) = grouped direction shown := by
  unfold grouped
  rw [List.map_append, eraseDups_append_of_subset (List.map_subset _ h)]
  simp only [portsOf_append_of_subset h]

/-! ## Records -/

theorem mem_accepted {target : Pod} {direction : Direction} {records : List Record}
    {c : Classified} : c ∈ accepted target direction records ↔
      c.direction = direction ∧ ∃ r ∈ records, r.Shows target c := by
  simp only [accepted, List.mem_filter, List.mem_filterMap, Record.shown?_eq_some_iff,
    decide_eq_true_eq]
  exact and_comm

theorem accepted_append (target : Pod) (direction : Direction) (records again : List Record) :
    accepted target direction (records ++ again)
      = accepted target direction records ++ accepted target direction again := by
  simp only [accepted, List.filterMap_append, List.filter_append]

theorem accepted_subset {target : Pod} {direction : Direction} {records again : List Record}
    (h : again ⊆ records) :
    accepted target direction again ⊆ accepted target direction records := by
  intro c hc
  obtain ⟨hd, r, hr, hshown⟩ := mem_accepted.mp hc
  exact mem_accepted.mpr ⟨hd, r, h hr, hshown⟩

section Records

variable {records records' again : List Record} {target : Pod} {a a' : Aggregation}

theorem aggregate_groups (h : (aggregate records target).1 = .ok a) : a.Groups target records := by
  rw [aggregate_fst] at h
  exact Aggregation.observeAll_preserves (P := fun a => a.Groups target)
    Aggregation.Groups.observe records (Aggregation.groups_nil target) h

theorem rearranged_rules (hsame : ∀ r, r ∈ records ↔ r ∈ records')
    (h : (aggregate records target).1 = .ok a) (h' : (aggregate records' target).1 = .ok a')
    (direction : Direction) : Rule.Rearranged (a.rules direction) (a'.rules direction) := by
  rw [aggregate_groups h direction, aggregate_groups h' direction]
  refine rearranged_grouped (fun c => ?_) direction
  simp only [mem_accepted, hsame]

theorem rules_append_of_subset (hagain : again ⊆ records)
    (h : (aggregate records target).1 = .ok a)
    (h' : (aggregate (records ++ again) target).1 = .ok a') : a'.rules = a.rules := by
  funext direction
  rw [aggregate_groups h direction, aggregate_groups h' direction, accepted_append,
    grouped_append_of_subset (accepted_subset hagain)]

theorem aggregate_append_error {fault : Fault} (h : (aggregate records target).1 = .error fault) :
    (aggregate (records ++ again) target).1 = .error fault := by
  rw [aggregate_fst] at h ⊢
  rw [Aggregation.observeAll_append, h]
  rfl

/-- Whether records go through depends on the set of them. -/
theorem aggregate_ok_congr (hsame : ∀ r, r ∈ records ↔ r ∈ records') :
    (∃ a, (aggregate records target).1 = .ok a) ↔ ∃ a, (aggregate records' target).1 = .ok a := by
  have ok_iff (rs : List Record) : (∃ a, (aggregate rs target).1 = .ok a) ↔
      ¬ ∃ r ∈ rs, ∃ direction, r.Overlong target direction := by
    rw [← aggregate_error_iff]
    cases (aggregate rs target).1 <;> simp
  simp only [ok_iff, hsame]

end Records

/-! ## Policies -/

variable {known : Lookup.Answers}

theorem rearranged_withFound {rules rules' : List Rule} (h : Rule.Rearranged rules rules') :
    Rule.Rearranged (rules.map (·.withFound known)) (rules'.map (·.withFound known)) := by
  refine h.map fun rule rule' hsame => ⟨hsame.peerIp, hsame.direction, ?_, hsame.ports⟩
  simp only [Rule.withFound, hsame.peerIp]

/-- The policies are for the same pod and enforce the same; what they may differ in is what they
let through. -/
structure Policy.SameHead (p p' : Policy) : Prop where
  name : p.name = p'.name
  ns : p.ns = p'.ns
  schema : p.schema = p'.schema
  own : p.podSelector = p'.podSelector
  labels : p.labels = p'.labels
  kinds : p.kinds = p'.kinds
  defaultDeny : p.defaultDeny = p'.defaultDeny

namespace Policy

/-- The policy is rendered from the rules that the records about the pod come to, each with what its
address stands for, and its manifest lists them in their order. -/
structure Lists (known : Lookup.Answers) (schema : Schema) (records : List Record) (target : Pod)
    (rules : Direction → List Rule) (p : Policy) : Prop where
  aggregated : ∃ a, (aggregate records target).1 = .ok a ∧
    ∀ d, rules d = (a.rules d).map (·.withFound known)
  found : ∀ d, ∀ rule ∈ rules d, ∃ peer,
    Peer.foundBy known rule.peerIp = .ok peer ∧ rule.peer = some peer
  rendered : ∃ selector, (Selector.labelsOfTarget target).evalBy known = .ok selector ∧
    render schema target selector (rules .ingress) (rules .egress) = .ok p
  read : ∀ d, schema.readEntries? d p.manifest.value = some ((rules d).map (readEntryOf schema))

section

variable {schema : Schema} {pod : Text} {records records' : List Record} {target : Pod}
  {a a' : Aggregation} {p p' : Policy}

theorem sameHead_made {selector : Labels} {ingress egress ingress' egress' : List Rule}
    (hi : Rule.Rearranged ingress ingress') (he : Rule.Rearranged egress egress') :
    (made schema target selector ingress egress).SameHead
      (made schema target selector ingress' egress') := by
  constructor <;> simp only [made, enforced, hi.isEmpty, he.isEmpty]

/-- The rules of an aggregation become a policy that lists them. -/
theorem lists_of_ofRules (h : (aggregate records target).1 = .ok a)
    (hp : (ofRules schema pod target a.ingress a.egress).evalBy known = .ok p) :
    Lists known schema records target (fun d => (a.rules d).map (·.withFound known)) p := by
  obtain ⟨hfound, selector, hselector, rfl⟩ := evalBy_ofRules_ok_iff.mp hp
  have hpick (d : Direction) : d.pick (a.ingress.map (·.withFound known))
      (a.egress.map (·.withFound known)) = (a.rules d).map (·.withFound known) := by
    cases d <;> rfl
  have hall : ∀ d, ∀ rule ∈ (a.rules d).map (·.withFound known), ∃ peer,
      Peer.foundBy known rule.peerIp = .ok peer ∧ rule.peer = some peer := by
    intro d rule hrule
    obtain ⟨given, hgiven, rfl⟩ := List.mem_map.mp hrule
    have hsome : given ∈ a.ingress ++ a.egress := by
      cases d
      · exact List.mem_append_left _ hgiven
      · exact List.mem_append_right _ hgiven
    obtain ⟨peer, hpeer⟩ := hfound given hsome
    exact ⟨peer, hpeer, by rw [Rule.withFound, hpeer]; rfl⟩
  refine ⟨⟨a, h, fun _ => rfl⟩, hall, ⟨selector, hselector, render_withFound selector hfound⟩,
    fun d => ?_⟩
  rw [readEntries?_made d, hpick]
  · intro rule hrule
    rw [hpick] at hrule
    obtain ⟨peer, -, hpeer⟩ := hall d rule hrule
    rw [hpeer, Option.isSome_some]
  · intro rule hrule p hp
    rw [hpick] at hrule
    obtain ⟨given, hgiven, rfl⟩ := List.mem_map.mp hrule
    exact ((aggregate_sound h d given hgiven).inRange p hp).1

variable {byName : Bool} {ns : Option Text}

/-- Flows that were there before give the same policy, or the same fault. -/
theorem evalBy_generate_again {again : List Record} (h : again ⊆ records) :
    (generate byName pod schema ns).evalBy (known.recording pod (records ++ again))
      = (generate byName pod schema ns).evalBy (known.recording pod records) := by
  have hfirst : (records ++ again).head? = records.head? := by
    cases records with
    | nil => rw [List.subset_nil.mp h, List.append_nil]
    | cons first rest => rfl
  have hsame : ∀ r, r ∈ records ↔ r ∈ records ++ again := by
    intro r
    rw [List.mem_append, or_iff_left_of_imp fun hr => h hr]
  rw [evalBy_generate_recording, evalBy_generate_recording, findTarget_congr hfirst]
  congr 1
  funext target
  cases ha : (aggregate records target).1 with
  | error fault => rw [aggregate_append_error ha]
  | ok a =>
    obtain ⟨a', ha'⟩ := (aggregate_ok_congr hsame).mp ⟨a, ha⟩
    -- The two aggregations differ in their counts, which do not enter a policy.
    have hrules := rules_append_of_subset h ha ha'
    have hi : a'.ingress = a.ingress := congrFun hrules .ingress
    have he : a'.egress = a.egress := congrFun hrules .egress
    rw [ha']
    show (ofRules schema pod target a'.ingress a'.egress).evalBy known = _
    rw [hi, he]
    rfl

/-- Flows that were recorded give a policy exactly if their pod is found, they go through, their
addresses stand for something and the pod's own labels are to be had. -/
theorem evalBy_generate_ok_iff :
    (generate byName pod schema ns).evalBy (known.recording pod records) = .ok p ↔
      ∃ target a, (findTarget byName pod records ns).evalBy known = .ok target ∧
        (aggregate records target).1 = .ok a ∧
        (ofRules schema pod target a.ingress a.egress).evalBy known = .ok p := by
  rw [evalBy_generate_recording]
  constructor
  · intro h
    obtain ⟨target, hfound, h⟩ := bind_ok h
    obtain ⟨a, ha, h⟩ := bind_ok h
    exact ⟨target, a, hfound, ha, h⟩
  · rintro ⟨target, a, hfound, ha, h⟩
    rw [hfound]
    show ((aggregate records target).1 >>= _) = _
    rw [ha]
    exact h

/-- Whether flows give a policy depends on the first of them and the set of them. -/
theorem evalBy_generate_goes (hfirst : records.head? = records'.head?)
    (hsame : ∀ r, r ∈ records ↔ r ∈ records')
    (h : ∃ p, (generate byName pod schema ns).evalBy (known.recording pod records) = .ok p) :
    ∃ p, (generate byName pod schema ns).evalBy (known.recording pod records') = .ok p := by
  obtain ⟨p, hp⟩ := h
  obtain ⟨target, a, hfound, ha, hmade⟩ := evalBy_generate_ok_iff.mp hp
  obtain ⟨hall, selector, hselector, -⟩ := evalBy_ofRules_ok_iff.mp hmade
  obtain ⟨a', ha'⟩ := (aggregate_ok_congr hsame).mp ⟨a, ha⟩
  have hrules := rearranged_rules hsame ha ha'
  obtain ⟨hi, he⟩ := List.forall_mem_append.mp hall
  let isFound (ip : Text) : Prop := ∃ peer, Peer.foundBy known ip = .ok peer
  have hi' : ∀ rule ∈ a'.ingress, isFound rule.peerIp := (hrules .ingress).forall_peerIp.mp hi
  have he' : ∀ rule ∈ a'.egress, isFound rule.peerIp := (hrules .egress).forall_peerIp.mp he
  have hall' := List.forall_mem_append.mpr ⟨hi', he'⟩
  rw [findTarget_congr hfirst] at hfound
  exact ⟨_, evalBy_generate_ok_iff.mpr ⟨target, a', hfound, ha',
    evalBy_ofRules_ok_iff.mpr ⟨hall', selector, hselector, rfl⟩⟩⟩

/-- **The order and the repetition of flows show in the order of a policy only**, whatever the other
lookups are answered with, as long as their answers stand still. -/
theorem generate_rearranged (hfirst : records.head? = records'.head?)
    (hsame : ∀ r, r ∈ records ↔ r ∈ records') :
    let made (flows : List Record) :=
      (generate byName pod schema ns).evalBy (known.recording pod flows)
    (∀ p p', made records = .ok p → made records' = .ok p' → p.SameHead p' ∧
      ∃ target rules rules', (findTarget byName pod records ns).evalBy known = .ok target ∧
        Lists known schema records target rules p ∧
        Lists known schema records' target rules' p' ∧
        ∀ d, Rule.Rearranged (rules d) (rules' d)) ∧
    ((∃ p, made records = .ok p) ↔ ∃ p', made records' = .ok p') ∧
    ∀ again, again ⊆ records → made (records ++ again) = made records := by
  have htarget := findTarget_congr hfirst byName pod ns
  refine ⟨fun p p' hp hp' => ?_, ⟨evalBy_generate_goes hfirst hsame,
    evalBy_generate_goes hfirst.symm fun r => (hsame r).symm⟩,
    fun again hagain => evalBy_generate_again hagain⟩
  obtain ⟨target, a, hfound, ha, hmade⟩ := evalBy_generate_ok_iff.mp hp
  obtain ⟨target', a', hfound', ha', hmade'⟩ := evalBy_generate_ok_iff.mp hp'
  rw [← htarget, hfound] at hfound'
  obtain rfl : target = target' := Except.ok.inj hfound'
  have hrules (d : Direction) : Rule.Rearranged ((a.rules d).map (·.withFound known))
      ((a'.rules d).map (·.withFound known)) :=
    rearranged_withFound (rearranged_rules hsame ha ha' d)
  have hlists := lists_of_ofRules ha hmade
  have hlists' := lists_of_ofRules ha' hmade'
  obtain ⟨-, selector, hselector, rfl⟩ := evalBy_ofRules_ok_iff.mp hmade
  obtain ⟨-, selector', hselector', rfl⟩ := evalBy_ofRules_ok_iff.mp hmade'
  obtain rfl : selector = selector' := Except.ok.inj (hselector.symm.trans hselector')
  exact ⟨sameHead_made (hrules .ingress) (hrules .egress), target, _, _, hfound, hlists, hlists',
    hrules⟩

end

/-- The web pod was reached on a port. -/
def webReached (port : Text) : Record :=
  { targetIp := "10.0.0.7", peerIp := "192.0.2.4", direction := "ingress", targetPort := port }

/-- The web pod asked for a database. -/
def webAsked : Record :=
  { targetIp := "10.0.0.7", peerIp := "10.0.0.5", direction := "egress", peerPort := "5432" }

/-- Flows of the web pod. -/
def webFlows : List Record :=
  [webReached "8080", webAsked, webReached "8443", webReached "80"]

/-- The same flows, the later ones in another order and one of them twice. -/
def webFlowsAgain : List Record :=
  [webReached "8080", webReached "80", webAsked, webReached "8443", webAsked]

/-- The answers of the shop, where asking about an address that no flow names goes wrong in a way
that nothing is prepared for. -/
def shopAnswers : Lookup.Answers
  | .serviceAt ip =>
    if ip = "203.0.113.9" then .error .tooDeep else World.shop.answer (.serviceAt ip)
  | q => World.shop.answer q

theorem generate_rearranged_shop :
    webFlows.head? = webFlowsAgain.head? ∧ (∀ r, r ∈ webFlows ↔ r ∈ webFlowsAgain) ∧
    ∃ p p' : Policy,
      (generate true "web" .cilium none).evalBy (shopAnswers.recording "web" webFlows) = .ok p ∧
      (generate true "web" .cilium none).evalBy (shopAnswers.recording "web" webFlowsAgain)
        = .ok p' ∧
      p.SameHead p' ∧ ∃ target rules rules',
        (findTarget true "web" webFlows none).evalBy shopAnswers = .ok target ∧
        Lists shopAnswers .cilium webFlows target rules p ∧
        Lists shopAnswers .cilium webFlowsAgain target rules' p' ∧
        ∀ d, Rule.Rearranged (rules d) (rules' d) := by
  have hfirst : webFlows.head? = webFlowsAgain.head? := rfl
  have hsame : ∀ r, r ∈ webFlows ↔ r ∈ webFlowsAgain := by
    intro r
    simp only [webFlows, webFlowsAgain, List.mem_cons, List.not_mem_nil, or_false]
    tauto
  have hp : (generate true "web" .cilium none).evalBy (shopAnswers.recording "web" webFlows)
      = .ok _ := rfl
  have hp' : (generate true "web" .cilium none).evalBy (shopAnswers.recording "web" webFlowsAgain)
      = .ok _ := rfl
  exact ⟨hfirst, hsame, _, _, hp, hp', (generate_rearranged hfirst hsame).1 _ _ hp hp'⟩

end Policy

end LeastPrivilege
