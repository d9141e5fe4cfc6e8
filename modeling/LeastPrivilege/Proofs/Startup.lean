import LeastPrivilege.Proofs.ClusterAccess
import LeastPrivilege.Proofs.ReadablePath
import LeastPrivilege.Proofs.SessionLookups
import LeastPrivilege.Proofs.ShownLines

/-!
How a run for policies begins. It connects to the cluster, selects pods, makes the directory for its
output, announces its work, and opens the tunnel to the broker if there is one. Where pods are
listed, it either stops at one of the other steps (`Run.Stops`), or its results are those of the
work on these pods (`Run.ends_policies`).
-/

namespace LeastPrivilege

namespace Session

variable {α : Type} {log : List (Exchange outside)}

/-- The broker that the settings lead to. -/
def brokerOf (s : Settings) : Broker :=
  if s.portForward then Broker.ofUrl (Tunnel.url s) s.requestTimeout
  else Broker.ofUrl s.brokerUrl s.requestTimeout

/-- The exchange puts something out. -/
def IsOutput (e : Exchange outside) : Prop :=
  ∃ q, e.question = .inr (.inr q)

theorem not_isOutput_overWeb (e : Exchange web) : ¬ IsOutput (overWeb e) := nofun

/-- The part belongs to the exchange, and everything that was put out belongs to the part. -/
structure HasOutputOf (part log : List (Exchange outside)) : Prop where
  mem : ∀ e ∈ part, e ∈ log
  output : ∀ e ∈ log, IsOutput e → e ∈ part

/-- The work of a connection ends as it would by itself. -/
theorem ends_withConnection {b : Broker} {use : Broker → Attempt outside α} {r : Except Fault α}
    (h : (withConnection b use).Ends log r) :
    ∃ first, HasOutputOf first log ∧ (use b).Ends first r := by
  obtain ⟨first, result, rest, rfl, huse, hrest⟩ := Inquiry.ends_bind.mp h
  obtain ⟨_, closed, last, rfl, hclosed, hdone⟩ := Inquiry.ends_bind.mp hrest
  obtain ⟨rfl, rfl⟩ := Inquiry.ends_pure.mp hdone
  obtain ⟨asked, -, rfl⟩ := ends_ofWeb.mp hclosed
  refine ⟨first, ⟨fun e he => List.mem_append_left _ he, fun e he hout => ?_⟩, huse⟩
  rw [List.append_nil] at he
  cases List.mem_append.mp he with
  | inl hin => exact hin
  | inr hweb =>
    obtain ⟨d, -, rfl⟩ := List.mem_map.mp hweb
    exact absurd hout (not_isOutput_overWeb d)

/-- The exchange of a tunnel or of the work in it, as one with everything outside. -/
def merged : Exchange (tunnelWork.or outside) → Exchange outside
  | ⟨.inl q, a⟩ => ⟨.inl q, a⟩
  | ⟨.inr q, a⟩ => ⟨q, a⟩

theorem passed_answerEither {asked : List (Exchange (tunnelWork.or outside))}
    (h : Inquiry.Passed answerEither asked log) : log = asked.map merged := by
  induction h with
  | nil => rfl
  | @cons e rest log log' h _ ih =>
    obtain ⟨question, given⟩ := e
    cases question with
    | inl q =>
      have hlog := Inquiry.ends_put.mp h
      rw [hlog, ih]
      rfl
    | inr q =>
      have hlog := Inquiry.ends_put.mp h
      rw [hlog, ih]
      rfl

theorem not_isOutput_of_tunnel {asked : List (Exchange tunnelWork)} {e : Exchange outside}
    (he : e ∈ (asked.map Exchange.inLeft).map merged) : ¬ IsOutput e := by
  obtain ⟨_, hin, rfl⟩ := List.mem_map.mp he
  obtain ⟨d, -, rfl⟩ := List.mem_map.mp hin
  exact nofun

/-- There is a tunnel to the broker, and it did not open for this fault. -/
def TunnelFails (s : Settings) (log : List (Exchange outside)) (fault : Fault) : Prop :=
  s.portForward = true ∧ ∃ asked t, (∀ e ∈ asked, Exchange.inLeft e ∈ log) ∧
    (Tunnel.openUp s {}).Ends asked (.error fault, t)

/-- Work behind a tunnel ends as it would by itself, unless the tunnel does not open. -/
theorem ends_during {limit : Nat} {s : Settings} {work : Inquiry outside (Except Fault α)}
    {t t' : Tunnel} {asked : List (Exchange (tunnelWork.or outside))} {r : Except Fault α}
    (h : (Tunnel.during limit s work t).Ends asked (r, t')) :
    ((∃ entry fault, (∀ e ∈ entry, Exchange.inLeft e ∈ asked.map merged) ∧ r = .error fault ∧
      (Tunnel.openWithin limit s t).Ends entry (.error fault, t')) ∧
      ∀ e ∈ asked.map merged, ¬ IsOutput e) ∨
    ∃ first, HasOutputOf first (asked.map merged) ∧ work.Ends first r := by
  obtain ⟨_, opened, rest, rfl, hopened, hrest⟩ := Inquiry.ends_bind.mp h
  obtain ⟨entry, hentry, rfl⟩ := Inquiry.ends_inLeft.mp hopened
  obtain ⟨result, t₁⟩ := opened
  cases result with
  | error fault =>
    obtain ⟨rfl, hr⟩ := Inquiry.ends_pure.mp hrest
    obtain ⟨rfl, rfl⟩ := Prod.mk.inj hr
    rw [List.append_nil]
    refine .inl ⟨⟨entry, fault, fun e he => ?_, rfl, hentry⟩, fun e => not_isOutput_of_tunnel⟩
    exact List.mem_map.mpr ⟨e.inLeft, List.mem_map_of_mem he, rfl⟩
  | ok u =>
    obtain ⟨_, result, _, rfl, hworked, hclose⟩ := Inquiry.ends_bind.mp hrest
    obtain ⟨worked, hwork, rfl⟩ := Inquiry.ends_inRight.mp hworked
    obtain ⟨_, t₂, _, rfl, hclosed, hdone⟩ := Inquiry.ends_bind.mp hclose
    obtain ⟨closing, -, rfl⟩ := Inquiry.ends_inLeft.mp hclosed
    obtain ⟨rfl, hr⟩ := Inquiry.ends_pure.mp hdone
    obtain ⟨rfl, -⟩ := Prod.mk.inj hr
    have hmerged : (worked.map Exchange.inRight).map merged = worked := by
      rw [List.map_map]
      exact List.map_id worked
    rw [List.append_nil, List.map_append, List.map_append, hmerged]
    refine .inr ⟨worked, ⟨fun e he => ?_, fun e he hout => ?_⟩, hwork⟩
    · exact List.mem_append_right _ (List.mem_append_left _ he)
    · rcases List.mem_append.mp he with hopening | he
      · exact absurd hout (not_isOutput_of_tunnel hopening)
      · cases List.mem_append.mp he with
        | inl hin => exact hin
        | inr hclosing => exact absurd hout (not_isOutput_of_tunnel hclosing)

/-- Work with a broker ends as it would by itself with the broker that the settings lead to, unless
the tunnel does not open. -/
theorem ends_withBroker {s : Settings} {use : Broker → Attempt outside α} {r : Except Fault α}
    (h : (withBroker s use).Ends log r) :
    (∃ fault, r = .error fault ∧ TunnelFails s log fault ∧ ∀ e ∈ log, ¬ IsOutput e) ∨
      ∃ first, HasOutputOf first log ∧ (use (brokerOf s)).Ends first r := by
  unfold withBroker at h
  unfold brokerOf
  cases hforward : s.portForward with
  | false =>
    rw [hforward, if_neg nofun] at h
    exact .inr (ends_withConnection h)
  | true =>
    rw [hforward, if_pos rfl] at h
    obtain ⟨first, ⟨result, t⟩, rest, rfl, hduring, hdone⟩ := Inquiry.ends_bind.mp h
    obtain ⟨rfl, rfl⟩ := Inquiry.ends_pure.mp hdone
    obtain ⟨asked, hends, hpassed⟩ := Inquiry.ends_through.mp hduring
    rw [List.append_nil, passed_answerEither hpassed]
    rcases ends_during hends with
      ⟨⟨entry, fault, hentry, hr, hopened⟩, hquiet⟩ | ⟨worked, hsub, hwork⟩
    · exact .inl ⟨fault, hr, ⟨hforward, entry, t, hentry, hopened⟩, hquiet⟩
    · obtain ⟨part, hpart, huse⟩ := ends_withConnection hwork
      refine .inr ⟨part, ⟨fun e he => hsub.mem e (hpart.mem e he), fun e he hout => ?_⟩, huse⟩
      exact hpart.output e (hsub.output e he hout) hout

end Session

namespace Run

open Session

variable {env : Environment} {s : Settings} {selection : Selection} {schema : Schema}
  {pods : List Pod} {log : List (Exchange outside)}

/-! ## Steps -/

theorem ends_sayLines : ∀ {lines : List Text} {log : List (Exchange outside)}
    {x : Except Fault Unit}, (lines.forM say).Ends log x → x = .ok ()
  | [], log, x, h => (Attempt.ends_pure.mp h).2
  | line :: rest, log, x, h => by
    have hsaid : ∀ {part : List (Exchange outside)} {y : Except Fault Unit},
        (say line).Ends part y → y = .ok () := by
      intro part y hy
      obtain ⟨_, hput, -⟩ := ends_ofOutlet.mp hy
      obtain ⟨_, -, e⟩ := Attempt.ends_ofInquiry.mp hput
      exact e
    rcases Attempt.ends_bind.mp h with ⟨fault, _, hfault⟩ | ⟨_, _, last, rfl, _, hlast⟩
    · cases hsaid hfault
    · exact ends_sayLines hlast

/-- Lines that can be shown are said. -/
theorem ends_sayShown {lines : Except Fault (List Text)} {x : Except Fault Unit}
    (hshown : ∃ shown, lines = .ok shown) (h : (sayShown lines).Ends log x) : x = .ok () := by
  obtain ⟨shown, rfl⟩ := hshown
  rcases Attempt.ends_bind.mp h with ⟨fault, _, hfault⟩ | ⟨_, lines, last, rfl, _, hlast⟩
  · cases (Attempt.ends_ofExcept.mp hfault).2
  · exact ends_sayLines hlast

theorem ends_selectPods {x : Except Fault (List Pod)} (hall : selection.everywhere = true)
    (h : (selectPods env s selection).Ends log x) :
    ∃ reply : Except ApiFailure (List PodObject),
      overCluster ⟨.request s.requestTimeout (.pods none), reply⟩ ∈ log ∧
      ∀ objects, reply = .ok objects → x = .ok (Cluster.running objects) := by
  unfold selectPods at h
  rw [hall, if_pos rfl] at h
  obtain ⟨asked, hasked, rfl⟩ := ends_ofCluster.mp h
  obtain ⟨reply, rfl, rfl⟩ := Cluster.ends_listRunningPods hasked
  refine ⟨reply, List.mem_singleton.mpr rfl, fun objects hobjects => ?_⟩
  rw [hobjects]
  rfl

/-- A directory that was made has a path that can be read. -/
theorem readable_of_makeDirectory {path : FilePath} {d : OutputDirectory}
    (h : (makeDirectory path).Ends log (.ok d)) : Fault.ofPathText d.path.text = .ok () := by
  rcases Attempt.ends_bind.mp h with ⟨_, e, _⟩ | ⟨_, prepared, last, rfl, hprepared, hlast⟩
  · cases e
  obtain ⟨_, hover, e⟩ := Attempt.ends_ofInquiry.mp hprepared
  cases e
  cases prepared with
  | ok u =>
    obtain ⟨-, e⟩ := Attempt.ends_pure.mp hlast
    cases e
    obtain ⟨_, hprepare, -⟩ := ends_ofOutlet.mp hover
    exact OutputDirectory.readable_of_prepare hprepare
  | error fault =>
    cases fault <;> cases (Attempt.ends_throw.mp hlast).2

/-- Why a run stops before its work: the cluster cannot be connected to, the directory for output
cannot be made, or the tunnel to the broker does not open. -/
inductive Stops (s : Settings) (log : List (Exchange outside)) (fault : Fault) : Prop
  | unconnected {asked : List (Exchange cluster)} (hasked : ∀ e ∈ asked, overCluster e ∈ log)
    (h : (Cluster.connect s).Ends asked (.error fault))
  | noDirectory {path : FilePath} {part : List (Exchange outside)} (hpath : s.outputDir = some path)
    (hpart : ∀ e ∈ part, e ∈ log) (h : (makeDirectory path).Ends part (.error fault))
  | noTunnel (h : TunnelFails s log fault)

theorem Stops.mono {log' : List (Exchange outside)} {fault : Fault} (h : Stops s log fault)
    (hsub : ∀ e ∈ log, e ∈ log') : Stops s log' fault := by
  cases h with
  | unconnected hasked h => exact .unconnected (fun e he => hsub _ (hasked e he)) h
  | noDirectory hpath hpart h => exact .noDirectory hpath (fun e he => hsub e (hpart e he)) h
  | noTunnel h =>
    obtain ⟨hforward, asked, t, hasked, hopened⟩ := h
    exact .noTunnel ⟨hforward, asked, t, fun e he => hsub _ (hasked e he), hopened⟩

/-- The result is that of the work on the pods, by a plan that looks idle pods up, and has a
directory whose path can be read if it has one. -/
def Works (s : Settings) (schema : Schema) (pods : List Pod) (log : List (Exchange outside))
    (r : Except Fault (Option (List (PodResult Policy)))) : Prop :=
  ∃ (plan : Plan) (part : List (Exchange outside)) (made : Except Fault (List (PodResult Policy))),
    plan.byName = true ∧
    (∀ d, plan.directory = some d → Fault.ofPathText d.path.text = .ok ()) ∧
    (∀ e ∈ part, e ∈ log) ∧ (makePolicies s plan schema pods (brokerOf s)).Ends part made ∧
    r = made.map some

theorem Works.mono {log' : List (Exchange outside)}
    {r : Except Fault (Option (List (PodResult Policy)))} (h : Works s schema pods log r)
    (hsub : ∀ e ∈ log, e ∈ log') : Works s schema pods log' r := by
  obtain ⟨plan, part, made, hplan, hdirectory, hpart, hrest⟩ := h
  exact ⟨plan, part, made, hplan, hdirectory, fun e he => hsub e (hpart e he), hrest⟩

/-- The announcement is said, so the work begins unless the tunnel does not open. -/
theorem ends_announced (directory : Option OutputDirectory) {width : Nat}
    {r : Except Fault (Option (List (PodResult Policy)))}
    (hdirectory : ∀ d, directory = some d → Fault.ofPathText d.path.text = .ok ())
    (h : Attempt.Ends (do
      sayShown (Console.render width
        ("[bold]flowpolicy[/bold] generating [cyan]" ++ schema.name ++ "[/cyan] policies for "
          ++ Text.decimal pods.length ++ " pod(s)"))
      let plan : Plan :=
        { byName := true, directory, dryRun := s.dryRun, maxWorkers := s.maxWorkers }
      return some (← withBroker s (makePolicies s plan schema pods))) log r) :
    (∃ fault, r = .error fault ∧ Stops s log fault) ∨ Works s schema pods log r := by
  have hshown := announcement_shown schema pods.length width
  rcases Attempt.ends_bind.mp h with ⟨fault, _, hfault⟩ | ⟨first, u, later, rfl, _, hlater⟩
  · cases ends_sayShown hshown hfault
  have hlogged : ∀ e ∈ later, e ∈ first ++ later := fun e he => List.mem_append_right first he
  let plan : Plan := { byName := true, directory, dryRun := s.dryRun, maxWorkers := s.maxWorkers }
  obtain ⟨made, hmade, hr⟩ : ∃ made,
      (withBroker s (makePolicies s plan schema pods)).Ends later made ∧ r = made.map some := by
    rcases Attempt.ends_bind.mp hlater with
      ⟨fault, rfl, hfault⟩ | ⟨_, results, _, rfl, hends, hlast⟩
    · exact ⟨_, hfault, rfl⟩
    · obtain ⟨rfl, rfl⟩ := Attempt.ends_pure.mp hlast
      rw [List.append_nil]
      exact ⟨.ok results, hends, rfl⟩
  rcases ends_withBroker hmade with ⟨fault, rfl, hfails, -⟩ | ⟨part, hpart, hends⟩
  · exact .inl ⟨fault, hr, (Stops.noTunnel hfails).mono hlogged⟩
  · exact .inr ⟨plan, part, made, rfl, hdirectory, fun e he => hlogged e (hpart.mem e he), hends,
      hr⟩

/-- The directory is made if there is to be one, so the work begins unless that or the tunnel
fails. -/
theorem ends_prepared {width : Nat} {r : Except Fault (Option (List (PodResult Policy)))}
    (h : Attempt.Ends (do
      let directory ← match s.outputDir with
        | some path => do pure (some (← makeDirectory path))
        | none => pure none
      sayShown (Console.render width
        ("[bold]flowpolicy[/bold] generating [cyan]" ++ schema.name ++ "[/cyan] policies for "
          ++ Text.decimal pods.length ++ " pod(s)"))
      let plan : Plan :=
        { byName := true, directory, dryRun := s.dryRun, maxWorkers := s.maxWorkers }
      return some (← withBroker s (makePolicies s plan schema pods))) log r) :
    (∃ fault, r = .error fault ∧ Stops s log fault) ∨ Works s schema pods log r := by
  cases hdir : s.outputDir with
  | none =>
    rw [hdir] at h
    dsimp only at h
    rw [pure_bind] at h
    exact ends_announced none nofun h
  | some path =>
    rw [hdir] at h
    dsimp only at h
    rcases Attempt.ends_bind.mp h with ⟨fault, rfl, hfault⟩ | ⟨first, d, later, rfl, hmade, hlater⟩
    · exact .inl ⟨fault, rfl, .noDirectory hdir (fun e he => he) hfault⟩
    have hlogged : ∀ e ∈ later, e ∈ first ++ later := fun e he => List.mem_append_right first he
    have hdirectory : ∀ d', some d = some d' → Fault.ofPathText d'.path.text = .ok () := by
      intro d' e
      cases e
      exact readable_of_makeDirectory hmade
    rw [pure_bind] at hlater
    rcases ends_announced (some d) hdirectory hlater with ⟨fault, hr, hstops⟩ | hworks
    · exact .inl ⟨fault, hr, hstops.mono hlogged⟩
    · exact .inr (hworks.mono hlogged)

/-- A run over all namespaces stops before its work, ends without pods, or works on those that were
listed. -/
theorem ends_policies {r : Except Fault (Option (List (PodResult Policy)))}
    (hall : selection.everywhere = true) (h : (policies env s selection schema).Ends log r)
    (hlisted : ∀ reply : Except ApiFailure (List PodObject),
      overCluster ⟨.request s.requestTimeout (.pods none), reply⟩ ∈ log →
      ∃ objects, reply = .ok objects ∧ Cluster.running objects = pods) :
    (∃ fault, r = .error fault ∧ Stops s log fault) ∨ (pods = [] ∧ r = .ok none) ∨
      Works s schema pods log r := by
  unfold policies at h
  rcases Attempt.ends_bind.mp h with ⟨fault, rfl, hfault⟩ | ⟨first, u, later, rfl, -, hlater⟩
  · obtain ⟨asked, hasked, rfl⟩ := ends_ofCluster.mp hfault
    exact .inl ⟨fault, rfl, .unconnected (fun e he => List.mem_map_of_mem he) hasked⟩
  have hlogged : ∀ e ∈ later, e ∈ first ++ later := fun e he => List.mem_append_right first he
  rcases Attempt.ends_bind.mp hlater with
    ⟨fault, _, hfault⟩ | ⟨second, selected, rest, rfl, hselected, hrest⟩
  · obtain ⟨reply, hreply, hgives⟩ := ends_selectPods hall hfault
    obtain ⟨objects, rfl, -⟩ := hlisted reply (hlogged _ hreply)
    cases hgives objects rfl
  obtain ⟨reply, hreply, hgives⟩ := ends_selectPods hall hselected
  obtain ⟨objects, rfl, rfl⟩ := hlisted reply (hlogged _ (List.mem_append_left rest hreply))
  obtain rfl := Except.ok.inj (hgives objects rfl)
  have hrested : ∀ e ∈ rest, e ∈ first ++ (second ++ rest) :=
    fun e he => hlogged e (List.mem_append_right second he)
  cases hempty : (Cluster.running objects).isEmpty with
  | true =>
    rw [hempty, if_pos rfl] at hrest
    rcases Attempt.ends_bind.mp hrest with ⟨fault, _, hfault⟩ | ⟨_, u, last, rfl, _, hlast⟩
    · cases ends_sayShown (noPods_shown _) hfault
    · exact .inr (.inl ⟨List.isEmpty_iff.mp hempty, (Attempt.ends_pure.mp hlast).2⟩)
  | false =>
    rw [hempty, if_neg nofun] at hrest
    rcases ends_prepared hrest with ⟨fault, hr, hstops⟩ | hworks
    · exact .inl ⟨fault, hr, hstops.mono hrested⟩
    · exact .inr (.inr (hworks.mono hrested))

end Run

end LeastPrivilege
