import LeastPrivilege.Proofs.Aggregation
import Mathlib.Data.List.Forall2
import Mathlib.Data.List.Induction

/-!
Aggregation as grouping. The specification says at once what the fold builds up record by record:
the records that are accepted in a direction, one rule for each of their addresses, and in it their
ports, all in the order of their first appearance (`grouped`). Adding one port to such rules gives
the rules of one record more (`addToRules_grouped`), so after every prefix of a run the rules are
the specification of that prefix (`Aggregation.observeAll_grouped`). A record enters only by its
direction, its peer, its protocol and the port of its direction (`Record.Agrees`).
-/

namespace LeastPrivilege

/-! ## First appearances -/

theorem eraseDups_concat {α : Type} [BEq α] [LawfulBEq α] [DecidableEq α] (as : List α) (b : α) :
    (as ++ [b]).eraseDups = if b ∈ as then as.eraseDups else as.eraseDups ++ [b] := by
  rw [List.eraseDups_append]
  by_cases hb : b ∈ as
  · simp [hb, List.removeAll]
  · simp [hb, List.removeAll, List.eraseDups_cons]

theorem nodup_eraseDups {α : Type} [BEq α] [LawfulBEq α] (as : List α) : as.eraseDups.Nodup := by
  induction as using List.reverseRecOn with
  | nil => exact List.nodup_nil
  | append_singleton as b ih =>
    classical
    rw [eraseDups_concat]
    split
    · exact ih
    · rename_i hb
      rw [List.nodup_append]
      refine ⟨ih, by simp, fun x hx y hy e => ?_⟩
      obtain rfl := List.mem_singleton.mp hy
      exact hb (List.mem_eraseDups.mp (e ▸ hx))

theorem addPort_eraseDups (ports : List Port) (p : Port) :
    addPort ports.eraseDups p = (ports ++ [p]).eraseDups := by
  rw [addPort, eraseDups_concat]
  simp only [List.mem_eraseDups]

/-! ## The specification -/

/-- The ports of an address, in the order of their first appearance. -/
def portsOf (shown : List Classified) (ip : Text) : List Port :=
  ((shown.filter fun c => c.peerIp = ip).map (·.port)).eraseDups

/-- One rule for each address with the ports of that address, in the order of their first
appearance. -/
def grouped (direction : Direction) (shown : List Classified) : List Rule :=
  (shown.map (·.peerIp)).eraseDups.map fun ip =>
    { peerIp := ip, direction, ports := portsOf shown ip }

/-- What the record says about the pod, if it is accepted. -/
def Record.shown? (target : Pod) (r : Record) : Option Classified :=
  match r.classify target with
  | .ok (c, _) => c
  | .error _ => none

theorem Record.shown?_eq_some_iff {r : Record} {target : Pod} {c : Classified} :
    r.shown? target = some c ↔ r.Shows target c := by
  unfold Record.shown? Record.Shows
  cases r.classify target with
  | error fault => simp
  | ok said =>
    obtain ⟨found, notices⟩ := said
    simp

/-- What the records that are accepted in a direction say, in their order. -/
def accepted (target : Pod) (direction : Direction) (records : List Record) : List Classified :=
  (records.filterMap (Record.shown? target)).filter fun c => c.direction = direction

/-! ## One port more -/

theorem portsOf_concat (shown : List Classified) (c : Classified) (ip : Text) :
    portsOf (shown ++ [c]) ip
      = if ip = c.peerIp then addPort (portsOf shown ip) c.port else portsOf shown ip := by
  unfold portsOf
  rw [List.filter_append, List.map_append]
  split
  · rename_i hip
    rw [addPort_eraseDups]
    simp [hip]
  · rename_i hip
    simp [Ne.symm hip]

/-- An address that did not appear has no ports. -/
theorem portsOf_eq_nil {shown : List Classified} {ip : Text} (h : ip ∉ shown.map (·.peerIp)) :
    portsOf shown ip = [] := by
  have hnone : shown.filter (fun c => c.peerIp = ip) = [] := by
    rw [List.filter_eq_nil_iff]
    intro c hc hip
    exact h (List.mem_map.mpr ⟨c, hc, by simpa using hip⟩)
  rw [portsOf, hnone]
  rfl

section Keyed

variable {rule : Text → Rule} (hrule : ∀ ip, (rule ip).peerIp = ip) {direction : Direction}
  {ip : Text} {p : Port}

include hrule

/-- Among rules of different addresses the port goes to the one of its address. -/
theorem addToRules_of_mem : ∀ {ips : List Text}, ips.Nodup → ip ∈ ips →
    addToRules direction ip p (ips.map rule) = ips.map fun key =>
      if key = ip then { rule key with ports := addPort (rule key).ports p } else rule key
  | [], _, hmem => absurd hmem List.not_mem_nil
  | key :: rest, hnodup, hmem => by
    obtain ⟨hkey, hrest⟩ := List.nodup_cons.mp hnodup
    rw [List.map_cons, List.map_cons, addToRules]
    by_cases hip : key = ip
    · subst hip
      have hkeep : ∀ other ∈ rest, rule other = if other = key then
          { rule other with ports := addPort (rule other).ports p } else rule other := by
        intro other hother
        rw [if_neg fun e : other = key => hkey (e ▸ hother)]
      rw [if_pos (hrule key), if_pos rfl, ← List.map_congr_left hkeep]
    · have hlater : ip ∈ rest := (List.mem_cons.mp hmem).resolve_left (Ne.symm hip)
      have hother : ¬ (rule key).peerIp = ip := by rwa [hrule]
      rw [if_neg hother, if_neg hip, addToRules_of_mem hrest hlater]

/-- Where no rule has the address, a new rule comes last. -/
theorem addToRules_of_not_mem : ∀ {ips : List Text}, ip ∉ ips →
    addToRules direction ip p (ips.map rule)
      = ips.map rule ++ [{ peerIp := ip, direction, ports := [p] }]
  | [], _ => rfl
  | key :: rest, hmem => by
    obtain ⟨hkey, hrest⟩ := not_or.mp fun h => hmem (List.mem_cons.mpr h)
    rw [List.map_cons, addToRules, hrule, if_neg (Ne.symm hkey), addToRules_of_not_mem hrest]
    rfl

end Keyed

/-- Adding a port to grouped rules groups one record more. -/
theorem addToRules_grouped (direction : Direction) (shown : List Classified) (c : Classified) :
    addToRules direction c.peerIp c.port (grouped direction shown)
      = grouped direction (shown ++ [c]) := by
  have hkey : ∀ ip : Text,
      ({ peerIp := ip, direction, ports := portsOf shown ip } : Rule).peerIp = ip := fun _ => rfl
  unfold grouped
  rw [List.map_append, List.map_singleton, eraseDups_concat]
  -- A known address keeps its place and gets the port; a new one gets a rule behind the others.
  by_cases hmem : c.peerIp ∈ shown.map (·.peerIp)
  · rw [if_pos hmem,
      addToRules_of_mem hkey (nodup_eraseDups _) (List.mem_eraseDups.mpr hmem)]
    refine List.map_congr_left fun ip _ => ?_
    rw [portsOf_concat]
    split <;> rfl
  · have hnew : portsOf (shown ++ [c]) c.peerIp = [c.port] := by
      rw [portsOf_concat, if_pos rfl, portsOf_eq_nil hmem]
      rfl
    rw [if_neg hmem, addToRules_of_not_mem hkey fun h => hmem (List.mem_eraseDups.mp h),
      List.map_append, List.map_singleton, hnew]
    congr 1
    refine List.map_congr_left fun ip hip => ?_
    rw [portsOf_concat, if_neg]
    exact fun e => hmem (e ▸ List.mem_eraseDups.mp hip)

/-! ## One record more -/

theorem accepted_concat_of_shows {target : Pod} {r : Record} {c : Classified}
    (h : r.Shows target c) (direction : Direction) (records : List Record) :
    accepted target direction (records ++ [r])
      = accepted target direction records ++ if c.direction = direction then [c] else [] := by
  unfold accepted
  rw [List.filterMap_append, List.filter_append, List.filterMap_cons_some
    (Record.shown?_eq_some_iff.mpr h), List.filterMap_nil]
  split <;> simp [*]

theorem accepted_concat_of_not_shows {target : Pod} {r : Record}
    (h : ∀ c, ¬ r.Shows target c) (direction : Direction) (records : List Record) :
    accepted target direction (records ++ [r]) = accepted target direction records := by
  have hnone : r.shown? target = none := by
    cases hc : r.shown? target with
    | none => rfl
    | some c => exact absurd (Record.shown?_eq_some_iff.mp hc) (h c)
  unfold accepted
  rw [List.filterMap_append, List.filterMap_cons_none hnone, List.filterMap_nil, List.append_nil]

namespace Aggregation

/-- The rules are the specification of some records. -/
def Groups (a : Aggregation) (target : Pod) (records : List Record) : Prop :=
  ∀ direction, a.rules direction = grouped direction (accepted target direction records)

theorem groups_nil (target : Pod) : Groups {} target [] := by
  intro direction
  cases direction <;> rfl

theorem Groups.observe {a b : Aggregation} {target : Pod} {records : List Record} {r : Record}
    {notices : List Notice} (ha : a.Groups target records)
    (h : a.observe target r = .ok (b, notices)) : b.Groups target (records ++ [r]) := by
  intro direction
  rcases observe_cases target a r with ⟨c, said, hc, e⟩ | ⟨next, said, hnone, e, hrules⟩ |
    ⟨_, -, -, e⟩
  · cases e.symm.trans h
    rw [rules_accept, accepted_concat_of_shows hc, ha direction]
    split
    · rename_i hd
      subst hd
      exact addToRules_grouped _ _ _
    · rw [List.append_nil]
  · cases e.symm.trans h
    rw [hrules, ha direction, accepted_concat_of_not_shows hnone]
  · cases e.symm.trans h

/-- A run over records and more records goes on from what the first ones gave. -/
theorem observeAll_append {target : Pod} (after : List Record) :
    ∀ (before : List Record) (a : Aggregation), (a.observeAll target (before ++ after)).1
      = (a.observeAll target before).1 >>= fun b => (b.observeAll target after).1
  | [], _ => rfl
  | r :: rest, a => by
    rw [List.cons_append]
    cases hr : a.observe target r with
    | ok out => rw [observeAll_cons hr, observeAll_cons hr, observeAll_append after rest]
    | error fault =>
      rw [observeAll_cons_error hr, observeAll_cons_error hr]
      rfl

/-- A run that goes through passes through the state after each prefix. -/
theorem exists_between {target : Pod} {before after : List Record} {a c : Aggregation}
    (h : (a.observeAll target (before ++ after)).1 = .ok c) :
    ∃ b, (a.observeAll target before).1 = .ok b ∧ (b.observeAll target after).1 = .ok c := by
  rw [observeAll_append] at h
  cases hb : (a.observeAll target before).1 with
  | error fault =>
    rw [hb] at h
    cases h
  | ok b =>
    rw [hb] at h
    exact ⟨b, rfl, h⟩

/-- A record that shows nothing in a direction changes no rule of it. -/
theorem rules_observe_of_not_shows {a b : Aggregation} {target : Pod} {r : Record}
    {notices : List Notice} {direction : Direction} (h : a.observe target r = .ok (b, notices))
    (hnone : ∀ c, r.Shows target c → c.direction ≠ direction) :
    b.rules direction = a.rules direction := by
  rcases observe_cases target a r with ⟨c, said, hc, e⟩ | ⟨next, said, -, e, hrules⟩ | ⟨_, -, -, e⟩
  · cases e.symm.trans h
    rw [rules_accept, if_neg (hnone c hc)]
  · cases e.symm.trans h
    rw [hrules]
  · cases e.symm.trans h

end Aggregation

/-! ## What a record enters by -/

/-- The records have the same direction, peer and protocol, and the same port of the direction. -/
structure Record.Agrees (r r' : Record) : Prop where
  direction : r.direction = r'.direction
  peerIp : r.peerIp = r'.peerIp
  protocol : r.protocol = r'.protocol
  port : ∀ d, Direction.ofText r.direction = .ok d → r.portText d = r'.portText d

theorem Record.Agrees.classify {r r' : Record} (h : r.Agrees r') (target : Pod) :
    r.classify target = r'.classify target := by
  unfold Record.classify
  rw [← h.direction, ← h.peerIp, ← h.protocol]
  cases hd : Direction.ofText r.direction with
  | error fault => simp only [bind, Except.bind]
  | ok d => simp only [bind, Except.bind, h.port d hd]

theorem Record.Shows.protocol {r : Record} {target : Pod} {c : Classified}
    (h : r.Shows target c) : c.port.protocol = (Protocol.ofWritten (some r.protocol)).1 := by
  obtain ⟨notices, h⟩ := h
  rcases r.classify_cases target with ⟨f, e⟩ | ⟨more, e⟩ | hshown | ⟨direction, -, e⟩
  · cases e.symm.trans h
  · cases e.symm.trans h
  · obtain ⟨direction, n, protocol, more, -, -, -, -, hp, e⟩ := hshown
    cases e.symm.trans h
    rw [hp]
  · cases e.symm.trans h

namespace Aggregation

/-- Records that agree give the same aggregation; a notice may name another record. -/
theorem observe_agrees {r r' : Record} (h : r.Agrees r') (target : Pod) (a : Aggregation) :
    (a.observe target r).map Prod.fst = (a.observe target r').map Prod.fst := by
  unfold observe
  rw [h.classify target]
  split <;> rfl

theorem observeAll_agrees {target : Pod} {records records' : List Record}
    (h : List.Forall₂ Record.Agrees records records') :
    ∀ a : Aggregation, (a.observeAll target records).1 = (a.observeAll target records').1 := by
  induction h with
  | nil => exact fun _ => rfl
  | @cons r r' _ _ hr _ ih =>
    intro a
    have hstep := observe_agrees hr target a
    cases e : a.observe target r with
    | ok out =>
      obtain ⟨b, notices⟩ := out
      cases e' : a.observe target r' with
      | ok out' =>
        obtain ⟨b', notices'⟩ := out'
        rw [e, e'] at hstep
        obtain rfl : b = b' := Except.ok.inj hstep
        rw [observeAll_cons e, observeAll_cons e', ih]
      | error fault =>
        rw [e, e'] at hstep
        cases hstep
    | error fault =>
      cases e' : a.observe target r' with
      | ok out' =>
        rw [e, e'] at hstep
        cases hstep
      | error fault' =>
        rw [e, e'] at hstep
        cases hstep
        rw [observeAll_cons_error e, observeAll_cons_error e']

variable {target : Pod} {records : List Record} {a : Aggregation}

/-- After every prefix of a run that completes, the rules of each direction are the records
accepted in it, grouped by their addresses, of which none is blank and none the pod's own; what is
accepted stands under the trimmed peer with the port of its direction; a record that shows nothing
in a direction leaves its rules alone; and records that agree with these give the same. -/
theorem observeAll_grouped (h : (observeAll target {} records).1 = .ok a) :
    (∀ before after, records = before ++ after → ∃ b, (observeAll target {} before).1 = .ok b ∧
      (b.observeAll target after).1 = .ok a ∧
      ∀ direction, b.rules direction = grouped direction (accepted target direction before) ∧
        ∀ rule ∈ b.rules direction, Text.trim rule.peerIp ≠ [] ∧ rule.peerIp ≠ target.ip) ∧
    (∀ (r : Record) (c : Classified), r.Shows target c → c.peerIp = Text.trim r.peerIp ∧
      portOfText (r.portText c.direction) = .ok c.port.number ∧
      c.port.protocol = (Protocol.ofWritten (some r.protocol)).1) ∧
    (∀ (b b' : Aggregation) (r : Record) notices direction, b.observe target r = .ok (b', notices) →
      (∀ c, r.Shows target c → c.direction ≠ direction) →
      b'.rules direction = b.rules direction) ∧
    ∀ records', List.Forall₂ Record.Agrees records records' →
      (observeAll target {} records').1 = .ok a := by
  refine ⟨?prefixes, ?form, ?others, ?agree⟩
  case prefixes =>
    rintro before after rfl
    obtain ⟨b, hb, hrest⟩ := exists_between h
    have hgroups : b.Groups target before :=
      observeAll_preserves (P := fun a => a.Groups target) Groups.observe before
        (groups_nil target) hb
    refine ⟨b, hb, hrest, fun direction => ⟨hgroups direction, ?_⟩⟩
    have hsound : b.Sound target := by
      refine observeAll_sound before {} b (fun d rule hrule => ?_) hb
      cases d <;> simp [Aggregation.rules] at hrule
    intro rule hrule
    have hr := hsound direction rule hrule
    exact ⟨by rw [hr.trimmed]; exact hr.named, hr.isForeign⟩
  case form =>
    intro r c hc
    obtain ⟨-, -, hip, hport⟩ := hc.form
    exact ⟨hip, hport, hc.protocol⟩
  case others =>
    intro b b' r notices direction hb hnone
    exact rules_observe_of_not_shows hb hnone
  case agree =>
    intro records' hrecords
    rw [← observeAll_agrees hrecords, h]

/-- One peer, seen on two ports, on one of them twice, and a record without a direction. -/
def cartTraffic : List Record :=
  [{ peerIp := "10.0.0.7", direction := "ingress", targetPort := "80" },
    { peerIp := "10.0.0.7", direction := "sideways", targetPort := "81" },
    { peerIp := " 10.0.0.7", direction := "INGRESS", targetPort := "443" },
    { peerIp := "10.0.0.7", direction := "INGRESS", protocol := "tcp", targetPort := " 80 " }]

theorem cartTraffic_grouped :
    let cart : Pod := { name := "cart", ns := "shop", ip := "10.0.0.1" }
    (∃ a, (observeAll cart {} cartTraffic).1 = .ok a ∧ a.egress = [] ∧ a.ingress =
      [{ peerIp := "10.0.0.7", direction := .ingress, ports := [⟨80, .tcp⟩, ⟨443, .tcp⟩] }]) ∧
    ∃ b, (observeAll cart {} (cartTraffic.take 2)).1 = .ok b ∧
      b.ingress = grouped .ingress (accepted cart .ingress (cartTraffic.take 2)) := by
  intro cart
  have hrun : (observeAll cart {} cartTraffic).1 = .ok _ := rfl
  refine ⟨⟨_, hrun, rfl, rfl⟩, ?_⟩
  obtain ⟨b, hb, -, hrules⟩ := (observeAll_grouped hrun).1 _ _ (List.take_append_drop 2 _).symm
  exact ⟨b, hb, (hrules .ingress).1⟩

end Aggregation

end LeastPrivilege
