import LeastPrivilege.Aggregation
import LeastPrivilege.Proofs.Classification

/-!
What an aggregation holds after a run over records. One step either accepts what a record shows or
leaves the rules as they were (`Aggregation.observe_cases`), and from that, by induction on the
records: the rules admit just what some record shows (`aggregate_admits_iff`), every rule has a
trimmed foreign address and distinct ports in range, at least one (`aggregate_sound`), and the run
ends early exactly at a record with too many digits (`aggregate_error_iff`).
-/

namespace LeastPrivilege

/-! ## Ports of one rule -/

theorem mem_addPort {ports : List Port} {p q : Port} :
    q ∈ addPort ports p ↔ q = p ∨ q ∈ ports := by
  unfold addPort
  split
  · rename_i hp
    constructor
    · exact .inr
    · rintro (rfl | hq)
      · exact hp
      · exact hq
  · simp [or_comm]

theorem addPort_nodup {ports : List Port} {p : Port} (h : ports.Nodup) :
    (addPort ports p).Nodup := by
  unfold addPort
  split
  · exact h
  · rename_i hp
    rw [List.nodup_append]
    refine ⟨h, by simp, ?_⟩
    intro a ha b hb
    obtain rfl : b = p := by simpa using hb
    intro e
    exact hp (e ▸ ha)

theorem addPort_ne_nil (ports : List Port) (p : Port) : addPort ports p ≠ [] :=
  List.ne_nil_of_mem (mem_addPort.mpr (.inl rfl))

/-! ## Rules of one direction -/

/-- A rule of the list has the address and the port. -/
def Admitted (rules : List Rule) (peerIp : Text) (p : Port) : Prop :=
  ∃ rule ∈ rules, rule.peerIp = peerIp ∧ p ∈ rule.ports

theorem admitted_cons {rule : Rule} {rest : List Rule} {ip : Text} {p : Port} :
    Admitted (rule :: rest) ip p ↔ (rule.peerIp = ip ∧ p ∈ rule.ports) ∨ Admitted rest ip p := by
  simp [Admitted]

theorem admitted_addToRules (direction : Direction) (ip : Text) (p : Port) {ip' : Text} {q : Port}
    (rules : List Rule) : Admitted (addToRules direction ip p rules) ip' q ↔
      (ip = ip' ∧ q = p) ∨ Admitted rules ip' q := by
  induction rules with
  | nil => simp [addToRules, Admitted]
  | cons rule rest ih =>
    unfold addToRules
    split
    · rename_i hip
      subst hip
      rw [admitted_cons, admitted_cons, mem_addPort]
      tauto
    · rw [admitted_cons, admitted_cons, ih]
      tauto

/-- A rule after a port was added is an old one, an old one with the port, or a new one. -/
theorem mem_addToRules {direction : Direction} {ip : Text} {p : Port} {rule : Rule}
    {rules : List Rule} (h : rule ∈ addToRules direction ip p rules) :
    rule ∈ rules ∨
    (∃ old ∈ rules, old.peerIp = ip ∧ rule = { old with ports := addPort old.ports p }) ∨
    rule = { peerIp := ip, direction, ports := [p] } := by
  induction rules with
  | nil => exact .inr (.inr (by simpa [addToRules] using h))
  | cons first rest ih =>
    unfold addToRules at h
    split at h
    · rename_i hip
      rcases List.mem_cons.mp h with rfl | h
      · exact .inr (.inl ⟨first, by simp, hip, rfl⟩)
      · exact .inl (by simp [h])
    · rcases List.mem_cons.mp h with rfl | h
      · exact .inl (by simp)
      · rcases ih h with h | ⟨old, hold, hip, rfl⟩ | rfl
        · exact .inl (by simp [h])
        · exact .inr (.inl ⟨old, by simp [hold], hip, rfl⟩)
        · exact .inr (.inr rfl)

/-- A rule as aggregation keeps it: a foreign address, and ports in range without repetition. -/
structure Rule.Sound (rule : Rule) (target : Pod) : Prop where
  named : rule.peerIp ≠ []
  trimmed : Text.trim rule.peerIp = rule.peerIp
  isForeign : rule.peerIp ≠ target.ip
  hasPorts : rule.ports ≠ []
  distinct : rule.ports.Nodup
  inRange : ∀ p ∈ rule.ports, 1 ≤ p.number ∧ p.number ≤ 65535

theorem sound_addToRules {target : Pod} {c : Classified} (hc : c.Sound target) {rules : List Rule}
    (h : ∀ rule ∈ rules, rule.Sound target) :
    ∀ rule ∈ addToRules c.direction c.peerIp c.port rules, rule.Sound target := by
  intro rule hrule
  rcases mem_addToRules hrule with hold | ⟨old, hold, -, rfl⟩ | rfl
  · exact h rule hold
  · have ho := h old hold
    refine ⟨ho.named, ho.trimmed, ho.isForeign, addPort_ne_nil _ _, addPort_nodup ho.distinct, ?_⟩
    intro p hp
    rcases mem_addPort.mp hp with rfl | hp
    · exact hc.inRange
    · exact ho.inRange p hp
  · refine ⟨hc.named, hc.trimmed, hc.isForeign, by simp, by simp, ?_⟩
    intro p hp
    obtain rfl : p = c.port := by simpa using hp
    exact hc.inRange

namespace Aggregation

/-! ## One record -/

/-- The rules admit what is classified so. -/
def Admits (a : Aggregation) (c : Classified) : Prop :=
  Admitted (a.rules c.direction) c.peerIp c.port

/-- Every rule is sound. -/
def Sound (a : Aggregation) (target : Pod) : Prop :=
  ∀ direction, ∀ rule ∈ a.rules direction, rule.Sound target

theorem rules_accept (a : Aggregation) (c : Classified) (direction : Direction) :
    (a.accept c).rules direction
      = if c.direction = direction then addToRules c.direction c.peerIp c.port (a.rules direction)
        else a.rules direction := by
  obtain ⟨d, ip, p⟩ := c
  cases d <;> cases direction <;> rfl

theorem admits_accept (a : Aggregation) (c c' : Classified) :
    (a.accept c).Admits c' ↔ c = c' ∨ a.Admits c' := by
  obtain ⟨d, ip, p⟩ := c
  obtain ⟨d', ip', q⟩ := c'
  simp only [Admits, rules_accept, Classified.mk.injEq]
  split
  · rename_i hd
    subst hd
    rw [admitted_addToRules]
    tauto
  · tauto

theorem sound_accept {a : Aggregation} {target : Pod} {c : Classified} (h : a.Sound target)
    (hc : c.Sound target) : (a.accept c).Sound target := by
  intro direction
  rw [rules_accept]
  split
  · exact sound_addToRules hc (h direction)
  · exact h direction

/-- A step accepts what the record shows, or keeps the rules where it shows nothing, or ends at a
record with too many digits. -/
theorem observe_cases (target : Pod) (a : Aggregation) (r : Record) :
    (∃ c notices, r.Shows target c ∧ a.observe target r = .ok (a.accept c, notices)) ∨
    (∃ b notices, (∀ c, ¬ r.Shows target c) ∧ a.observe target r = .ok (b, notices) ∧
      b.rules = a.rules) ∨
    (∃ direction, r.Overlong target direction ∧ (∀ c, ¬ r.Shows target c) ∧ a.observe target r
      = .error (.value (.tooManyDigits (Text.trim (r.portText direction)).length))) := by
  have none_of : ∀ {result}, r.classify target = result →
      (∀ c notices, result ≠ .ok (some c, notices)) →
      ∀ c, ¬ r.Shows target c := by
    rintro result e h c ⟨notices, hc⟩
    exact h c notices (e ▸ hc)
  rcases r.classify_cases target with ⟨f, e⟩ | ⟨notices, e⟩ | hshown | ⟨direction, hlong, e⟩
  · refine .inr (.inl ⟨_, _, none_of e (by simp), by simp only [observe, e]; rfl, ?_⟩)
    funext d
    cases d <;> rfl
  · refine .inr (.inl ⟨_, _, none_of e (by simp), by simp only [observe, e]; rfl, ?_⟩)
    funext d
    cases d <;> rfl
  · obtain ⟨direction, n, protocol, notices, -, -, -, -, -, e⟩ := hshown
    exact .inl ⟨_, notices, ⟨notices, e⟩, by simp only [observe, e]⟩
  · exact .inr (.inr ⟨direction, hlong, none_of e (by simp), by simp only [observe, e]⟩)

theorem observe_overlong {target : Pod} {a : Aggregation} {r : Record} {direction : Direction}
    (h : r.Overlong target direction) : a.observe target r
      = .error (.value (.tooManyDigits (Text.trim (r.portText direction)).length)) := by
  simp only [observe, Record.classify_overlong h]

/-! ## A run over records -/

theorem observeAll_cons {target : Pod} {a b : Aggregation} {r : Record} {notices : List Notice}
    (h : a.observe target r = .ok (b, notices)) (rest : List Record) :
    (a.observeAll target (r :: rest)).1 = (b.observeAll target rest).1 := by
  simp only [observeAll, h]

theorem observeAll_cons_error {target : Pod} {a : Aggregation} {r : Record} {fault : Fault}
    (h : a.observe target r = .error fault) (rest : List Record) :
    (a.observeAll target (r :: rest)).1 = .error fault := by
  simp only [observeAll, h]

/-- What holds of some records after a step for one more holds of all records after a run. -/
theorem observeAll_preserves {target : Pod} {P : Aggregation → List Record → Prop}
    (hstep : ∀ {a b : Aggregation} {records : List Record} {r : Record} {notices : List Notice},
      P a records → a.observe target r = .ok (b, notices) → P b (records ++ [r])) :
    ∀ (records : List Record) {earlier : List Record} {a b : Aggregation}, P a earlier →
      (a.observeAll target records).1 = .ok b → P b (earlier ++ records)
  | [], earlier, a, b, ha, h => by
    cases h
    rwa [List.append_nil]
  | r :: rest, earlier, a, b, ha, h => by
    cases hr : a.observe target r with
    | ok out =>
      obtain ⟨next, notices⟩ := out
      rw [observeAll_cons hr] at h
      have hnext := observeAll_preserves hstep rest (hstep ha hr) h
      rwa [List.append_assoc] at hnext
    | error fault =>
      rw [observeAll_cons_error hr] at h
      cases h

theorem admits_congr {a b : Aggregation} (h : b.rules = a.rules) (c : Classified) :
    b.Admits c ↔ a.Admits c := by
  simp only [Admits, h]

/-- After a step the rules admit what they did before and what the record shows. -/
theorem observe_admits {target : Pod} {a b : Aggregation} {r : Record} {notices : List Notice}
    (h : a.observe target r = .ok (b, notices)) (c : Classified) :
    b.Admits c ↔ a.Admits c ∨ r.Shows target c := by
  rcases observe_cases target a r with ⟨c', said, hc, e⟩ | ⟨next, said, hnone, e, hrules⟩ |
    ⟨_, -, -, e⟩
  · cases e.symm.trans h
    -- A record shows at most one thing, so accepting it adds just that.
    have hshown : c' = c ↔ r.Shows target c := ⟨fun eq => eq ▸ hc, fun h' => hc.unique h'⟩
    rw [admits_accept, hshown, or_comm]
  · cases e.symm.trans h
    rw [admits_congr hrules]
    exact (or_iff_left (hnone c)).symm
  · cases e.symm.trans h

/-- After a run the rules admit what they did before and what some record shows. -/
theorem observeAll_admits {target : Pod} (c : Classified) (records : List Record)
    (a b : Aggregation) (h : (a.observeAll target records).1 = .ok b) :
    b.Admits c ↔ a.Admits c ∨ ∃ r ∈ records, r.Shows target c := by
  let shows (b : Aggregation) (records : List Record) : Prop :=
    b.Admits c ↔ a.Admits c ∨ ∃ r ∈ records, r.Shows target c
  have hstart : shows a [] := by simp [shows]
  have hstep : ∀ {a b : Aggregation} {records : List Record} {r : Record} {notices : List Notice},
      shows a records → a.observe target r = .ok (b, notices) → shows b (records ++ [r]) := by
    intro a b records r notices ha hr
    simp only [shows] at ha ⊢
    rw [observe_admits hr, ha]
    simp only [List.mem_append, List.mem_singleton, or_and_right, exists_or, exists_eq_left,
      or_assoc]
  exact observeAll_preserves hstep records hstart h

theorem Sound.observe {target : Pod} {a b : Aggregation} {r : Record} {notices : List Notice}
    (ha : a.Sound target) (h : a.observe target r = .ok (b, notices)) : b.Sound target := by
  rcases observe_cases target a r with ⟨c, said, hc, e⟩ | ⟨next, said, -, e, hrules⟩ |
    ⟨_, -, -, e⟩
  · cases e.symm.trans h
    exact sound_accept ha hc.sound
  · cases e.symm.trans h
    intro direction
    rw [hrules]
    exact ha direction
  · cases e.symm.trans h

theorem observeAll_sound {target : Pod} (records : List Record) (a b : Aggregation)
    (ha : a.Sound target) (h : (a.observeAll target records).1 = .ok b) : b.Sound target :=
  @observeAll_preserves target (fun a _ => a.Sound target) Sound.observe records [] a b ha h

/-- A run ends early just if some record has a port with too many digits, and with no other
fault. -/
theorem observeAll_error_iff {target : Pod} : ∀ (records : List Record) (a : Aggregation),
    (∃ n, (a.observeAll target records).1 = .error (.value (.tooManyDigits n))) ↔
      ∃ r ∈ records, ∃ direction, r.Overlong target direction
  | [], a => by simp [observeAll]
  | r :: rest, a => by
    simp only [List.mem_cons, exists_eq_or_imp]
    rcases observe_cases target a r with ⟨c, notices, -, e⟩ | ⟨next, notices, -, e, -⟩ |
      ⟨direction, hlong, -, e⟩
    · rw [observeAll_cons e, observeAll_error_iff rest]
      refine ⟨.inr, Or.rec ?_ id⟩
      rintro ⟨direction, hlong⟩
      rw [observe_overlong hlong] at e
      cases e
    · rw [observeAll_cons e, observeAll_error_iff rest]
      refine ⟨.inr, Or.rec ?_ id⟩
      rintro ⟨direction, hlong⟩
      rw [observe_overlong hlong] at e
      cases e
    · rw [observeAll_cons_error e]
      exact ⟨fun _ => .inl ⟨direction, hlong⟩, fun _ => ⟨_, rfl⟩⟩

theorem observeAll_error {target : Pod} : ∀ (records : List Record) (a : Aggregation)
    (fault : Fault), (a.observeAll target records).1 = .error fault →
    ∃ n, fault = .value (.tooManyDigits n)
  | [], _, _, h => by cases h
  | r :: rest, a, fault, h => by
    rcases observe_cases target a r with ⟨c, notices, -, e⟩ | ⟨next, notices, -, e, -⟩ |
      ⟨direction, -, -, e⟩
    · rw [observeAll_cons e] at h
      exact observeAll_error rest _ fault h
    · rw [observeAll_cons e] at h
      exact observeAll_error rest _ fault h
    · rw [observeAll_cons_error e] at h
      cases h
      exact ⟨_, rfl⟩

end Aggregation

/-! ## All records of a pod -/

theorem aggregate_fst (records : List Record) (target : Pod) :
    (aggregate records target).1 = (Aggregation.observeAll target {} records).1 := by
  unfold aggregate
  split
  · rename_i e
    rw [e]
  · rename_i e
    rw [e]

variable {records : List Record} {target : Pod} {a : Aggregation}

/-- The rules admit what some record shows and nothing else. -/
theorem aggregate_admits_iff (h : (aggregate records target).1 = .ok a) (c : Classified) :
    a.Admits c ↔ ∃ r ∈ records, r.Shows target c := by
  rw [aggregate_fst] at h
  rw [Aggregation.observeAll_admits c records {} a h]
  have : ¬ Aggregation.Admits {} c := by
    rintro ⟨rule, hrule, -⟩
    cases hc : c.direction <;> simp [hc, Aggregation.rules] at hrule
  tauto

theorem aggregate_sound (h : (aggregate records target).1 = .ok a) : a.Sound target := by
  rw [aggregate_fst] at h
  refine Aggregation.observeAll_sound records {} a ?_ h
  intro direction rule hrule
  cases direction <;> simp [Aggregation.rules] at hrule

/-- There is a rule for an address just if some record shows traffic with it. -/
theorem exists_rule_iff (h : (aggregate records target).1 = .ok a) (d : Direction) (ip : Text) :
    (∃ rule ∈ a.rules d, rule.peerIp = ip) ↔
      ∃ r ∈ records, ∃ port, r.Shows target ⟨d, ip, port⟩ := by
  constructor
  · rintro ⟨rule, hrule, rfl⟩
    -- A rule has a port, and the rules admit it.
    obtain ⟨port, hport⟩ := List.exists_mem_of_ne_nil _ (aggregate_sound h d rule hrule).hasPorts
    have hadmits : a.Admits ⟨d, rule.peerIp, port⟩ := ⟨rule, hrule, rfl, hport⟩
    obtain ⟨r, hr, hshown⟩ := (aggregate_admits_iff h _).mp hadmits
    exact ⟨r, hr, port, hshown⟩
  · rintro ⟨r, hr, port, hshown⟩
    obtain ⟨rule, hrule, hip, -⟩ := (aggregate_admits_iff h _).mpr ⟨r, hr, hshown⟩
    exact ⟨rule, hrule, hip⟩

/-- No records give a fault but those of which one has a port with too many digits. -/
theorem aggregate_error_iff :
    (∃ fault, (aggregate records target).1 = .error fault) ↔
      ∃ r ∈ records, ∃ direction, r.Overlong target direction := by
  rw [aggregate_fst, ← Aggregation.observeAll_error_iff records {}]
  constructor
  · rintro ⟨fault, h⟩
    obtain ⟨n, rfl⟩ := Aggregation.observeAll_error records {} fault h
    exact ⟨n, h⟩
  · rintro ⟨n, h⟩
    exact ⟨_, h⟩

theorem aggregate_error {fault : Fault} (h : (aggregate records target).1 = .error fault) :
    ∃ n, fault = .value (.tooManyDigits n) := by
  rw [aggregate_fst] at h
  exact Aggregation.observeAll_error records {} fault h

end LeastPrivilege
