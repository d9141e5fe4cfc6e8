import LeastPrivilege.Proofs.Decimal
import LeastPrivilege.Proofs.Grouping

/-!
Every record is counted once. What a record counts as is read off its fields (`Record.outcome`),
and a step counts just that, unless the port has more digits than a number is read from: such a
record ends the aggregation (`Aggregation.observe_outcome`). By induction the counts after a run
are the numbers of records of each outcome, and the rules hold at most one port for each record
that is accepted (`aggregate_counts`). An invalid record could as well be left out: all that comes
of it is its count (`Aggregation.observeAll_without`).
-/

namespace LeastPrivilege

/-! ## What a record counts as -/

/-- What a record counts as. -/
inductive Outcome where
  | accepted
  | skipped
  | invalid
  deriving DecidableEq, Repr

/-- The port that a text spells: a decimal number from 1 to 65535, with white space around it at
most. -/
def portSpelled? (text : Text) : Option Nat :=
  (Text.readDecimal? (Text.trim text)).filter fun n => 1 ≤ n && n ≤ 65535

/-- The record counts as invalid where its direction is unknown, or its peer is another than the
pod and the port of its direction spells none. -/
def Record.outcome (r : Record) (target : Pod) : Outcome :=
  match Direction.ofText r.direction with
  | .error _ => .invalid
  | .ok direction =>
    if Text.trim r.peerIp = [] ∨ Text.trim r.peerIp = target.ip then .skipped
    else if (portSpelled? (r.portText direction)).isSome then .accepted
    else .invalid

theorem Record.outcome_of_port {r : Record} {target : Pod} {direction : Direction}
    (hd : Direction.ofText r.direction = .ok direction) (hpeer : Text.trim r.peerIp ≠ [])
    (hown : Text.trim r.peerIp ≠ target.ip) : r.outcome target
      = if (portSpelled? (r.portText direction)).isSome then .accepted else .invalid := by
  simp only [outcome, hd, hpeer, hown, or_self, if_false]

/-- A port is read where one is spelled, from as many digits as a number is read from. -/
theorem portOfText_ok_iff {text : Text} {n : Int} : portOfText text = .ok n ↔
    (Text.trim text).length ≤ Number.maxDigits ∧ ∃ m, portSpelled? text = some m ∧ n = m := by
  simp only [portOfText, portSpelled?, Text.readDecimal?, Option.filter_eq_some_iff]
  by_cases hform : ((Text.trim text).isEmpty || !(Text.trim text).all Text.isDigit) = true
  · simp [hform]
  · rw [if_neg hform, if_neg hform]
    by_cases hlong : Number.maxDigits < (Text.trim text).length
    · simp [hlong, Nat.not_le.mpr hlong]
    · rw [if_neg hlong, portInRange]
      split
      · rename_i hrange
        simp only [Bool.or_eq_true, decide_eq_true_eq] at hrange
        simp
        omega
      · rename_i hrange
        simp only [Bool.or_eq_true, decide_eq_true_eq] at hrange
        simp
        omega

/-- The text of a port that is read as none spells none. -/
theorem portSpelled?_eq_none {text : Text} {f : RecordFault}
    (h : portOfText text = .error (.record f)) : portSpelled? text = none := by
  cases hs : portSpelled? text with
  | none => rfl
  | some m =>
    obtain ⟨hread, -⟩ := Option.filter_eq_some_iff.mp hs
    by_cases hlong : Number.maxDigits < (Text.trim text).length
    · have hdigits : (Text.trim text).all Text.isDigit = true := by
        unfold Text.readDecimal? at hread
        split at hread
        · cases hread
        · simp_all
      rw [portOfText_overlong hdigits hlong] at h
      cases h
    · have hport := portOfText_ok_iff.mpr ⟨Nat.not_lt.mp hlong, m, hs, rfl⟩
      rw [hport] at h
      cases h

/-- More than five digits, of which the first is not zero, are past the last port. -/
theorem portSpelled?_of_many {text rest : Text} {c : CodePoint} (htext : Text.trim text = c :: rest)
    (hc : 0 < Text.digitValue c) (hrest : 5 ≤ rest.length) : portSpelled? text = none := by
  have hpow : 10 ^ 5 ≤ 10 ^ rest.length := Nat.pow_le_pow_right (by decide) hrest
  have hlarge : 65535 < Text.digitsValue (c :: rest) := by
    rw [Text.digitsValue_cons]
    calc 65535 < 1 * 10 ^ 5 := by decide
      _ ≤ Text.digitValue c * 10 ^ rest.length := Nat.mul_le_mul hc hpow
      _ ≤ _ := Nat.le_add_right _ _
  rw [portSpelled?, htext, Option.filter_eq_none_iff]
  intro n hn hrange
  unfold Text.readDecimal? at hn
  split at hn
  · cases hn
  · cases hn
    simp only [Bool.and_eq_true, decide_eq_true_eq] at hrange
    omega

/-- Short of too many digits, a record is classified as what it counts as. -/
theorem Record.classify_outcome {r : Record} {target : Pod}
    (hshort : ∀ direction, ¬ r.Overlong target direction) :
    (r.outcome target = .accepted ∧ ∃ c, r.Shows target c) ∨
    (r.outcome target = .skipped ∧ ∃ notices, r.classify target = .ok (none, notices)) ∨
    (r.outcome target = .invalid ∧ ∃ f, r.classify target = .error (.record f)) := by
  cases hd : Direction.ofText r.direction with
  | error fault =>
    obtain ⟨f, rfl⟩ := Direction.ofText_error hd
    exact .inr (.inr ⟨by simp only [outcome, hd], f, by simp [classify, hd, bind, Except.bind]⟩)
  | ok direction =>
    by_cases hempty : Text.trim r.peerIp = []
    · exact .inr (.inl ⟨by simp [outcome, hd, hempty], [],
        by simp [classify, hd, hempty, bind, Except.bind, pure, Except.pure]⟩)
    by_cases hown : Text.trim r.peerIp = target.ip
    · rw [hown] at hempty
      exact .inr (.inl ⟨by simp [outcome, hd, hown], [.ownTraffic target.ip target.ip],
        by simp [classify, hd, hown, hempty, bind, Except.bind, pure, Except.pure]⟩)
    cases hport : portOfText (r.portText direction) with
    | ok n =>
      obtain ⟨-, m, hm, -⟩ := portOfText_ok_iff.mp hport
      refine .inl ⟨by simp [outcome_of_port hd hempty hown, hm],
        ⟨direction, Text.trim r.peerIp, ⟨n, (Protocol.ofWritten (some r.protocol)).1⟩⟩,
        (Protocol.ofWritten (some r.protocol)).2, ?_⟩
      simp [classify, hd, hempty, hown, hport, bind, Except.bind, pure, Except.pure]
    | error fault =>
      rcases portOfText_error hport with ⟨f, rfl⟩ | ⟨hdigits, hlong, -⟩
      · have hnone := portSpelled?_eq_none hport
        exact .inr (.inr ⟨by simp [outcome_of_port hd hempty hown, hnone], f,
          by simp [classify, hd, hempty, hown, hport, bind, Except.bind]⟩)
      · exact absurd ⟨hd, hempty, hown, hdigits, hlong⟩ (hshort direction)

namespace Tally

/-- One more record of an outcome. -/
def add (t : Tally) : Outcome → Tally
  | .accepted => { t with accepted := t.accepted + 1 }
  | .skipped => { t with skipped := t.skipped + 1 }
  | .invalid => { t with invalid := t.invalid + 1 }

/-- The number of records of an outcome. -/
def count (t : Tally) : Outcome → Nat
  | .accepted => t.accepted
  | .skipped => t.skipped
  | .invalid => t.invalid

theorem count_add (t : Tally) (outcome outcome' : Outcome) :
    (t.add outcome).count outcome' = t.count outcome' + if outcome = outcome' then 1 else 0 := by
  cases outcome <;> cases outcome' <;> rfl

end Tally

/-! ## Ports of rules -/

/-- The number of ports over all rules. -/
def portsIn (rules : List Rule) : Nat :=
  (rules.map fun rule => rule.ports.length).sum

theorem length_addPort_le (ports : List Port) (p : Port) :
    (addPort ports p).length ≤ ports.length + 1 := by
  unfold addPort
  split
  · omega
  · rw [List.length_append, List.length_singleton]

theorem portsIn_addToRules_le (direction : Direction) (ip : Text) (p : Port) (rules : List Rule) :
    portsIn (addToRules direction ip p rules) ≤ portsIn rules + 1 := by
  induction rules with
  | nil => simp [addToRules, portsIn]
  | cons rule rest ih =>
    unfold addToRules
    simp only [portsIn] at ih ⊢
    split
    · have := length_addPort_le rule.ports p
      simp only [List.map_cons, List.sum_cons]
      omega
    · simp only [List.map_cons, List.sum_cons]
      omega

namespace Aggregation

/-! ## One record -/

/-- A step counts what the record counts as, and changes rules only where it is accepted. -/
theorem observe_outcome {target : Pod} {r : Record}
    (hshort : ∀ direction, ¬ r.Overlong target direction) (a : Aggregation) :
    (r.outcome target = .accepted ∧ ∃ c notices, r.Shows target c ∧
      a.observe target r = .ok (a.accept c, notices)) ∨
    (r.outcome target ≠ .accepted ∧ ∃ notices,
      a.observe target r = .ok ({ a with tally := a.tally.add (r.outcome target) }, notices)) := by
  rcases Record.classify_outcome hshort with ⟨ho, c, notices, e⟩ | ⟨ho, notices, e⟩ | ⟨ho, f, e⟩
  · exact .inl ⟨ho, c, notices, ⟨notices, e⟩, by simp only [observe, e]⟩
  · exact .inr ⟨by simp [ho], notices, by simp only [observe, e, ho, Tally.add]⟩
  · exact .inr ⟨by simp [ho], _, by simp only [observe, e, ho, Tally.add]; rfl⟩

theorem tally_accept (a : Aggregation) (c : Classified) :
    (a.accept c).tally = a.tally.add .accepted := by
  obtain ⟨direction, ip, p⟩ := c
  cases direction <;> rfl

/-- An overlong record gives no step, and any other counts as one outcome. -/
theorem count_observe {target : Pod} {r : Record}
    (hshort : ∀ direction, ¬ r.Overlong target direction) (a : Aggregation) :
    ∃ b notices, a.observe target r = .ok (b, notices) ∧ ∀ outcome, b.tally.count outcome
      = a.tally.count outcome + if r.outcome target = outcome then 1 else 0 := by
  rcases observe_outcome hshort a with ⟨ho, c, notices, -, e⟩ | ⟨-, notices, e⟩
  · refine ⟨_, notices, e, fun outcome => ?_⟩
    rw [tally_accept, Tally.count_add, ho]
  · exact ⟨_, notices, e, Tally.count_add _ _⟩

/-! ## Ports -/

/-- The number of ports over all rules of both directions. -/
def portCount (a : Aggregation) : Nat :=
  portsIn a.ingress + portsIn a.egress

theorem portCount_accept_le (a : Aggregation) (c : Classified) :
    (a.accept c).portCount ≤ a.portCount + 1 := by
  obtain ⟨direction, ip, p⟩ := c
  cases direction with
  | ingress =>
    have := portsIn_addToRules_le .ingress ip p a.ingress
    simp only [portCount, accept]
    omega
  | egress =>
    have := portsIn_addToRules_le .egress ip p a.egress
    simp only [portCount, accept]
    omega

/-! ## A run over records -/

/-- The counts are the numbers of the records of each outcome, which make up all of them, and there
are no more ports than accepted records. -/
structure Counts (a : Aggregation) (target : Pod) (records : List Record) : Prop where
  outcomes : ∀ outcome,
    a.tally.count outcome = records.countP fun r => r.outcome target = outcome
  total : a.tally.accepted + a.tally.skipped + a.tally.invalid = records.length
  ports : a.portCount ≤ a.tally.accepted

theorem counts_nil (target : Pod) : Counts {} target [] where
  outcomes outcome := by cases outcome <;> rfl
  total := rfl
  ports := Nat.le_refl 0

theorem Counts.observe {a b : Aggregation} {target : Pod} {records : List Record} {r : Record}
    {notices : List Notice} (ha : a.Counts target records)
    (h : a.observe target r = .ok (b, notices)) : b.Counts target (records ++ [r]) := by
  have hshort : ∀ direction, ¬ r.Overlong target direction := by
    intro direction hlong
    cases (observe_overlong hlong).symm.trans h
  have houtcomes : ∀ outcome, b.tally.count outcome
      = (records ++ [r]).countP fun r => r.outcome target = outcome := by
    obtain ⟨b', said, e, hcount⟩ := count_observe hshort a
    cases e.symm.trans h
    intro outcome
    rw [hcount, ha.outcomes, List.countP_append, List.countP_singleton]
    simp only [decide_eq_true_eq]
  have htotal := ha.total
  have hports := ha.ports
  rcases observe_outcome hshort a with ⟨-, c, said, -, e⟩ | ⟨-, said, e⟩
  · cases e.symm.trans h
    have hgrown := portCount_accept_le a c
    refine ⟨houtcomes, ?_, ?_⟩
    · simp only [tally_accept, Tally.add, List.length_append, List.length_singleton]
      omega
    · simp only [tally_accept, Tally.add]
      omega
  · cases e.symm.trans h
    refine ⟨houtcomes, ?_, ?_⟩
    · cases r.outcome target <;>
        simp only [Tally.add, List.length_append, List.length_singleton] <;> omega
    · calc a.portCount ≤ a.tally.accepted := hports
        _ ≤ (a.tally.add (r.outcome target)).accepted := by
          cases r.outcome target <;> simp [Tally.add]

/-! ## Invalid records -/

/-- One more invalid record. -/
def addInvalid (a : Aggregation) : Aggregation :=
  { a with tally := a.tally.add .invalid }

theorem observe_addInvalid (a : Aggregation) (target : Pod) (r : Record) :
    a.addInvalid.observe target r
      = (a.observe target r).map fun out => (out.1.addInvalid, out.2) := by
  unfold observe
  split
  · rfl
  · rename_i c notices _
    obtain ⟨direction, ip, p⟩ := c
    cases direction <;> rfl
  · rfl
  · rfl

theorem observeAll_addInvalid {target : Pod} : ∀ (records : List Record) (a : Aggregation),
    (a.addInvalid.observeAll target records).1 = (a.observeAll target records).1.map addInvalid
  | [], _ => rfl
  | r :: rest, a => by
    have hstep := observe_addInvalid a target r
    cases hr : a.observe target r with
    | ok out =>
      rw [hr] at hstep
      rw [observeAll_cons hstep, observeAll_cons hr, observeAll_addInvalid rest]
    | error fault =>
      rw [hr] at hstep
      rw [observeAll_cons_error hstep, observeAll_cons_error hr]
      rfl

theorem observe_invalid {target : Pod} {r : Record}
    (hshort : ∀ direction, ¬ r.Overlong target direction) (h : r.outcome target = .invalid)
    (a : Aggregation) : ∃ notices, a.observe target r = .ok (a.addInvalid, notices) := by
  rcases observe_outcome hshort a with ⟨ho, -⟩ | ⟨-, notices, e⟩
  · rw [h] at ho
    cases ho
  · rw [h] at e
    exact ⟨notices, e⟩

/-- But for its count, a run with an invalid record is the run without it. -/
theorem observeAll_without {target : Pod} {r : Record}
    (hshort : ∀ direction, ¬ r.Overlong target direction) (h : r.outcome target = .invalid)
    (a : Aggregation) (before after : List Record) :
    (a.observeAll target (before ++ r :: after)).1
      = (a.observeAll target (before ++ after)).1.map addInvalid := by
  rw [observeAll_append, observeAll_append]
  cases (a.observeAll target before).1 with
  | error fault => rfl
  | ok b =>
    obtain ⟨notices, hr⟩ := observe_invalid hshort h b
    show (b.observeAll target (r :: after)).1 = (b.observeAll target after).1.map addInvalid
    rw [observeAll_cons hr, observeAll_addInvalid]

end Aggregation

/-! ## All records of a pod -/

/-- An aggregation goes through just if no record is overlong. Every other record adds one to the
count of its outcome, from any state; after every prefix the counts are those of its records, one
outcome each; and an invalid record does no more than be counted, so the records around it give
what they give without it. -/
theorem aggregate_counts (records : List Record) (target : Pod) :
    ((∃ a, (aggregate records target).1 = .ok a) ↔
      ∀ r ∈ records, ∀ direction, ¬ r.Overlong target direction) ∧
    (∀ r : Record, (∀ direction, ¬ r.Overlong target direction) → ∀ a : Aggregation,
      ∃ b notices, a.observe target r = .ok (b, notices) ∧ ∀ outcome, b.tally.count outcome
        = a.tally.count outcome + if r.outcome target = outcome then 1 else 0) ∧
    (∀ a, (aggregate records target).1 = .ok a → ∀ before after, records = before ++ after →
      ∃ b, (Aggregation.observeAll target {} before).1 = .ok b ∧
        (b.observeAll target after).1 = .ok a ∧ b.Counts target before) ∧
    ∀ before r after, records = before ++ r :: after → r.outcome target = .invalid →
      (∀ direction, ¬ r.Overlong target direction) →
      (∀ a : Aggregation, ∃ notices, a.observe target r = .ok (a.addInvalid, notices)) ∧
      (aggregate records target).1
        = (aggregate (before ++ after) target).1.map Aggregation.addInvalid := by
  refine ⟨?through, fun r hshort a => Aggregation.count_observe hshort a, ?prefixes, ?invalid⟩
  case through =>
    have herror : (∃ fault, (aggregate records target).1 = .error fault) ↔ _ :=
      aggregate_error_iff
    cases h : (aggregate records target).1 with
    | ok a =>
      refine ⟨fun _ r hr direction hlong => ?_, fun _ => ⟨a, rfl⟩⟩
      obtain ⟨fault, e⟩ := herror.mpr ⟨r, hr, direction, hlong⟩
      cases h.symm.trans e
    | error fault =>
      obtain ⟨r, hr, direction, hlong⟩ := herror.mp ⟨fault, h⟩
      refine ⟨?_, fun hshort => absurd hlong (hshort r hr direction)⟩
      rintro ⟨a, e⟩
      cases e
  case prefixes =>
    rintro a h before after rfl
    rw [aggregate_fst] at h
    obtain ⟨b, hb, hrest⟩ := Aggregation.exists_between h
    have hcounts : b.Counts target before :=
      Aggregation.observeAll_preserves (P := fun a => a.Counts target) Aggregation.Counts.observe
        before (Aggregation.counts_nil target) hb
    exact ⟨b, hb, hrest, hcounts⟩
  case invalid =>
    rintro before r after rfl h hshort
    refine ⟨Aggregation.observe_invalid hshort h, ?_⟩
    rw [aggregate_fst, aggregate_fst, Aggregation.observeAll_without hshort h]

/-- A record whose port has one digit more than a number is read from. -/
def flood : Record :=
  { peerIp := "192.0.2.4", direction := "ingress"
    targetPort := List.replicate (Number.maxDigits + 1) (.char '9') }

/-- The record counts as invalid and the one after it as accepted, but the aggregation breaks. -/
theorem aggregate_breaks :
    let cart : Pod := { name := "cart", ns := "shop", ip := "10.0.0.1" }
    let good : Record := { peerIp := "192.0.2.4", direction := "ingress", targetPort := "443" }
    flood.outcome cart = .invalid ∧ good.outcome cart = .accepted ∧
      ¬ ∃ a, (aggregate [flood, good] cart).1 = .ok a := by
  intro cart good
  have hnamed : Direction.ofText flood.direction = .ok .ingress := by decide
  have hpeer : Text.trim flood.peerIp ≠ [] := by decide
  have hown : Text.trim flood.peerIp ≠ cart.ip := by decide
  refine ⟨?_, by decide, ?_⟩
  · have hnines : portSpelled? (flood.portText .ingress) = none := by
      refine portSpelled?_of_many (Text.trim_replicate (by decide) _) (by decide) ?_
      rw [List.length_replicate]
      decide
    rw [Record.outcome_of_port hnamed hpeer hown, hnines]
    rfl
  · have hlong : flood.Overlong cart .ingress :=
      Record.overlong_replicate hnamed hpeer hown (by decide) (by decide) rfl
    obtain ⟨fault, e⟩ := aggregate_error_iff.mpr ⟨flood, List.mem_cons_self, .ingress, hlong⟩
    rintro ⟨a, h⟩
    cases h.symm.trans e

end LeastPrivilege
