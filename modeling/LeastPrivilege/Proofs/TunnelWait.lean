import LeastPrivilege.Proofs.Rounding
import LeastPrivilege.Proofs.TunnelLife

/-!
How long a tunnel waits. A wait may take any number of turns, as long as its deadline has not come,
and the limit on them (`Tunnel.turns`) is there only for the wait to be a finite inquiry. Where the
clock moves by what is slept it changes nothing: a wait that uses up as many turns has slept for at
least twice the time that it was given, and the deadline is not further away than that, however it
was rounded (`Tunnel.waitReady_ne_none`). So a use of a tunnel ends within these turns just as it
does within any larger number of them (`Tunnel.during_turns`).
-/

namespace LeastPrivilege

/-- The exchange tells the time, or takes some. -/
def Exchange.isTimed (e : Exchange system) : Bool :=
  match e.question with
  | .clock | .sleep => true
  | _ => false

namespace Tunnel

/-! ## Deadlines -/

/-- What is before a deadline is not further from the start than twice the time to wait. -/
theorem lt_of_lt_deadline {now begun : Nat} {timeout : Double} (hbegun : Double.IsSize begun)
    (hnow : now < Double.tooManyUnits)
    (h : (Double.finite false now).lt ((Double.finite false begun).add timeout) = true) :
    now < begun + 2 * waitUnits timeout := by
  cases timeout with
  | nan => cases h
  | infinity negative =>
    cases negative with
    | false =>
      have htime : waitUnits (.infinity false) = Double.tooManyUnits := rfl
      omega
    | true => cases h
  | finite negative units =>
    unfold Double.add at h
    dsimp only at h
    split at h
    · rw [Bool.false_and, Double.lt_finite_iff] at h
      exact absurd h (Nat.not_lt_zero now)
    · obtain ⟨hsign, hbelow⟩ := Double.lt_rounded hnow h
      cases negative with
      | false =>
        have hsum : (Double.signed false begun + Double.signed false units).natAbs
            = begun + units := by
          simp only [Double.signed, Bool.false_eq_true, if_false]
          omega
        rw [hsum] at hbelow
        exact hbelow.trans_le (Double.rounded_add hbegun.bits)
      | true =>
        have hsum : (Double.signed false begun + Double.signed true units).natAbs
            = begun - units := by
          simp [Double.signed] at hsign ⊢
          omega
        rw [hsum] at hbelow
        exact (hbelow.trans_le (Double.rounded_sub hbegun.bits)).trans_le (Nat.le_add_right _ _)

theorem pauseUnits_pos : 0 < pauseUnits := by
  decide +kernel

/-- The pauses in all turns but the last take at least twice the time to wait. -/
theorem le_pauses (timeout : Double) :
    2 * waitUnits timeout ≤ (2 * (waitUnits timeout / pauseUnits) + 2) * pauseUnits := by
  have hpauses : pauseUnits * (waitUnits timeout / pauseUnits) + waitUnits timeout % pauseUnits
      = waitUnits timeout := Nat.div_add_mod _ _
  have hrest : waitUnits timeout % pauseUnits < pauseUnits := Nat.mod_lt _ pauseUnits_pos
  calc 2 * waitUnits timeout
    _ ≤ 2 * (pauseUnits * (waitUnits timeout / pauseUnits)) + 2 * pauseUnits := by omega
    _ = (2 * (waitUnits timeout / pauseUnits) + 2) * pauseUnits := by ring

/-! ## The clock -/

/-- The clock moves by what is slept: what it shows is the size of a double, and not less than what
it showed before and what was slept since. -/
inductive ClockMoves : Nat → List (Exchange system) → Prop
  | nil (time : Nat) : ClockMoves time []
  | shown {time units : Nat} {log : List (Exchange system)} (hsize : Double.IsSize units)
    (hle : time ≤ units) (h : ClockMoves units log) :
    ClockMoves time (⟨.clock, .finite false units⟩ :: log)
  | slept {time : Nat} {log : List (Exchange system)} (h : ClockMoves (time + pauseUnits) log) :
    ClockMoves time (⟨.sleep, ()⟩ :: log)
  | other {time : Nat} {e : Exchange system} {log : List (Exchange system)}
    (he : e.isTimed = false) (h : ClockMoves time log) : ClockMoves time (e :: log)

namespace ClockMoves

variable {time : Nat} {log log' : List (Exchange system)}

theorem left (h : ClockMoves time (log ++ log')) : ClockMoves time log := by
  induction log generalizing time with
  | nil => exact .nil time
  | cons e rest ih =>
    cases h with
    | shown hsize hle h => exact .shown hsize hle (ih h)
    | slept h => exact .slept (ih h)
    | other he h => exact .other he (ih h)

theorem exists_right (h : ClockMoves time (log ++ log')) : ∃ time', ClockMoves time' log' := by
  induction log generalizing time with
  | nil => exact ⟨time, h⟩
  | cons e rest ih =>
    cases h with
    | shown _ _ h => exact ih h
    | slept h => exact ih h
    | other _ h => exact ih h

theorem of_clock {now : Double} (h : ClockMoves time (⟨.clock, now⟩ :: log)) :
    ∃ units, now = .finite false units ∧ Double.IsSize units ∧ time ≤ units ∧
      ClockMoves units log := by
  cases h with
  | shown hsize hle h => exact ⟨_, rfl, hsize, hle, h⟩
  | other he => cases he

theorem of_other {e : Exchange system} (he : e.isTimed = false)
    (h : ClockMoves time (e :: log)) : ClockMoves time log := by
  cases h with
  | shown => cases he
  | slept => cases he
  | other _ h => exact h

/-- A turn after which the wait goes on takes a pause. -/
theorem of_idleTurn {port : Int} {p : ProcessRef} {now : Double}
    (h : ClockMoves time (idleTurn port p now ++ log)) :
    ∃ units, now = .finite false units ∧ Double.IsSize units ∧ time ≤ units ∧
      ClockMoves (units + pauseUnits) log := by
  obtain ⟨units, hnow, hsize, hle, hturn⟩ := of_clock h
  refine ⟨units, hnow, hsize, hle, ?_⟩
  cases of_other rfl (of_other rfl hturn) with
  | slept h => exact h
  | other he => cases he

end ClockMoves

/-! ## Waiting -/

variable {port : Int} {deadline : Double} {p : ProcessRef}

/-- A wait that used up its turns has looked at the clock before the deadline, and after a pause in
each turn but the last. -/
theorem exists_lt_of_none {limit time : Nat} {log : List (Exchange system)}
    (hclock : ClockMoves time log) (h : (waitReady port deadline p (limit + 1)).Ends log none) :
    ∃ now, time + limit * pauseUnits ≤ now ∧ now < Double.tooManyUnits ∧
      (Double.finite false now).lt deadline = true := by
  induction limit generalizing time log with
  | zero =>
    rcases ends_waitReady_succ.mp h with ⟨_, hnone, -⟩ | ⟨now, rest, hdue, rfl, -⟩
    · cases hnone
    · obtain ⟨units, rfl, hsize, htime, -⟩ := hclock.of_idleTurn
      exact ⟨units, by omega, hsize.finite, hdue⟩
  | succ limit ih =>
    rcases ends_waitReady_succ.mp h with ⟨_, hnone, -⟩ | ⟨now, rest, -, rfl, hlater⟩
    · cases hnone
    · obtain ⟨units, -, -, htime, hrest⟩ := hclock.of_idleTurn
      obtain ⟨last, hlast, hfinite, hdue⟩ := ih hrest hlater
      refine ⟨last, ?_, hfinite, hdue⟩
      rw [Nat.succ_mul]
      omega

/-- **The limit on the turns ends no wait**, where the clock moves by what is slept. -/
theorem waitReady_ne_none {timeout : Double} {begun limit : Nat} {log : List (Exchange system)}
    (hbegun : Double.IsSize begun) (hclock : ClockMoves begun log)
    (hlimit : turns timeout ≤ limit) :
    ¬ (waitReady port ((Double.finite false begun).add timeout) p limit).Ends log none := by
  intro h
  unfold turns at hlimit
  obtain ⟨more, rfl⟩ : ∃ n, limit = n + 1 := ⟨limit - 1, by omega⟩
  obtain ⟨now, hslept, hnow, hdue⟩ := exists_lt_of_none hclock h
  have hbound := lt_of_lt_deadline hbegun hnow hdue
  -- All turns but the last have their pause, and so many pauses lead past the deadline.
  have hturns : 2 * (waitUnits timeout / pauseUnits) + 2 ≤ more := by omega
  have hpast : 2 * waitUnits timeout ≤ more * pauseUnits :=
    (le_pauses timeout).trans (Nat.mul_le_mul_right pauseUnits hturns)
  omega

/-- A wait that ended goes the same way where more turns are allowed. -/
theorem waitReady_mono {limit more : Nat} {log : List (Exchange system)} {r : Readiness}
    (hle : limit ≤ more) (h : (waitReady port deadline p limit).Ends log (some r)) :
    (waitReady port deadline p more).Ends log (some r) := by
  induction limit generalizing more log with
  | zero => cases (Inquiry.ends_pure.mp h).2
  | succ limit ih =>
    obtain ⟨more, rfl⟩ : ∃ n, more = n + 1 := ⟨more - 1, by omega⟩
    apply ends_waitReady_succ.mpr
    rcases ends_waitReady_succ.mp h with hfinal | ⟨now, rest, hdue, hlog, hlater⟩
    · exact .inl hfinal
    · exact .inr ⟨now, rest, hdue, hlog, ih (by omega) hlater⟩

/-- Where fewer turns are allowed, a wait goes the same way, or uses them up. -/
theorem waitReady_fewer {limit more : Nat} {log : List (Exchange system)}
    {r : Option Readiness} (hle : limit ≤ more)
    (h : (waitReady port deadline p more).Ends log r) :
    (waitReady port deadline p limit).Ends log r ∨
      ∃ first rest, log = first ++ rest ∧ (waitReady port deadline p limit).Ends first none := by
  induction limit generalizing more log with
  | zero => exact .inr ⟨[], log, rfl, Inquiry.ends_pure.mpr ⟨rfl, rfl⟩⟩
  | succ limit ih =>
    obtain ⟨more, rfl⟩ : ∃ n, more = n + 1 := ⟨more - 1, by omega⟩
    rcases ends_waitReady_succ.mp h with hfinal | ⟨now, rest, hdue, rfl, hlater⟩
    · exact .inl (ends_waitReady_succ.mpr (.inl hfinal))
    · rcases ih (by omega) hlater with hsame | ⟨first, last, rfl, hused⟩
      · exact .inl (ends_waitReady_succ.mpr (.inr ⟨now, rest, hdue, rfl, hsame⟩))
      · refine .inr ⟨idleTurn port p now ++ first, last, (List.append_assoc ..).symm, ?_⟩
        exact ends_waitReady_succ.mpr (.inr ⟨now, first, hdue, rfl, hused⟩)

/-- A wait ends within the turns for its time as it does within any larger number of them. -/
theorem waitReady_turns {timeout : Double} {begun more : Nat} {log : List (Exchange system)}
    {r : Option Readiness} (hbegun : Double.IsSize begun) (hclock : ClockMoves begun log)
    (hmore : turns timeout ≤ more) :
    (waitReady port ((Double.finite false begun).add timeout) p (turns timeout)).Ends log r ↔
      (waitReady port ((Double.finite false begun).add timeout) p more).Ends log r := by
  constructor
  · intro h
    cases r with
    | none => exact absurd h (waitReady_ne_none hbegun hclock (Nat.le_refl _))
    | some ended => exact waitReady_mono hmore h
  · intro h
    rcases waitReady_fewer hmore h with hsame | ⟨first, rest, rfl, hused⟩
    · exact hsame
    · exact absurd hused (waitReady_ne_none hbegun hclock.left (Nat.le_refl _))

/-! ## Opening and using -/

variable {s : Settings} {t : Tunnel} {time more : Nat}

theorem settle_turns {log : List (Exchange system)} {r : Except Fault Unit × Tunnel}
    (hclock : ClockMoves time log) (hmore : turns s.tunnelTimeout ≤ more) :
    (settle (turns s.tunnelTimeout) s t p).Ends log r ↔ (settle more s t p).Ends log r := by
  refine Inquiry.ends_put_bind_congr fun begun later hlog => ?_
  rw [Inquiry.ends_bind, Inquiry.ends_bind]
  refine exists_congr fun wait => exists_congr fun ended => exists_congr fun rest => ?_
  refine and_congr_right fun hlater => and_congr_left fun _ => ?_
  rw [hlog, hlater] at hclock
  obtain ⟨units, rfl, hsize, -, hwait⟩ := hclock.of_clock
  exact waitReady_turns hsize hwait.left hmore

theorem start_turns {forwarder ns : Text} {log : List (Exchange system)}
    {r : Except Fault Unit × Tunnel} (hclock : ClockMoves time log)
    (hmore : turns s.tunnelTimeout ≤ more) :
    (start (turns s.tunnelTimeout) s t forwarder ns).Ends log r ↔
      (start more s t forwarder ns).Ends log r := by
  unfold start
  rw [Inquiry.ends_tell_bind, Inquiry.ends_tell_bind]
  refine Inquiry.ends_put_bind_congr fun answer later hlog => ?_
  cases answer with
  | error reason => exact Iff.rfl
  | ok p =>
    rw [hlog] at hclock
    exact settle_turns (hclock.of_other rfl) hmore

theorem openWithin_turns {log : List (Exchange tunnelWork)} {r : Except Fault Unit × Tunnel}
    (hclock : ClockMoves time (Exchange.rights log)) (hmore : turns s.tunnelTimeout ≤ more) :
    (openWithin (turns s.tunnelTimeout) s t).Ends log r ↔ (openWithin more s t).Ends log r := by
  refine Inquiry.ends_bind_congr fun first forwarder rest hlog => ?_
  cases forwarder with
  | none => exact Iff.rfl
  | some forwarder =>
    refine Inquiry.ends_bind_congr fun lookups found work hrest => ?_
    cases found with
    | error fault => exact Iff.rfl
    | ok ns =>
      refine Inquiry.ends_inRight.trans (Iff.trans ?_ Inquiry.ends_inRight.symm)
      refine exists_congr fun asked => and_congr_left fun hwork => ?_
      rw [hlog, hrest, hwork, Exchange.rights_append, Exchange.rights_append,
        Exchange.rights_map_inRight] at hclock
      obtain ⟨time', hclock⟩ := hclock.exists_right
      obtain ⟨time'', hclock⟩ := hclock.exists_right
      exact start_turns hclock hmore

/-- **A tunnel is used with a limit on the turns of its wait just as without any**: where the clock
moves by what is slept, every larger limit leads to the same exchanges and results. -/
theorem during_turns {J : Interface} {α : Type} {work : Inquiry J (Except Fault α)}
    {log : List (Exchange (tunnelWork.or J))} {r : Except Fault α × Tunnel}
    (hclock : ClockMoves time (asked log)) (hmore : turns s.tunnelTimeout ≤ more) :
    (during (turns s.tunnelTimeout) s work t).Ends log r ↔ (during more s work t).Ends log r := by
  unfold during
  rw [Inquiry.ends_bind, Inquiry.ends_bind]
  refine exists_congr fun first => exists_congr fun opened => exists_congr fun rest => ?_
  refine and_congr_right fun hlog => and_congr_left fun _ => ?_
  rw [Inquiry.ends_inLeft, Inquiry.ends_inLeft]
  refine exists_congr fun entry => and_congr_left fun hentry => ?_
  rw [hlog, hentry, asked_append, asked_entry] at hclock
  exact openWithin_turns hclock.left hmore

end Tunnel

end LeastPrivilege
