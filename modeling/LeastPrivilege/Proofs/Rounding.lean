import LeastPrivilege.Number.Double
import Mathlib.Data.Nat.Log
import Mathlib.Tactic.Ring

/-!
Rounded sums. A size in units is rounded to a multiple of the weight of its last bit, and none is
nearer to it (`Double.rounded_add_le`, `Double.rounded_le`). Between the size of a double and any
larger size there is such a multiple (`Double.exists_multiple`), so what is added to a double leads
at most twice as far as it should (`Double.rounded_add`), and what is taken from it never leads up
(`Double.rounded_sub`).
-/

namespace LeastPrivilege.Double

/-! ## Rounding -/

/-- A quotient is rounded up by no more than what any whole number below it lacks. -/
theorem roundHalfEven_add_le {num den q : Nat} (hden : 0 < den) (h : q * den ≤ num) :
    (roundHalfEven num den + q) * den ≤ 2 * num := by
  have hq : q ≤ num / den := (Nat.le_div_iff_mul_le hden).mpr h
  have hnum : den * (num / den) + num % den = num := Nat.div_add_mod num den
  have hround : roundHalfEven num den = num / den ∨
      (roundHalfEven num den = num / den + 1 ∧ den ≤ 2 * (num % den)) := by
    unfold roundHalfEven
    dsimp only
    split
    · exact .inl rfl
    · split <;> omega
  rcases hround with e | ⟨e, hhalf⟩
  · rw [e]
    calc (num / den + q) * den ≤ (num / den + num / den) * den :=
          Nat.mul_le_mul_right den (Nat.add_le_add_left hq _)
      _ = 2 * (den * (num / den)) := by ring
      _ ≤ 2 * num := by omega
  · rw [e]
    calc (num / den + 1 + q) * den ≤ (num / den + 1 + num / den) * den :=
          Nat.mul_le_mul_right den (Nat.add_le_add_left hq _)
      _ = 2 * (den * (num / den)) + den := by ring
      _ ≤ 2 * num := by omega

/-- A quotient is never rounded beyond a whole number. -/
theorem roundHalfEven_le {num den q : Nat} (hden : 0 < den) (h : num ≤ q * den) :
    roundHalfEven num den ≤ q := by
  rcases Nat.lt_or_ge (num / den) q with hq | hq
  · unfold roundHalfEven
    dsimp only
    split
    · exact hq.le
    · split <;> omega
  · -- Then the quotient is the whole number itself, and nothing is left to be rounded.
    have hnum : num = q * den := Nat.le_antisymm h ((Nat.le_div_iff_mul_le hden).mp hq)
    rw [hnum, roundHalfEven, Nat.mul_div_cancel q hden, Nat.mul_mod_left]
    simp [hden]

theorem unitsPerOne_pos : 0 < unitsPerOne := by
  decide +kernel

theorem lastBit_pos (units : Nat) : 0 < lastBit units :=
  Nat.pow_pos Nat.two_pos

/-- The size that a number of units is rounded to. -/
def rounded (units : Nat) : Nat :=
  roundHalfEven (units * unitsPerOne) (unitsPerOne * lastBit units) * lastBit units

theorem ofRatio_unitsPerOne (negative : Bool) (units : Nat) :
    ofRatio negative units unitsPerOne =
      if rounded units < tooManyUnits then finite negative (rounded units)
      else infinity negative := by
  unfold ofRatio
  dsimp only
  rw [Nat.mul_div_cancel units unitsPerOne_pos]
  rfl

/-- A size is rounded up by no more than what any multiple of its last bit below it lacks. -/
theorem rounded_add_le {units m : Nat} (hm : lastBit units ∣ m) (h : m ≤ units) :
    rounded units + m ≤ 2 * units := by
  obtain ⟨k, rfl⟩ := hm
  have hbelow : k * (unitsPerOne * lastBit units) ≤ units * unitsPerOne :=
    calc k * (unitsPerOne * lastBit units) = lastBit units * k * unitsPerOne := by ring
      _ ≤ units * unitsPerOne := Nat.mul_le_mul_right _ h
  have hround := roundHalfEven_add_le (Nat.mul_pos unitsPerOne_pos (lastBit_pos units)) hbelow
  refine Nat.le_of_mul_le_mul_right ?_ unitsPerOne_pos
  calc (rounded units + lastBit units * k) * unitsPerOne
    _ = (roundHalfEven (units * unitsPerOne) (unitsPerOne * lastBit units) + k)
          * (unitsPerOne * lastBit units) := by
      rw [rounded]
      ring
    _ ≤ 2 * (units * unitsPerOne) := hround
    _ = 2 * units * unitsPerOne := by ring

/-- A size is never rounded beyond a multiple of its last bit. -/
theorem rounded_le {units m : Nat} (hm : lastBit units ∣ m) (h : units ≤ m) :
    rounded units ≤ m := by
  obtain ⟨k, rfl⟩ := hm
  have habove : units * unitsPerOne ≤ k * (unitsPerOne * lastBit units) :=
    calc units * unitsPerOne ≤ lastBit units * k * unitsPerOne := Nat.mul_le_mul_right _ h
      _ = k * (unitsPerOne * lastBit units) := by ring
  have hround := roundHalfEven_le (Nat.mul_pos unitsPerOne_pos (lastBit_pos units)) habove
  rw [rounded, Nat.mul_comm (lastBit units)]
  exact Nat.mul_le_mul_right _ hround

/-! ## Sizes -/

/-- A double has this size. -/
structure IsSize (units : Nat) : Prop where
  bits : lastBit units ∣ units
  finite : units < tooManyUnits

theorem lt_two_pow_bitLength (n : Nat) : n < 2 ^ bitLength n := by
  unfold bitLength
  split
  · rename_i h
    rw [h]
    exact Nat.one_pos
  · exact Nat.lt_log2_self

theorem two_pow_bitLength_le {n : Nat} (h : n ≠ 0) : 2 ^ (bitLength n - 1) ≤ n := by
  rw [bitLength, if_neg h]
  exact Nat.log2_self_le h

theorem bitLength_mono {m n : Nat} (h : m ≤ n) : bitLength m ≤ bitLength n := by
  rcases Nat.eq_zero_or_pos m with rfl | hm
  · exact Nat.zero_le _
  · have hpow : 2 ^ (bitLength m - 1) < 2 ^ bitLength n :=
      calc 2 ^ (bitLength m - 1) ≤ m := two_pow_bitLength_le hm.ne'
        _ ≤ n := h
        _ < 2 ^ bitLength n := lt_two_pow_bitLength n
    have hlength := (Nat.pow_lt_pow_iff_right Nat.one_lt_two).mp hpow
    omega

theorem lastBit_dvd_lastBit {m n : Nat} (h : m ≤ n) : lastBit m ∣ lastBit n :=
  Nat.pow_dvd_pow 2 (Nat.sub_le_sub_right (bitLength_mono h) 53)

/-- From the size of a double up to any larger one there is a multiple of the larger one's last
bit. -/
theorem exists_multiple {size units : Nat} (hsize : lastBit size ∣ size) (h : size ≤ units) :
    ∃ m, lastBit units ∣ m ∧ size ≤ m ∧ m ≤ units := by
  by_cases hlength : bitLength size = bitLength units
  · refine ⟨size, ?_, Nat.le_refl size, h⟩
    rwa [lastBit, ← hlength]
  · -- The larger one has more bits, and the first of them alone is in between.
    have hmore : bitLength size < bitLength units :=
      Nat.lt_of_le_of_ne (bitLength_mono h) hlength
    have hunits : units ≠ 0 := by
      intro e
      rw [e] at hmore
      exact absurd hmore (Nat.not_lt_zero _)
    refine ⟨2 ^ (bitLength units - 1), ?_, ?_, two_pow_bitLength_le hunits⟩
    · exact Nat.pow_dvd_pow 2 (by omega)
    · calc size ≤ 2 ^ bitLength size := (lt_two_pow_bitLength size).le
        _ ≤ 2 ^ (bitLength units - 1) := Nat.pow_le_pow_right Nat.two_pos (by omega)

/-- What is added to the size of a double leads at most twice as far after rounding. -/
theorem rounded_add {begun units : Nat} (h : lastBit begun ∣ begun) :
    rounded (begun + units) ≤ begun + 2 * units := by
  obtain ⟨m, hm, hbegun, hle⟩ := exists_multiple h (Nat.le_add_right begun units)
  have hround := rounded_add_le hm hle
  omega

/-- What is taken from the size of a double never leads up. -/
theorem rounded_sub {begun units : Nat} (h : lastBit begun ∣ begun) :
    rounded (begun - units) ≤ begun :=
  rounded_le ((lastBit_dvd_lastBit (Nat.sub_le begun units)).trans h) (Nat.sub_le begun units)

/-! ## Sums -/

theorem lt_finite_iff {now units : Nat} :
    (finite false now).lt (finite false units) = true ↔ now < units := by
  simp [lt, signed]

/-- A number without a minus sign is never below one with it. -/
theorem lt_finite_true (now units : Nat) :
    (finite false now).lt (finite true units) = false := by
  simp [lt, signed]

/-- A number below a rounded one is below its size. -/
theorem lt_rounded {now units : Nat} {negative : Bool} (hnow : now < tooManyUnits)
    (h : (finite false now).lt (ofRatio negative units unitsPerOne) = true) :
    negative = false ∧ now < rounded units := by
  rw [ofRatio_unitsPerOne] at h
  split at h
  · cases negative with
    | false => exact ⟨rfl, lt_finite_iff.mp h⟩
    | true => cases (lt_finite_true now (rounded units)).symm.trans h
  · rename_i hsize
    cases negative with
    | false => exact ⟨rfl, hnow.trans_le (Nat.le_of_not_lt hsize)⟩
    | true => cases h

end LeastPrivilege.Double
