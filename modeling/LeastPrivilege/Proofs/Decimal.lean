import LeastPrivilege.Text.Digits
import Mathlib.Algebra.Ring.Nat

/-!
Decimal text reads back: the digits of a number are digits, at least one, and their value is the
number (`readDecimal?_decimal`). So does a whole number with its sign (`readInt?_ofInt`).
-/

namespace LeastPrivilege.Text

/-- The number that a text of ASCII digits spells. -/
def readDecimal? (t : Text) : Option Nat :=
  if t.isEmpty || !t.all isDigit then none else some (digitsValue t)

theorem isDigit_digitChar : ∀ d < 10, isDigit (digitChar d) = true := by
  decide

theorem digitValue_digitChar : ∀ d < 10, digitValue (digitChar d) = d := by
  decide

theorem foldl_digits (t : Text) (n : Nat) :
    t.foldl (fun n c => 10 * n + digitValue c) n = n * 10 ^ t.length + digitsValue t := by
  induction t generalizing n with
  | nil => simp [digitsValue]
  | cons c rest ih =>
    have h0 : digitsValue (c :: rest) = digitValue c * 10 ^ rest.length + digitsValue rest := by
      simp only [digitsValue, List.foldl_cons, Nat.mul_zero, Nat.zero_add]
      exact ih (digitValue c)
    rw [List.foldl_cons, ih, h0, List.length_cons, Nat.pow_succ, Nat.add_mul]
    have hc : 10 * n * 10 ^ rest.length = n * (10 ^ rest.length * 10) := by
      rw [Nat.mul_comm 10 n, Nat.mul_assoc, Nat.mul_comm 10]
    omega

theorem digitsValue_cons (c : CodePoint) (t : Text) :
    digitsValue (c :: t) = digitValue c * 10 ^ t.length + digitsValue t := by
  rw [← foldl_digits t (digitValue c)]
  simp [digitsValue]

/-- The digits of a number in front of others: the number is shifted by their count. -/
theorem digitsValue_digitsOnto (fuel n : Nat) (h : n < fuel) (acc : Text) :
    digitsValue (digitsOnto 10 fuel n acc) = n * 10 ^ acc.length + digitsValue acc := by
  induction fuel generalizing n acc with
  | zero => omega
  | succ fuel ih =>
    unfold digitsOnto
    split
    · rename_i hn
      rw [digitsValue_cons, digitValue_digitChar n hn]
    · have hm : n % 10 < 10 := Nat.mod_lt n (by omega)
      rw [ih (n / 10) (by omega), digitsValue_cons, digitValue_digitChar _ hm, List.length_cons,
        Nat.pow_succ, ← Nat.add_assoc]
      have split : n = n / 10 * 10 + n % 10 := by omega
      have : n * 10 ^ acc.length
          = n / 10 * (10 ^ acc.length * 10) + n % 10 * 10 ^ acc.length := by
        conv => lhs; rw [split, Nat.add_mul]
        rw [Nat.mul_assoc, Nat.mul_comm 10]
      omega

theorem all_isDigit_digitsOnto (fuel n : Nat) {acc : Text} (h : acc.all isDigit = true) :
    (digitsOnto 10 fuel n acc).all isDigit = true := by
  induction fuel generalizing n acc with
  | zero => exact h
  | succ fuel ih =>
    unfold digitsOnto
    split
    · rename_i hn
      simp [isDigit_digitChar n hn, h]
    · apply ih
      simp [isDigit_digitChar (n % 10) (Nat.mod_lt n (by omega)), h]

theorem digitsOnto_ne_nil (fuel n : Nat) {acc : Text} (h : acc ≠ []) :
    digitsOnto 10 fuel n acc ≠ [] := by
  induction fuel generalizing n acc with
  | zero => exact h
  | succ fuel ih =>
    unfold digitsOnto
    split
    · simp
    · exact ih _ (by simp)

theorem decimal_ne_nil (n : Nat) : decimal n ≠ [] := by
  unfold decimal digitsOnto
  split
  · simp
  · exact digitsOnto_ne_nil _ _ (by simp)

theorem all_isDigit_decimal (n : Nat) : (decimal n).all isDigit = true :=
  all_isDigit_digitsOnto (n + 1) n rfl

/-- A number reads back from its decimal text. -/
theorem readDecimal?_decimal (n : Nat) : readDecimal? (decimal n) = some n := by
  have hne : (decimal n).isEmpty = false := by
    cases h : decimal n with
    | nil => exact absurd h (decimal_ne_nil n)
    | cons c rest => rfl
  have hvalue : digitsValue (decimal n) = n := by
    rw [decimal, digitsValue_digitsOnto (n + 1) n (by omega)]
    simp [digitsValue]
  simp [readDecimal?, hne, all_isDigit_decimal n, hvalue]

theorem ofInt_of_nonneg {n : Int} (h : 0 ≤ n) : ofInt n = decimal n.natAbs := by
  unfold ofInt
  rw [if_neg (by omega)]

/-! ## Numbers of either sign -/

/-- The whole number that a text spells: ASCII digits, after a minus sign below zero. -/
def readInt? : Text → Option Int
  | [] => none
  | c :: rest =>
    if c = .char '-' then (readDecimal? rest).map fun n : Nat => -(n : Int)
    else (readDecimal? (c :: rest)).map Int.ofNat

/-- A whole number reads back from its decimal text. -/
theorem readInt?_ofInt (n : Int) : readInt? (ofInt n) = some n := by
  unfold ofInt
  split
  · rename_i hn
    have habs : -(n.natAbs : Int) = n := by omega
    rw [readInt?, if_pos rfl, readDecimal?_decimal, Option.map_some, habs]
  · rename_i hn
    have habs : (n.natAbs : Int) = n := by omega
    cases hd : decimal n.natAbs with
    | nil => exact absurd hd (decimal_ne_nil _)
    | cons c rest =>
      -- The first code point is a digit, so it is no sign.
      have hdigits := all_isDigit_decimal n.natAbs
      rw [hd, List.all_cons, Bool.and_eq_true] at hdigits
      have hsign : c ≠ .char '-' := by
        rintro rfl
        exact absurd hdigits.1 (by decide)
      rw [readInt?, if_neg hsign, ← hd, readDecimal?_decimal]
      exact congrArg some habs

end LeastPrivilege.Text
