import LeastPrivilege.Text.HalfPair
import Mathlib.Algebra.Ring.Nat

/-!
Characters and numbers. A code point is known by its number (`CodePoint.eq_of_toNat_eq`,
`CodePoint.ofNat_toNat`). A text has an encoding where it has no halves, and then it is the text of
a string (`Text.IsEncodable.exists_string`). A number that fits is written in hexadecimal by its
last digits, and each of them reads back (`Text.hex_eq`, `Text.hexValue?_digitChar`).
-/

namespace LeastPrivilege

/-! ## Numbers of code points -/

/-- No two code points have one number: the halves fill the gap between the characters. -/
theorem CodePoint.eq_of_toNat_eq {a b : CodePoint} (h : a.toNat = b.toNat) : a = b := by
  have apart (c : Char) (i : Fin 0x800) : (char c).toNat ≠ (half i).toNat := by
    intro e
    have hc : c.toNat < 0xd800 ∨ 0xdfff < c.toNat ∧ c.toNat < 0x110000 := c.valid
    have he : c.toNat = 0xd800 + i := e
    omega
  cases a with
  | char c =>
    cases b with
    | char d => exact congrArg char (Char.toNat_inj.mp h)
    | half j => exact absurd h (apart c j)
  | half i =>
    cases b with
    | char d => exact absurd h.symm (apart d i)
    | half j => exact congrArg half (Fin.ext (Nat.add_left_cancel h))

theorem CodePoint.ofNat_toNat (c : Char) : ofNat c.toNat = .char c := by
  have hc : c.toNat < 0xd800 ∨ 0xdfff < c.toNat ∧ c.toNat < 0x110000 := c.valid
  unfold ofNat
  rw [dif_neg (by omega), Char.ofNat_toNat]

namespace Text

/-! ## Texts of characters -/

/-- The text has no halves. -/
def IsEncodable (t : Text) : Prop :=
  ∀ c ∈ t, c.isHalf = false

instance (t : Text) : Decidable t.IsEncodable :=
  inferInstanceAs (Decidable (∀ c ∈ t, c.isHalf = false))

theorem halfRunFrom_eq_none_iff {exempt : Nat → Bool} : ∀ {t : Text} {place : Nat},
    halfRunFrom exempt place t = none ↔ ∀ c ∈ t, (c.isHalf && !exempt c.toNat) = false
  | [], _ => ⟨fun _ => nofun, fun _ => rfl⟩
  | c :: rest, place => by
    rw [halfRunFrom, List.forall_mem_cons]
    cases hc : c.isHalf && !exempt c.toNat with
    | true => exact ⟨nofun, fun h => nomatch h.1⟩
    | false =>
      rw [if_neg nofun, halfRunFrom_eq_none_iff (t := rest)]
      exact ⟨fun h => ⟨rfl, h⟩, And.right⟩

theorem isEncodable_iff {t : Text} : t.IsEncodable ↔ halfRun? t = none := by
  rw [halfRun?, halfRunFrom_eq_none_iff]
  simp [IsEncodable]

/-- A text without halves is that of a string. -/
theorem IsEncodable.exists_string {t : Text} (h : t.IsEncodable) :
    ∃ s : String, t = Text.ofString s := by
  have hchars : ∃ cs : List Char, t = cs.map .char := by
    induction t with
    | nil => exact ⟨[], rfl⟩
    | cons c rest ih =>
      obtain ⟨hc, hrest⟩ := List.forall_mem_cons.mp h
      obtain ⟨cs, rfl⟩ := ih hrest
      cases c with
      | char c => exact ⟨c :: cs, rfl⟩
      | half i => cases hc
  obtain ⟨cs, rfl⟩ := hchars
  exact ⟨String.ofList cs, by rw [ofString, String.toList_ofList]⟩

/-! ## Hexadecimal digits -/

theorem hexValue?_digitChar : ∀ d < 16, hexValue? (.char (digitChar d)) = some d := by
  decide

theorem hexValue?_capital : ∀ d < 16, hexValue? (.char (digitChar d).toUpper) = some d := by
  decide

/-- The last digits of a number in hexadecimal. -/
def lastHexDigits : Nat → Nat → Text
  | 0, _ => []
  | width + 1, n => lastHexDigits width (n / 16) ++ [.char (digitChar (n % 16))]

theorem lastHexDigits_zero (width : Nat) : lastHexDigits width 0 = replicate width '0' := by
  induction width with
  | zero => rfl
  | succ width ih =>
    rw [lastHexDigits, Nat.zero_div, ih, replicate, replicate, List.replicate_succ']
    rfl

/-- A number that fits is its last digits, with zeros where there are no others. -/
theorem digitsOnto_hex {width fuel n : Nat} (acc : Text) (hn : n < 16 ^ (width + 1))
    (hfuel : n < fuel) :
    replicate (width + 1 + acc.length - (digitsOnto 16 fuel n acc).length) '0'
      ++ digitsOnto 16 fuel n acc = lastHexDigits (width + 1) n ++ acc := by
  induction width generalizing fuel n acc with
  | zero =>
    cases fuel with
    | zero => omega
    | succ fuel =>
      have hsmall : n < 16 := by simpa using hn
      have hzeros : 0 + 1 + acc.length - (acc.length + 1) = 0 := by omega
      rw [digitsOnto, if_pos hsmall, List.length_cons, hzeros]
      simp [lastHexDigits, replicate, Nat.mod_eq_of_lt hsmall]
  | succ width ih =>
    cases fuel with
    | zero => omega
    | succ fuel =>
      rw [digitsOnto, lastHexDigits]
      split
      · rename_i hsmall
        -- One digit is left, and zeros stand in front of it.
        have hzeros : width + 1 + 1 + acc.length - (acc.length + 1) = width + 1 := by omega
        rw [Nat.div_eq_of_lt hsmall, Nat.mod_eq_of_lt hsmall, lastHexDigits_zero,
          List.length_cons, hzeros]
        simp
      · rename_i hlarge
        have hnext : n / 16 < 16 ^ (width + 1) := by
          apply Nat.div_lt_of_lt_mul
          rwa [Nat.mul_comm, ← Nat.pow_succ]
        have hless : n / 16 < fuel := by omega
        have hstep := ih (.char (digitChar (n % 16)) :: acc) hnext hless
        have hlength : width + 1 + 1 + acc.length
            = width + 1 + (CodePoint.char (digitChar (n % 16)) :: acc).length := by
          rw [List.length_cons]
          omega
        rw [hlength, hstep]
        simp

theorem hex_eq {width n : Nat} (h : n < 16 ^ (width + 1)) :
    hex (width + 1) n = lastHexDigits (width + 1) n := by
  have hdigits := digitsOnto_hex [] h (Nat.lt_succ_self n)
  rwa [List.append_nil] at hdigits

end Text

end LeastPrivilege
