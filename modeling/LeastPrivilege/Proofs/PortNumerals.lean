import LeastPrivilege.Proofs.Tallies
import LeastPrivilege.Proofs.Trimming
import Mathlib.Data.Nat.Digits.Defs
import Mathlib.Tactic.IntervalCases

/-!
What a port is read from. Digits spell a number where each of them counts ten times as much as the
one behind it (`Text.Numeral`), and reading finds that number (`Text.readDecimal?_eq_some_iff`). A
port is read exactly from such digits with white space around them, if the number is in range and
the digits are no more than a number is read from (`portOfText_exact`); zeros in front count among
the digits, and change nothing else.
-/

namespace LeastPrivilege

namespace Text

/-- The digits of ASCII. -/
def asciiDigits : Text := "0123456789"

/-- The text is made of ASCII digits, at least one, which spell the number. -/
structure Numeral (digits : Text) (n : Nat) : Prop where
  some : digits ≠ []
  ascii : ∀ c ∈ digits, c ∈ asciiDigits
  value : n = Nat.ofDigits 10 (digits.reverse.map digitValue)

theorem isDigit_iff {c : CodePoint} : isDigit c = true ↔ c ∈ asciiDigits := by
  constructor
  · intro h
    cases c with
    | half i => cases h
    | char a =>
      have hrange : 48 ≤ a.toNat ∧ a.toNat ≤ 57 := by
        simpa [isDigit, CodePoint.is, Char.isDigit, UInt32.le_iff_toNat_le] using h
      obtain ⟨hlo, hhi⟩ := hrange
      rw [← Char.ofNat_toNat a]
      -- Ten numbers are left, one for each digit.
      generalize a.toNat = k at hlo hhi
      interval_cases k <;> decide
  · intro h
    revert c
    decide

theorem isBlank_of_mem_asciiDigits : ∀ c ∈ asciiDigits, isBlank c = false := by
  decide

/-- The value of digits is the sum of their values by place. -/
theorem digitsValue_eq_ofDigits (t : Text) :
    digitsValue t = Nat.ofDigits 10 (t.reverse.map digitValue) := by
  induction t with
  | nil => rfl
  | cons c rest ih =>
    rw [digitsValue_cons, ih, List.reverse_cons, List.map_append, Nat.ofDigits_append]
    simp only [List.map_cons, List.map_nil, Nat.ofDigits_singleton, List.length_map,
      List.length_reverse]
    ring

/-- A number is read exactly from digits that spell it. -/
theorem readDecimal?_eq_some_iff {t : Text} {n : Nat} : readDecimal? t = some n ↔ t.Numeral n := by
  unfold readDecimal?
  constructor
  · intro h
    split at h
    · cases h
    · rename_i hform
      simp only [Bool.or_eq_true, List.isEmpty_iff, Bool.not_eq_true', not_or,
        Bool.not_eq_false, List.all_eq_true] at hform
      refine ⟨hform.1, fun c hc => isDigit_iff.mp (hform.2 c hc), ?_⟩
      rw [← digitsValue_eq_ofDigits]
      exact (Option.some.inj h).symm
  · intro h
    have hdigits : t.all isDigit = true :=
      List.all_eq_true.mpr fun c hc => isDigit_iff.mpr (h.ascii c hc)
    rw [h.value, ← digitsValue_eq_ofDigits]
    simp [h.some, hdigits]

/-- Zeros in front of digits change nothing. -/
theorem Numeral.zeros {digits : Text} {n : Nat} (h : digits.Numeral n) (zeros : Nat) :
    Numeral (replicate zeros '0' ++ digits) n := by
  refine ⟨?_, ?_, ?_⟩
  · simp [h.some]
  · intro c hc
    rcases List.mem_append.mp hc with hzero | hdigit
    · rw [List.eq_of_mem_replicate hzero]
      decide
    · exact h.ascii c hdigit
  · have hzero : digitValue (.char '0') = 0 := by decide
    rw [List.reverse_append, List.map_append, Nat.ofDigits_append, ← h.value]
    simp [replicate, hzero]

/-- Digits with white space around them are a core. -/
theorem Numeral.trims {digits front back : Text} {n : Nat} (h : digits.Numeral n)
    (hfront : ∀ c ∈ front, isBlank c = true) (hback : ∀ c ∈ back, isBlank c = true) :
    Trims (front ++ digits ++ back) digits := by
  refine ⟨⟨front, back, rfl, hfront, hback⟩, ?_, ?_⟩
  · intro c hc
    exact isBlank_of_mem_asciiDigits c (h.ascii c (List.mem_of_mem_head? hc))
  · intro c hc
    exact isBlank_of_mem_asciiDigits c (h.ascii c (List.mem_of_getLast? hc))

end Text

/-- A port is spelled by digits between white space, if their number is in range. -/
theorem portSpelled?_eq_some_iff {text : Text} {n : Nat} : portSpelled? text = some n ↔
    ∃ digits, text.Trims digits ∧ digits.Numeral n ∧ 1 ≤ n ∧ n ≤ 65535 := by
  simp [portSpelled?, Option.filter_eq_some_iff, Text.readDecimal?_eq_some_iff, Text.trims_iff]

/-- A port is read exactly from digits between white space, if they are not too many and their
number is in range. -/
theorem portOfText_ok_iff_numeral {text : Text} {n : Int} : portOfText text = .ok n ↔
    ∃ (digits : Text) (m : Nat), text.Trims digits ∧ digits.Numeral m ∧ digits.length ≤ 4300 ∧
      n = m ∧ 1 ≤ m ∧ m ≤ 65535 := by
  rw [portOfText_ok_iff]
  constructor
  · rintro ⟨hlength, m, hspelled, rfl⟩
    obtain ⟨digits, htrims, hnumeral, hlo, hhi⟩ := portSpelled?_eq_some_iff.mp hspelled
    rw [← Text.trims_iff.mp htrims] at hlength
    exact ⟨digits, m, htrims, hnumeral, hlength, rfl, hlo, hhi⟩
  · rintro ⟨digits, m, htrims, hnumeral, hlength, rfl, hlo, hhi⟩
    rw [← Text.trims_iff.mp htrims]
    exact ⟨hlength, m, portSpelled?_eq_some_iff.mpr ⟨digits, htrims, hnumeral, hlo, hhi⟩, rfl⟩

/-- **Ports are read from their numerals, and from nothing else.** A port is read exactly where the
text between the white space around it is ASCII digits, no more than 4300, which spell a number from
1 to 65535. A text with any other character there is no port. The decimal text of a port is read as
the port, with zeros in front of it and white space around it. -/
theorem portOfText_exact :
    (∀ (text : Text) (n : Int), portOfText text = .ok n ↔
      ∃ (digits : Text) (m : Nat), text.Trims digits ∧ digits.Numeral m ∧ digits.length ≤ 4300 ∧
        n = m ∧ 1 ≤ m ∧ m ≤ 65535) ∧
    (∀ text core : Text, text.Trims core → ∀ c ∈ core, c ∉ Text.asciiDigits →
      portOfText text = .error (.record (.portNotDecimal (Text.quoted text)))) ∧
    ∀ (n zeros : Nat) (front back : Text), 1 ≤ n → n ≤ 65535 →
      zeros + (Text.decimal n).length ≤ 4300 →
      (∀ c ∈ front, Text.isBlank c = true) → (∀ c ∈ back, Text.isBlank c = true) →
      portOfText (front ++ (Text.replicate zeros '0' ++ Text.decimal n) ++ back) = .ok n := by
  refine ⟨fun _ _ => portOfText_ok_iff_numeral, ?_, ?_⟩
  · intro text core htrims c hc hforeign
    rw [Text.trims_iff.mp htrims] at hc
    have hdigits : (Text.trim text).all Text.isDigit = false := by
      apply List.all_eq_false.mpr
      exact ⟨c, hc, fun hdigit => hforeign (Text.isDigit_iff.mp hdigit)⟩
    simp [portOfText, hdigits]
  · intro n zeros front back hlo hhi hlength hfront hback
    have hnumeral := Text.Numeral.zeros
      (Text.readDecimal?_eq_some_iff.mp (Text.readDecimal?_decimal n)) zeros
    apply portOfText_ok_iff_numeral.mpr
    refine ⟨_, n, hnumeral.trims hfront hback, hnumeral, ?_, rfl, hlo, hhi⟩
    simpa [Text.replicate] using hlength

/-- White space and zeros are passed over, and a mark between the digits is not. -/
theorem portOfText_exact_padded :
    portOfText " 0080\n" = .ok 80 ∧
    Text.Trims "8_0" "8_0" ∧ .char '_' ∉ Text.asciiDigits ∧
    portOfText "8_0" = .error (.record (.portNotDecimal (Text.quoted "8_0"))) := by
  have htrims : Text.Trims "8_0" "8_0" := Text.trims_iff.mpr (by decide)
  have hmark : .char '_' ∉ Text.asciiDigits := by decide
  refine ⟨?_, htrims, hmark, ?_⟩
  · exact portOfText_exact.2.2 80 2 " " "\n" (by decide) (by decide) (by decide) (by decide)
      (by decide)
  · exact portOfText_exact.2.1 _ _ htrims _ (by decide) hmark

end LeastPrivilege
