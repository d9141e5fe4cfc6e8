import LeastPrivilege.Text.Blank
import Mathlib.Data.List.TakeWhile

/-!
Trimming. A text is white space, a core, and white space; the core neither begins nor ends with any
(`Text.Trims`). There is one core, and trimming finds it (`Text.trims_iff`).
-/

namespace LeastPrivilege

namespace Text

/-- The core is the text without the white space around it. -/
structure Trims (t core : Text) : Prop where
  around : ∃ front back : Text, t = front ++ core ++ back ∧ (∀ c ∈ front, isBlank c = true) ∧
    ∀ c ∈ back, isBlank c = true
  first : ∀ c ∈ core.head?, isBlank c = false
  last : ∀ c ∈ core.getLast?, isBlank c = false

theorem not_isBlank_of_head? {u : Text} {c : CodePoint} (h : c ∈ (u.dropWhile isBlank).head?) :
    isBlank c = false := by
  have hnot := List.head?_dropWhile_not isBlank u
  rw [h] at hnot
  exact hnot

theorem dropWhile_of_head? {u : Text} (h : ∀ c ∈ u.head?, isBlank c = false) :
    u.dropWhile isBlank = u := by
  cases u with
  | nil => rfl
  | cons c rest => simp [h c rfl]

theorem trims_trim (t : Text) : t.Trims (trim t) := by
  -- The front is cut off, and the back of what is left.
  let back := ((t.dropWhile isBlank).reverse.takeWhile isBlank).reverse
  have hback : t.dropWhile isBlank = trim t ++ back := by
    calc t.dropWhile isBlank
        = ((t.dropWhile isBlank).reverse.takeWhile isBlank ++
            (t.dropWhile isBlank).reverse.dropWhile isBlank).reverse := by
          rw [List.takeWhile_append_dropWhile, List.reverse_reverse]
      _ = trim t ++ back := List.reverse_append
  constructor
  · refine ⟨t.takeWhile isBlank, back, ?_, ?_, ?_⟩
    · rw [List.append_assoc, ← hback, List.takeWhile_append_dropWhile]
    · intro c hc
      exact List.mem_takeWhile_imp hc
    · intro c hc
      exact List.mem_takeWhile_imp (List.mem_reverse.mp hc)
  · intro c hc
    apply not_isBlank_of_head? (u := t)
    rw [hback, List.head?_append, hc]
    rfl
  · intro c hc
    rw [trim, trimBy, List.getLast?_reverse] at hc
    exact not_isBlank_of_head? hc

/-- There is one core, and trimming finds it. -/
theorem trims_iff {t core : Text} : t.Trims core ↔ core = trim t := by
  constructor
  · intro h
    obtain ⟨front, back, ht, hfront, hback⟩ := h.around
    have hback' : ∀ c ∈ back.reverse, isBlank c = true := by simpa using hback
    have hlast : core.reverse.dropWhile isBlank = core.reverse := by
      apply dropWhile_of_head?
      intro c hc
      rw [List.head?_reverse] at hc
      exact h.last c hc
    rw [trim, trimBy, ht, List.append_assoc, List.dropWhile_append_of_pos hfront]
    cases hcore : core with
    | nil => simp [List.dropWhile_eq_nil_iff.mpr hback]
    | cons c rest =>
      have hc : isBlank c = false := h.first c (by rw [hcore]; rfl)
      have hfirst : (core ++ back).dropWhile isBlank = core ++ back := by
        apply dropWhile_of_head?
        simp [hcore, hc]
      rw [← hcore, hfirst, List.reverse_append, List.dropWhile_append_of_pos hback', hlast,
        List.reverse_reverse]
  · intro h
    rw [h]
    exact trims_trim t

end Text

end LeastPrivilege
