import LeastPrivilege.Proofs.BrokerReply
import LeastPrivilege.Proofs.ShownLines
import Mathlib.Data.List.Basic

/-!
Tables that can be shown in every width. The markup of every cell is read, and its styles are looked
up once the cells are broken into lines. So a table is shown if the markup of each of its cells can
be read and names styles that are known (`Console.Table.lines_of_showable`); a text without an
opening bracket is such a cell. Of the table of results only the names and details of pods are not
of the program's own making, so it is shown where these have no opening bracket
(`Run.resultTable_shown`).
-/

namespace LeastPrivilege.Console

/-- The markup of a text can be read, and its styles are known. -/
def Showable (markup : Text) : Prop :=
  ∃ m, marked markup = .ok m ∧ m.Known

theorem showable_of_not_mem {markup : Text} (h : .char '[' ∉ markup) : Showable markup := by
  refine ⟨{ text := (withEmoji markup).filter (!isDropped ·) }, ?_, nofun⟩
  have hplain : markup.contains (.char '[') = false := by
    simpa only [List.contains_iff_mem, ← Bool.not_eq_true] using h
  unfold marked
  rw [hplain, if_neg nofun]

namespace Table

variable {t : Table}

/-- Cells that can be shown are read, column by column and then row by row. -/
theorem read_of_showable (h : ∀ row ∈ t.rows, ∀ cell ∈ row, Showable cell) (room : Nat) :
    ∃ rows, t.read room = .ok rows ∧ ∀ row ∈ rows, ∀ m ∈ row, m.Known := by
  unfold read
  split
  · -- Where there is no room, nothing is read, and every cell is empty.
    refine ⟨_, rfl, ?_⟩
    intro row hrow m hm
    obtain ⟨cells, -, rfl⟩ := List.mem_map.mp hrow
    obtain ⟨cell, -, rfl⟩ := List.mem_map.mp hm
    exact nofun
  · have hcolumns : (List.range t.columns.length).forM (fun i =>
        t.rows.forM fun row => (marked (row[i]?.getD [])).map fun _ => ()) = .ok () := by
      apply forM_eq_ok
      intro i _
      apply forM_eq_ok
      intro row hrow
      have hcell : Showable (row[i]?.getD []) := by
        cases hi : row[i]? with
        | none => exact showable_of_not_mem List.not_mem_nil
        | some cell => exact h row hrow cell (List.mem_of_getElem? hi)
      obtain ⟨m, hmarked, -⟩ := hcell
      rw [hmarked]
      rfl
    have hrows : ∀ row ∈ t.rows, ∃ ms, row.mapM marked = .ok ms ∧ ∀ m ∈ ms, m.Known :=
      fun row hrow => exists_mapM_ok_forall (h row hrow)
    obtain ⟨rows, hread, hknown⟩ := exists_mapM_ok_forall hrows
    refine ⟨rows, ?_, hknown⟩
    rw [hcolumns]
    exact hread

/-- A table whose cells can be shown can be shown in every width. -/
theorem lines_of_showable (h : ∀ row ∈ t.rows, ∀ cell ∈ row, Showable cell) (width : Nat) :
    ∃ lines, t.lines width = .ok lines := by
  obtain ⟨rows, hread, hknown⟩ := read_of_showable h (width - (t.columns.length + 1))
  have hstyles : ∀ widths : List Nat, rows.forM (fun row =>
      (widths.zip row).forM fun cell => checkStyles (wrapCell cell.1 cell.2)) = .ok () := by
    intro widths
    apply forM_eq_ok
    intro row hrow
    apply forM_eq_ok
    rintro ⟨width, m⟩ hm
    have hcell : m.Known := hknown row hrow m (List.of_mem_zip hm).2
    apply checkStyles_of_known
    intro line hline
    unfold wrapCell at hline
    split at hline
    · cases hline
    · exact hcell.wrap .ellipsis _ line hline
  unfold lines
  dsimp only
  rw [hread]
  -- The widths follow from the rows, so the check of the styles is known for whatever they are.
  show ∃ shown, ((rows.forM _ : Except Fault Unit) >>= _) = Except.ok shown
  rw [hstyles]
  exact ⟨_, rfl⟩

end Table

/-- A text in a color can be shown. -/
theorem showable_span {markup color t : Text} (hcolor : color ∈ saidColors)
    (hmarkup : markup.contains (.char '[') = true)
    (hparts : partsOf markup = [.tag color, .text t, .tag (.char '/' :: color)]) :
    Showable markup := by
  apply known_of_parts hmarkup
  rw [hparts]
  have hstyle := isStyle_color hcolor
  refine ⟨_, Progress.parts_span hstyle {} t [], rfl, ?_⟩
  exact List.forall_mem_cons.mpr ⟨hstyle.known _ _, nofun⟩

end LeastPrivilege.Console

namespace LeastPrivilege.Run

open Console

variable {α : Type}

/-- What became of a pod can be shown. -/
theorem outcomeWord_showable (r : PodResult α) : Showable (outcomeWord r) := by
  unfold outcomeWord
  cases r.isOk with
  | true =>
    have hparts : partsOf "[green]ok[/green]" =
        [.tag "green", .text "ok", .tag "/green"] := by decide +kernel
    exact showable_span (by decide) (by decide) hparts
  | false =>
    have hparts : partsOf "[red]failed[/red]" =
        [.tag "red", .text "failed", .tag "/red"] := by decide +kernel
    exact showable_span (by decide) (by decide) hparts

/-- What is told about the pod begins no tag. -/
def Untagged (nameOf : α → Text) (r : PodResult α) : Prop :=
  .char '[' ∉ r.pod ∧ .char '[' ∉ detail nameOf r

/-- The table of results is shown where what is told about the pods begins no tag. -/
theorem resultTable_shown {title : Text} {nameOf : α → Text} {results : List (PodResult α)}
    (h : ∀ r ∈ results, Untagged nameOf r) (width : Nat) :
    ∃ lines, (resultTable title nameOf results).lines width = .ok lines := by
  apply Table.lines_of_showable
  intro row hrow cell hcell
  obtain ⟨r, hr, rfl⟩ := List.mem_map.mp hrow
  obtain ⟨hpod, hdetail⟩ := h r hr
  rcases List.mem_cons.mp hcell with rfl | hcell
  · exact showable_of_not_mem hpod
  · rcases List.mem_pair.mp hcell with rfl | rfl
    · exact outcomeWord_showable r
    · exact showable_of_not_mem hdetail

end LeastPrivilege.Run
