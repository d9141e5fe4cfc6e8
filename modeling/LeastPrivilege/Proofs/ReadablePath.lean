import LeastPrivilege.Proofs.Encoding
import LeastPrivilege.Proofs.Ending
import LeastPrivilege.Proofs.FileNames

/-!
Paths that the system can read. It reads a text as a path if it can read each of its characters
(`Fault.ofPathText_ok_iff`). The path of a file in a directory has the characters of the directory's
path, those of the file's name and slashes, so files named after pods are no worse than the
directory that they lie in (`Plan.readable_of_legal`), and that can be read if it could be made
(`OutputDirectory.readable_of_prepare`).
-/

namespace LeastPrivilege

/-- The system can read the character in a path. -/
def CodePoint.isReadable (c : CodePoint) : Bool :=
  !(c.isHalf && !Text.isByteHalf c.toNat) && c != .char '\x00'

theorem Fault.ofPathText_ok_iff {t : Text} :
    Fault.ofPathText t = .ok () ↔ ∀ c ∈ t, c.isReadable = true := by
  have hhalves : Text.systemHalfRun? t = none ↔
      ∀ c ∈ t, (c.isHalf && !Text.isByteHalf c.toNat) = false :=
    Text.halfRunFrom_eq_none_iff
  have hreadable : (∀ c ∈ t, c.isReadable = true) ↔
      Text.systemHalfRun? t = none ∧ CodePoint.char '\x00' ∉ t := by
    rw [hhalves]
    simp only [CodePoint.isReadable, Bool.and_eq_true, Bool.not_eq_true', bne_iff_ne]
    constructor
    · intro h
      exact ⟨fun c hc => (h c hc).1, fun hend => (h _ hend).2 rfl⟩
    · intro h c hc
      refine ⟨h.1 c hc, fun e => h.2 ?_⟩
      rwa [← e]
  rw [hreadable]
  unfold Fault.ofPathText
  cases Text.systemHalfRun? t with
  | some run => exact ⟨nofun, fun h => nomatch h.1⟩
  | none =>
    dsimp only
    by_cases hend : CodePoint.char '\x00' ∈ t
    · rw [if_pos (List.contains_iff_mem.mpr hend)]
      exact ⟨nofun, fun h => absurd hend h.2⟩
    · rw [if_neg fun h => hend (List.contains_iff_mem.mp h)]
      exact ⟨fun _ => ⟨rfl, hend⟩, fun _ => rfl⟩

/-! ## Paths of files -/

theorem Text.mem_intercalate {sep : Text} {c : CodePoint} : ∀ {l : List Text},
    c ∈ Text.intercalate sep l → c ∈ sep ∨ ∃ t ∈ l, c ∈ t
  | [], h => absurd h List.not_mem_nil
  | [t], h => .inr ⟨t, List.mem_singleton.mpr rfl, by simpa [intercalate, List.intercalate] using h⟩
  | t :: u :: l, h => by
    have hparts : c ∈ t ∨ c ∈ sep ∨ c ∈ Text.intercalate sep (u :: l) := by
      simpa [intercalate, List.intercalate, List.intersperse] using h
    rcases hparts with ht | hsep | hrest
    · exact .inr ⟨t, List.mem_cons_self .., ht⟩
    · exact .inl hsep
    · rcases mem_intercalate hrest with hsep | ⟨v, hv, hc⟩
      · exact .inl hsep
      · exact .inr ⟨v, List.mem_cons_of_mem t hv, hc⟩

theorem Text.mem_intercalate_of_mem {sep t : Text} {c : CodePoint} (hc : c ∈ t) :
    ∀ {l : List Text}, t ∈ l → c ∈ Text.intercalate sep l
  | [u], h => by
    rw [List.mem_singleton.mp h] at hc
    simpa [intercalate, List.intercalate] using hc
  | u :: v :: l, h => by
    have hparts : c ∈ u ∨ c ∈ sep ∨ c ∈ Text.intercalate sep (v :: l) := by
      cases List.mem_cons.mp h with
      | inl e => exact .inl (e ▸ hc)
      | inr hrest => exact .inr (.inr (mem_intercalate_of_mem hc hrest))
    simpa [intercalate, List.intercalate, List.intersperse] using hparts

namespace FilePath

theorem mem_text_of_root {d : FilePath} {c : CodePoint} (h : c ∈ d.root) : c ∈ d.text := by
  have hroot : d.root.isEmpty = false := by
    cases hd : d.root with
    | nil => exact absurd (hd ▸ h) List.not_mem_nil
    | cons first rest => rfl
  rw [text, hroot, Bool.false_and, if_neg nofun]
  exact List.mem_append_left _ h

theorem mem_text_of_name {d : FilePath} {name : Text} {c : CodePoint} (hname : name ∈ d.names)
    (h : c ∈ name) : c ∈ d.text := by
  have hnames : d.names.isEmpty = false := by
    cases hd : d.names with
    | nil => exact absurd (hd ▸ hname) List.not_mem_nil
    | cons first rest => rfl
  rw [text, hnames, Bool.and_false, if_neg nofun]
  exact List.mem_append_right _ (Text.mem_intercalate_of_mem h hname)

/-- The characters of a file's path are those of its directory's path, those of its name, and
slashes. -/
theorem mem_text_fileIn {d : FilePath} {name : Text} {c : CodePoint}
    (h : c ∈ (FileTree.fileIn d name).text) : c = .char '/' ∨ c ∈ d.text ∨ c ∈ name := by
  have hnames : (d.names ++ [name]).isEmpty = false := by simp
  rw [text, FileTree.fileIn, hnames, Bool.and_false, if_neg nofun] at h
  cases List.mem_append.mp h with
  | inl hroot => exact .inr (.inl (mem_text_of_root hroot))
  | inr hin =>
    rcases Text.mem_intercalate hin with hsep | ⟨t, ht, hc⟩
    · exact .inl (List.mem_singleton.mp hsep)
    · cases List.mem_append.mp ht with
      | inl hname => exact .inr (.inl (mem_text_of_name hname hc))
      | inr hlast =>
        rw [List.mem_singleton.mp hlast] at hc
        exact .inr (.inr hc)

end FilePath

/-! ## Names of pods -/

theorem isHalf_of_isPodChar {c : CodePoint} (h : isPodChar c = true) : c.isHalf = false := by
  cases c with
  | char c => rfl
  | half offset =>
    -- The letters, digits and signs of names come before all halves.
    have hbetween : ∀ lo hi : Char, hi.toNat < 0xd800 →
        CodePoint.isBetween lo hi (.half offset) = false := by
      intro lo hi hhi
      have hnot : ¬ (CodePoint.half offset).toNat ≤ hi.toNat := by
        rw [CodePoint.toNat]
        omega
      rw [CodePoint.isBetween, decide_eq_false hnot, Bool.and_false]
    rw [isPodChar, isNsChar, hbetween _ _ (by decide), hbetween _ _ (by decide)] at h
    cases h

theorem isReadable_of_isPodChar {c : CodePoint} (h : isPodChar c = true) :
    c.isReadable = true := by
  have hend : c ≠ .char '\x00' := by
    intro e
    rw [e] at h
    exact absurd h (by decide)
  rw [CodePoint.isReadable, isHalf_of_isPodChar h, Bool.false_and, Bool.not_false, Bool.true_and,
    bne_iff_ne]
  exact hend

/-- A legal name has an encoding. -/
theorem PodRef.Legal.halfRun?_name {k : PodRef} (h : k.Legal) : Text.halfRun? k.name = none := by
  refine Text.halfRunFrom_eq_none_iff.mpr fun c hc => ?_
  rw [isHalf_of_isPodChar (List.all_eq_true.mp h.name c hc), Bool.false_and]

namespace Plan

/-- Files of pods with legal names can be read where their directory can. -/
theorem readable_of_legal {plan : Plan} {p : Policy} {pod : Text}
    (hdir : ∀ d, plan.directory = some d → Fault.ofPathText d.path.text = .ok ())
    (hlegal : PodRef.Legal ⟨p.ns, pod⟩) (hpod : pod ≠ []) : ¬ plan.Unreadable p (some pod) := by
  intro ⟨d, hd, hunreadable⟩
  have hname : podName p (some pod) = pod := by
    cases pod with
    | nil => exact absurd rfl hpod
    | cons c rest => rfl
  have hunslashed : Unslashed p (some pod) :=
    ⟨hlegal.unslashed.ns, by rw [hname]; exact hlegal.unslashed.name⟩
  refine hunreadable (Fault.ofPathText_ok_iff.mpr fun c hc => ?_)
  rw [pathIn_eq hunslashed, hname] at hc
  rcases FilePath.mem_text_fileIn hc with rfl | hdirectory | hfile
  · rfl
  · exact Fault.ofPathText_ok_iff.mp (hdir d hd) c hdirectory
  · have hns : ∀ c ∈ p.ns, c.isReadable = true := fun c hc =>
      isReadable_of_isPodChar (Bool.or_eq_true_iff.mpr (.inl (List.all_eq_true.mp hlegal.ns c hc)))
    have hpodName : ∀ c ∈ pod, c.isReadable = true := fun c hc =>
      isReadable_of_isPodChar (List.all_eq_true.mp hlegal.name c hc)
    have hkind : (fileKind p.schema).all CodePoint.isReadable = true := by
      cases p.schema <;> decide
    have hlast : ("." ++ "yaml" : Text).all CodePoint.isReadable = true := by decide
    rw [List.all_eq_true] at hkind hlast
    simp only [OutputDirectory.fileName, List.mem_append] at hfile hlast
    rcases hfile with (((((h | h) | h) | h) | h) | h) | h
    · exact hns c h
    · rw [List.mem_singleton.mp h]
      rfl
    · exact hpodName c h
    · rw [List.mem_singleton.mp h]
      rfl
    · exact hkind c h
    · exact hlast c (.inl h)
    · exact hlast c (.inr h)

end Plan

/-! ## Directories -/

/-- A path that is used for a directory can be read. -/
theorem Outlet.readable_of_makeDirectory {path : FilePath} {log : List (Exchange outlet)}
    {cause : Option FileCause} (h : (makeDirectory path).Ends log (.ok cause)) :
    Fault.ofPathText path.text = .ok () := by
  rcases Attempt.ends_bind.mp h with ⟨_, e, _⟩ | ⟨_, u, _, _, hcheck, _⟩
  · cases e
  · exact (Attempt.ends_ofExcept.mp hcheck).2.symm

theorem Outlet.readable_of_makeWithParents {root : Text} {names : List Text}
    {log : List (Exchange outlet)} (h : (makeWithParents root names).Ends log (.ok ())) :
    Fault.ofPathText (⟨root, names.reverse⟩ : FilePath).text = .ok () := by
  cases names with
  | nil =>
    rcases Attempt.ends_bind.mp h with ⟨_, e, _⟩ | ⟨_, cause, _, _, hmade, _⟩
    · cases e
    · exact readable_of_makeDirectory hmade
  | cons name above =>
    rcases Attempt.ends_bind.mp h with ⟨_, e, _⟩ | ⟨_, cause, _, _, hmade, _⟩
    · cases e
    · exact readable_of_makeDirectory hmade

/-- A directory that could be made has a path that can be read. -/
theorem OutputDirectory.readable_of_prepare {d : OutputDirectory} {log : List (Exchange outlet)}
    (h : d.prepare.Ends log (.ok ())) : Fault.ofPathText d.path.text = .ok () := by
  have hmade := Outlet.readable_of_makeWithParents h
  rwa [List.reverse_reverse] at hmade

end LeastPrivilege
