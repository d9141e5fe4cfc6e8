import LeastPrivilege.FileTree

/-!
Trees with the same directories. Writing a file never makes or removes a directory, nor does it make
a place writable or read-only (`FileTree.write_sameDirs`), and where a path leads depends on
directories alone. So in trees with the same directories and the same permissions the same files can
be written (`FileTree.SameDirs.write`); only where a directory on the way is not there may the cause
differ, for something else may stand in its place.
-/

namespace LeastPrivilege

/-- A directory on the way is not there. -/
def FileCause.IsNoDirectory (c : FileCause) : Prop :=
  c = .missing ∨ c = .notADirectory

/-- The causes are the same, or both say that a directory on the way is not there. -/
def FileCause.Alike (c c' : FileCause) : Prop :=
  c = c' ∨ (c.IsNoDirectory ∧ c'.IsNoDirectory)

theorem FileCause.Alike.symm {c c' : FileCause} (h : c.Alike c') : c'.Alike c :=
  h.imp Eq.symm And.symm

theorem FileCause.Alike.trans {c c' c'' : FileCause} (h : c.Alike c') (h' : c'.Alike c'') :
    c.Alike c'' := by
  rcases h with rfl | ⟨hc, hc'⟩
  · exact h'
  · rcases h' with rfl | ⟨-, hc''⟩
    · exact .inr ⟨hc, hc'⟩
    · exact .inr ⟨hc, hc''⟩

namespace FileTree

/-- What stands at a place after an entry was put somewhere. -/
theorem entry?_put (t : FileTree) {place : List Text} (h : place ≠ []) (e : FileEntry)
    (other : List Text) :
    entry? (t.put place e) other = if other = place then some e else t.entry? other := by
  have hlookup : (t.put place e).entries.lookup other
      = if other = place then some e else t.entries.lookup other := by
    rw [put, List.lookup_cons]
    by_cases ho : other = place
    · simp [ho]
    · rw [beq_false_of_ne ho, if_neg ho]
      show (t.entries.filter (·.1 != place)).lookup other = t.entries.lookup other
      induction t.entries with
      | nil => rfl
      | cons first rest ih =>
        obtain ⟨k, v⟩ := first
        by_cases hk : k = place
        · subst hk
          simp [List.lookup_cons, ih, beq_false_of_ne ho]
        · simp [List.lookup_cons, ih, hk]
  unfold entry?
  rw [hlookup]
  by_cases hroot : other = []
  · simp [hroot, h.symm]
  · simp [hroot]

/-- A file can be written in a place where no directory stands and that is not kept. -/
theorem refusal?_eq_none_iff {t : FileTree} {place : List Text} :
    t.refusal? place = none ↔ t.entry? place ≠ some .directory ∧ t.isKept place = false := by
  unfold refusal?
  split
  · rename_i hd
    simp [hd]
  · rename_i hd
    simpa using fun _ => hd

/-- The trees have the same directories and keep the same places, and one starts from the same
directory in both. -/
structure SameDirs (t t' : FileTree) : Prop where
  directory : ∀ place, t.entry? place = some .directory ↔ t'.entry? place = some .directory
  isKept : ∀ place, t.isKept place = t'.isKept place
  workingPlace : t.workingPlace = t'.workingPlace

theorem SameDirs.refl (t : FileTree) : t.SameDirs t :=
  ⟨fun _ => Iff.rfl, fun _ => rfl, rfl⟩

theorem SameDirs.symm {t t' : FileTree} (h : t.SameDirs t') : t'.SameDirs t :=
  ⟨fun place => (h.directory place).symm, fun place => (h.isKept place).symm,
    h.workingPlace.symm⟩

theorem SameDirs.trans {t t' t'' : FileTree} (h : t.SameDirs t') (h' : t'.SameDirs t'') :
    t.SameDirs t'' :=
  ⟨fun place => (h.directory place).trans (h'.directory place),
    fun place => (h.isKept place).trans (h'.isKept place), h.workingPlace.trans h'.workingPlace⟩

theorem SameDirs.refusal? {t t' : FileTree} (h : t.SameDirs t') (place : List Text) :
    t.refusal? place = t'.refusal? place := by
  by_cases hd : t.entry? place = some .directory
  · simp only [FileTree.refusal?, hd, (h.directory place).mp hd]
  · have hd' : t'.entry? place ≠ some .directory := fun e => hd ((h.directory place).mpr e)
    simp only [FileTree.refusal?, h.isKept place]

/-- Only a directory is gone through, and one name further on. -/
theorem enter_ok {t : FileTree} {place next : List Text} {name : Text}
    (h : t.enter place name = .ok next) :
    t.entry? place = some .directory ∧ next = step place name := by
  unfold enter at h
  split at h
  · cases h
  · cases h
  · rename_i hdir
    split at h
    · cases h
    · exact ⟨hdir, (Except.ok.inj h).symm⟩

/-- What has been written is in its place, where a file can be written. -/
theorem write_ok {t t' : FileTree} {p : FilePath} {text : Text} (h : t.write p text = .ok t') :
    ∃ place, t.locate p = .ok place ∧ t.refusal? place = none ∧ t' = t.put place (.file text) := by
  unfold write at h
  cases hplace : t.locate p with
  | error cause =>
    rw [hplace] at h
    cases h
  | ok place =>
    rw [hplace] at h
    cases hfree : t.refusal? place with
    | some cause =>
      simp only [bind, Except.bind, hfree] at h
      cases h
    | none =>
      simp only [bind, Except.bind, hfree] at h
      exact ⟨place, rfl, hfree, (Except.ok.inj h).symm⟩

/-- A file is never put at the root, which is a directory. -/
theorem entry?_put_file {t : FileTree} {place : List Text} (text : Text)
    (h : t.refusal? place = none) (other : List Text) :
    entry? (t.put place (.file text)) other
      = if other = place then some (.file text) else t.entry? other := by
  have hne : place ≠ [] := by
    rintro rfl
    exact (refusal?_eq_none_iff.mp h).1 rfl
  exact entry?_put t hne _ other

/-- A file that is put where one can be written does not change which places are kept. -/
theorem isKept_put_file {t : FileTree} {place : List Text} (text : Text)
    (h : t.refusal? place = none) (other : List Text) :
    isKept (t.put place (.file text)) other = t.isKept other := by
  have hplaces : (t.put place (.file text)).readOnly = t.readOnly := rfl
  unfold isKept
  rw [entry?_put_file text h, hplaces]
  split
  · rename_i ho
    subst ho
    -- The file itself is not read-only, or it could not have been put there.
    have hfree := (refusal?_eq_none_iff.mp h).2
    rw [isKept, Bool.or_eq_false_iff] at hfree
    rw [hfree.1, hfree.2]
    rfl
  · rfl

theorem put_sameDirs {t : FileTree} {place : List Text} (text : Text)
    (h : t.refusal? place = none) : t.SameDirs (t.put place (.file text)) := by
  refine ⟨fun other => ?_, fun other => (isKept_put_file text h other).symm, rfl⟩
  rw [entry?_put_file text h]
  split
  · rename_i ho
    subst ho
    simp [(refusal?_eq_none_iff.mp h).1]
  · rfl

/-- Writing a file leaves all directories and permissions as they are. -/
theorem write_sameDirs {t t' : FileTree} {p : FilePath} {text : Text}
    (h : t.write p text = .ok t') : t.SameDirs t' := by
  obtain ⟨place, -, hfree, rfl⟩ := write_ok h
  exact put_sameDirs text hfree

/-! ## The same way in both trees -/

/-- Two results that agree, but for the cause where a directory on the way is not there. -/
inductive Agree {α : Type} (related : α → α → Prop) :
    Except FileCause α → Except FileCause α → Prop
  | ok {a b : α} (h : related a b) : Agree related (.ok a) (.ok b)
  | error {c c' : FileCause} (h : c.Alike c') : Agree related (.error c) (.error c')

namespace SameDirs

variable {t t' : FileTree} (h : t.SameDirs t')

include h

theorem enter (place : List Text) (name : Text) :
    Agree (· = ·) (t.enter place name) (t'.enter place name) := by
  have noDirectory : ∀ {u : FileTree}, u.entry? place ≠ some .directory →
      ∃ c : FileCause, c.IsNoDirectory ∧ u.enter place name = .error c := by
    intro u hu
    unfold FileTree.enter
    split
    · exact ⟨_, .inl rfl, rfl⟩
    · exact ⟨_, .inr rfl, rfl⟩
    · contradiction
  by_cases hd : t.entry? place = some .directory
  · have hd' := (h.directory place).mp hd
    simp only [FileTree.enter, hd, hd']
    split
    · exact .error (.inl rfl)
    · exact .ok rfl
  · -- Neither tree has a directory here, but one may have a file and the other nothing.
    obtain ⟨c, hc, e⟩ := noDirectory hd
    obtain ⟨c', hc', e'⟩ := noDirectory fun hd' => hd ((h.directory place).mpr hd')
    rw [e, e']
    exact .error (.inr ⟨hc, hc'⟩)

theorem follow : ∀ (names : List Text) (place : List Text),
    Agree (· = ·) (t.follow place names) (t'.follow place names)
  | [], _ => .ok rfl
  | name :: rest, place => by
    have hname := h.enter place name
    show Agree _ (t.enter place name >>= fun next => t.follow next rest)
      (t'.enter place name >>= fun next => t'.follow next rest)
    generalize t.enter place name = r at hname
    generalize t'.enter place name = r' at hname
    cases hname with
    | error hc => exact .error hc
    | ok hnext =>
      subst hnext
      exact follow rest _

theorem locate (p : FilePath) : Agree (· = ·) (t.locate p) (t'.locate p) := by
  unfold FileTree.locate
  split
  · exact .error (.inl rfl)
  · rw [h.workingPlace]
    exact h.follow _ _

/-- A file can be written in both trees or in neither. -/
theorem write (p : FilePath) (text : Text) :
    Agree SameDirs (t.write p text) (t'.write p text) := by
  have hplace := h.locate p
  unfold FileTree.write
  generalize t.locate p = r at hplace
  generalize t'.locate p = r' at hplace
  cases hplace with
  | error hc => exact .error hc
  | @ok place _ hsame =>
    subst hsame
    have hrefusal := h.refusal? place
    simp only [bind, Except.bind]
    rw [← hrefusal]
    cases hfree : t.refusal? place with
    | some cause => exact .error (.inl rfl)
    | none =>
      have hput := put_sameDirs text hfree
      have hput' := put_sameDirs text (hrefusal ▸ hfree)
      exact .ok ((hput.symm.trans h).trans hput')

end SameDirs

/-! ## Files of one directory -/

theorem follow_append (t : FileTree) : ∀ (names rest : List Text) (place : List Text),
    t.follow place (names ++ rest) = t.follow place names >>= fun next => t.follow next rest
  | [], _, _ => rfl
  | name :: names, rest, place => by
    show (t.enter place name >>= fun next => t.follow next (names ++ rest))
      = (t.enter place name >>= fun next => t.follow next names) >>= fun next => t.follow next rest
    rw [bind_assoc]
    congr 1
    funext next
    exact follow_append t names rest next

/-- The path leads to a directory. -/
def Leads (t : FileTree) (d : FilePath) : Prop :=
  ∃ place, t.follow (if d.isAbsolute then [] else t.workingPlace) d.names = .ok place ∧
    t.entry? place = some .directory

/-- The path of a file with one name, seen from a directory. -/
def fileIn (d : FilePath) (name : Text) : FilePath :=
  { d with names := d.names ++ [name] }

theorem locate_fileIn (t : FileTree) (d : FilePath) (name : Text) :
    t.locate (fileIn d name) =
      if maxPathBytes ≤ Text.systemBytes (fileIn d name).text then .error .nameTooLong
      else t.follow (if d.isAbsolute then [] else t.workingPlace) d.names >>= fun next =>
        t.enter next name := by
  have hone (next : List Text) : t.follow next [name] = t.enter next name :=
    bind_pure (t.enter next name)
  unfold locate
  split
  · rfl
  · show t.follow (if d.isAbsolute then [] else t.workingPlace) (d.names ++ [name]) = _
    rw [follow_append]
    simp only [hone]

/-- A file is in a directory's place, one name further on. -/
theorem locate_fileIn_ok {t : FileTree} {d : FilePath} {name : Text} {file : List Text}
    (h : t.locate (fileIn d name) = .ok file) : ∃ place,
      t.follow (if d.isAbsolute then [] else t.workingPlace) d.names = .ok place ∧
      t.entry? place = some .directory ∧ file = step place name := by
  rw [locate_fileIn] at h
  split at h
  · cases h
  · cases hd : t.follow (if d.isAbsolute then [] else t.workingPlace) d.names with
    | error cause =>
      rw [hd] at h
      cases h
    | ok place =>
      rw [hd] at h
      obtain ⟨hdir, rfl⟩ := enter_ok h
      exact ⟨place, rfl, hdir, rfl⟩

/-- Files of one directory that are in one place have one name. -/
theorem eq_of_locate_fileIn {t : FileTree} {d : FilePath} {name name' : Text} {place : List Text}
    (hname : name ≠ "..") (hname' : name' ≠ "..") (e : t.locate (fileIn d name) = .ok place)
    (e' : t.locate (fileIn d name') = .ok place) : name = name' := by
  obtain ⟨base, hbase, -, hplace⟩ := locate_fileIn_ok e
  obtain ⟨base', hbase', -, hplace'⟩ := locate_fileIn_ok e'
  obtain rfl : base = base' := Except.ok.inj (hbase.symm.trans hbase')
  rw [step, if_neg hname] at hplace
  rw [step, if_neg hname'] at hplace'
  have hnames := hplace.symm.trans hplace'
  simpa using hnames

/-- A file is written in a directory only where the directory is. -/
theorem leads_of_write {t t' : FileTree} {d : FilePath} {name text : Text}
    (h : t.write (fileIn d name) text = .ok t') : t.Leads d := by
  obtain ⟨file, hfile, -⟩ := write_ok h
  obtain ⟨place, hplace, hdir, -⟩ := locate_fileIn_ok hfile
  exact ⟨place, hplace, hdir⟩

theorem SameDirs.locate_ok {t t' : FileTree} (h : t.SameDirs t') {p : FilePath}
    {place : List Text} (e : t.locate p = .ok place) : t'.locate p = .ok place := by
  have hagree := h.locate p
  rw [e] at hagree
  generalize t'.locate p = r at hagree ⊢
  cases hagree with
  | ok hsame => rw [hsame]

theorem SameDirs.follow_ok {t t' : FileTree} (h : t.SameDirs t') {names place next : List _}
    (e : t.follow place names = .ok next) : t'.follow place names = .ok next := by
  have hagree := h.follow names place
  rw [e] at hagree
  generalize t'.follow place names = r at hagree ⊢
  cases hagree with
  | ok hsame => rw [hsame]

theorem SameDirs.leads {t t' : FileTree} (h : t.SameDirs t') {d : FilePath} (hd : t.Leads d) :
    t'.Leads d := by
  obtain ⟨place, hplace, hdir⟩ := hd
  refine ⟨place, ?_, (h.directory place).mp hdir⟩
  rw [← h.workingPlace]
  exact h.follow_ok hplace

/-- Where the directory is there, even the causes are the same. -/
theorem SameDirs.write_error {t t' : FileTree} (h : t.SameDirs t') {d : FilePath} (hd : t.Leads d)
    (name text : Text) {cause cause' : FileCause}
    (e : t.write (fileIn d name) text = .error cause)
    (e' : t'.write (fileIn d name) text = .error cause') : cause = cause' := by
  obtain ⟨place, hplace, hdir⟩ := hd
  have hplace' : t'.follow (if d.isAbsolute then [] else t'.workingPlace) d.names = .ok place := by
    rw [← h.workingPlace]
    exact h.follow_ok hplace
  have henter : t.enter place name = t'.enter place name := by
    simp only [FileTree.enter, hdir, (h.directory place).mp hdir]
  have hlocate : t.locate (fileIn d name) = t'.locate (fileIn d name) := by
    rw [locate_fileIn, locate_fileIn, hplace, hplace']
    show (if _ then _ else t.enter place name) = (if _ then _ else t'.enter place name)
    rw [henter]
  unfold FileTree.write at e e'
  rw [← hlocate] at e'
  cases hfile : t.locate (fileIn d name) with
  | error other =>
    rw [hfile] at e e'
    exact Except.error.inj (e.symm.trans e')
  | ok file =>
    rw [hfile] at e e'
    simp only [bind, Except.bind] at e e'
    rw [← h.refusal? file] at e'
    cases hfree : t.refusal? file with
    | some other =>
      rw [hfree] at e e'
      exact Except.error.inj (e.symm.trans e')
    | none =>
      rw [hfree] at e
      cases e

end FileTree

end LeastPrivilege
