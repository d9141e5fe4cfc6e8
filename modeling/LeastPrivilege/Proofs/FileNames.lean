import LeastPrivilege.Proofs.Site

/-!
Names of files. A file is named after the namespace and the pod it is for, with a dash between them,
and a dash can stand in either. So two pods have one path exactly if the namespace of one goes on
into the name of the other (`PodRef.stem_eq_iff`, `OutputDirectory.pathFor_eq_iff`), and the pods of
one namespace never do. Of the files that are written one after the other, each holds what was last
written for a pod with its path (`OutputDirectory.writeEach_kept`), so that of two such pods the
first loses its text (`OutputDirectory.writeEach_overwritten`).
-/

namespace LeastPrivilege

/-! ## Pods -/

/-- A pod by its namespace and its name. -/
structure PodRef where
  ns : Text
  name : Text
  deriving DecidableEq, Repr

/-- A namespace is named with small letters, digits and dashes. -/
def isNsChar (c : CodePoint) : Bool :=
  c.isBetween 'a' 'z' || c.isBetween '0' '9' || c == .char '-'

/-- A pod is named with these and with dots. -/
def isPodChar (c : CodePoint) : Bool :=
  isNsChar c || c == .char '.'

namespace PodRef

/-- Both names are such as the cluster allows. -/
structure Legal (k : PodRef) : Prop where
  ns : k.ns.all isNsChar = true
  name : k.name.all isPodChar = true

/-- Neither name has a slash. -/
structure Unslashed (k : PodRef) : Prop where
  ns : k.ns.NoSlash
  name : k.name.NoSlash

theorem Legal.unslashed {k : PodRef} (h : k.Legal) : k.Unslashed := by
  refine ⟨fun hslash => ?_, fun hslash => ?_⟩
  · exact absurd (List.all_eq_true.mp h.ns _ hslash) (by decide)
  · exact absurd (List.all_eq_true.mp h.name _ hslash) (by decide)

/-- What the name of a file says of the pod. -/
def stem (k : PodRef) : Text :=
  k.ns ++ "-" ++ k.name

/-- The namespace of the second pod is that of the first with the beginning of the first's name, up
to a dash, and the second's name is what is left of it. -/
def Shifts (k k' : PodRef) : Prop :=
  ∃ middle : Text, k'.ns = k.ns ++ "-" ++ middle ∧ k.name = middle ++ "-" ++ k'.name

/-- The pods are the same, or one shifts into the other. -/
def Confused (k k' : PodRef) : Prop :=
  k = k' ∨ k.Shifts k' ∨ k'.Shifts k

theorem Shifts.stem_eq {k k' : PodRef} (h : k.Shifts k') : k.stem = k'.stem := by
  obtain ⟨middle, hns, hname⟩ := h
  simp only [stem, hns, hname, List.append_assoc]

/-- What the one namespace has more than the other is the beginning of the other's name. -/
theorem eq_or_shifts {k k' : PodRef} {more : Text} (hns : k'.ns = k.ns ++ more)
    (hrest : Text.ofString "-" ++ k.name = more ++ ("-" ++ k'.name)) : k = k' ∨ k.Shifts k' := by
  obtain ⟨ns, name⟩ := k
  obtain ⟨ns', name'⟩ := k'
  dsimp only at hns hrest
  cases more with
  | nil =>
    obtain rfl : name = name' := (List.cons.inj hrest).2
    rw [List.append_nil] at hns
    exact .inl (by rw [hns])
  | cons c middle =>
    obtain ⟨hc, hname⟩ := List.cons.inj hrest
    refine .inr ⟨middle, ?_, ?_⟩
    · rw [hns, ← hc, List.append_assoc]
      rfl
    · rw [List.append_assoc]
      exact hname

theorem stem_eq_iff (k k' : PodRef) : k.stem = k'.stem ↔ k.Confused k' := by
  constructor
  · intro h
    simp only [stem, List.append_assoc] at h
    rcases List.append_eq_append_iff.mp h with ⟨more, hns, hrest⟩ | ⟨more, hns, hrest⟩
    · exact (eq_or_shifts hns hrest).imp_right .inl
    · exact (eq_or_shifts hns hrest).imp Eq.symm .inr
  · rintro (rfl | h | h)
    · rfl
    · exact h.stem_eq
    · exact h.stem_eq.symm

/-- Pods of one namespace are confused only if they are the same. -/
theorem Confused.eq_of_ns {k k' : PodRef} (h : k.Confused k') (hns : k.ns = k'.ns) : k = k' := by
  have hstem := (stem_eq_iff k k').mpr h
  rw [stem, stem, hns] at hstem
  have hname := List.append_cancel_left hstem
  obtain ⟨ns, name⟩ := k
  cases hns
  cases hname
  rfl

end PodRef

/-! ## Paths -/

/-- A text without slashes goes in front of the first part of another. -/
theorem Text.parts_append_of_noSlash {rest first : Text} {more : List Text}
    (hrest : parts '/' rest = first :: more) : ∀ {t : Text}, t.NoSlash →
    parts '/' (t ++ rest) = (t ++ first) :: more
  | [], _ => hrest
  | c :: t, h => by
    have hc : c ≠ .char '/' := fun e => h (by simp [e])
    have ht : Text.NoSlash t := fun hm => h (List.mem_cons_of_mem c hm)
    rw [List.cons_append, parts, if_neg hc, parts_append_of_noSlash hrest ht]
    rfl

/-- A part of what the kind and the extension say leads up in the tree. -/
def Climbs (kind ext : Text) : Prop :=
  (".." : Text) ∈ Text.parts '/' (kind ++ "." ++ ext)

theorem FilePath.rootOf_cons {c : CodePoint} (h : c ≠ .char '/') (rest : Text) :
    rootOf (c :: rest) = "" := by
  unfold rootOf
  split
  · exact absurd (List.cons.inj ‹_›).1 h
  · exact absurd (List.cons.inj ‹_›).1 h
  · exact absurd (List.cons.inj ‹_›).1 h
  · rfl

namespace PodRef

/-- The stem begins with a code point other than a slash. -/
theorem Unslashed.stem {k : PodRef} (h : k.Unslashed) :
    k.stem.NoSlash ∧ ∃ c rest, k.stem = c :: rest ∧ c ≠ .char '/' := by
  have hstem : k.stem.NoSlash := by
    unfold Text.NoSlash PodRef.stem
    simp only [List.mem_append, not_or]
    exact ⟨⟨h.ns, by decide⟩, h.name⟩
  refine ⟨hstem, ?_⟩
  have hne : k.stem ≠ [] := by
    simp [PodRef.stem, Text.ofString]
  obtain ⟨c, rest, e⟩ := List.exists_cons_of_ne_nil hne
  exact ⟨c, rest, e, fun hc => hstem (by simp [e, hc])⟩

end PodRef

namespace OutputDirectory

/-- The pod goes in front of what the kind and the extension say, which is the same for all. -/
theorem pathFor_eq (kind ext : Text) : ∃ (first : Text) (more : List Text),
    .char '-' ∈ first ∧ (¬ Climbs kind ext → (".." : Text) ∉ more) ∧
    ∀ (d : OutputDirectory) (k : PodRef), k.Unslashed → d.pathFor k.ns k.name kind ext
      = { d.path with names := d.path.names ++ (k.stem ++ first) :: more } := by
  obtain ⟨first, more, hparts⟩ := List.exists_cons_of_ne_nil
    (Text.parts_ne_nil '/' (kind ++ "." ++ ext))
  have hdash : Text.parts '/' ("-" ++ (kind ++ "." ++ ext)) = ("-" ++ first) :: more :=
    Text.parts_append_of_noSlash hparts (by unfold Text.NoSlash; decide)
  refine ⟨"-" ++ first, more.filter fun n => !n.isEmpty && n != ".", List.mem_cons_self ..,
    ?_, ?_⟩
  · intro hclimbs hmore
    refine hclimbs ?_
    rw [Climbs, hparts]
    exact List.mem_cons_of_mem _ (List.mem_filter.mp hmore).1
  · intro d k hk
    obtain ⟨hslash, c, rest, hstem, hc⟩ := hk.stem
    have hname : fileName k.ns k.name kind ext = k.stem ++ ("-" ++ (kind ++ "." ++ ext)) := by
      simp only [fileName, PodRef.stem, List.append_assoc]
    have hroot : FilePath.rootOf (fileName k.ns k.name kind ext) = "" := by
      rw [hname, hstem]
      exact FilePath.rootOf_cons hc _
    have hkept : (!(k.stem ++ ("-" ++ first)).isEmpty && (k.stem ++ ("-" ++ first)) != ".")
        = true := by
      have hdash : CodePoint.char '-' ∈ k.stem ++ ("-" ++ first) := by
        simp [Text.ofString]
      simp only [Bool.and_eq_true, Bool.not_eq_true', bne_iff_ne, List.isEmpty_eq_false_iff]
      exact ⟨List.ne_nil_of_mem hdash, fun e => absurd (e ▸ hdash) (by decide)⟩
    rw [pathFor, FilePath.ofText, hroot, hname, Text.parts_append_of_noSlash hdash hslash,
      List.filter_cons, if_pos hkept]
    rfl

theorem pathFor_eq_iff (d : OutputDirectory) (kind ext : Text) {k k' : PodRef}
    (hk : k.Unslashed) (hk' : k'.Unslashed) :
    d.pathFor k.ns k.name kind ext = d.pathFor k'.ns k'.name kind ext ↔ k.Confused k' := by
  obtain ⟨first, more, -, -, hpath⟩ := pathFor_eq kind ext
  rw [hpath d k hk, hpath d k' hk', ← PodRef.stem_eq_iff]
  constructor
  · intro e
    have hnames := List.append_cancel_left (FilePath.mk.inj e).2
    exact List.append_cancel_right (List.cons.inj hnames).1
  · intro e
    rw [e]

end OutputDirectory

/-! ## Places -/

namespace FileTree

/-- Names that do not lead up are put behind the place from which they are followed. -/
theorem follow_eq {t : FileTree} : ∀ {names place next : List Text}, (".." : Text) ∉ names →
    t.follow place names = .ok next → next = place ++ names
  | [], place, next, _, h => by
    rw [List.append_nil]
    exact (Except.ok.inj h).symm
  | name :: rest, place, next, hup, h => by
    have hname : name ≠ ".." := fun e => hup (e ▸ List.mem_cons_self ..)
    change (t.enter place name >>= fun further => t.follow further rest) = .ok next at h
    cases hstep : t.enter place name with
    | error cause =>
      rw [hstep] at h
      cases h
    | ok further =>
      rw [hstep] at h
      have hfurther : further = place ++ [name] := by
        rw [(enter_ok hstep).2, step, if_neg hname]
      rw [follow_eq (fun hm => hup (List.mem_cons_of_mem _ hm)) h, hfurther, List.append_assoc]
      rfl

/-- A file with this text is where the path leads. -/
def Holds (t : FileTree) (path : FilePath) (text : Text) : Prop :=
  ∃ place, t.locate path = .ok place ∧ t.entry? place = some (.file text)

theorem Holds.unique {t : FileTree} {path : FilePath} {text text' : Text} (h : t.Holds path text)
    (h' : t.Holds path text') : text = text' := by
  obtain ⟨place, hplace, hentry⟩ := h
  obtain ⟨place', hplace', hentry'⟩ := h'
  obtain rfl : place = place' := Except.ok.inj (hplace.symm.trans hplace')
  exact FileEntry.file.inj (Option.some.inj (hentry.symm.trans hentry'))

theorem holds_of_write {t t' : FileTree} {path : FilePath} {text : Text}
    (h : t.write path text = .ok t') : t'.Holds path text := by
  have hdirs := write_sameDirs h
  obtain ⟨place, hplace, hfree, rfl⟩ := write_ok h
  refine ⟨place, hdirs.locate_ok hplace, ?_⟩
  rw [entry?_put_file text hfree, if_pos rfl]

/-- Writing a file in one place keeps what a file in another place holds. -/
theorem Holds.write {t t' : FileTree} {path other : FilePath} {text new : Text}
    (hpath : t.Holds path text) (hplace : ∀ place, t.locate path = .ok place →
      t.locate other ≠ .ok place) (h : t.write other new = .ok t') : t'.Holds path text := by
  have hdirs := write_sameDirs h
  obtain ⟨place, hlocate, hentry⟩ := hpath
  obtain ⟨place', hother, hfree, rfl⟩ := write_ok h
  have hne : place ≠ place' := fun e => hplace place hlocate (e ▸ hother)
  refine ⟨place, hdirs.locate_ok hlocate, ?_⟩
  rw [entry?_put_file new hfree, if_neg hne, hentry]

end FileTree

namespace OutputDirectory

/-- Where no name leads up, pods that are not confused have their files in different places. -/
theorem locate_pathFor_ne (t : FileTree) (d : OutputDirectory) {kind ext : Text}
    (hup : ¬ Climbs kind ext) {k k' : PodRef} (hk : k.Unslashed) (hk' : k'.Unslashed)
    (h : ¬ k.Confused k') (place : List Text)
    (e : t.locate (d.pathFor k.ns k.name kind ext) = .ok place) :
    t.locate (d.pathFor k'.ns k'.name kind ext) ≠ .ok place := by
  intro e'
  obtain ⟨first, more, hdash, hmore, hpath⟩ := pathFor_eq kind ext
  -- Both are followed from the place of the directory, and there the one name is all that differs.
  have placed : ∀ {k : PodRef}, k.Unslashed →
      t.locate (d.pathFor k.ns k.name kind ext) = .ok place →
      ∃ base, t.follow (if d.path.isAbsolute then [] else t.workingPlace) d.path.names = .ok base ∧
        place = base ++ (k.stem ++ first) :: more := by
    intro k hk e
    have hnames : (".." : Text) ∉ (k.stem ++ first) :: more := by
      rw [List.mem_cons, not_or]
      refine ⟨fun hname => ?_, hmore hup⟩
      have hin : CodePoint.char '-' ∈ (".." : Text) := by
        rw [hname]
        exact List.mem_append_right _ hdash
      exact absurd hin (by decide)
    rw [hpath d k hk] at e
    unfold FileTree.locate at e
    split at e
    · cases e
    · change t.follow (if d.path.isAbsolute then [] else t.workingPlace)
        (d.path.names ++ (k.stem ++ first) :: more) = .ok place at e
      rw [FileTree.follow_append] at e
      cases hbase : t.follow (if d.path.isAbsolute then [] else t.workingPlace) d.path.names with
      | error cause =>
        rw [hbase] at e
        cases e
      | ok base =>
        rw [hbase] at e
        exact ⟨base, rfl, FileTree.follow_eq hnames e⟩
  obtain ⟨base, hbase, hplace⟩ := placed hk e
  obtain ⟨base', hbase', hplace'⟩ := placed hk' e'
  obtain rfl : base = base' := Except.ok.inj (hbase.symm.trans hbase')
  have hnames := List.append_cancel_left (hplace.symm.trans hplace')
  exact h ((PodRef.stem_eq_iff k k').mp (List.append_cancel_right (List.cons.inj hnames).1))

end OutputDirectory

/-! ## Files written one after the other -/

/-- A text that is to be written for a pod. -/
structure FileJob where
  pod : PodRef
  text : Text
  deriving DecidableEq, Repr

namespace OutputDirectory

/-- Writes all texts in turn, and gives those that were written with their paths. -/
def writeEach (d : OutputDirectory) (kind ext : Text) :
    List FileJob → Site → List (FileJob × FilePath) × Site
  | [], s => ([], s)
  | j :: rest, s =>
    match (d.write j.pod.ns j.pod.name kind ext j.text).runOn Site.answer s with
    | (.ok path, next) =>
      let (written, last) := d.writeEach kind ext rest next
      ((j, path) :: written, last)
    | (.error _, next) => d.writeEach kind ext rest next

/-- The pod's file has this text. -/
def Keeps (d : OutputDirectory) (kind ext : Text) (s : Site) (j : FileJob) : Prop :=
  s.tree.Holds (d.pathFor j.pod.ns j.pod.name kind ext) j.text

variable {d : OutputDirectory} {kind ext : Text}

/-- A text that was refused changes nothing, and one that was written is in the pod's file. -/
theorem runOn_write_cases (d : OutputDirectory) (kind ext : Text) (j : FileJob) (s : Site) :
    (∃ fault, (d.write j.pod.ns j.pod.name kind ext j.text).runOn Site.answer s
      = (.error fault, s)) ∨
    ∃ tree, (d.write j.pod.ns j.pod.name kind ext j.text).runOn Site.answer s
        = (.ok (d.pathFor j.pod.ns j.pod.name kind ext), { s with tree }) ∧
      s.tree.write (d.pathFor j.pod.ns j.pod.name kind ext) j.text = .ok tree := by
  rw [runOn_write]
  cases Fault.ofPathText (d.pathFor j.pod.ns j.pod.name kind ext).text with
  | error fault => exact .inl ⟨fault, rfl⟩
  | ok u =>
    cases hwrite : s.tree.write (d.pathFor j.pod.ns j.pod.name kind ext) j.text with
    | error cause => exact .inl ⟨_, rfl⟩
    | ok tree => exact .inr ⟨tree, rfl, rfl⟩

/-- Later texts for other pods leave a file as it is, if none of these is confused with its pod. -/
theorem keeps_writeEach (hup : ¬ Climbs kind ext) {j : FileJob} (hj : j.pod.Unslashed) :
    ∀ {jobs : List FileJob} {s : Site}, (∀ j' ∈ jobs, j'.pod.Unslashed) →
      d.Keeps kind ext s j →
      (∀ w ∈ (d.writeEach kind ext jobs s).1, ¬ j.pod.Confused w.1.pod) →
      d.Keeps kind ext (d.writeEach kind ext jobs s).2 j
  | [], _, _, h, _ => h
  | j' :: rest, s, hjobs, h, hother => by
    obtain ⟨hj', hrest⟩ := List.forall_mem_cons.mp hjobs
    rcases runOn_write_cases d kind ext j' s with ⟨fault, e⟩ | ⟨tree, e, hwrite⟩
    · simp only [writeEach, e] at hother ⊢
      exact keeps_writeEach hup hj hrest h hother
    · simp only [writeEach, e] at hother ⊢
      obtain ⟨hhere, hlater⟩ := List.forall_mem_cons.mp hother
      refine keeps_writeEach hup hj hrest ?_ hlater
      exact h.write (locate_pathFor_ne s.tree d hup hj hj' hhere) hwrite

/-- What is written is written for one of the pods, at its path. -/
theorem mem_writeEach : ∀ {jobs : List FileJob} {s : Site} {w : FileJob × FilePath},
    w ∈ (d.writeEach kind ext jobs s).1 →
      w.1 ∈ jobs ∧ w.2 = d.pathFor w.1.pod.ns w.1.pod.name kind ext
  | j :: rest, s, w, hw => by
    rcases runOn_write_cases d kind ext j s with ⟨fault, e⟩ | ⟨tree, e, -⟩
    · simp only [writeEach, e] at hw
      exact (mem_writeEach hw).imp_left (List.mem_cons_of_mem j)
    · simp only [writeEach, e] at hw
      rcases List.mem_cons.mp hw with rfl | hw
      · exact ⟨List.mem_cons_self .., rfl⟩
      · exact (mem_writeEach hw).imp_left (List.mem_cons_of_mem j)

/-- The last text that was written for a path is in its file. -/
theorem keeps_of_last (hup : ¬ Climbs kind ext) : ∀ {jobs : List FileJob} {s : Site},
    (∀ j ∈ jobs, j.pod.Unslashed) →
    ∀ {before after : List (FileJob × FilePath)} {w : FileJob × FilePath},
      (d.writeEach kind ext jobs s).1 = before ++ w :: after →
      (∀ w' ∈ after, ¬ w.1.pod.Confused w'.1.pod) →
      d.Keeps kind ext (d.writeEach kind ext jobs s).2 w.1
  | [], _, _, before, after, w, h, _ => by
    cases before <;> cases h
  | j :: rest, s, hjobs, before, after, w, h, hafter => by
    obtain ⟨hj, hrest⟩ := List.forall_mem_cons.mp hjobs
    rcases runOn_write_cases d kind ext j s with ⟨fault, e⟩ | ⟨tree, e, hwrite⟩
    · simp only [writeEach, e] at h ⊢
      exact keeps_of_last hup hrest h hafter
    · simp only [writeEach, e] at h ⊢
      cases before with
      | nil =>
        obtain ⟨rfl, hlater⟩ := List.cons.inj h
        rw [← hlater] at hafter
        exact keeps_writeEach hup hj hrest (FileTree.holds_of_write hwrite) hafter
      | cons first before =>
        exact keeps_of_last hup hrest (List.cons.inj h).2 hafter

theorem pairwise_writeEach {related : FileJob → FileJob → Prop} :
    ∀ {jobs : List FileJob} {s : Site}, jobs.Pairwise related →
    (d.writeEach kind ext jobs s).1.Pairwise fun w w' => related w.1 w'.1
  | [], _, _ => .nil
  | j :: rest, s, h => by
    obtain ⟨hj, hrest⟩ := List.pairwise_cons.mp h
    rcases runOn_write_cases d kind ext j s with ⟨fault, e⟩ | ⟨tree, e, -⟩
    · simp only [writeEach, e]
      exact pairwise_writeEach hrest
    · simp only [writeEach, e]
      refine .cons (fun w hw => ?_) (pairwise_writeEach hrest)
      exact hj _ (mem_writeEach hw).1

/-- What the texts that were written in turn leave behind. -/
structure Kept (d : OutputDirectory) (kind ext : Text) (jobs : List FileJob)
    (written : List (FileJob × FilePath)) (s : Site) : Prop where
  /-- Each is for one of the pods, and at its path. -/
  paths : ∀ w ∈ written, w.1 ∈ jobs ∧ w.2 = d.pathFor w.1.pod.ns w.1.pod.name kind ext
  /-- A text stays until one is written for a pod that is confused with its own. -/
  last : ∀ before w after, written = before ++ w :: after →
    (∀ w' ∈ after, ¬ w.1.pod.Confused w'.1.pod) → s.tree.Holds w.2 w.1.text
  /-- If no two pods are confused, every file holds its own text. -/
  own : jobs.Pairwise (fun j j' => ¬ j.pod.Confused j'.pod) →
    ∀ w ∈ written, s.tree.Holds w.2 w.1.text

theorem kept_writeEach (d : OutputDirectory) {kind ext : Text} (hup : ¬ Climbs kind ext)
    {jobs : List FileJob} (s : Site) (hjobs : ∀ j ∈ jobs, j.pod.Unslashed) :
    d.Kept kind ext jobs (d.writeEach kind ext jobs s).1 (d.writeEach kind ext jobs s).2 := by
  have hlast : ∀ before w after, (d.writeEach kind ext jobs s).1 = before ++ w :: after →
      (∀ w' ∈ after, ¬ w.1.pod.Confused w'.1.pod) →
      (d.writeEach kind ext jobs s).2.tree.Holds w.2 w.1.text := by
    intro before w after h hafter
    have hw : w ∈ (d.writeEach kind ext jobs s).1 := by
      rw [h]
      exact List.mem_append_right before (List.mem_cons_self ..)
    rw [(mem_writeEach hw).2]
    exact keeps_of_last hup hjobs h hafter
  refine ⟨fun w hw => mem_writeEach hw, hlast, fun hapart w hw => ?_⟩
  obtain ⟨before, after, h⟩ := List.append_of_mem hw
  have hwritten :
      (d.writeEach kind ext jobs s).1.Pairwise fun w w' => ¬ w.1.pod.Confused w'.1.pod :=
    pairwise_writeEach hapart
  rw [h] at hwritten
  exact hlast before w after h (List.pairwise_cons.mp (List.pairwise_append.mp hwritten).2.1).1

/-- Two pods have one path exactly if they are confused, which two pods of one namespace never are;
and of the texts that are written in turn each stays in its file until one is written for a pod
that is confused with its own. -/
theorem writeEach_kept (d : OutputDirectory) (kind ext : Text) :
    (∀ k k' : PodRef, k.Legal → k'.Legal →
      (d.pathFor k.ns k.name kind ext = d.pathFor k'.ns k'.name kind ext ↔ k.Confused k')) ∧
    (∀ k k' : PodRef, k.Legal → k'.Legal → k.ns = k'.ns →
      d.pathFor k.ns k.name kind ext = d.pathFor k'.ns k'.name kind ext → k = k') ∧
    (¬ Climbs kind ext → ∀ (jobs : List FileJob) (s : Site), (∀ j ∈ jobs, j.pod.Legal) →
      d.Kept kind ext jobs (d.writeEach kind ext jobs s).1 (d.writeEach kind ext jobs s).2) := by
  refine ⟨fun k k' hk hk' => ?_, fun k k' hk hk' hns hpath => ?_, fun hup jobs s hjobs => ?_⟩
  · exact pathFor_eq_iff d kind ext hk.unslashed hk'.unslashed
  · exact ((pathFor_eq_iff d kind ext hk.unslashed hk'.unslashed).mp hpath).eq_of_ns hns
  · exact kept_writeEach d hup s fun j hj => (hjobs j hj).unslashed

/-- A directory for files. -/
def sampleDirectory : OutputDirectory := ⟨.ofText "out"⟩

/-- The directory is there, and empty. -/
def sampleSite : Site := { tree := { entries := [(["out"], .directory)] } }

/-- The pod `a-web` of the shop. -/
def shopJob : FileJob := ⟨⟨"shop", "a-web"⟩, "first"⟩

/-- The pod `web` of another namespace, whose name goes on where that of the shop ends. -/
def otherJob : FileJob := ⟨⟨"shop-a", "web"⟩, "second"⟩

/-- Another pod of the shop. -/
def apiJob : FileJob := ⟨⟨"shop", "api"⟩, "third"⟩

theorem writeEach_kept_sample :
    (shopJob.pod.Legal ∧ otherJob.pod.Legal ∧ apiJob.pod.Legal) ∧
    ¬ Climbs "standard-networkpolicy" "yaml" ∧
    sampleDirectory.pathFor "shop" "a-web" "standard-networkpolicy" "yaml"
      = sampleDirectory.pathFor "shop-a" "web" "standard-networkpolicy" "yaml" ∧
    (sampleDirectory.writeEach "standard-networkpolicy" "yaml" [shopJob, apiJob] sampleSite).1
      = [(shopJob, .ofText "out/shop-a-web-standard-networkpolicy.yaml"),
        (apiJob, .ofText "out/shop-api-standard-networkpolicy.yaml")] ∧
    sampleDirectory.Kept "standard-networkpolicy" "yaml" [shopJob, apiJob]
      (sampleDirectory.writeEach "standard-networkpolicy" "yaml" [shopJob, apiJob] sampleSite).1
      (sampleDirectory.writeEach "standard-networkpolicy" "yaml" [shopJob, apiJob]
        sampleSite).2 := by
  have hshop : shopJob.pod.Legal := ⟨by decide, by decide⟩
  have hother : otherJob.pod.Legal := ⟨by decide, by decide⟩
  have hapi : apiJob.pod.Legal := ⟨by decide, by decide⟩
  have hup : ¬ Climbs "standard-networkpolicy" "yaml" := by
    unfold Climbs
    decide
  obtain ⟨hpath, -, hkept⟩ := writeEach_kept sampleDirectory "standard-networkpolicy" "yaml"
  refine ⟨⟨hshop, hother, hapi⟩, hup, ?_, by decide +kernel, ?_⟩
  · refine (hpath _ _ hshop hother).mpr (.inr (.inl ⟨"a", by decide, by decide⟩))
  · refine hkept hup _ _ fun j hj => ?_
    rcases List.mem_cons.mp hj with rfl | hj
    · exact hshop
    · exact List.mem_singleton.mp hj ▸ hapi

/-- What is written, and left, when both pods are written for, that of the shop first. -/
def bothWritten : List (FileJob × FilePath) × Site :=
  sampleDirectory.writeEach "standard-networkpolicy" "yaml" [shopJob, otherJob] sampleSite

/-- Two pods of different namespaces share a file, and the one that is written first loses its
text. -/
theorem writeEach_overwritten :
    shopJob.pod.Legal ∧ otherJob.pod.Legal ∧ shopJob.pod ≠ otherJob.pod ∧
    ∃ path, bothWritten.1 = [(shopJob, path), (otherJob, path)] ∧
      bothWritten.2.tree.Holds path otherJob.text ∧
      ¬ bothWritten.2.tree.Holds path shopJob.text := by
  have hshop : shopJob.pod.Legal := ⟨by decide, by decide⟩
  have hother : otherJob.pod.Legal := ⟨by decide, by decide⟩
  have hup : ¬ Climbs "standard-networkpolicy" "yaml" := by
    unfold Climbs
    decide
  have hjobs : ∀ j ∈ [shopJob, otherJob], j.pod.Unslashed := by
    rw [List.forall_mem_cons, List.forall_mem_singleton]
    exact ⟨hshop.unslashed, hother.unslashed⟩
  have hwritten : bothWritten.1
      = [(shopJob, .ofText "out/shop-a-web-standard-networkpolicy.yaml"),
        (otherJob, .ofText "out/shop-a-web-standard-networkpolicy.yaml")] := by
    decide +kernel
  have hkept : sampleDirectory.Kept "standard-networkpolicy" "yaml" [shopJob, otherJob]
      bothWritten.1 bothWritten.2 :=
    kept_writeEach sampleDirectory hup sampleSite hjobs
  have hlast : bothWritten.2.tree.Holds (.ofText "out/shop-a-web-standard-networkpolicy.yaml")
      otherJob.text :=
    hkept.last [(shopJob, .ofText "out/shop-a-web-standard-networkpolicy.yaml")]
      (otherJob, .ofText "out/shop-a-web-standard-networkpolicy.yaml") [] hwritten
      fun _ h => absurd h List.not_mem_nil
  refine ⟨hshop, hother, by decide, .ofText "out/shop-a-web-standard-networkpolicy.yaml",
    hwritten, hlast, fun hfirst => ?_⟩
  exact absurd (hfirst.unique hlast) (by decide)

end OutputDirectory

end LeastPrivilege
