import LeastPrivilege.Policy.Batch
import LeastPrivilege.Proofs.FileTree
import LeastPrivilege.Proofs.Parts
import LeastPrivilege.Proofs.World

/-!
Sites. A site is what output changes: a tree of files, and the texts that were printed and said.
`Site.answer` does what is asked of the outside, and `Plan.delivered` says in one expression what
becomes of a policy's text: it is printed, or written in the output directory, or refused with a
fault, and only a path that the system cannot read is refused with a fault that stops a batch.
-/

namespace LeastPrivilege

/-- What output changes. -/
structure Site where
  tree : FileTree := {}
  printed : List Text := []
  said : List Text := []

/-- Does what output asks for. -/
def Site.answer : (q : OutletQuestion) → StateM Site q.Answer
  | .makeDirectory path => fun s =>
    match s.tree.makeDirectory path with
    | .ok tree => (.ok (), { s with tree })
    | .error cause => (.error cause, s)
  | .isDirectory path => fun s => (s.tree.isDirectory path, s)
  | .write path text => fun s =>
    match s.tree.write path text with
    | .ok tree => (.ok (), { s with tree })
    | .error cause => (.error cause, s)
  | .print text => fun s => ((), { s with printed := s.printed ++ [text] })
  | .say line => fun s => ((), { s with said := s.said ++ [line] })

/-- A path that the system cannot read is a fault that no batch goes on after. -/
theorem Fault.ofPathText_error {text : Text} {fault : Fault}
    (h : Fault.ofPathText text = .error fault) : fault.isOfOnePod = false := by
  unfold Fault.ofPathText at h
  split at h
  · cases h
    rfl
  · split at h
    · cases h
      rfl
    · cases h

/-- Writing a file, once its path can be read. -/
theorem Outlet.runOn_write (path : FilePath) (text : Text) (s : Site) :
    (Outlet.write path text).runOn Site.answer s = match Fault.ofPathText path.text with
      | .error fault => (.error fault, s)
      | .ok () => match s.tree.write path text with
        | .ok tree => (.ok (), { s with tree })
        | .error cause => (.error (.file ⟨cause, path.text⟩), s) := by
  unfold Outlet.write Outlet.checkPath
  rw [Attempt.runOn_bind, Attempt.runOn_ofExcept]
  cases Fault.ofPathText path.text with
  | error fault => rfl
  | ok u =>
    show (Attempt.ofInquiry (Inquiry.put (I := outlet) (.write path text)) >>= _).runOn _ s = _
    rw [Attempt.runOn_bind, Attempt.runOn_put]
    simp only [Site.answer]
    cases s.tree.write path text <;> rfl

theorem OutputDirectory.runOn_write (d : OutputDirectory) (ns pod kind ext text : Text) (s : Site) :
    (d.write ns pod kind ext text).runOn Site.answer s
      = match Fault.ofPathText (d.pathFor ns pod kind ext).text with
      | .error fault => (.error fault, s)
      | .ok () => match s.tree.write (d.pathFor ns pod kind ext) text with
        | .ok tree => (.ok (d.pathFor ns pod kind ext), { s with tree })
        | .error cause => (.error (.file ⟨cause, (d.pathFor ns pod kind ext).text⟩), s) := by
  show (Outlet.write (d.pathFor ns pod kind ext) text >>= _).runOn Site.answer s = _
  rw [Attempt.runOn_bind, Outlet.runOn_write]
  cases Fault.ofPathText (d.pathFor ns pod kind ext).text with
  | error fault => rfl
  | ok u => cases s.tree.write (d.pathFor ns pod kind ext) text <;> rfl

namespace Plan

variable (plan : Plan) (p : Policy) (pod : Option Text)

/-- The path of a policy's file in an output directory. -/
def pathIn (d : OutputDirectory) (p : Policy) (pod : Option Text) : FilePath :=
  d.pathFor p.ns (podName p pod) (fileKind p.schema) "yaml"

/-- What becomes of a policy with this text. -/
def delivered (text : Text) (s : Site) : Except Fault (Option FilePath) × Site :=
  match plan.directory with
  | none =>
    (.ok none, if plan.dryRun then { s with printed := s.printed ++ ["---\n" ++ text] } else s)
  | some d =>
    match Fault.ofPathText (pathIn d p pod).text with
    | .error fault => (.error fault, s)
    | .ok () =>
      match s.tree.write (pathIn d p pod) text with
      | .ok tree => (.ok (some (pathIn d p pod)), { s with tree })
      | .error cause => (.error (.file ⟨cause, (pathIn d p pod).text⟩), s)

/-- What becomes of a policy: its text is delivered, if it can be written as text. -/
def putOut (s : Site) : Except Fault (Option FilePath) × Site :=
  match textOf p with
  | .error fault => (.error fault, s)
  | .ok text => plan.delivered p pod text s

variable {plan p}

theorem eq_write_of_textOf {text : Text} (h : textOf p = .ok text) :
    text = Yaml.write p.manifest := by
  unfold textOf at h
  split at h
  · cases h
  · exact (Except.ok.inj h).symm

theorem putOut_of_textOf {text : Text} (h : textOf p = .ok text) (s : Site) :
    plan.putOut p pod s = plan.delivered p pod text s := by
  rw [putOut, h]

theorem runOn_deliver (s : Site) :
    (plan.deliver p pod).runOn Site.answer s = plan.putOut p pod s := by
  obtain ⟨byName, directory, dryRun, maxWorkers⟩ := plan
  unfold deliver putOut
  rw [Attempt.runOn_bind, Attempt.runOn_ofExcept]
  cases textOf p with
  | error fault => rfl
  | ok text =>
    unfold delivered
    cases directory with
    | none => cases dryRun <;> rfl
    | some d =>
      show (d.write p.ns (podName p pod) (fileKind p.schema) "yaml" text >>= _).runOn Site.answer s
        = _
      rw [Attempt.runOn_bind, OutputDirectory.runOn_write]
      show _ = match Fault.ofPathText (pathIn d p pod).text with
        | .error fault => (Except.error fault, s)
        | .ok () => _
      unfold pathIn
      cases Fault.ofPathText _ with
      | error fault => rfl
      | ok u => cases s.tree.write _ text <;> cases dryRun <;> rfl

/-- The plan writes a file for the policy, at a path that the system cannot read. -/
def Unreadable (plan : Plan) (p : Policy) (pod : Option Text) : Prop :=
  ∃ d, plan.directory = some d ∧ Fault.ofPathText (pathIn d p pod).text ≠ .ok ()

/-- A policy's text is refused for its path, or put out, or refused by the tree of files. -/
theorem delivered_cases (plan : Plan) (p : Policy) (text : Text) (s : Site) :
    (plan.Unreadable p pod ∧ ∃ fault, plan.delivered p pod text s = (.error fault, s) ∧
      fault.isOfOnePod = false) ∨
    (¬ plan.Unreadable p pod ∧ ∃ path next, plan.delivered p pod text s = (.ok path, next) ∧
      s.tree.SameDirs next.tree) ∨
    (¬ plan.Unreadable p pod ∧ ∃ f, plan.delivered p pod text s = (.error (.file f), s)) := by
  unfold Unreadable delivered
  cases hd : plan.directory with
  | none =>
    refine .inr (.inl ⟨by simp, _, _, rfl, ?_⟩)
    split <;> exact .refl _
  | some d =>
    cases hpath : Fault.ofPathText (pathIn d p pod).text with
    | error fault =>
      refine .inl ⟨⟨d, rfl, by simp [hpath]⟩, fault, ?_, Fault.ofPathText_error hpath⟩
      simp only [hpath]
    | ok u =>
      have hreadable :
          ¬ ∃ d', some d = some d' ∧ Fault.ofPathText (pathIn d' p pod).text ≠ .ok () := by
        rintro ⟨d', e, h⟩
        cases e
        exact h hpath
      simp only [hpath]
      cases hwrite : s.tree.write (pathIn d p pod) text with
      | error cause => exact .inr (.inr ⟨hreadable, _, rfl⟩)
      | ok tree =>
        exact .inr (.inl ⟨hreadable, _, { s with tree }, rfl, FileTree.write_sameDirs hwrite⟩)

end Plan

/-- The faults are the same, or both are about one path and have causes that are alike. -/
def Fault.Alike (f f' : Fault) : Prop :=
  f = f' ∨ ∃ (c c' : FileCause) (path : Text), c.Alike c' ∧ f = .file ⟨c, path⟩ ∧
    f' = .file ⟨c', path⟩

/-- Both attempts give the same result, or have faults that are alike. -/
inductive AlikeOutcome {α : Type} : Except Fault α → Except Fault α → Prop
  | ok (a : α) : AlikeOutcome (.ok a) (.ok a)
  | error {f f' : Fault} (h : f.Alike f') : AlikeOutcome (.error f) (.error f')

namespace Plan

variable {plan : Plan} {p : Policy} {pod : Option Text} {text : Text} {s s' : Site}

/-- Where directories and permissions are the same, what becomes of a text is the same. -/
theorem delivered_alike (h : s.tree.SameDirs s'.tree) :
    AlikeOutcome (plan.delivered p pod text s).1 (plan.delivered p pod text s').1 := by
  unfold delivered
  cases plan.directory with
  | none => exact .ok none
  | some d =>
    dsimp only
    cases Fault.ofPathText (pathIn d p pod).text with
    | error fault => exact .error (.inl rfl)
    | ok u =>
      have hwrite := h.write (pathIn d p pod) text
      dsimp only
      generalize s.tree.write (pathIn d p pod) text = r at hwrite
      generalize s'.tree.write (pathIn d p pod) text = r' at hwrite
      cases hwrite with
      | ok _ => exact .ok _
      | error hc => exact .error (.inr ⟨_, _, _, hc, rfl, rfl⟩)

theorem putOut_alike (h : s.tree.SameDirs s'.tree) :
    AlikeOutcome (plan.putOut p pod s).1 (plan.putOut p pod s').1 := by
  unfold putOut
  cases textOf p with
  | error fault => exact .error (.inl rfl)
  | ok text => exact delivered_alike h

end Plan

/-! ## Names without slashes -/

/-- The text has no slash. -/
def Text.NoSlash (t : Text) : Prop :=
  .char '/' ∉ t

theorem Text.parts_of_noSlash {t : Text} (h : t.NoSlash) : Text.parts '/' t = [t] :=
  Text.parts_of_not_mem h

theorem FilePath.ofText_of_noSlash {t : Text} (h : t.NoSlash) (hne : t ≠ []) (hdot : t ≠ ".") :
    FilePath.ofText t = ⟨"", [t]⟩ := by
  have hroot : FilePath.rootOf t = "" := by
    unfold FilePath.rootOf
    split
    · exact absurd (List.mem_cons_self ..) h
    · exact absurd (List.mem_cons_self ..) h
    · exact absurd (List.mem_cons_self ..) h
    · rfl
  have hempty : t.isEmpty = false := by simpa using hne
  rw [FilePath.ofText, hroot, Text.parts_of_noSlash h]
  simp [hempty, hdot]

namespace Plan

variable {plan : Plan} {p : Policy} {pod : Option Text} {text : Text} {s s' : Site}

/-- The names from which a policy's file is named have no slash. -/
structure Unslashed (p : Policy) (pod : Option Text) : Prop where
  ns : p.ns.NoSlash
  pod : (podName p pod).NoSlash

/-- Then the file lies in the output directory itself. -/
theorem pathIn_eq (h : Unslashed p pod) (d : OutputDirectory) :
    pathIn d p pod = FileTree.fileIn d.path
      (OutputDirectory.fileName p.ns (podName p pod) (fileKind p.schema) "yaml") := by
  have hkind : (fileKind p.schema).NoSlash := by
    cases p.schema <;> unfold Text.NoSlash <;> decide
  have hname :
      (OutputDirectory.fileName p.ns (podName p pod) (fileKind p.schema) "yaml").NoSlash := by
    unfold Text.NoSlash OutputDirectory.fileName
    simp only [List.mem_append, not_or]
    exact ⟨⟨⟨⟨⟨⟨h.ns, by decide⟩, h.pod⟩, by decide⟩, hkind⟩, by decide⟩, by decide⟩
  have hlength : 1 < (OutputDirectory.fileName p.ns (podName p pod) (fileKind p.schema)
      "yaml").length := by
    have h1 : ("-" : Text).length = 1 := by decide
    simp only [OutputDirectory.fileName, List.length_append, h1]
    omega
  have hne : OutputDirectory.fileName p.ns (podName p pod) (fileKind p.schema) "yaml" ≠ [] := by
    intro e
    simp [e] at hlength
  have hdot : OutputDirectory.fileName p.ns (podName p pod) (fileKind p.schema) "yaml" ≠ "." := by
    intro e
    rw [e] at hlength
    exact absurd hlength (by decide)
  rw [pathIn, OutputDirectory.pathFor, FilePath.ofText_of_noSlash hname hne hdot]
  rfl

/-- Then files in one place have one path. -/
theorem pathIn_eq_of_locate {t : FileTree} {d : OutputDirectory} {p' : Policy} {pod' : Option Text}
    {place : List Text} (h : Unslashed p pod) (h' : Unslashed p' pod')
    (e : t.locate (pathIn d p pod) = .ok place) (e' : t.locate (pathIn d p' pod') = .ok place) :
    pathIn d p pod = pathIn d p' pod' := by
  have notUp (ns pod kind : Text) : OutputDirectory.fileName ns pod kind "yaml" ≠ ".." := by
    intro e
    have hdash : CodePoint.char '-' ∈ OutputDirectory.fileName ns pod kind "yaml" := by
      simp +decide [OutputDirectory.fileName, Text.ofString]
    rw [e] at hdash
    exact absurd hdash (by decide)
  rw [pathIn_eq h] at e ⊢
  rw [pathIn_eq h'] at e' ⊢
  rw [FileTree.eq_of_locate_fileIn (notUp _ _ _) (notUp _ _ _) e e']

/-- The trees are the same, or have the same directories and permissions, with the output directory
among the directories. -/
def Stands (plan : Plan) (s s' : Site) : Prop :=
  s.tree = s'.tree ∨
    (s.tree.SameDirs s'.tree ∧ ∀ d, plan.directory = some d → s.tree.Leads d.path)

theorem Stands.refl (plan : Plan) (s : Site) : plan.Stands s s :=
  .inl rfl

theorem Stands.sameDirs (h : plan.Stands s s') : s.tree.SameDirs s'.tree := by
  rcases h with h | ⟨h, -⟩
  · rw [h]
    exact .refl _
  · exact h

theorem delivered_exact (h : plan.Stands s s')
    (hp : ∀ d, plan.directory = some d → Unslashed p pod) :
    (plan.delivered p pod text s).1 = (plan.delivered p pod text s').1 := by
  unfold delivered
  cases hd : plan.directory with
  | none => rfl
  | some d =>
    dsimp only
    cases Fault.ofPathText (pathIn d p pod).text with
    | error fault => rfl
    | ok u =>
      dsimp only
      have hwrite := h.sameDirs.write (pathIn d p pod) text
      cases e : s.tree.write (pathIn d p pod) text with
      | ok tree =>
        cases e' : s'.tree.write (pathIn d p pod) text with
        | ok tree' => rfl
        | error cause' =>
          rw [e, e'] at hwrite
          cases hwrite
      | error cause =>
        cases e' : s'.tree.write (pathIn d p pod) text with
        | ok tree' =>
          rw [e, e'] at hwrite
          cases hwrite
        | error cause' =>
          have hcause : cause = cause' := by
            rcases h with h | ⟨h, hleads⟩
            · rw [h, e'] at e
              exact (Except.error.inj e).symm
            · rw [pathIn_eq (hp d hd)] at e e'
              exact h.write_error (hleads d hd) _ _ e e'
          rw [hcause]

theorem Stands.delivered (h : plan.Stands s s')
    (hp : ∀ d, plan.directory = some d → Unslashed p pod) :
    plan.Stands s (plan.delivered p pod text s').2 := by
  unfold Plan.delivered
  cases hd : plan.directory with
  | none =>
    dsimp only
    split <;> exact h
  | some d =>
    dsimp only
    cases Fault.ofPathText (pathIn d p pod).text with
    | error fault => exact h
    | ok u =>
      dsimp only
      cases e : s'.tree.write (pathIn d p pod) text with
      | error cause => exact h
      | ok tree =>
        refine .inr ⟨h.sameDirs.trans (FileTree.write_sameDirs e), fun d' hd' => ?_⟩
        obtain rfl : d = d' := Option.some.inj (hd.symm.trans hd')
        rw [pathIn_eq (hp d hd)] at e
        exact h.sameDirs.symm.leads (FileTree.leads_of_write e)

theorem putOut_exact (h : plan.Stands s s')
    (hp : ∀ d, plan.directory = some d → Unslashed p pod) :
    (plan.putOut p pod s).1 = (plan.putOut p pod s').1 ∧
      plan.Stands s (plan.putOut p pod s').2 := by
  unfold putOut
  cases textOf p with
  | error fault => exact ⟨rfl, h⟩
  | ok text => exact ⟨delivered_exact h hp, h.delivered hp⟩

end Plan

end LeastPrivilege
