import LeastPrivilege.Proofs.Batch
import Mathlib.Data.List.Perm.Basic

/-!
The order of work. The jobs of a batch share a tree of files and the output, and may be worked on in
any order; their results are gathered in the order of the batch. What one job changes does not
matter to another: writing a file leaves the directories as they were, so every job has the result
that it has in the order of the batch (`World.runBatch_unordered`). The files come out the same
where no two jobs write at one place, for then a place holds what its one job wrote and the others
leave it alone (`World.runEach_frame`, `World.runEach_fills`). One thing may tell an order: where a
name has a slash, the path of one job can lead through the file of another, and the cause for which
it is refused depends on whether that file is there yet (`World.runOrder_tangled`).
-/

namespace LeastPrivilege

/-! ## Gathering -/

/-- A job of a batch: a pod, and its place in the batch. -/
abbrev Job := Text × Nat

/-- The results in the order of the batch, each found by its job. -/
def gather {α : Type} (pods : List Text) (log : List (Job × α)) : List α :=
  pods.zipIdx.filterMap fun t => log.lookup t

section Gathering

variable {κ α : Type} {Q : κ → α → Prop}

/-- A key is found with a value of its own, even where it occurs twice. -/
theorem exists_lookup_zip [BEq κ] [LawfulBEq κ] {keys : List κ} {values : List α}
    (h : List.Forall₂ Q keys values) :
    ∀ k ∈ keys, ∃ v, (keys.zip values).lookup k = some v ∧ Q k v := by
  induction h with
  | nil =>
    intro k hk
    cases hk
  | @cons key value keys values hfirst hrest ih =>
    intro k hk
    rw [List.zip_cons_cons, List.lookup_cons]
    cases hkey : k == key with
    | true =>
      obtain rfl : k = key := eq_of_beq hkey
      exact ⟨value, rfl, hfirst⟩
    | false =>
      rcases List.mem_cons.mp hk with rfl | hk
      · simp at hkey
      · exact ih k hk

theorem filterMap_lookup_zip [BEq κ] [LawfulBEq κ] : ∀ {keys : List κ} {values : List α},
    keys.Nodup → keys.length = values.length →
    keys.filterMap (fun k => (keys.zip values).lookup k) = values
  | [], [], _, _ => rfl
  | key :: keys, value :: values, hkeys, hlength => by
    obtain ⟨hkey, hrest⟩ := List.nodup_cons.mp hkeys
    -- The other keys are looked for behind the first.
    have hothers : keys.filterMap (fun k => ((key :: keys).zip (value :: values)).lookup k)
        = keys.filterMap (fun k => (keys.zip values).lookup k) := by
      refine List.filterMap_congr fun k hk => ?_
      have hne : k ≠ key := fun e => hkey (e ▸ hk)
      rw [List.zip_cons_cons, List.lookup_cons, beq_false_of_ne hne]
    have hfirst : ((key :: keys).zip (value :: values)).lookup key = some value := by
      rw [List.zip_cons_cons, List.lookup_cons, beq_self_eq_true]
    rw [List.filterMap_cons, hothers, filterMap_lookup_zip hrest (Nat.succ.inj hlength)]
    simp only [hfirst]

theorem forall₂_filterMap {f : κ → Option α} : ∀ {keys : List κ},
    (∀ k ∈ keys, ∃ v, f k = some v ∧ Q k v) → List.Forall₂ Q keys (keys.filterMap f)
  | [], _ => .nil
  | key :: keys, h => by
    obtain ⟨⟨v, hv, hq⟩, hrest⟩ := List.forall_mem_cons.mp h
    rw [List.filterMap_cons_some hv]
    exact .cons hq (forall₂_filterMap hrest)

end Gathering

/-- What holds of each job and its result in the order of work holds in the order of the batch. -/
theorem forall₂_gather {α : Type} {Q : Job → α → Prop} {pods : List Text} {order : List Job}
    {outcomes : List α} (horder : order.Perm pods.zipIdx) (h : List.Forall₂ Q order outcomes) :
    List.Forall₂ Q pods.zipIdx (gather pods (order.zip outcomes)) :=
  forall₂_filterMap fun t ht => exists_lookup_zip h t (horder.mem_iff.mpr ht)

/-- Results that come in the order of the batch stay in it. -/
theorem gather_zipIdx {α : Type} {pods : List Text} {results : List α}
    (h : pods.length = results.length) : gather pods (pods.zipIdx.zip results) = results := by
  have hplaces : (pods.zipIdx.map (·.2)).Nodup := by
    rw [List.zipIdx_map_snd]
    exact List.nodup_range'
  have hdistinct : pods.zipIdx.Nodup :=
    (List.pairwise_map.mp hplaces).imp fun hne e => hne (congrArg Prod.snd e)
  exact filterMap_lookup_zip hdistinct (by rw [List.length_zipIdx, h])

theorem forall₂_zipIdx {α : Type} {Q : Text → α → Prop} {pods : List Text} {results : List α}
    (h : List.Forall₂ Q pods results) :
    List.Forall₂ (fun (t : Job) r => Q t.1 r) pods.zipIdx results := by
  rw [← List.zipIdx_map_fst 0 pods] at h
  exact List.forall₂_map_left_iff.mp h

theorem forall₂_of_common {α β γ : Type} {P : α → β → Prop} {Q : α → γ → Prop} {R : β → γ → Prop}
    (hR : ∀ a b c, P a b → Q a c → R b c) : ∀ {as : List α} {bs : List β} {cs : List γ},
    List.Forall₂ P as bs → List.Forall₂ Q as cs → List.Forall₂ R bs cs
  | _, _, _, .nil, .nil => .nil
  | _, _, _, .cons hp hps, .cons hq hqs => .cons (hR _ _ _ hp hq) (forall₂_of_common hR hps hqs)

/-- Where each key has one value at most, the same keys in another order have the same values. -/
theorem perm_of_forall₂ {κ α : Type} {Q : κ → α → Prop} (hQ : ∀ k v v', Q k v → Q k v' → v = v')
    {keys keys' : List κ} {values values' : List α} (h : List.Forall₂ Q keys values)
    (h' : List.Forall₂ Q keys' values') (hkeys : keys.Perm keys') : values.Perm values' :=
  List.rel_perm_imp (fun {k v v'} => hQ k v v') h h' hkeys

/-! ## Results that are alike -/

theorem Fault.Alike.symm {f f' : Fault} (h : f.Alike f') : f'.Alike f := by
  rcases h with rfl | ⟨c, c', path, hc, rfl, rfl⟩
  · exact .inl rfl
  · exact .inr ⟨c', c, path, hc.symm, rfl, rfl⟩

theorem Fault.Alike.trans {f f' f'' : Fault} (h : f.Alike f') (h' : f'.Alike f'') :
    f.Alike f'' := by
  rcases h with rfl | ⟨c, c', path, hc, rfl, rfl⟩
  · exact h'
  · rcases h' with rfl | ⟨d, d', path', hd, e, rfl⟩
    · exact .inr ⟨c, c', path, hc, rfl, rfl⟩
    · cases e
      exact .inr ⟨c, d', path, hc.trans hd, rfl, rfl⟩

/-- The faults are the same, or both are there and are alike. -/
def FaultsAlike (f? f'? : Option Fault) : Prop :=
  f? = f'? ∨ ∃ f f' : Fault, f.Alike f' ∧ f? = some f ∧ f'? = some f'

theorem FaultsAlike.symm {f? f'? : Option Fault} (h : FaultsAlike f? f'?) :
    FaultsAlike f'? f? := by
  rcases h with rfl | ⟨f, f', hf, rfl, rfl⟩
  · exact .inl rfl
  · exact .inr ⟨f', f, hf.symm, rfl, rfl⟩

theorem FaultsAlike.trans {f? f'? f''? : Option Fault} (h : FaultsAlike f? f'?)
    (h' : FaultsAlike f'? f''?) : FaultsAlike f? f''? := by
  rcases h with rfl | ⟨f, f', hf, rfl, rfl⟩
  · exact h'
  · rcases h' with rfl | ⟨g, g', hg, e, rfl⟩
    · exact .inr ⟨f, f', hf, rfl, rfl⟩
    · cases e
      exact .inr ⟨f, g', hf.trans hg, rfl, rfl⟩

namespace PodResult

theorem Alike.symm {r r' : PodResult Policy} (h : r.Alike r') : r'.Alike r :=
  ⟨h.pod.symm, h.made.symm, h.path.symm, FaultsAlike.symm h.fault⟩

theorem Alike.trans {r r' r'' : PodResult Policy} (h : r.Alike r') (h' : r'.Alike r'') :
    r.Alike r'' :=
  ⟨h.pod.trans h'.pod, h.made.trans h'.made, h.path.trans h'.path,
    FaultsAlike.trans h.fault h'.fault⟩

end PodResult

/-- Results that are alike one by one have first faults that are alike. -/
theorem firstFault_alike {results results' : List (PodResult Policy)}
    (h : List.Forall₂ PodResult.Alike results results') :
    FaultsAlike (firstFault results) (firstFault results') := by
  induction h with
  | nil => exact .inl rfl
  | @cons r r' rest rest' hr hrest ih =>
    simp only [firstFault, List.findSome?_cons] at ih ⊢
    rcases hr.fault with e | ⟨f, f', hf, e, e'⟩
    · rw [e]
      cases r'.fault with
      | none => exact ih
      | some f => exact .inl rfl
    · rw [e, e']
      exact .inr ⟨f, f', hf, rfl, rfl⟩

/-! ## Files -/

/-- The result has its file in this place, with this text, which is its policy's. -/
def PodResult.Fills (r : PodResult Policy) (t : FileTree) (place : List Text) (text : Text) :
    Prop :=
  ∃ path p, r.path = some path ∧ r.made = some p ∧ t.locate path = .ok place ∧
    text = Yaml.write p.manifest

/-- The text that a result stands for where policies are printed; none where there is a fault. -/
def PodResult.page? (r : PodResult Policy) : Option Text :=
  match r.made, r.fault with
  | some p, none => some ("---\n" ++ Yaml.write p.manifest)
  | _, _ => none

/-- No two results have their files in one place. -/
def Apart (t : FileTree) (results : List (PodResult Policy)) : Prop :=
  results.Pairwise fun r r' => ∀ place text text', r.Fills t place text → ¬ r'.Fills t place text'

namespace World

variable {w : World} {plan : Plan} {schema : Schema} {namespaces : List (Text × Text)}

namespace Effect

variable {pod : Text} {s next : Site} {r : PodResult Policy}
  (h : w.Effect plan schema namespaces pod s r next)

include h

/-- The tree stays as it was but for the place that the result fills. -/
theorem frame {t : FileTree} (ht : t.SameDirs s.tree) {place : List Text}
    (hplace : ∀ text, ¬ r.Fills t place text) :
    next.tree.entry? place = s.tree.entry? place := by
  cases h with
  | failed => rfl
  | shown => split <;> rfl
  | filed p d filled made somewhere located free =>
    have hother : place ≠ filled := by
      rintro rfl
      exact hplace _ ⟨_, p, rfl, rfl, ht.symm.locate_ok located, rfl⟩
    exact (FileTree.entry?_put_file _ free place).trans (if_neg hother)

theorem fills {t : FileTree} (ht : t.SameDirs s.tree) {place : List Text} {text : Text}
    (hplace : r.Fills t place text) : next.tree.entry? place = some (.file text) := by
  obtain ⟨path, p', hpath, hmade, hlocate, rfl⟩ := hplace
  cases h with
  | failed => cases hpath
  | shown => cases hpath
  | filed p d filled made somewhere located free =>
    cases hpath
    cases hmade
    rw [ht.locate_ok hlocate] at located
    cases located
    exact (FileTree.entry?_put_file _ free place).trans (if_pos rfl)

theorem printed (hnowhere : plan.directory = none) (hdry : plan.dryRun = true) :
    next.printed = s.printed ++ r.page?.toList := by
  cases h with
  | failed made fault => cases made <;> simp [PodResult.page?]
  | shown p made nowhere => simp [hdry, PodResult.page?]
  | filed p d place made somewhere => cases hnowhere.symm.trans somewhere

end Effect

/-! ## Runs -/

/-- A place that no result fills is left alone. -/
theorem runEach_frame {t : FileTree} {place : List Text} : ∀ (pods : List Text) {s last : Site}
    {results : List (PodResult Policy)}, t.SameDirs s.tree →
    w.runEach plan schema namespaces pods s = (.ok results, last) →
    (∀ r ∈ results, ∀ text, ¬ r.Fills t place text) →
    last.tree.entry? place = s.tree.entry? place
  | [], _, _, _, _, h, _ => by
    cases h
    rfl
  | pod :: rest, s, last, results, ht, h, hplace => by
    obtain ⟨r, next, more, rfl, e, hrest⟩ := runEach_cons_ok h
    obtain ⟨hr, hmore⟩ := List.forall_mem_cons.mp hplace
    -- The tree `t` stays the same in the recursion: whether a result fills a place depends on the
    -- directories alone, and they are those of `t` at every step.
    have heffect := runPod_effect e
    rw [runEach_frame rest (ht.trans heffect.sameDirs) hrest hmore]
    exact heffect.frame ht hr

/-- Where results are apart, each place that one of them fills has its text. -/
theorem runEach_fills {t : FileTree} : ∀ (pods : List Text) {s last : Site}
    {results : List (PodResult Policy)}, t.SameDirs s.tree →
    w.runEach plan schema namespaces pods s = (.ok results, last) → Apart t results →
    ∀ r ∈ results, ∀ place text, r.Fills t place text →
      last.tree.entry? place = some (.file text)
  | [], _, _, _, _, h, _, r, hr, _, _, _ => by
    cases h
    cases hr
  | pod :: rest, s, last, results, ht, h, hapart, r, hr, place, text, hplace => by
    obtain ⟨first, next, more, rfl, e, hrest⟩ := runEach_cons_ok h
    obtain ⟨hfirst, hmore⟩ := List.pairwise_cons.mp hapart
    have heffect := runPod_effect e
    have hnext := ht.trans heffect.sameDirs
    rcases List.mem_cons.mp hr with rfl | hr
    · -- What the first has written is left alone by the rest.
      rw [runEach_frame rest hnext hrest fun r' hr' text' => hfirst r' hr' place text text' hplace]
      exact heffect.fills ht hplace
    · exact runEach_fills rest hnext hrest hmore r hr place text hplace

/-- What is printed is one text for each result without a fault, in the order of work. -/
theorem runEach_printed (hnowhere : plan.directory = none) (hdry : plan.dryRun = true) :
    ∀ (pods : List Text) {s last : Site} {results : List (PodResult Policy)},
    w.runEach plan schema namespaces pods s = (.ok results, last) →
    last.printed = s.printed ++ results.filterMap (·.page?)
  | [], _, _, _, h => by
    cases h
    simp
  | pod :: rest, s, last, results, h => by
    obtain ⟨r, next, more, rfl, e, hrest⟩ := runEach_cons_ok h
    have hpage : (r :: more).filterMap (·.page?) = r.page?.toList ++ more.filterMap (·.page?) := by
      cases hr : r.page? <;> simp [hr]
    rw [runEach_printed hnowhere hdry rest hrest, (runPod_effect e).printed hnowhere hdry, hpage,
      List.append_assoc]

/-! ## The whole batch -/

/-- Works on jobs one after the other; each is logged with its result. -/
def runOrder (w : World) (plan : Plan) (schema : Schema) (namespaces : List (Text × Text))
    (order : List Job) (s : Site) : Except Fault (List (Job × PodResult Policy)) × Site :=
  match w.runEach plan schema namespaces (order.map (·.1)) s with
  | (.error fault, last) => (.error fault, last)
  | (.ok outcomes, last) => (.ok (order.zip outcomes), last)

/-- The order of the batch is one of the orders of work. -/
theorem runOrder_zipIdx {pods : List Text} {s next : Site} {results : List (PodResult Policy)}
    (h : w.runBatch plan schema namespaces pods s = (.ok results, next)) :
    ∃ log, w.runOrder plan schema namespaces pods.zipIdx s = (.ok log, next) ∧
      gather pods log = results := by
  rw [runBatch_eq] at h
  have hlength := (runEach_results pods (.refl s.tree) h).length_eq
  refine ⟨pods.zipIdx.zip results, ?_, gather_zipIdx hlength⟩
  rw [runOrder, List.zipIdx_map_fst, h]

/-- Pods that have results have them one after the other too. -/
theorem runEach_total {s : Site} : ∀ (pods : List Text) {s' : Site}, s.tree.SameDirs s'.tree →
    (∀ pod ∈ pods, ∃ r next, w.runPod plan schema namespaces pod s = (.ok r, next)) →
    ∃ results last, w.runEach plan schema namespaces pods s' = (.ok results, last)
  | [], s', _, _ => ⟨[], s', rfl⟩
  | pod :: rest, s', hdirs, h => by
    obtain ⟨⟨r, next, e⟩, hrest⟩ := List.forall_mem_cons.mp h
    obtain ⟨r', next', e', -⟩ := runPod_alike hdirs e
    have hnext := hdirs.trans (runPod_effect e').sameDirs
    obtain ⟨results, last, hrun⟩ := runEach_total rest hnext hrest
    refine ⟨r' :: results, last, ?_⟩
    rw [runEach_cons, e']
    simp only [hrun]

/-- Each result is what the work on some pod came to, among the same directories. -/
theorem runEach_effects {t : FileTree} : ∀ (pods : List Text) {s last : Site}
    {results : List (PodResult Policy)}, t.SameDirs s.tree →
    w.runEach plan schema namespaces pods s = (.ok results, last) →
    t.SameDirs last.tree ∧ ∀ r ∈ results, ∃ pod ∈ pods, ∃ before after, t.SameDirs before.tree ∧
      w.Effect plan schema namespaces pod before r after
  | [], _, _, _, ht, h => by
    cases h
    exact ⟨ht, fun r hr => by cases hr⟩
  | pod :: rest, s, last, results, ht, h => by
    obtain ⟨r, next, more, rfl, e, hrest⟩ := runEach_cons_ok h
    have heffect := runPod_effect e
    obtain ⟨hlast, hmore⟩ := runEach_effects rest (ht.trans heffect.sameDirs) hrest
    refine ⟨hlast, List.forall_mem_cons.mpr ⟨⟨pod, by simp, s, next, ht, heffect⟩, ?_⟩⟩
    intro r' hr'
    obtain ⟨pod', hpod', rest⟩ := hmore r' hr'
    exact ⟨pod', List.mem_cons_of_mem _ hpod', rest⟩

/-- Where names have no slashes, results with different paths have their files in different
places. -/
theorem apart_of_nodup {d : OutputDirectory} (hd : plan.directory = some d) {pods : List Text}
    (hnames : ∀ pod ∈ pods, w.Unslashed plan schema namespaces pod) {s last : Site}
    {results : List (PodResult Policy)}
    (h : w.runEach plan schema namespaces pods s = (.ok results, last))
    (hpaths : (results.filterMap (·.path)).Nodup) : Apart s.tree results := by
  -- Places tell less than paths, so each path is traced to the policy and the pod it was made of.
  have hwritten : ∀ r ∈ results, ∀ path, r.path = some path →
      ∃ p pod, path = Plan.pathIn d p (some pod) ∧ Plan.Unslashed p (some pod) := by
    intro r hr path hpath
    obtain ⟨pod, hpod, before, after, -, heffect⟩ :=
      (runEach_effects pods (.refl s.tree) h).2 r hr
    cases heffect with
    | failed => cases hpath
    | shown => cases hpath
    | filed p d' place made somewhere =>
      obtain rfl : d = d' := Option.some.inj (hd.symm.trans somewhere)
      cases hpath
      exact ⟨p, pod, rfl, hnames pod hpod p made⟩
  refine (List.pairwise_filterMap.mp hpaths).imp_of_mem fun {r r'} hr hr' hne => ?_
  rintro place text text' ⟨path, -, hpath, -, hplace, -⟩ ⟨path', -, hpath', -, hplace', -⟩
  obtain ⟨p, pod, rfl, hp⟩ := hwritten r hr path hpath
  obtain ⟨p', pod', rfl, hp'⟩ := hwritten r' hr' path' hpath'
  exact hne _ hpath _ hpath' (Plan.pathIn_eq_of_locate hp hp' hplace hplace')

/-- At the path of each result without a fault stands the text of its policy. -/
def Filed (t : FileTree) (results : List (PodResult Policy)) : Prop :=
  ∀ r ∈ results, r.fault = none → ∃ path p place, r.path = some path ∧ r.made = some p ∧
    t.locate path = .ok place ∧ t.entry? place = some (.file (Yaml.write p.manifest))

theorem runEach_filed {d : OutputDirectory} (hd : plan.directory = some d) {pods : List Text}
    {s last : Site} {results : List (PodResult Policy)}
    (h : w.runEach plan schema namespaces pods s = (.ok results, last))
    (hapart : Apart s.tree results) : Filed last.tree results := by
  obtain ⟨hlast, heffects⟩ := runEach_effects pods (.refl s.tree) h
  intro r hr hfault
  obtain ⟨pod, -, before, after, hbefore, heffect⟩ := heffects r hr
  cases heffect with
  | failed => cases hfault
  | shown p made nowhere => cases nowhere.symm.trans hd
  | filed p d' place made somewhere located =>
    have hplace := hbefore.symm.locate_ok located
    refine ⟨_, p, place, rfl, rfl, hlast.locate_ok hplace, ?_⟩
    exact runEach_fills pods (.refl s.tree) h hapart _ hr place _ ⟨_, p, rfl, rfl, hplace, rfl⟩

theorem apart_perm {t : FileTree} {results results' : List (PodResult Policy)}
    (hperm : results.Perm results') (h : Apart t results) : Apart t results' := by
  refine (hperm.pairwise_iff fun {r r'} hrr' => ?_).mp h
  exact fun place text text' hr' hr => hrr' place text' text hr hr'

/-- The same results leave the same files, in whatever order they were come to. -/
theorem entry?_eq_of_perm {pods pods' : List Text} {s last last' : Site}
    {results results' : List (PodResult Policy)}
    (h : w.runEach plan schema namespaces pods s = (.ok results, last))
    (h' : w.runEach plan schema namespaces pods' s = (.ok results', last'))
    (hperm : results.Perm results') (hapart : Apart s.tree results) (place : List Text) :
    last'.tree.entry? place = last.tree.entry? place := by
  have hapart' := apart_perm hperm hapart
  -- The runs fill the same places; the others hold what they held before either.
  by_cases hfilled : ∃ r ∈ results, ∃ text, r.Fills s.tree place text
  · obtain ⟨r, hr, text, hplace⟩ := hfilled
    rw [runEach_fills pods (.refl s.tree) h hapart r hr place text hplace]
    exact runEach_fills pods' (.refl s.tree) h' hapart' r (hperm.mem_iff.mp hr) place text hplace
  · have hfree : ∀ r ∈ results, ∀ text, ¬ r.Fills s.tree place text :=
      fun r hr text hplace => hfilled ⟨r, hr, text, hplace⟩
    rw [runEach_frame pods (.refl s.tree) h hfree]
    exact runEach_frame pods' (.refl s.tree) h' fun r hr => hfree r (hperm.mem_iff.mpr hr)

section AnyOrder

variable {pods : List Text} {order : List Job} {s next last : Site}
  {results outcomes : List (PodResult Policy)} (horder : order.Perm pods.zipIdx)
  (h : w.runEach plan schema namespaces pods s = (.ok results, next))
  (hrun : w.runEach plan schema namespaces (order.map (·.1)) s = (.ok outcomes, last))

include horder

theorem perm_pods : (order.map (·.1)).Perm pods := by
  have hmap := horder.map (·.1)
  rwa [List.zipIdx_map_fst] at hmap

include h

/-- If the batch goes through in one order, it does in any other. -/
theorem runEach_order : ∃ outcomes last,
    w.runEach plan schema namespaces (order.map (·.1)) s = (.ok outcomes, last) := by
  have halone : List.Forall₂ (fun pod (_ : PodResult Policy) =>
      (∃ r after, w.runPod plan schema namespaces pod s = (.ok r, after)) ∧ True) pods results :=
    (runEach_results pods (.refl s.tree) h).imp fun pod r hr => by
      obtain ⟨-, -, r', after, e, -⟩ := hr
      exact ⟨⟨r', after, e⟩, trivial⟩
  have hpods := ((List.forall₂_and_left ..).mp halone).1
  refine runEach_total _ (.refl s.tree) fun pod hpod => ?_
  exact hpods pod ((perm_pods horder).mem_iff.mp hpod)

include hrun

/-- Each job has the result that it has alone, but for the cause of a refused path, in either
order. -/
theorem gather_alike :
    List.Forall₂ PodResult.Alike results (gather pods (order.zip outcomes)) := by
  -- Both orders are compared with each job alone, as it would go on the site as it was.
  have hresults := forall₂_zipIdx (runEach_results pods (.refl s.tree) h)
  have houtcomes := runEach_results _ (.refl s.tree) hrun
  refine forall₂_of_common ?_ hresults
    (forall₂_gather horder (List.forall₂_map_left_iff.mp houtcomes))
  rintro t r r' ⟨-, -, alone, after, e, hr⟩ ⟨-, -, alone', after', e', hr'⟩
  cases e.symm.trans e'
  exact hr.trans hr'.symm

/-- Without slashes in the names of files, it has just that result. -/
theorem gather_eq
    (hnames : ∀ d, plan.directory = some d → ∀ pod ∈ pods, w.Unslashed plan schema namespaces pod) :
    gather pods (order.zip outcomes) = results ∧ results.Perm outcomes := by
  have unique : ∀ pod r r', (∃ after, w.runPod plan schema namespaces pod s = (.ok r, after)) →
      (∃ after, w.runPod plan schema namespaces pod s = (.ok r', after)) → r = r' := by
    rintro pod r r' ⟨after, e⟩ ⟨after', e'⟩
    cases e.symm.trans e'
    rfl
  have hperm := perm_pods horder
  have hresults := runEach_exact pods (fun pod hpod d hd => hnames d hd pod hpod) (.refl plan s) h
  have houtcomes := runEach_exact (order.map (·.1))
    (fun pod hpod d hd => hnames d hd pod (hperm.mem_iff.mp hpod)) (.refl plan s) hrun
  refine ⟨?_, perm_of_forall₂ unique hresults houtcomes hperm.symm⟩
  rw [← List.forall₂_eq_eq_eq]
  refine forall₂_of_common ?_ (forall₂_gather horder (List.forall₂_map_left_iff.mp houtcomes))
    (forall₂_zipIdx hresults)
  exact fun t => unique t.1

end AnyOrder

/-- What is the same in any order of work as in the order of the batch. -/
structure Unordered (w : World) (plan : Plan) (schema : Schema) (namespaces : List (Text × Text))
    (pods : List Text) (s : Site) (results : List (PodResult Policy)) (next : Site)
    (log : List (Job × PodResult Policy)) (last : Site) : Prop where
  /-- The results are, but for the cause of a refused path, and so is the first fault. -/
  alike : List.Forall₂ PodResult.Alike results (gather pods log)
  first : FaultsAlike (firstFault results) (firstFault (gather pods log))
  /-- Without files, or without slashes in the names of files, they are exactly. -/
  exact : (∀ d, plan.directory = some d → ∀ pod ∈ pods, w.Unslashed plan schema namespaces pod) →
    gather pods log = results ∧ firstFault (gather pods log) = firstFault results
  /-- The files are, if no two have one path, and each has the text of its policy. -/
  files : ∀ d, plan.directory = some d →
    (∀ pod ∈ pods, w.Unslashed plan schema namespaces pod) →
    (results.filterMap (·.path)).Nodup →
    (∀ place, last.tree.entry? place = next.tree.entry? place) ∧
      Filed last.tree (gather pods log)
  /-- Without a directory for them, the policies are printed in the order of work. -/
  printed : plan.directory = none → plan.dryRun = true →
    last.printed = s.printed ++ log.filterMap (·.2.page?)

/-- **What a batch comes to does not depend on the order in which its jobs are worked on**: its own
order is one of the orders of work, and any other one comes to the same. -/
theorem runBatch_unordered {pods : List Text} {s next : Site} {results : List (PodResult Policy)}
    (h : w.runBatch plan schema namespaces pods s = (.ok results, next)) {order : List Job}
    (horder : order.Perm pods.zipIdx) :
    (∃ log, w.runOrder plan schema namespaces pods.zipIdx s = (.ok log, next) ∧
      gather pods log = results) ∧
    ∃ log last, w.runOrder plan schema namespaces order s = (.ok log, last) ∧
      log.map (·.1) = order ∧
      w.Unordered plan schema namespaces pods s results next log last := by
  refine ⟨runOrder_zipIdx h, ?_⟩
  rw [runBatch_eq] at h
  obtain ⟨outcomes, last, hrun⟩ := runEach_order horder h
  have hlength : order.length = outcomes.length := by
    have hresults := runEach_results _ (.refl s.tree) hrun
    simpa using hresults.length_eq
  have halike := gather_alike horder h hrun
  refine ⟨order.zip outcomes, last, ?_, List.map_fst_zip hlength.le, ?_⟩
  · rw [runOrder, hrun]
  refine ⟨halike, firstFault_alike halike, ?_, ?_, ?_⟩
  · intro hnames
    obtain ⟨hgather, -⟩ := gather_eq horder h hrun hnames
    exact ⟨hgather, by rw [hgather]⟩
  · intro d hd hnames hpaths
    obtain ⟨hgather, hperm⟩ := gather_eq horder h hrun fun _ _ => hnames
    have hapart := apart_of_nodup hd hnames h hpaths
    refine ⟨entry?_eq_of_perm h hrun hperm hapart, ?_⟩
    have hfiled := runEach_filed hd hrun (apart_perm hperm hapart)
    rw [hgather]
    exact fun r hr => hfiled r (hperm.mem_iff.mp hr)
  · intro hnowhere hdry
    have hlogged : (order.zip outcomes).filterMap (·.2.page?) = outcomes.filterMap (·.page?) :=
      calc (order.zip outcomes).filterMap (·.2.page?)
        _ = ((order.zip outcomes).map (·.2)).filterMap (·.page?) := by
          rw [List.filterMap_map]
          rfl
        _ = outcomes.filterMap (·.page?) := by
          rw [List.map_snd_zip hlength.ge]
    rw [runEach_printed hnowhere hdry _ hrun, hlogged]

/-- A world where all pods have the same flow and the same address. -/
def tangled : World where
  flows _ := .ok [
    { targetIp := "10.0.0.7", peerIp := "192.0.2.4", direction := "ingress", targetPort := "8080" }]
  podAt ip := .ok (if ip = "10.0.0.7" then
    some { ns := "shop", name := "web", ip := "10.0.0.7", labels := [label "app" "web"] } else none)
  serviceAt _ := .ok none
  controller _ _ _ := .ok none
  pod _ _ := .ok none

/-- Policies go into one directory. -/
def filing : Plan := { directory := some ⟨.ofText "out"⟩ }

/-- The directory is there, and empty. -/
def emptyOut : Site := { tree := { entries := [(["out"], .directory)] } }

theorem unslashed_tangled {pod : Text} (hne : pod ≠ []) (h : pod.NoSlash) :
    tangled.Unslashed filing .standard [] pod := by
  intro p hp
  have made : tangled.madeFor filing .standard [] pod = .ok _ := rfl
  obtain rfl := Except.ok.inj (made.symm.trans hp)
  refine ⟨?_, ?_⟩
  · show Text.NoSlash "shop"
    unfold Text.NoSlash
    decide
  · have hname : (some pod).filter (!·.isEmpty) = some pod := by simp [hne]
    rwa [Plan.podName, hname]

/-- A batch of the web pod and another. -/
def webAnd (pod : Text) : List Text := ["web", pod]

/-- Its jobs the other way round. -/
def webLast (pod : Text) : List Job := [(pod, 1), ("web", 0)]

theorem webLast_perm (pod : Text) : (webLast pod).Perm (webAnd pod).zipIdx :=
  .swap ..

theorem runBatch_unordered_tangled :
    ∃ results next, tangled.runBatch filing .standard [] (webAnd "api") emptyOut
        = (.ok results, next) ∧
      (∀ pod ∈ webAnd "api", tangled.Unslashed filing .standard [] pod) ∧
      (results.filterMap (·.path)).Nodup ∧ (webLast "api").Perm (webAnd "api").zipIdx ∧
      (∃ log, tangled.runOrder filing .standard [] (webAnd "api").zipIdx emptyOut
          = (.ok log, next) ∧ gather (webAnd "api") log = results) ∧
      ∃ log last, tangled.runOrder filing .standard [] (webLast "api") emptyOut
          = (.ok log, last) ∧
        log.map (·.1) = webLast "api" ∧
        tangled.Unordered filing .standard [] (webAnd "api") emptyOut results next log last := by
  have ran : (tangled.runBatch filing .standard [] (webAnd "api") emptyOut).1.toOption.map
      (·.filterMap (·.path)) = some [.ofText "out/shop-web-standard-networkpolicy.yaml",
        .ofText "out/shop-api-standard-networkpolicy.yaml"] := by
    decide +kernel
  obtain ⟨results, hresults, hpaths⟩ := Option.map_eq_some_iff.mp ran
  have h : tangled.runBatch filing .standard [] (webAnd "api") emptyOut = (.ok results, _) :=
    Prod.ext (ok_of_toOption hresults) rfl
  have hnames : ∀ pod ∈ webAnd "api", tangled.Unslashed filing .standard [] pod := by
    intro pod hpod
    simp only [webAnd, List.mem_cons, List.not_mem_nil, or_false] at hpod
    rcases hpod with rfl | rfl
    · exact unslashed_tangled (by decide) (by unfold Text.NoSlash; decide)
    · exact unslashed_tangled (by decide) (by unfold Text.NoSlash; decide)
  have hdistinct : (results.filterMap (·.path)).Nodup := by
    rw [hpaths]
    decide
  exact ⟨results, _, h, hnames, hdistinct, webLast_perm _,
    runBatch_unordered h (webLast_perm "api")⟩

/-- Where the directory is read-only, each pod has its policy, and the fault of its file. -/
example : (tangled.runBatch filing .standard [] (webAnd "api")
      { tree := { emptyOut.tree with readOnly := [["out"]] } }).1.toOption.map
        (·.map fun r => (r.made.isSome, r.fault)) = some [
      (true, some (.file ⟨.denied, "out/shop-web-standard-networkpolicy.yaml"⟩)),
      (true, some (.file ⟨.denied, "out/shop-api-standard-networkpolicy.yaml"⟩))] := by
  decide +kernel

/-- A name in which the file of the web pod stands like a directory. -/
def crossing : Text := "web-standard-networkpolicy.yaml/x"

/-- The fault of a job whose path leads through the file of the web pod. -/
def crossed (cause : FileCause) : Fault :=
  .file ⟨cause, "out/shop-" ++ crossing ++ "-standard-networkpolicy.yaml"⟩

/-- The path of one job leads through the file of the other, and the cause for which it is refused
tells which of them came first. -/
theorem runOrder_tangled :
    ∃ results log,
      (tangled.runBatch filing .standard [] (webAnd crossing) emptyOut).1 = .ok results ∧
      (webLast crossing).Perm (webAnd crossing).zipIdx ∧
      (tangled.runOrder filing .standard [] (webLast crossing) emptyOut).1 = .ok log ∧
      firstFault results = some (crossed .notADirectory) ∧
      firstFault (gather (webAnd crossing) log) = some (crossed .missing) := by
  have inOrder : (tangled.runBatch filing .standard [] (webAnd crossing) emptyOut).1.toOption.map
      firstFault = some (some (crossed .notADirectory)) := by
    decide +kernel
  have swapped : (tangled.runOrder filing .standard [] (webLast crossing)
      emptyOut).1.toOption.map (fun log => firstFault (gather (webAnd crossing) log))
        = some (some (crossed .missing)) := by
    decide +kernel
  obtain ⟨results, hresults, hfirst⟩ := Option.map_eq_some_iff.mp inOrder
  obtain ⟨log, hlog, hother⟩ := Option.map_eq_some_iff.mp swapped
  exact ⟨results, log, ok_of_toOption hresults, webLast_perm _, ok_of_toOption hlog, hfirst,
    hother⟩

end World

end LeastPrivilege
