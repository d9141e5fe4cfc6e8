import LeastPrivilege.Proofs.Subject

/-!
Policies do not share names. What stands behind the pod in the name of a policy is one of four
tails, and none of them ends with another (`Policy.tail_suffixFree`), so a name is cut in one way
only, whatever the pod is called, be it after a policy. Hence the name gives back the pod, the
schema and whether everything is denied, and the manifests of two policies have one name only where
all three are the same (`Policy.names_unambiguous`).
-/

namespace LeastPrivilege

namespace Policy

/-- What stands behind the pod in the name of a policy. -/
def tail (schema : Schema) (denyAll : Bool) : Text :=
  "-" ++ component schema denyAll

theorem nameFor_eq (pod : Text) (schema : Schema) (denyAll : Bool) :
    nameFor pod schema denyAll = pod ++ tail schema denyAll :=
  List.append_assoc ..

/-- No tail ends with another. -/
theorem tail_suffixFree {schema schema' : Schema} {denyAll denyAll' : Bool}
    (h : tail schema denyAll <:+ tail schema' denyAll') :
    schema = schema' ∧ denyAll = denyAll' := by
  -- A tail for everything denied ends with another letter than one for less, and in front of what
  -- is the same in both schemas their names end with different letters.
  cases schema <;> cases schema' <;> cases denyAll <;> cases denyAll' <;> revert h <;> decide

/-- A name says what it was made for. -/
theorem nameFor_inj {pod pod' : Text} {schema schema' : Schema} {denyAll denyAll' : Bool} :
    nameFor pod schema denyAll = nameFor pod' schema' denyAll' ↔
      pod = pod' ∧ schema = schema' ∧ denyAll = denyAll' := by
  constructor
  · intro h
    rw [nameFor_eq, nameFor_eq] at h
    -- Of two tails of one name the shorter one ends the longer.
    have hends : tail schema denyAll <:+ pod' ++ tail schema' denyAll' := by
      rw [← h]
      exact List.suffix_append _ _
    have hsame : schema = schema' ∧ denyAll = denyAll' := by
      rcases List.suffix_or_suffix_of_suffix hends (List.suffix_append _ _) with hsuffix | hsuffix
      · exact tail_suffixFree hsuffix
      · obtain ⟨rfl, rfl⟩ := tail_suffixFree hsuffix
        exact ⟨rfl, rfl⟩
    obtain ⟨rfl, rfl⟩ := hsame
    exact ⟨List.append_cancel_right h, rfl, rfl⟩
  · rintro ⟨rfl, rfl, rfl⟩
    rfl

/-- Rendering calls a policy after its pod, its schema, and whether there are any rules. -/
theorem writtenName_render {schema : Schema} {target : Pod} {selector : Labels}
    {ingress egress : List Rule} {p : Policy}
    (h : render schema target selector ingress egress = .ok p) :
    p.name = nameFor target.name schema p.defaultDeny ∧
      p.manifest.value.metadata? "name" = some (.text p.name) := by
  obtain ⟨written, hwritten, h⟩ := bind_ok h
  obtain ⟨written', hwritten', h⟩ := bind_ok h
  cases h
  exact ⟨rfl, (metadata?_manifestOf ..).1⟩

/-- **No two policies share a name.** The name is that of one pod, in one schema, for everything
denied or not, and so is the name that stands in a rendered manifest. -/
theorem names_unambiguous :
    (∀ pod pod' schema schema' denyAll denyAll',
      nameFor pod schema denyAll = nameFor pod' schema' denyAll' ↔
        pod = pod' ∧ schema = schema' ∧ denyAll = denyAll') ∧
    ∀ (schema schema' : Schema) (target target' : Pod) (selector selector' : Labels)
      (ingress ingress' egress egress' : List Rule) (p q : Policy),
      render schema target selector ingress egress = .ok p →
      render schema' target' selector' ingress' egress' = .ok q →
      (p.manifest.value.metadata? "name" = q.manifest.value.metadata? "name" ↔
        target.name = target'.name ∧ schema = schema' ∧ p.defaultDeny = q.defaultDeny) := by
  refine ⟨fun _ _ _ _ _ _ => nameFor_inj, ?_⟩
  intro schema schema' target target' selector selector' ingress ingress' egress egress' p q hp hq
  obtain ⟨hname, hwritten⟩ := writtenName_render hp
  obtain ⟨hname', hwritten'⟩ := writtenName_render hq
  have htext : p.manifest.value.metadata? "name" = q.manifest.value.metadata? "name" ↔
      p.name = q.name := by
    simp [hwritten, hwritten']
  rw [htext, hname, hname']
  exact nameFor_inj

/-- A pod that is called as another's policy begins. -/
theorem names_unambiguous_nested : ∃ p q,
    render .standard { ns := "shop", name := "web-standard-policy" } [label "app" "db"]
      sampleRules [] = .ok p ∧
    render .standard { ns := "shop", name := "web" } [label "app" "web"] [] [] = .ok q ∧
    p.manifest.value.metadata? "name" ≠ q.manifest.value.metadata? "name" := by
  have hp : render .standard { ns := "shop", name := "web-standard-policy" } [label "app" "db"]
      sampleRules [] = .ok _ := rfl
  have hq : render .standard { ns := "shop", name := "web" } [label "app" "web"] [] [] = .ok _ :=
    rfl
  refine ⟨_, _, hp, hq, ?_⟩
  intro h
  obtain ⟨hpods, -, -⟩ := (names_unambiguous.2 _ _ _ _ _ _ _ _ _ _ _ _ hp hq).mp h
  exact absurd hpods (by decide)

end Policy

end LeastPrivilege
