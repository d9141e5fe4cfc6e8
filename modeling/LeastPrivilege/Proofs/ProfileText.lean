import LeastPrivilege.Seccomp.Profile
import LeastPrivilege.Proofs.WrittenDocuments

/-!
The text of a profile. A profile is read as a plain value: the reader of its document is strict, so
another member, another order or another shape is not read at all
(`Profile.ofDocument?_eq_some_iff`). Where the texts of a profile can be encoded, its text reads as
its document, and no other value holds the profile (`Profile.read_text`).
-/

namespace LeastPrivilege

/-- Items are read one by one where each of them has one value. -/
theorem mapM_eq_some_iff_map {α β : Type} {f : α → Option β} {g : β → α}
    (h : ∀ a b, f a = some b ↔ a = g b) {l : List α} {m : List β} :
    l.mapM f = some m ↔ l = m.map g := by
  induction l generalizing m with
  | nil => cases m <;> simp
  | cons a l ih =>
    cases m with
    | nil => simp [Option.bind_eq_some_iff]
    | cons b m => simp [Option.bind_eq_some_iff, h, ih]

namespace Seccomp

/-! ## Readers -/

/-- A text as a plain value. -/
def text? : Value → Option Text
  | .scalar (.text s) => some s
  | _ => none

/-- A list of texts as a plain value. -/
def texts? : Value → Option (List Text)
  | .list items => items.mapM text?
  | _ => none

/-- The rule that a document holds: its names, its action and nothing else. -/
def CallRule.ofDocument? : Value → Option CallRule
  | .map [(.text namesKey, names), (.text actionKey, action)] =>
    if namesKey = "names" ∧ actionKey = "action" then do
      return { names := ← texts? names, action := ← text? action }
    else none
  | _ => none

/-- The profile that a document holds: its default action, its architectures, its rules and nothing
else, in this order. -/
def Profile.ofDocument? : Value → Option Profile
  | .map [(.text defaultKey, defaultAction), (.text architecturesKey, architectures),
      (.text rulesKey, .list rules)] =>
    if defaultKey = "defaultAction" ∧ architecturesKey = "architectures" ∧
        rulesKey = "syscalls" then do
      return {
        defaultAction := ← text? defaultAction
        architectures := ← texts? architectures
        rules := ← rules.mapM CallRule.ofDocument? }
    else none
  | _ => none

theorem text?_eq_some_iff (v : Value) (s : Text) : text? v = some s ↔ v = .text s := by
  constructor
  · intro h
    unfold text? at h
    split at h
    · cases h
      rfl
    · cases h
  · rintro rfl
    rfl

theorem texts?_eq_some_iff (v : Value) (ss : List Text) :
    texts? v = some ss ↔ v = Profile.texts ss := by
  constructor
  · intro h
    unfold texts? at h
    split at h
    · exact congrArg Value.list ((mapM_eq_some_iff_map text?_eq_some_iff).mp h)
    · cases h
  · rintro rfl
    exact (mapM_eq_some_iff_map text?_eq_some_iff).mpr rfl

/-- A rule is read from one value only. -/
theorem CallRule.ofDocument?_eq_some_iff (v : Value) (r : CallRule) : ofDocument? v = some r ↔
    v = .map [(.text "names", Profile.texts r.names), (.text "action", .text r.action)] := by
  constructor
  · intro h
    unfold ofDocument? at h
    split at h
    · split at h
      · rename_i hkeys
        obtain ⟨rfl, rfl⟩ := hkeys
        simp only [Option.bind_eq_bind, Option.bind_eq_some_iff, Option.pure_def,
          texts?_eq_some_iff, text?_eq_some_iff] at h
        obtain ⟨_, rfl, _, rfl, hr⟩ := h
        cases hr
        rfl
      · cases h
    · cases h
  · rintro rfl
    have hnames := (texts?_eq_some_iff _ r.names).mpr rfl
    simp [ofDocument?, hnames, text?]

/-- A profile is read from its document only. -/
theorem Profile.ofDocument?_eq_some_iff (v : Value) (p : Profile) :
    ofDocument? v = some p ↔ v = p.document := by
  constructor
  · intro h
    unfold ofDocument? at h
    split at h
    · split at h
      · rename_i hkeys
        obtain ⟨rfl, rfl, rfl⟩ := hkeys
        simp only [Option.bind_eq_bind, Option.bind_eq_some_iff, Option.pure_def,
          text?_eq_some_iff, texts?_eq_some_iff,
          mapM_eq_some_iff_map CallRule.ofDocument?_eq_some_iff] at h
        obtain ⟨_, rfl, _, rfl, _, rfl, hp⟩ := h
        cases hp
        rfl
      · cases h
    · cases h
  · rintro rfl
    have harchitectures := (texts?_eq_some_iff _ p.architectures).mpr rfl
    have hrules := (mapM_eq_some_iff_map (m := p.rules) CallRule.ofDocument?_eq_some_iff).mpr rfl
    simp [document, ofDocument?, harchitectures, hrules, text?]

/-! ## Texts -/

/-- Every text of the profile can be encoded. -/
structure Profile.IsEncodable (p : Profile) : Prop where
  defaultAction : p.defaultAction.IsEncodable
  architectures : ∀ a ∈ p.architectures, a.IsEncodable
  rules : ∀ r ∈ p.rules, r.action.IsEncodable ∧ ∀ name ∈ r.names, name.IsEncodable

namespace Profile

theorem isTextual_texts {depth : Nat} {ss : List Text} (h : ∀ s ∈ ss, s.IsEncodable) :
    Json.IsTextual (depth + 1) (texts ss) := by
  apply Json.IsTextual.list
  intro v hv
  obtain ⟨s, hs, rfl⟩ := List.mem_map.mp hv
  exact .text (h s hs)

/-- A document is nested four deep: the names of a rule are a list in a map in a list in a map. -/
theorem isTextual_document {p : Profile} (h : p.IsEncodable) (depth : Nat) :
    Json.IsTextual (depth + 4) p.document := by
  have hrules : Json.IsTextual (depth + 3) (.list (p.rules.map fun r =>
      .map [(.text "names", texts r.names), (.text "action", .text r.action)])) := by
    apply Json.IsTextual.list
    intro v hv
    obtain ⟨r, hr, rfl⟩ := List.mem_map.mp hv
    obtain ⟨haction, hnames⟩ := h.rules r hr
    apply Json.IsTextual.fields [("names", texts r.names), ("action", .text r.action)]
    · show (["names", "action"] : List Text).Nodup
      decide
    · show ∀ n ∈ (["names", "action"] : List Text), n.IsEncodable
      decide
    · simp only [List.forall_mem_cons]
      exact ⟨isTextual_texts hnames, .text haction, nofun⟩
  apply Json.IsTextual.fields [("defaultAction", .text p.defaultAction),
    ("architectures", texts p.architectures), ("syscalls", .list (p.rules.map fun r =>
      .map [(.text "names", texts r.names), (.text "action", .text r.action)]))]
  · show (["defaultAction", "architectures", "syscalls"] : List Text).Nodup
    decide
  · show ∀ n ∈ (["defaultAction", "architectures", "syscalls"] : List Text), n.IsEncodable
    decide
  · simp only [List.forall_mem_cons]
    exact ⟨.text h.defaultAction, isTextual_texts h.architectures, hrules, nofun⟩

/-- The text of a profile reads as the profile's document, and no other value holds the profile. -/
theorem read_text {p : Profile} (h : p.IsEncodable) :
    Json.read p.text = .ok p.document ∧ ∀ v, ofDocument? v = some p ↔ v = p.document := by
  -- Reading goes deeper than a profile does.
  have hdocument : Json.IsTextual Json.maxDepth p.document := isTextual_document h 981
  have hread : Json.read p.text = .ok p.document := Json.read_writeValue hdocument _
  exact ⟨hread, fun v => ofDocument?_eq_some_iff v p⟩

/-- A rule with every kind of escape, one without names, and no architectures. -/
def escapedProfile : Profile where
  defaultAction := "SCMP_ACT_ERRNO"
  rules := [⟨["a\"b\\c/", "\n\r\t\x08\x0c", "\x00\x1f\x7f", "é\ud7ff\ue000", "😀\uffff"], ""⟩,
    ⟨[], "SCMP_ACT_ALLOW"⟩]

theorem read_text_escaped : escapedProfile.IsEncodable ∧
    Json.read escapedProfile.text = .ok escapedProfile.document ∧
      ∀ v, ofDocument? v = some escapedProfile ↔ v = escapedProfile.document := by
  have h : escapedProfile.IsEncodable := ⟨by decide, by decide, by decide⟩
  exact ⟨h, read_text h⟩

end Profile

end Seccomp

end LeastPrivilege
