import LeastPrivilege.Proofs.Address
import LeastPrivilege.Proofs.Classification
import LeastPrivilege.Proofs.Encoding
import LeastPrivilege.Proofs.ProfileFiles
import LeastPrivilege.Proofs.Trimming

/-!
Profiles of recorded calls. A row spells its calls as fields, in one text with commas or in a list;
what a field records is the name between its blanks, and a blank field records nothing
(`RecordedCalls.Records`). The profile of a row lets exactly these names through, in one rule that
has them in increasing order, so it is the same for every spelling of the same names
(`RecordedCalls.profile_exact`). The order is what makes it so: texts are in a linear order, and
there is one increasing list of given members (`eq_of_increasing`), which merging finds.
-/

namespace LeastPrivilege

/-! ## The order of texts -/

instance : Std.Irrefl (α := CodePoint) (· < ·) := ⟨fun a => Nat.lt_irrefl a.toNat⟩

instance : Std.Asymm (α := CodePoint) (· < ·) := ⟨fun _ _ h => Nat.lt_asymm h⟩

instance : Trans (α := CodePoint) (· < ·) (· < ·) (· < ·) := ⟨Nat.lt_trans⟩

instance : Std.Trichotomous (α := CodePoint) (· < ·) :=
  ⟨fun _ _ h h' => CodePoint.eq_of_toNat_eq (Nat.le_antisymm (Nat.not_lt.mp h') (Nat.not_lt.mp h))⟩

/-- There is one increasing list of given members. -/
theorem eq_of_increasing {names names' : List Text} (h : names.Pairwise (· < ·))
    (h' : names'.Pairwise (· < ·)) (hmem : ∀ name, name ∈ names ↔ name ∈ names') :
    names = names' := by
  have nodup {l : List Text} (hl : l.Pairwise (· < ·)) : l.Nodup := by
    apply hl.imp
    intro a b hlt e
    rw [e] at hlt
    exact List.lt_irrefl b hlt
  have hperm : names.Perm names' := (List.perm_ext_iff_of_nodup (nodup h) (nodup h')).mpr hmem
  exact hperm.eq_of_pairwise (fun _ _ _ _ hlt hgt => absurd hgt (List.lt_asymm hlt)) h h'

/-! ## Merging -/

/-- A name keeps a list increasing wherever it is inserted. -/
theorem increasing_insertName (name : Text) {names : List Text} (h : names.Pairwise (· < ·)) :
    (insertName name names).Pairwise (· < ·) := by
  induction h with
  | nil => exact List.pairwise_singleton _ _
  | @cons n rest hn hrest ih =>
    unfold insertName
    split
    · rename_i hlt
      refine .cons (fun other hother => ?_) (.cons hn hrest)
      rcases List.mem_cons.mp hother with rfl | hother
      · exact hlt
      · exact List.lt_trans hlt (hn other hother)
    · rename_i hle
      split
      · exact .cons hn hrest
      · rename_i hne
        -- What is neither smaller nor equal is greater.
        have hgt : n < name := Classical.byContradiction fun h => hne (List.le_antisymm h hle)
        refine .cons (fun other hother => ?_) ih
        rcases mem_insertName.mp hother with rfl | hother
        · exact hgt
        · exact hn other hother

theorem increasing_mergeNames (lists : List (List Text)) :
    (mergeNames lists).Pairwise (· < ·) := by
  unfold mergeNames
  induction lists.flatten with
  | nil => exact .nil
  | cons name rest ih => exact increasing_insertName name ih

/-- Lists with the same union are merged into the same list. -/
theorem mergeNames_congr {lists lists' : List (List Text)}
    (h : ∀ name, (∃ names ∈ lists, name ∈ names) ↔ ∃ names ∈ lists', name ∈ names) :
    mergeNames lists = mergeNames lists' := by
  refine eq_of_increasing (increasing_mergeNames _) (increasing_mergeNames _) fun name => ?_
  rw [mem_mergeNames, mem_mergeNames, h]

/-- Lists can be merged in groups, and the groups then. -/
theorem mergeNames_groups (groups : List (List (List Text))) :
    mergeNames (groups.map mergeNames) = mergeNames groups.flatten := by
  refine eq_of_increasing (increasing_mergeNames _) (increasing_mergeNames _) fun name => ?_
  rw [mem_mergeNames, mem_mergeNames]
  constructor
  · rintro ⟨merged, hmerged, hname⟩
    obtain ⟨group, hgroup, rfl⟩ := List.mem_map.mp hmerged
    obtain ⟨names, hnames, hname⟩ := mem_mergeNames.mp hname
    exact ⟨names, List.mem_flatten.mpr ⟨group, hgroup, hnames⟩, hname⟩
  · rintro ⟨names, hnames, hname⟩
    obtain ⟨group, hgroup, hnames⟩ := List.mem_flatten.mp hnames
    exact ⟨_, List.mem_map_of_mem hgroup, mem_mergeNames.mpr ⟨names, hnames, hname⟩⟩

/-! ## Rows -/

/-- The value spells the fields: as a text with commas, or as a list of texts. -/
inductive Value.Spells : Value → List Text → Prop
  | separated {t : Text} {fields : List Text} (h : t.Separated ',' fields) : Spells (.text t) fields
  | listed (fields : List Text) : Spells (.list (fields.map Value.text)) fields

namespace RecordedCalls

/-- A field records the name between its blanks, if there is any. -/
def Recorded (fields : List Text) (name : Text) : Prop :=
  name ≠ [] ∧ ∃ field ∈ fields, field.Trims name

/-- The row records the fields for a machine. -/
structure Records (row : Value) (fields : List Text) (arch : Text) : Prop where
  whole : row.IsMap
  calls : (row.get "syscalls").Spells fields
  machine : row.get "arch" = .text arch

theorem name?_eq_some_iff {field name : Text} :
    name? field = some name ↔ name ≠ [] ∧ field.Trims name := by
  unfold name?
  rw [Text.trims_iff]
  cases h : Text.trim field with
  | nil =>
    have hnot : ¬ (name ≠ [] ∧ name = []) := fun h => h.1 h.2
    simp [hnot]
  | cons c rest =>
    constructor
    · intro e
      obtain rfl := Option.some.inj e
      simp
    · intro e
      rw [e.2]
      rfl

theorem mem_filterMap_name? {fields : List Text} {name : Text} :
    name ∈ fields.filterMap name? ↔ Recorded fields name := by
  simp only [List.mem_filterMap, name?_eq_some_iff, Recorded]
  tauto

/-- Nothing is recorded exactly if all fields are blank. -/
theorem not_recorded_iff {fields : List Text} :
    (∀ name, ¬ Recorded fields name) ↔ ∀ field ∈ fields, field.Trims [] := by
  constructor
  · intro idle field hfield
    by_contra hblank
    have hne : Text.trim field ≠ [] := fun e => hblank (Text.trims_iff.mpr e.symm)
    exact idle _ ⟨hne, field, hfield, Text.trims_trim field⟩
  · rintro blank name ⟨hne, field, hfield, htrims⟩
    -- A text has one core only, and that of a blank field is empty.
    have hempty := Text.trims_iff.mp (blank field hfield)
    exact hne (by rw [Text.trims_iff.mp htrims, ← hempty])

theorem namesOfItems_texts (fields : List Text) :
    namesOfItems (fields.map Value.text) = .ok (fields.filterMap name?) := by
  induction fields with
  | nil => rfl
  | cons field rest ih =>
    rw [List.map_cons, namesOfItems, ih, List.filterMap_cons]
    simp only [nameOfItem]
    cases name? field <;> rfl

theorem namesOf_spelled {v : Value} {fields : List Text} (h : v.Spells fields) :
    namesOf v = .ok (fields.filterMap name?) := by
  cases h with
  | @separated t _ h =>
    rw [h.eq_parts]
    cases t with
    | nil => rfl
    | cons c rest => rfl
  | listed =>
    cases fields with
    | nil => rfl
    | cons field rest => exact namesOfItems_texts (field :: rest)

/-- A row is read as it spells the calls. -/
theorem ofRow_recorded {row : Value} {fields : List Text} {arch : Text}
    (h : Records row fields arch) : ∃ calls, ofRow row = .ok calls ∧
      calls.names = fields.filterMap name? ∧ calls.arch = arch := by
  have harch : fieldIfTrue row "arch" = .ok arch := by
    unfold fieldIfTrue
    rw [Value.member_eq h.whole, h.machine]
    cases arch with
    | nil => rfl
    | cons c rest => rfl
  have hfield (key : Text) : ∃ t, fieldIfTrue row key = .ok t := by
    unfold fieldIfTrue
    rw [Value.member_eq h.whole]
    exact ⟨_, rfl⟩
  obtain ⟨pod, hpod⟩ := hfield "pod_name"
  obtain ⟨ns, hns⟩ := hfield "pod_namespace"
  refine ⟨⟨pod, ns, fields.filterMap name?, arch⟩, ?_, rfl, rfl⟩
  rw [ofRow, Value.member_eq h.whole, hpod, hns, harch]
  show (namesOf (row.get "syscalls") >>= _) = _
  rw [namesOf_spelled h.calls]
  rfl

end RecordedCalls

/-! ## Profiles -/

namespace Seccomp

/-- The names of machines whose architecture is known. -/
def knownMachines : List Text := ["x86_64", "amd64", "arm64", "aarch64"]

theorem architecturesOf_ne_nil_iff {arch : Text} :
    architecturesOf arch ≠ [] ↔ Text.small arch ∈ knownMachines := by
  unfold architecturesOf knownMachines
  simp only [List.mem_cons, List.not_mem_nil, or_false]
  by_cases hintel : Text.small arch = "x86_64" ∨ Text.small arch = "amd64"
  · simp [hintel]
    tauto
  · simp [hintel]
    tauto

namespace Profile

/-- The profile lets just these calls through: in one rule with their names in increasing order, or
in no rule where there are none. -/
inductive AllowsJust (p : Profile) (wanted : Text → Prop) : Prop
  | nothing (empty : p.rules = []) (idle : ∀ name, ¬ wanted name)
  | calls (names : List Text) (one : p.rules = [⟨names, allowAction⟩])
      (increasing : names.Pairwise (· < ·)) (some : names ≠ [])
      (exact : ∀ name, name ∈ names ↔ wanted name)

theorem allowsJust_ofRecorded {calls : RecordedCalls} {fields : List Text} (action : Text)
    (h : calls.names = fields.filterMap RecordedCalls.name?) :
    (ofRecorded calls action).AllowsJust (RecordedCalls.Recorded fields) := by
  have hmem (name : Text) :
      name ∈ mergeNames [calls.names] ↔ RecordedCalls.Recorded fields name := by
    rw [← RecordedCalls.mem_filterMap_name?, ← h, mem_mergeNames]
    simp
  by_cases hempty : mergeNames [calls.names] = []
  · apply AllowsJust.nothing
    · simp [ofRecorded, hempty]
    · intro name hname
      have := (hmem name).mpr hname
      simp [hempty] at this
  · apply AllowsJust.calls (mergeNames [calls.names])
    · simp [ofRecorded, hempty]
    · exact increasing_mergeNames _
    · exact hempty
    · exact hmem

namespace AllowsJust

variable {p p' : Profile} {wanted : Text → Prop}

theorem rules_eq_nil_iff (h : p.AllowsJust wanted) : p.rules = [] ↔ ∀ name, ¬ wanted name := by
  cases h with
  | nothing empty idle => exact ⟨fun _ => idle, fun _ => empty⟩
  | calls names one increasing some exact =>
    obtain ⟨name, rest, rfl⟩ := List.exists_cons_of_ne_nil some
    constructor
    · intro e
      simp [one] at e
    · intro idle
      exact absurd ((exact name).mp (by simp)) (idle name)

/-- The calls decide the rules. -/
theorem rules_eq (h : p.AllowsJust wanted) (h' : p'.AllowsJust wanted) : p.rules = p'.rules := by
  cases h with
  | nothing empty idle => rw [empty, h'.rules_eq_nil_iff.mpr idle]
  | calls names one increasing some exact =>
    cases h' with
    | nothing empty' idle' =>
      obtain ⟨name, rest, rfl⟩ := List.exists_cons_of_ne_nil some
      exact absurd ((exact name).mp (by simp)) (idle' name)
    | calls names' one' increasing' some' exact' =>
      have hnames : names = names' := by
        apply eq_of_increasing increasing increasing'
        intro name
        rw [exact, exact']
      rw [one, one', hnames]

end AllowsJust

/-- A profile is complete with a default action, an architecture and a rule. -/
theorem check_ok_iff {p : Profile} :
    p.check = .ok () ↔ p.defaultAction ≠ [] ∧ p.architectures ≠ [] ∧ p.rules ≠ [] := by
  unfold check
  by_cases haction : p.defaultAction = []
  · simp [haction]
  · by_cases harch : p.architectures = []
    · simp [haction, harch]
    · by_cases hrules : p.rules = []
      · simp [haction, harch, hrules]
      · simp [haction, harch, hrules]

section Recorded

variable {calls calls' : RecordedCalls} {action : Text} {wanted : Text → Prop}

theorem check_ofRecorded_iff (h : (ofRecorded calls action).AllowsJust wanted) :
    (ofRecorded calls action).check = .ok () ↔
      action ≠ [] ∧ Text.small calls.arch ∈ knownMachines ∧ ∃ name, wanted name := by
  have hsome : (ofRecorded calls action).rules ≠ [] ↔ ∃ name, wanted name := by
    rw [ne_eq, h.rules_eq_nil_iff, not_forall_not]
  rw [check_ok_iff, hsome, ← architecturesOf_ne_nil_iff]
  rfl

/-- The profile is decided by the calls and the machine in small letters. -/
theorem ofRecorded_congr (h : (ofRecorded calls action).AllowsJust wanted)
    (h' : (ofRecorded calls' action).AllowsJust wanted)
    (hsmall : Text.small calls'.arch = Text.small calls.arch) :
    ofRecorded calls' action = ofRecorded calls action := by
  have hrules := h'.rules_eq h
  have hmachines : architecturesOf calls'.arch = architecturesOf calls.arch := by
    rw [architecturesOf, architecturesOf, hsmall]
  unfold ofRecorded at hrules ⊢
  rw [hmachines]
  exact congrArg _ hrules

end Recorded

end Profile

end Seccomp

open Seccomp

/-- The profile of a row lets just the recorded names through, and is complete if there is one, for
a known machine and with a default action. Its text depends on the names, the machine in small
letters and the default action only. Merged lists of names are the increasing list of their union,
in whatever order and groups they are merged. -/
theorem RecordedCalls.profile_exact {row : Value} {fields : List Text} {arch : Text}
    (h : Records row fields arch) (action : Text) :
    (∃ calls, ofRow row = .ok calls ∧
      (Profile.ofRecorded calls action).AllowsJust (Recorded fields) ∧
      ((Profile.ofRecorded calls action).rules = [] ↔ ∀ field ∈ fields, field.Trims []) ∧
      ((Profile.ofRecorded calls action).check = .ok () ↔
        action ≠ [] ∧ Text.small arch ∈ knownMachines ∧ ∃ name, Recorded fields name) ∧
      ∀ row' fields' arch', Records row' fields' arch' →
        (∀ name, Recorded fields' name ↔ Recorded fields name) →
        Text.small arch' = Text.small arch →
        ∃ calls', ofRow row' = .ok calls' ∧
          (Profile.ofRecorded calls' action).text = (Profile.ofRecorded calls action).text) ∧
    (∀ lists name, (mergeNames lists).Pairwise (· < ·) ∧
      (name ∈ mergeNames lists ↔ ∃ names ∈ lists, name ∈ names)) ∧
    (∀ lists lists' : List (List Text),
      (∀ name, (∃ names ∈ lists, name ∈ names) ↔ ∃ names ∈ lists', name ∈ names) →
      mergeNames lists = mergeNames lists') ∧
    ∀ groups : List (List (List Text)),
      mergeNames (groups.map mergeNames) = mergeNames groups.flatten := by
  obtain ⟨calls, hcalls, hnames, harch⟩ := ofRow_recorded h
  have just := Profile.allowsJust_ofRecorded action hnames
  refine ⟨⟨calls, hcalls, just, ?_, ?_, ?_⟩, ?_, ?_, mergeNames_groups⟩
  · rw [just.rules_eq_nil_iff, not_recorded_iff]
  · rw [← harch]
    exact Profile.check_ofRecorded_iff just
  · intro row' fields' arch' h' hsame hsmall
    obtain ⟨calls', hcalls', hnames', harch'⟩ := ofRow_recorded h'
    have just' := Profile.allowsJust_ofRecorded action hnames'
    rw [funext fun name => propext (hsame name)] at just'
    rw [← harch, ← harch'] at hsmall
    exact ⟨calls', hcalls', congrArg Profile.text (Profile.ofRecorded_congr just just' hsmall)⟩
  · intro lists name
    exact ⟨increasing_mergeNames lists, mem_mergeNames⟩
  · intro lists lists' hunion
    exact mergeNames_congr hunion

/-- A row whose text repeats a name, with a blank field and blanks around the others. -/
def spelledInText : Value :=
  .map [(.text "syscalls", .text "write, read,, read "), (.text "arch", .text "X86_64")]

/-- A row that lists the same names for the same machine. -/
def spelledInList : Value :=
  .map [(.text "arch", .text "x86_64"), (.text "syscalls", .list [.text "read", .text "write"])]

theorem RecordedCalls.profile_exact_spellings :
    Records spelledInText ["write", " read", "", " read "] "X86_64" ∧
    Records spelledInList ["read", "write"] "x86_64" ∧
    ∃ calls calls', ofRow spelledInText = .ok calls ∧ ofRow spelledInList = .ok calls' ∧
      (Profile.ofRecorded calls standardAction).check = .ok () ∧
      (Profile.ofRecorded calls' standardAction).text =
        (Profile.ofRecorded calls standardAction).text := by
  have hfields : Text.Separated ',' "write, read,, read " ["write", " read", "", " read "] :=
    ⟨by decide, by decide, by decide⟩
  have htext : Records spelledInText ["write", " read", "", " read "] "X86_64" :=
    ⟨⟨_, rfl⟩, .separated hfields, rfl⟩
  have hlist : Records spelledInList ["read", "write"] "x86_64" :=
    ⟨⟨_, rfl⟩, .listed ["read", "write"], rfl⟩
  have hsame (name : Text) : Recorded ["read", "write"] name ↔
      Recorded ["write", " read", "", " read "] name := by
    have hread : (["read", "write"] : List Text).filterMap name? = ["read", "write"] := by decide
    have hwrite : (["write", " read", "", " read "] : List Text).filterMap name? =
        ["write", "read", "read"] := by decide
    rw [← mem_filterMap_name?, ← mem_filterMap_name?, hread, hwrite]
    simp
    tauto
  obtain ⟨⟨calls, hcalls, -, -, hcheck, hcanonical⟩, -⟩ := profile_exact htext standardAction
  obtain ⟨calls', hcalls', hequal⟩ := hcanonical _ _ _ hlist hsame (by decide +kernel)
  refine ⟨htext, hlist, calls, calls', hcalls, hcalls', hcheck.mpr ⟨?_, ?_, ?_⟩, hequal⟩
  · decide
  · decide +kernel
  · exact ⟨"read", mem_filterMap_name?.mp (by decide)⟩

end LeastPrivilege
