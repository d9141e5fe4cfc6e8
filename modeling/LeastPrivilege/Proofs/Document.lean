import LeastPrivilege.Seccomp.Recorded

/-!
Documents of any shape. What is read from a received document is found, or fails because a part of
it has another shape than its place asks for; `Settles` says which shape that is. Each reader asks
for the shape of the parts that it goes through and of no others, so the shapes of whole rows
(`Pod.RowShape`, `Service.RowShape`, `RecordedCalls.RowShape`) are exactly what their readers need.
-/

namespace LeastPrivilege

/-- The fault is about the shape of received data. -/
def Fault.isOfShape : Fault → Bool
  | .shape _ | .value (.notAPair ..) => true
  | _ => false

/-- Reading succeeds where the shape is right, and fails for its shape where it is not. -/
inductive Settles {α : Type} (shape : Prop) : Except Fault α → Prop
  | ok (a : α) (h : shape) : Settles shape (.ok a)
  | error {fault : Fault} (hfault : fault.isOfShape = true) (h : ¬ shape) :
    Settles shape (.error fault)

namespace Settles

variable {α β : Type} {shape shape' : Prop} {x : Except Fault α}

theorem congr (h : Settles shape x) (hshape : shape ↔ shape') : Settles shape' x := by
  cases h with
  | ok a h => exact .ok a (hshape.mp h)
  | error hfault h => exact .error hfault fun h' => h (hshape.mpr h')

theorem bind {f : α → Except Fault β} (hx : Settles shape x)
    (hf : ∀ a, x = .ok a → Settles shape' (f a)) : Settles (shape ∧ shape') (x >>= f) := by
  cases hx with
  | error hfault h => exact .error hfault fun hboth => h hboth.1
  | ok a h =>
    refine (hf a rfl).congr ⟨fun h' => ⟨h, h'⟩, fun hboth => hboth.2⟩

/-- A step that is known to succeed asks for nothing. -/
theorem bind_ok {f : α → Except Fault β} {a : α} (hx : x = .ok a) (hf : Settles shape (f a)) :
    Settles shape (x >>= f) := by
  rw [hx]
  exact hf

/-- Nothing is read after a part of a wrong shape. -/
theorem bind_error {f : α → Except Fault β} (hx : Settles shape x) (h : ¬ shape)
    (h' : ¬ shape') : Settles shape' (x >>= f) := by
  cases hx with
  | ok a hshape => exact absurd hshape h
  | error hfault _ => exact .error hfault h'

theorem map {f : α → β} (hx : Settles shape x) : Settles shape (x.map f) := by
  cases hx with
  | ok a h => exact .ok (f a) h
  | error hfault h => exact .error hfault h

theorem isOk_iff (h : Settles shape x) : (∃ a, x = .ok a) ↔ shape := by
  cases h with
  | ok a h => exact ⟨fun _ => h, fun _ => ⟨a, rfl⟩⟩
  | error hfault h => exact ⟨fun ⟨a, e⟩ => (nomatch e), fun hs => absurd hs h⟩

end Settles

namespace Value

/-- The value is a map. -/
def IsMap (v : Value) : Prop :=
  ∃ entries, v = .map entries

/-- The member of a map, none where there is no member or no map. -/
def get (v : Value) (key : Text) : Value :=
  match v with
  | .map entries => (getKey? (.text key) entries).getD .null
  | _ => .null

/-- A member in place of a map, empty where it counts as false. -/
def getPart (v : Value) (key : Text) : Value :=
  (v.get key).orEmptyMap

theorem member_settles (v : Value) (key : Text) : Settles v.IsMap (v.member key) := by
  cases v with
  | map entries => exact .ok _ ⟨entries, rfl⟩
  | scalar s => exact .error rfl fun ⟨_, e⟩ => (nomatch e)
  | list items => exact .error rfl fun ⟨_, e⟩ => (nomatch e)

theorem member_eq {v : Value} (h : v.IsMap) (key : Text) : v.member key = .ok (v.get key) := by
  obtain ⟨entries, rfl⟩ := h
  rfl

theorem part_eq {v : Value} (h : v.IsMap) (key : Text) : v.part key = .ok (v.getPart key) := by
  obtain ⟨entries, rfl⟩ := h
  rfl

theorem field_eq {v : Value} (h : v.IsMap) (key : Text) :
    v.field key = .ok (v.get key).fieldText := by
  obtain ⟨entries, rfl⟩ := h
  rfl

theorem part_settles (v : Value) (key : Text) : Settles v.IsMap (v.part key) := by
  cases v with
  | map entries => exact .ok _ ⟨entries, rfl⟩
  | scalar s => exact .error rfl fun ⟨_, e⟩ => (nomatch e)
  | list items => exact .error rfl fun ⟨_, e⟩ => (nomatch e)

theorem field_settles (v : Value) (key : Text) : Settles v.IsMap (v.field key) := by
  cases v with
  | map entries => exact .ok _ ⟨entries, rfl⟩
  | scalar s => exact .error rfl fun ⟨_, e⟩ => (nomatch e)
  | list items => exact .error rfl fun ⟨_, e⟩ => (nomatch e)

/-- A text that is already known asks for nothing. -/
theorem fieldUnless_settles (given : Text) (v : Value) (key : Text) :
    Settles (given = [] → v.IsMap) (fieldUnless given v key) := by
  unfold fieldUnless
  cases given with
  | nil => exact (v.field_settles key).congr ⟨fun h _ => h, fun h => h rfl⟩
  | cons c rest => exact .ok _ nofun

/-! ## Pairs -/

/-- The value has two items, of which the first can be a key. -/
def IsPair (v : Value) : Prop :=
  ∃ key w, v.items? = some [.scalar key, w]

/-- The value is a map, or its items are pairs. -/
def IsPairs (v : Value) : Prop :=
  v.IsMap ∨ ∃ items, v.items? = some items ∧ ∀ item ∈ items, item.IsPair

theorem pairAt_settles (index : Nat) (v : Value) : Settles v.IsPair (pairAt index v) := by
  unfold pairAt
  split
  · rename_i h
    exact .error rfl fun ⟨_, _, e⟩ => (nomatch h.symm.trans e)
  · rename_i key w h
    exact .ok _ ⟨key, w, h⟩
  · rename_i a w hkey h
    refine .error rfl fun ⟨key, w', e⟩ => ?_
    obtain ⟨rfl, -⟩ := List.cons.inj (Option.some.inj (h.symm.trans e))
    exact hkey key rfl
  · rename_i items hkey htwo h
    refine .error rfl fun ⟨key, w, e⟩ => ?_
    exact hkey key w (Option.some.inj (h.symm.trans e))

theorem pairsFrom_settles : ∀ (items : List Value) (index : Nat) (acc : List (Scalar × Value)),
    Settles (∀ item ∈ items, item.IsPair) (pairsFrom index acc items)
  | [], _, acc => .ok acc nofun
  | v :: rest, index, acc => by
    refine ((pairAt_settles index v).bind fun p _ => ?_).congr List.forall_mem_cons.symm
    exact pairsFrom_settles rest _ _

theorem isPairs_iff {v : Value} {items : List Value} (hv : ¬ v.IsMap) (h : v.items? = some items) :
    (∀ item ∈ items, item.IsPair) ↔ v.IsPairs := by
  constructor
  · exact fun hitems => .inr ⟨items, h, hitems⟩
  · intro hpairs
    rcases hpairs with hmap | ⟨items', h', hitems⟩
    · exact absurd hmap hv
    · obtain rfl := Option.some.inj (h.symm.trans h')
      exact hitems

theorem not_isMap_scalar (s : Scalar) : ¬ (scalar s).IsMap := fun ⟨_, e⟩ => nomatch e

theorem not_isMap_list (items : List Value) : ¬ (list items).IsMap := fun ⟨_, e⟩ => nomatch e

theorem entries_settles (v : Value) : Settles v.IsPairs v.entries := by
  cases v with
  | map es => exact .ok es (.inl ⟨es, rfl⟩)
  | list items =>
    exact (pairsFrom_settles items 0 []).congr (isPairs_iff (not_isMap_list items) rfl)
  | scalar s =>
    cases s with
    | text t =>
      exact (pairsFrom_settles _ 0 []).congr (isPairs_iff (not_isMap_scalar (.text t)) rfl)
    | _ =>
      refine .error rfl fun h => ?_
      rcases h with hmap | ⟨items, h, -⟩
      · exact not_isMap_scalar _ hmap
      · cases h

theorem get_of_member {v w : Value} {key : Text} (h : v.member key = .ok w) : w = v.get key := by
  cases v with
  | map es => exact (Except.ok.inj h).symm
  | scalar s => cases h
  | list items => cases h

theorem getPart_of_part {v w : Value} {key : Text} (h : v.part key = .ok w) :
    w = v.getPart key := by
  cases v with
  | map es => exact (Except.ok.inj h).symm
  | scalar s => cases h
  | list items => cases h

/-! ## Owners -/

/-- The references are maps, up to the first one that controls. -/
def Checked : List Value → Prop
  | [] => True
  | r :: rest => r.IsMap ∧ ((r.get "controller").isTruthy = true ∨ Checked rest)

/-- The value counts as false, or is a list of references. -/
def IsOwners (v : Value) : Prop :=
  v.isTruthy = true → ∃ items, v = .list items ∧ Checked items

theorem firstControlling_settles (items : List Value) :
    Settles (Checked items) (firstControlling items) := by
  induction items with
  | nil => exact .ok none trivial
  | cons r rest ih =>
    refine (r.member_settles "controller").bind fun w hw => ?_
    rw [get_of_member hw]
    cases hcontrols : (r.get "controller").isTruthy with
    | true => exact .ok (some r) (.inl rfl)
    | false => exact ih.congr ⟨.inr, fun h => h.resolve_left Bool.false_ne_true⟩

/-- What is chosen is a map. -/
theorem isMap_of_firstControlling : ∀ {items : List Value} {r : Value},
    firstControlling items = .ok (some r) → r.IsMap
  | [], _, h => nomatch h
  | first :: rest, r, h => by
    cases first with
    | scalar s => cases h
    | list items => cases h
    | map es =>
      change (if ((map es).get "controller").isTruthy = true then Except.ok (some (map es))
        else firstControlling rest) = .ok (some r) at h
      by_cases hcontrols : ((map es).get "controller").isTruthy = true
      · rw [if_pos hcontrols] at h
        exact ⟨es, (Option.some.inj (Except.ok.inj h)).symm⟩
      · rw [if_neg hcontrols] at h
        exact isMap_of_firstControlling h

/-- The owner that a list of references names. -/
theorem chosen_settles (first : Value) (rest : List Value) :
    Settles (α := Option OwnerRef) (Checked (first :: rest)) (do
      let chosen := (← firstControlling (first :: rest)).getD first
      return some { kind := ← chosen.field "kind", name := ← chosen.field "name" }) := by
  have hsettles := firstControlling_settles (first :: rest)
  refine (hsettles.bind fun found hfound => ?_).congr ⟨And.left, fun h => ⟨h, trivial⟩⟩
  have hmap : (found.getD first).IsMap := by
    cases found with
    | none => exact (hsettles.isOk_iff.mp ⟨_, hfound⟩).1
    | some r => exact isMap_of_firstControlling hfound
  exact .bind_ok (field_eq hmap "kind") (.bind_ok (field_eq hmap "name") (.ok _ trivial))

theorem ofReferences_settles (v : Value) : Settles v.IsOwners (OwnerRef.ofReferences v) := by
  unfold OwnerRef.ofReferences
  cases htruthy : v.isTruthy with
  | false => exact .ok none fun h => nomatch htruthy.symm.trans h
  | true =>
    cases v with
    | map es => exact .error rfl fun h => nomatch h htruthy
    | list items =>
      cases items with
      | nil => cases htruthy
      | cons first rest =>
        refine (chosen_settles first rest).congr ⟨fun h _ => ⟨_, rfl, h⟩, fun h => ?_⟩
        obtain ⟨items, e, hchecked⟩ := h htruthy
        cases e
        exact hchecked
    | scalar s =>
      have hshape : ¬ IsOwners (scalar s) := fun h => nomatch h htruthy
      cases s with
      | text t =>
        cases t with
        | nil => cases htruthy
        | cons c rest =>
          have hfirst : ¬ Checked (((c :: rest).map fun c => text [c])) :=
            fun h => not_isMap_scalar _ h.1
          exact (chosen_settles _ _).congr ⟨fun h => absurd h hfirst, fun h => absurd h hshape⟩
      | _ => exact .error rfl hshape

end Value

/-! ## Rows -/

/-- The shape of a pod's document, where the pod's address is known or not. -/
structure Pod.DocumentShape (doc : Value) (ip : Text) : Prop where
  whole : doc.IsMap
  metadata : (doc.getPart "metadata").IsMap
  spec : (doc.getPart "spec").IsMap
  status : ip = [] → (doc.getPart "status").IsMap
  labels : ((doc.getPart "metadata").getPart "labels").IsPairs
  owners : ((doc.getPart "metadata").get "ownerReferences").IsOwners

theorem Pod.ofDocument_settles (doc : Value) (name ns ip : Text) :
    Settles (Pod.DocumentShape doc ip) (Pod.ofDocument doc name ns ip) := by
  have inTurn : Settles (doc.IsMap ∧ doc.IsMap ∧ doc.IsMap ∧
      (ns = [] → (doc.getPart "metadata").IsMap) ∧ (name = [] → (doc.getPart "metadata").IsMap) ∧
      (ip = [] → (doc.getPart "status").IsMap) ∧ (doc.getPart "metadata").IsMap ∧
      ((doc.getPart "metadata").getPart "labels").IsPairs ∧ (doc.getPart "metadata").IsMap ∧
      ((doc.getPart "metadata").get "ownerReferences").IsOwners ∧
      (doc.getPart "spec").IsMap ∧ True) (Pod.ofDocument doc name ns ip) := by
    refine (doc.part_settles "metadata").bind fun metadata hmetadata => ?_
    rw [Value.getPart_of_part hmetadata]
    refine (doc.part_settles "spec").bind fun spec hspec => ?_
    rw [Value.getPart_of_part hspec]
    refine (doc.part_settles "status").bind fun status hstatus => ?_
    rw [Value.getPart_of_part hstatus]
    refine (Value.fieldUnless_settles ns _ _).bind fun ns _ => ?_
    refine (Value.fieldUnless_settles name _ _).bind fun name _ => ?_
    refine (Value.fieldUnless_settles ip _ _).bind fun ip _ => ?_
    refine (Value.part_settles _ "labels").bind fun labels hlabels => ?_
    rw [Value.getPart_of_part hlabels]
    refine (Value.entries_settles _).bind fun labels _ => ?_
    refine (Value.member_settles _ "ownerReferences").bind fun owners howners => ?_
    rw [Value.get_of_member howners]
    refine (Value.ofReferences_settles _).bind fun owner _ => ?_
    exact (Value.member_settles _ "hostNetwork").bind fun _ _ => .ok _ trivial
  refine inTurn.congr ⟨fun h => ?_, fun h => ?_⟩
  · obtain ⟨hwhole, -, -, -, -, hstatus, hmetadata, hlabels, -, howners, hspec, -⟩ := h
    exact ⟨hwhole, hmetadata, hspec, hstatus, hlabels, howners⟩
  · exact ⟨h.whole, h.whole, h.whole, fun _ => h.metadata, fun _ => h.metadata, h.status,
      h.metadata, h.labels, h.metadata, h.owners, h.spec, trivial⟩

/-- The shape of a pod's row. -/
def Pod.RowShape (row : Value) : Prop :=
  row.IsMap ∧ Pod.DocumentShape (row.getPart "pod_obj") (row.get "pod_ip").fieldText

theorem Pod.ofRow_settles (row : Value) : Settles (Pod.RowShape row) (Pod.ofRow row) := by
  by_cases hrow : row.IsMap
  · refine .bind_ok (Value.part_eq hrow _) (.bind_ok (Value.field_eq hrow _)
      (.bind_ok (Value.field_eq hrow _) (.bind_ok (Value.field_eq hrow _) ?_)))
    exact (Pod.ofDocument_settles _ _ _ _).congr ⟨fun h => ⟨hrow, h⟩, And.right⟩
  · exact (row.part_settles "pod_obj").bind_error hrow fun h => hrow h.1

/-- The shape of a service's row. -/
structure Service.RowShape (row : Value) : Prop where
  whole : row.IsMap
  doc : (row.getPart "service_spec").IsMap
  metadata : (row.get "svc_namespace").fieldText = [] ∨ (row.get "svc_name").fieldText = [] →
    ((row.getPart "service_spec").getPart "metadata").IsMap
  spec : ((row.getPart "service_spec").getPart "spec").IsMap
  selector : (((row.getPart "service_spec").getPart "spec").getPart "selector").IsPairs

theorem Service.ofRow_settles (row : Value) :
    Settles (Service.RowShape row) (Service.ofRow row) := by
  by_cases hrow : row.IsMap
  · have inTurn : Settles ((row.getPart "service_spec").IsMap ∧ (row.getPart "service_spec").IsMap ∧
        ((row.get "svc_namespace").fieldText = [] →
          ((row.getPart "service_spec").getPart "metadata").IsMap) ∧
        ((row.get "svc_name").fieldText = [] →
          ((row.getPart "service_spec").getPart "metadata").IsMap) ∧
        ((row.getPart "service_spec").getPart "spec").IsMap ∧
        (((row.getPart "service_spec").getPart "spec").getPart "selector").IsPairs ∧ True)
        (Service.ofRow row) := by
      refine .bind_ok (Value.part_eq hrow _) ?_
      refine (Value.part_settles _ "metadata").bind fun metadata hmetadata => ?_
      rw [Value.getPart_of_part hmetadata]
      refine (Value.part_settles _ "spec").bind fun spec hspec => ?_
      rw [Value.getPart_of_part hspec]
      refine .bind_ok (Value.field_eq hrow _) ?_
      refine (Value.fieldUnless_settles _ _ _).bind fun ns _ => ?_
      refine .bind_ok (Value.field_eq hrow _) ?_
      refine (Value.fieldUnless_settles _ _ _).bind fun name _ => ?_
      refine .bind_ok (Value.field_eq hrow _) ?_
      refine (Value.part_settles _ "selector").bind fun selector hselector => ?_
      rw [Value.getPart_of_part hselector]
      exact (Value.entries_settles _).bind fun _ _ => .ok _ trivial
    refine inTurn.congr ⟨fun h => ?_, fun h => ?_⟩
    · obtain ⟨hdoc, -, hns, hname, hspec, hselector, -⟩ := h
      exact ⟨hrow, hdoc, fun hempty => hempty.elim hns hname, hspec, hselector⟩
    · exact ⟨h.doc, h.doc, fun hns => h.metadata (.inl hns), fun hname => h.metadata (.inr hname),
        h.spec, h.selector, trivial⟩
  · exact (row.part_settles "service_spec").bind_error hrow fun h => hrow h.whole

theorem Record.ofRow_settles (row : Value) : Settles row.IsMap (Record.ofRow row) := by
  by_cases hrow : row.IsMap
  · unfold Record.ofRow
    simp only [Value.field_eq hrow]
    exact .ok _ hrow
  · exact (row.field_settles "pod_name").bind_error hrow hrow

/-! ## System calls -/

/-- The value counts as false, or is a text. -/
def Value.IsName (v : Value) : Prop :=
  v.isTruthy = true → ∃ t, v = .text t

/-- The value counts as false, or its items are names. -/
def Value.IsNames (v : Value) : Prop :=
  v.isTruthy = true → ∃ items, v.items? = some items ∧ ∀ item ∈ items, item.IsName

namespace RecordedCalls

theorem nameOfItem_settles (v : Value) : Settles v.IsName (nameOfItem v) := by
  unfold nameOfItem
  split
  · rename_i t
    exact .ok _ fun _ => ⟨t, rfl⟩
  · rename_i htext
    cases htruthy : v.isTruthy with
    | false => exact .ok none fun h => nomatch htruthy.symm.trans h
    | true =>
      refine .error rfl fun h => ?_
      obtain ⟨t, rfl⟩ := h htruthy
      exact htext t rfl

theorem namesOfItems_settles (items : List Value) :
    Settles (∀ item ∈ items, item.IsName) (namesOfItems items) := by
  induction items with
  | nil => exact .ok [] fun _ h => absurd h List.not_mem_nil
  | cons v rest ih =>
    refine ((nameOfItem_settles v).bind fun name _ => ?_).congr List.forall_mem_cons.symm
    refine (ih.bind fun names _ => ?_).congr ⟨And.left, fun h => ⟨h, trivial⟩⟩
    exact .ok _ trivial

theorem namesOf_settles (v : Value) : Settles v.IsNames (namesOf v) := by
  unfold namesOf
  cases htruthy : v.isTruthy with
  | false => exact .ok [] fun h => nomatch htruthy.symm.trans h
  | true =>
    have hitems : ∀ items, v.items? = some items →
        ((∀ item ∈ items, item.IsName) ↔ v.IsNames) := by
      intro items hitems
      constructor
      · exact fun h _ => ⟨items, hitems, h⟩
      · intro h
        obtain ⟨items', hitems', h⟩ := h htruthy
        obtain rfl := Option.some.inj (hitems.symm.trans hitems')
        exact h
    cases v with
    | list items => exact (namesOfItems_settles items).congr (hitems items rfl)
    | map es => exact (namesOfItems_settles _).congr (hitems _ rfl)
    | scalar s =>
      cases s with
      | text t =>
        refine .ok _ fun _ => ⟨_, rfl, fun item hitem _ => ?_⟩
        obtain ⟨c, -, rfl⟩ := List.mem_map.mp hitem
        exact ⟨[c], rfl⟩
      | _ => exact .error rfl fun h => nomatch h htruthy

/-- The shape of a row of recorded calls. -/
def RowShape (row : Value) : Prop :=
  row.IsMap ∧ (row.get "syscalls").IsNames

theorem ofRow_settles (row : Value) : Settles (RowShape row) (ofRow row) := by
  refine (row.member_settles "syscalls").bind fun names hnames => ?_
  rw [Value.get_of_member hnames]
  have hrow : row.IsMap := ((row.member_settles "syscalls").isOk_iff).mp ⟨_, hnames⟩
  refine ((namesOf_settles _).bind fun names _ => ?_).congr ⟨And.left, fun h => ⟨h, trivial⟩⟩
  have hfield (key : Text) : ∃ t, fieldIfTrue row key = .ok t := by
    unfold fieldIfTrue
    rw [Value.member_eq hrow]
    exact ⟨_, rfl⟩
  obtain ⟨pod, hpod⟩ := hfield "pod_name"
  obtain ⟨ns, hns⟩ := hfield "pod_namespace"
  obtain ⟨arch, harch⟩ := hfield "arch"
  exact .bind_ok hpod (.bind_ok hns (.bind_ok harch (.ok _ trivial)))

end RecordedCalls

end LeastPrivilege
