import LeastPrivilege.Proofs.Decimal
import LeastPrivilege.Proofs.Parts

/-!
Addresses and blocks. An address is 32 bits, written as four numbers with dots, or 128 bits, written
as eight groups of hexadecimal digits with colons, where one row of zeros may be left out and the
last two groups may be written with dots. A block is an address with a prefix length, and it
contains the addresses of the same family that agree with its own in the bits of the prefix. The
readers are strict, and what they accept has no slash, so a block reads back as the address and the
length it was written from (`Block.read?_append`). A prefix as long as the address singles it out
(`Block.isHost_iff`), and a shorter one never does.
-/

namespace LeastPrivilege

namespace Text

/-! ## Spelling -/

/-- One number of an address with dots: below 256, and without needless zeros. -/
def octet? (t : Text) : Option (BitVec 8) :=
  match readDecimal? t with
  | some n => if n < 256 ∧ t = decimal n then some (.ofNat 8 n) else none
  | none => none

/-- An address with dots: four numbers. -/
def dotted? (t : Text) : Option (BitVec 32) :=
  match (parts '.' t).mapM octet? with
  | some [a, b, c, d] => some (a ++ b ++ c ++ d)
  | _ => none

/-- One group of an address with colons: up to four hexadecimal digits, at least one. -/
def group? (t : Text) : Option (BitVec 16) :=
  if t.isEmpty || 4 < t.length then none
  else (t.mapM hexValue?).map fun digits => .ofNat 16 (digits.foldl (fun n d => 16 * n + d) 0)

/-- Groups in a row; the last part may be an address with dots, which is two groups. -/
def groups? : List Text → Option (List (BitVec 16))
  | [] => some []
  | part :: rest =>
    match group? part with
    | some group => (groups? rest).map (group :: ·)
    | none =>
      if rest.isEmpty then
        (dotted? part).map fun bits => [bits.extractLsb' 16 16, bits.extractLsb' 0 16]
      else none

/-- The groups of a row without dots, which may be empty. -/
def plainRow? (t : Text) : Option (List (BitVec 16)) :=
  if t.isEmpty then some [] else (parts ':' t).mapM group?

/-- The groups of a row, which may be empty. -/
def row? (t : Text) : Option (List (BitVec 16)) :=
  if t.isEmpty then some [] else groups? (parts ':' t)

/-- What stands before and after the first two colons in a row. -/
def gap? : Text → Option (Text × Text)
  | c :: d :: rest =>
    if c = .char ':' ∧ d = .char ':' then some ([], rest)
    else (gap? (d :: rest)).map fun (before, after) => (c :: before, after)
  | _ => none

/-- The bits of eight groups. -/
def eight? : List (BitVec 16) → Option (BitVec 128)
  | [a, b, c, d, e, f, g, h] => some (a ++ b ++ c ++ d ++ e ++ f ++ g ++ h)
  | _ => none

/-- An address with colons: eight groups, of which two colons leave out a row of zeros. Only the
very last groups may be written with dots. -/
def colons? (t : Text) : Option (BitVec 128) :=
  match gap? t with
  | none => do eight? (← row? t)
  | some (before, after) => do
    let first ← plainRow? before
    let last ← row? after
    if first.length + last.length < 8 then
      eight? (first ++ List.replicate (8 - first.length - last.length) 0 ++ last)
    else none

/-! ## No slash -/

theorem exists_of_mapM_eq_some {α β : Type} {f : α → Option β} : ∀ {l : List α} {r : List β},
    l.mapM f = some r → ∀ a ∈ l, ∃ b, f a = some b
  | [], _, _, _, ha => by cases ha
  | first :: rest, _, h, a, ha => by
    rw [List.mapM_cons] at h
    obtain ⟨b, hb, h⟩ := Option.bind_eq_some_iff.mp h
    obtain ⟨bs, hbs, -⟩ := Option.bind_eq_some_iff.mp h
    rcases List.mem_cons.mp ha with rfl | ha
    · exact ⟨b, hb⟩
    · exact exists_of_mapM_eq_some hbs a ha

theorem noSlash_of_octet? {t : Text} {x : BitVec 8} (h : octet? t = some x) :
    CodePoint.char '/' ∉ t := by
  unfold octet? at h
  split at h
  · split at h
    · rename_i n _ hn
      rw [hn.2]
      intro hc
      have hdigit := List.all_eq_true.mp (all_isDigit_decimal n) _ hc
      exact absurd hdigit (by decide)
    · cases h
  · cases h

theorem noSlash_of_dotted? {t : Text} {x : BitVec 32} (h : dotted? t = some x) :
    CodePoint.char '/' ∉ t := by
  unfold dotted? at h
  split at h
  · rename_i a b c d hparts
    refine not_mem_of_parts '.' (by decide) fun part hpart => ?_
    obtain ⟨y, hy⟩ := exists_of_mapM_eq_some hparts part hpart
    exact noSlash_of_octet? hy
  · cases h

theorem noSlash_of_group? {t : Text} {x : BitVec 16} (h : group? t = some x) :
    CodePoint.char '/' ∉ t := by
  unfold group? at h
  split at h
  · cases h
  · obtain ⟨digits, hdigits, -⟩ := Option.map_eq_some_iff.mp h
    intro hc
    obtain ⟨d, hd⟩ := exists_of_mapM_eq_some hdigits _ hc
    cases hd

theorem noSlash_of_plainRow? {t : Text} {xs : List (BitVec 16)} (h : plainRow? t = some xs) :
    CodePoint.char '/' ∉ t := by
  unfold plainRow? at h
  split at h
  · rename_i hempty
    rw [List.isEmpty_iff.mp hempty]
    exact List.not_mem_nil
  · refine not_mem_of_parts ':' (by decide) fun part hpart => ?_
    obtain ⟨y, hy⟩ := exists_of_mapM_eq_some h part hpart
    exact noSlash_of_group? hy

theorem noSlash_of_groups? : ∀ {ts : List Text} {xs : List (BitVec 16)}, groups? ts = some xs →
    ∀ t ∈ ts, CodePoint.char '/' ∉ t
  | [], _, _, _, ht => by cases ht
  | part :: rest, _, h, t, ht => by
    unfold groups? at h
    split at h
    · rename_i group hgroup
      obtain ⟨groups, hgroups, -⟩ := Option.map_eq_some_iff.mp h
      rcases List.mem_cons.mp ht with rfl | ht
      · exact noSlash_of_group? hgroup
      · exact noSlash_of_groups? hgroups t ht
    · split at h
      · rename_i hrest
        obtain ⟨bits, hbits, -⟩ := Option.map_eq_some_iff.mp h
        rw [List.isEmpty_iff.mp hrest, List.mem_singleton] at ht
        exact ht ▸ noSlash_of_dotted? hbits
      · cases h

theorem noSlash_of_row? {t : Text} {xs : List (BitVec 16)} (h : row? t = some xs) :
    CodePoint.char '/' ∉ t := by
  unfold row? at h
  split at h
  · rename_i hempty
    rw [List.isEmpty_iff.mp hempty]
    exact List.not_mem_nil
  · exact not_mem_of_parts ':' (by decide) (noSlash_of_groups? h)

/-- The two colons stand between what is before them and what is after. -/
theorem eq_append_of_gap? : ∀ {t before after : Text}, gap? t = some (before, after) →
    t = before ++ .char ':' :: .char ':' :: after
  | [], _, _, h => by cases h
  | [_], _, _, h => by cases h
  | c :: d :: rest, before, after, h => by
    unfold gap? at h
    split at h
    · rename_i hcolons
      obtain ⟨rfl, rfl⟩ := hcolons
      cases h
      rfl
    · obtain ⟨⟨front, back⟩, hgap, he⟩ := Option.map_eq_some_iff.mp h
      cases he
      rw [eq_append_of_gap? hgap, List.cons_append]

theorem noSlash_of_colons? {t : Text} {x : BitVec 128} (h : colons? t = some x) :
    CodePoint.char '/' ∉ t := by
  unfold colons? at h
  split at h
  · obtain ⟨groups, hrow, -⟩ := Option.bind_eq_some_iff.mp h
    exact noSlash_of_row? hrow
  · rename_i before after hgap
    obtain ⟨first, hfirst, h⟩ := Option.bind_eq_some_iff.mp h
    obtain ⟨last, hlast, -⟩ := Option.bind_eq_some_iff.mp h
    have hbefore := noSlash_of_plainRow? hfirst
    have hafter := noSlash_of_row? hlast
    rw [eq_append_of_gap? hgap]
    simp [hbefore, hafter]

end Text

/-! ## Addresses -/

/-- An address of either family. -/
inductive Address where
  | v4 (bits : BitVec 32)
  | v6 (bits : BitVec 128)
  deriving DecidableEq, Repr

namespace Address

/-- The number of bits, which tells the families apart. -/
def width : Address → Nat
  | v4 _ => 32
  | v6 _ => 128

/-- The bits, from the first. -/
def bit : Address → Nat → Bool
  | v4 bits => bits.getMsbD
  | v6 bits => bits.getMsbD

/-- The address that a text spells. -/
def read? (t : Text) : Option Address :=
  match Text.dotted? t with
  | some bits => some (v4 bits)
  | none => (Text.colons? t).map v6

/-- The address that differs in the last bit. -/
def neighbour : Address → Address
  | v4 bits => v4 (bits ^^^ 1#32)
  | v6 bits => v6 (bits ^^^ 1#128)

/-- An address is its family and its bits. -/
theorem eq_of_bits {a b : Address} (hwidth : a.width = b.width)
    (h : ∀ i < a.width, a.bit i = b.bit i) : a = b := by
  cases a with
  | v4 x =>
    cases b with
    | v4 y => exact congrArg v4 (BitVec.eq_of_getMsbD_eq h)
    | v6 y => cases hwidth
  | v6 x =>
    cases b with
    | v4 y => cases hwidth
    | v6 y => exact congrArg v6 (BitVec.eq_of_getMsbD_eq h)

theorem width_neighbour (a : Address) : a.neighbour.width = a.width := by
  cases a <;> rfl

theorem bit_neighbour (a : Address) {i : Nat} (h : i < a.width) :
    a.neighbour.bit i = (a.bit i ^^ decide (i = a.width - 1)) := by
  cases a with
  | v4 x =>
    rw [neighbour, bit, BitVec.getMsbD_xor, BitVec.getMsbD_one]
    exact congrArg _ (Bool.and_true _)
  | v6 x =>
    rw [neighbour, bit, BitVec.getMsbD_xor, BitVec.getMsbD_one]
    exact congrArg _ (Bool.and_true _)

/-- What spells an address has no slash. -/
theorem noSlash_of_read? {t : Text} {a : Address} (h : read? t = some a) :
    CodePoint.char '/' ∉ t := by
  unfold read? at h
  split at h
  · rename_i bits hbits
    exact Text.noSlash_of_dotted? hbits
  · obtain ⟨bits, hbits, -⟩ := Option.map_eq_some_iff.mp h
    exact Text.noSlash_of_colons? hbits

end Address

/-! ## Blocks -/

/-- An address of which only the first bits count. -/
structure Block where
  base : Address
  length : Nat
  le : length ≤ base.width
  deriving DecidableEq, Repr

namespace Block

/-- The address is of the block's family and agrees with its base in the bits that count. -/
def Contains (b : Block) (a : Address) : Prop :=
  a.width = b.base.width ∧ ∀ i < b.length, a.bit i = b.base.bit i

instance (b : Block) (a : Address) : Decidable (b.Contains a) :=
  inferInstanceAs (Decidable (_ ∧ _))

/-- The block contains the address and no other. -/
def IsHost (b : Block) (a : Address) : Prop :=
  ∀ c, b.Contains c ↔ c = a

/-- The block that a text spells: an address, a slash and the number of bits that count. -/
def read? (t : Text) : Option Block :=
  match Text.parts '/' t with
  | [ip, digits] =>
    match Address.read? ip, Text.readDecimal? digits with
    | some base, some length => if h : length ≤ base.width then some ⟨base, length, h⟩ else none
    | _, _ => none
  | _ => none

/-- A block is for one host just if all bits count. -/
theorem isHost_iff (b : Block) : b.IsHost b.base ↔ b.length = b.base.width := by
  constructor
  · intro h
    by_contra hne
    have hlt : b.length < b.base.width := Nat.lt_of_le_of_ne b.le hne
    -- With a bit to spare the block contains the neighbour, which is not the base.
    have hcontains : b.Contains b.base.neighbour := by
      refine ⟨b.base.width_neighbour, fun i hi => ?_⟩
      rw [b.base.bit_neighbour (by omega), decide_eq_false (by omega), Bool.xor_false]
    have hbit := congrArg (Address.bit · (b.base.width - 1)) ((h _).mp hcontains)
    simp only [b.base.bit_neighbour (show b.base.width - 1 < b.base.width by omega)] at hbit
    simp at hbit
  · intro h c
    constructor
    · rintro ⟨hwidth, hbits⟩
      exact Address.eq_of_bits hwidth fun i hi => hbits i (by omega)
    · rintro rfl
      exact ⟨rfl, fun i _ => rfl⟩

/-- An address with a slash and 32 after it reads back as the block it was written for. -/
theorem read?_append {ip : Text} {a : Address} (h : Address.read? ip = some a) :
    ∃ b, read? (ip ++ "/32") = some b ∧ b.base = a ∧ b.length = 32 := by
  have hparts : Text.parts '/' (ip ++ "/32") = [ip, "32"] :=
    Text.parts_append "32" (Address.noSlash_of_read? h)
  have hdigits : Text.readDecimal? "32" = some 32 := by decide
  have hle : 32 ≤ a.width := by cases a <;> simp [Address.width]
  refine ⟨⟨a, 32, hle⟩, ?_, rfl, rfl⟩
  simp only [read?, hparts, h, hdigits, hle, dite_true]

end Block

end LeastPrivilege
