import LeastPrivilege.Json.Reader
import LeastPrivilege.Json.Writer
import LeastPrivilege.Proofs.Encoding
import LeastPrivilege.Proofs.Manifest
import Mathlib.Data.List.Induction

/-!
Documents read back. What is written for a value stands among other text, and reading takes exactly
the value off the front of it (`ReadsBack`): a text up to its quote, whatever escapes it needed
(`readText_written`), and a list or a map item by item, with the white space of its layout skipped
(`ReadsBack.list`, `ReadsBack.map`). So a document of texts, lists and maps that is not nested too
deep is read back from either layout (`read_writeValue`).
-/

namespace LeastPrivilege

/-- Pairs whose keys name different entries are the entries of their map. -/
theorem Value.ofPairs_of_pairwise {α : Type} {pairs : List (Scalar × α)}
    (h : pairs.Pairwise fun a b => ¬ a.1.sameKey b.1 = true) : ofPairs pairs = pairs := by
  -- The last pair is set into the entries of those before it, so the induction is from the end.
  induction pairs using List.reverseRecOn with
  | nil => rfl
  | append_singleton pairs p ih =>
    obtain ⟨hpairs, -, hfresh⟩ := List.pairwise_append.mp h
    have hlast : ∀ e ∈ pairs, ¬ e.1.sameKey p.1 = true := by
      intro e he
      exact hfresh e he p (List.mem_singleton_self p)
    calc
      ofPairs (pairs ++ [p]) = setKey p.1 p.2 (ofPairs pairs) := by
        unfold ofPairs
        rw [List.foldl_append]
        rfl
      _ = pairs ++ [p] := by
        rw [ih hpairs, setKey_append hlast]

namespace Json

/-! ## Texts -/

/-- Four digits read back as the unit that they were written for. -/
theorem codeUnit?_hex {n : Nat} (h : n < 0x10000) : ∃ first second third fourth : CodePoint,
    Text.hex 4 n = [first, second, third, fourth] ∧
      codeUnit? first second third fourth = some n := by
  have hdigit (m : Nat) : Text.hexValue? (.char (Text.digitChar (m % 16))) = some (m % 16) :=
    Text.hexValue?_digitChar _ (Nat.mod_lt _ (by decide))
  have hhex : Text.hex 4 n = Text.lastHexDigits 4 n := Text.hex_eq (by omega)
  refine ⟨_, _, _, _, hhex, ?_⟩
  simp only [codeUnit?, hdigit]
  show some _ = some n
  congr 1
  omega

/-- The escape of a unit is read as the unit. -/
theorem readText_unitEscape {unit : Nat} (h : unit < 0x10000) (start : Nat) (acc : Text)
    (first : Option Nat) (next : CodePoint) (rest : Text) :
    readText start acc first (unitEscape unit ++ next :: rest) =
      readText start ((joinUnit first unit).1.reverse ++ acc) (joinUnit first unit).2
        (next :: rest) := by
  obtain ⟨a, b, c, d, hhex, hunit⟩ := codeUnit?_hex h
  rw [unitEscape, hhex]
  show readText start acc first (.char '\\' :: .char 'u' :: a :: b :: c :: d :: next :: rest) = _
  rw [readText, hunit]

/-- A one-letter escape is read as its character. -/
theorem readText_escape {letter : CodePoint} {c : Char} (h : escaped? letter = some c)
    (start : Nat) (acc rest : Text) :
    readText start acc none (.char '\\' :: letter :: rest)
      = readText start (.char c :: acc) none rest := by
  have hletter : letter ≠ .char 'u' := by
    rintro rfl
    cases h
  rw [readText, h]
  · rfl
  · intro _ _ _ _ _ _ hu
    exact absurd hu hletter
  · exact hletter

/-- A character that needs no escape is read as itself. -/
theorem readText_plain {c : CodePoint} (hquote : c ≠ .char '"') (hslash : c ≠ .char '\\')
    (hcontrol : 32 ≤ c.toNat) (start : Nat) (acc rest : Text) :
    readText start acc none (c :: rest) = readText start (c :: acc) none rest := by
  rw [readText, if_neg (Nat.not_lt.mpr hcontrol)]
  · rfl
  · exact hquote
  · exact hslash

/-- A unit that is no half of a pair gives its code point. -/
theorem joinUnit_none {unit : Nat} (h : unit < 0xd800 ∨ 0xdfff < unit) :
    joinUnit none unit = ([.ofNat unit], none) := by
  have hfirst : Text.isFirstHalf unit = false := by
    simp [Text.isFirstHalf]
    omega
  simp [joinUnit, hfirst]

/-- The two halves of a pair give the code point that they were made from. -/
theorem joinUnit_pair {n : Nat} (h : n < 0x100000) :
    joinUnit none (0xd800 + n / 0x400) = ([], some (0xd800 + n / 0x400)) ∧
      joinUnit (some (0xd800 + n / 0x400)) (0xdc00 + n % 0x400)
        = ([.ofNat (0x10000 + n)], none) := by
  have hfirst : Text.isFirstHalf (0xd800 + n / 0x400) = true := by
    rw [Text.isFirstHalf, Bool.and_eq_true, decide_eq_true_iff, decide_eq_true_iff]
    omega
  have hsecond : Text.isSecondHalf (0xdc00 + n % 0x400) = true := by
    rw [Text.isSecondHalf, Bool.and_eq_true, decide_eq_true_iff, decide_eq_true_iff]
    omega
  have hpair : Text.ofPair (0xd800 + n / 0x400) (0xdc00 + n % 0x400) = .ofNat (0x10000 + n) := by
    have hsum : 0x10000 + (0xd800 + n / 0x400 - 0xd800) * 0x400 + (0xdc00 + n % 0x400 - 0xdc00)
        = 0x10000 + n := by omega
    rw [Text.ofPair, hsum]
  constructor
  · rw [joinUnit, hfirst, if_pos rfl]
  · rw [joinUnit, hsecond, if_pos rfl, hpair]

/-- The escapes of the two halves of a pair are read as one code point. -/
theorem readText_pair {n : Nat} (h : n < 0x100000) (start : Nat) (acc : Text) (next : CodePoint)
    (rest : Text) :
    readText start acc none (unitEscape (0xd800 + n / 0x400) ++ unitEscape (0xdc00 + n % 0x400)
        ++ next :: rest) =
      readText start (.ofNat (0x10000 + n) :: acc) none (next :: rest) := by
  obtain ⟨hfirst, hsecond⟩ := joinUnit_pair h
  -- The first half waits, and the escape that follows it brings the second.
  obtain ⟨slash, more, hmore⟩ : ∃ slash more,
      unitEscape (0xdc00 + n % 0x400) = slash :: more := ⟨_, _, rfl⟩
  calc
    _ = readText start acc none (unitEscape (0xd800 + n / 0x400)
          ++ slash :: (more ++ next :: rest)) := by
        rw [← List.cons_append, ← hmore, ← List.append_assoc]
    _ = readText start acc (some (0xd800 + n / 0x400))
          (unitEscape (0xdc00 + n % 0x400) ++ next :: rest) := by
        rw [readText_unitEscape (by omega), hfirst, hmore]
        rfl
    _ = readText start (.ofNat (0x10000 + n) :: acc) none (next :: rest) := by
        rw [readText_unitEscape (by omega), hsecond]
        rfl

/-- A character is read from what is written for it. -/
theorem readText_textChar (c : Char) (start : Nat) (acc : Text) (next : CodePoint)
    (rest : Text) : readText start acc none (textChar c ++ next :: rest) =
      readText start (.char c :: acc) none (next :: rest) := by
  have hc : c.toNat < 0xd800 ∨ 0xdfff < c.toNat ∧ c.toNat < 0x110000 := c.valid
  have hnat : CodePoint.toNat (.char c) = c.toNat := rfl
  unfold textChar
  -- First the escapes of one letter, then what stands for itself, then the escapes of units.
  by_cases hslash : c = '"' ∨ c = '\\'
  · rcases hslash with rfl | rfl <;> exact readText_escape rfl ..
  by_cases hletter : c ∈ ['\n', '\r', '\t', '\x08', '\x0c']
  · simp only [List.mem_cons, List.not_mem_nil, or_false] at hletter
    rcases hletter with rfl | rfl | rfl | rfl | rfl <;> exact readText_escape rfl ..
  simp only [List.mem_cons, List.not_mem_nil, or_false, not_or] at hslash hletter
  simp only [Bool.or_eq_true, beq_iff_eq, CodePoint.char.injEq, hslash, hletter, or_self, if_false,
    hnat]
  split
  · rename_i h
    simp only [Bool.and_eq_true, decide_eq_true_eq] at h
    apply readText_plain
    · simpa using hslash.1
    · simpa using hslash.2
    · exact h.1
  split
  · rename_i h
    rw [readText_unitEscape h, joinUnit_none (by omega), CodePoint.ofNat_toNat]
    rfl
  · have hsum : 0x10000 + (c.toNat - 0x10000) = c.toNat := by omega
    rw [readText_pair (by omega), hsum, CodePoint.ofNat_toNat]

/-- A text is read up to its closing quote. -/
theorem readText_written {s : Text} (hs : s.IsEncodable) (start : Nat) (acc rest : Text) :
    readText start acc none (s.flatMap textChar ++ .char '"' :: rest) =
      .ok (acc.reverse ++ s, rest) := by
  induction s generalizing acc with
  | nil =>
    rw [List.flatMap_nil, List.nil_append, readText, List.append_nil]
    rfl
  | cons c s ih =>
    obtain ⟨hc, hmembers⟩ := List.forall_mem_cons.mp hs
    cases c with
    | half i => cases hc
    | char c =>
      -- An escape is followed by something: by more of the text, or by its closing quote.
      obtain ⟨next, more, hmore⟩ : ∃ next more,
          s.flatMap textChar ++ .char '"' :: rest = next :: more :=
        List.exists_cons_of_ne_nil (by simp)
      calc
        _ = readText start acc none (textChar c ++ next :: more) := by
            rw [List.flatMap_cons, List.append_assoc, hmore]
        _ = readText start (.char c :: acc) none (s.flatMap textChar ++ .char '"' :: rest) := by
            rw [readText_textChar, hmore]
        _ = .ok (acc.reverse ++ .char c :: s, rest) := by
            rw [ih hmembers, List.reverse_cons, List.append_assoc]
            rfl

example : writeText "é\n😀" = "\"\\u00e9\\n\\ud83d\\ude00\"" := by
  decide +kernel

/-! ## White space -/

theorem isSpace_gap (l : Layout) (depth : Nat) (first : Bool) :
    ∀ c ∈ l.gap depth first, isSpace c = true := by
  intro c hc
  cases l with
  | flat =>
    cases first with
    | true => cases hc
    | false =>
      obtain rfl : c = ' ' := by simpa [Layout.gap, Text.ofString] using hc
      rfl
  | indented width =>
    rcases List.mem_append.mp hc with h | h
    · obtain rfl : c = '\n' := by simpa [Text.ofString] using h
      rfl
    · obtain rfl : c = ' ' := List.eq_of_mem_replicate h
      rfl

theorem isSpace_close (l : Layout) (depth : Nat) : ∀ c ∈ l.close depth, isSpace c = true := by
  cases l with
  | flat => exact nofun
  | indented width => exact isSpace_gap (.indented width) depth true

theorem skipSpace_append {gap : Text} (h : ∀ c ∈ gap, isSpace c = true) (rest : Text) :
    skipSpace (gap ++ rest) = skipSpace rest :=
  List.dropWhile_append_of_pos h

theorem skipSpace_cons {c : CodePoint} (h : isSpace c = false) (rest : Text) :
    skipSpace (c :: rest) = c :: rest := by
  rw [skipSpace, List.dropWhile_cons_of_neg (by simp [h])]

theorem skipSpace_close (l : Layout) (depth : Nat) {c : CodePoint} (h : isSpace c = false)
    (rest : Text) : skipSpace (l.close depth ++ c :: rest) = c :: rest := by
  rw [skipSpace_append (isSpace_close l depth), skipSpace_cons h]

/-- What a text, a list and a map begin with. -/
def marks : List CodePoint := [.char '"', .char '[', .char '\x7b']

theorem isSpace_mark : ∀ mark ∈ marks, isSpace mark = false := by
  decide

/-- The text begins as a text, a list or a map does. -/
def Opens (t : Text) : Prop :=
  ∃ mark ∈ marks, ∃ rest, t = mark :: rest

theorem Opens.skipSpace {t : Text} (h : Opens t) (rest : Text) :
    skipSpace (t ++ rest) = t ++ rest := by
  obtain ⟨mark, hmark, more, rfl⟩ := h
  exact skipSpace_cons (isSpace_mark mark hmark) _

/-! ## Written forms

What is written, with its marks as single characters and in the order in which it is read. -/

section

variable (l : Layout) (k : Nat)

theorem writeValue_text (s : Text) : writeValue l k (.text s) =
    .char '"' :: (s.flatMap textChar ++ [.char '"']) := by
  rw [writeValue]
  rfl

theorem writeValue_list_nil : writeValue l k (.list []) = [.char '[', .char ']'] := by
  rw [writeValue]
  rfl

theorem writeValue_list_cons (v : Value) (items : List Value) :
    writeValue l k (.list (v :: items)) = .char '[' :: (l.gap (k + 1) true ++
      (writeValue l (k + 1) v ++ (writeItems l (k + 1) items ++ (l.close k ++ [.char ']'])))) := by
  rw [writeValue]
  simp only [List.append_assoc]
  rfl

theorem writeItems_nil : writeItems l k [] = [] := by
  rw [writeItems]
  rfl

theorem writeItems_cons (v : Value) (items : List Value) : writeItems l k (v :: items) =
    .char ',' :: (l.gap k false ++ (writeValue l k v ++ writeItems l k items)) := by
  rw [writeItems]
  simp only [List.append_assoc]
  rfl

theorem writeValue_map_nil : writeValue l k (.map []) = [.char '\x7b', .char '\x7d'] := by
  rw [writeValue]
  rfl

/-- A member, with its key in front. -/
def writeMember (key : Text) (v : Value) : Text :=
  .char '"' :: (key.flatMap textChar ++ .char '"' :: .char ':' :: .char ' ' :: writeValue l k v)

theorem writeValue_map_cons (key : Text) (v : Value) (entries : List (Scalar × Value)) :
    writeValue l k (.map ((.text key, v) :: entries)) =
      .char '\x7b' :: (l.gap (k + 1) true ++ (writeMember l (k + 1) key v ++
        (writeMembers l (k + 1) entries ++ (l.close k ++ [.char '\x7d'])))) := by
  rw [writeValue, writeMember, writeKey, writeText]
  simp only [List.append_assoc, List.cons_append]
  rfl

theorem writeMembers_nil : writeMembers l k [] = [] := by
  rw [writeMembers]
  rfl

theorem writeMembers_cons (key : Text) (v : Value) (entries : List (Scalar × Value)) :
    writeMembers l k ((.text key, v) :: entries) =
      .char ',' :: (l.gap k false ++ (writeMember l k key v ++ writeMembers l k entries)) := by
  rw [writeMembers, writeMember, writeKey, writeText]
  simp only [List.append_assoc, List.cons_append]
  rfl

end

/-! ## Values -/

/-- Reading gives the value back from what is written for it, wherever it stands. The steps that it
takes are bounded by what is written. -/
structure ReadsBack (l : Layout) (depth : Nat) (v : Value) : Prop where
  opens (k : Nat) : Opens (writeValue l k v)
  reads (k : Nat) {fuel : Nat} (rest : Text) (h : (writeValue l k v).length ≤ fuel) :
    readValue fuel depth (writeValue l k v ++ rest) = .ok (v, rest)

/-- What is written begins with a mark, so a step is left for it, and the steps behind that are
bounded by what is written behind it. -/
theorem ReadsBack.of_mark {l : Layout} {depth : Nat} {v : Value} {mark : CodePoint}
    {body : Nat → Text} (hmark : mark ∈ marks) (hwritten : ∀ k, writeValue l k v = mark :: body k)
    (hreads : ∀ k steps rest, (body k).length ≤ steps →
      readValue (steps + 1) depth (mark :: (body k ++ rest)) = .ok (v, rest)) :
    ReadsBack l depth v where
  opens k := ⟨mark, hmark, body k, hwritten k⟩
  reads k fuel rest hfuel := by
    rw [hwritten, List.length_cons] at hfuel
    obtain ⟨steps, rfl⟩ : ∃ steps, fuel = steps + 1 := ⟨fuel - 1, by omega⟩
    rw [hwritten]
    apply hreads
    omega

theorem ReadsBack.text {l : Layout} {depth : Nat} {s : Text} (h : s.IsEncodable) :
    ReadsBack l depth (.text s) := by
  apply of_mark (by decide) (fun k => writeValue_text l k s)
  intro k steps rest _
  rw [List.append_assoc, List.singleton_append, readValue, readText_written h]
  rfl

/-! ### Lists -/

/-- An item is a value, and a bracket or a comma is next. -/
theorem readItems_item {l : Layout} {k depth fuel : Nat} {v : Value} (hv : ReadsBack l depth v)
    (hfuel : (writeValue l k v).length ≤ fuel) (acc : List Value) (rest : Text) :
    readItems (fuel + 1) depth acc (writeValue l k v ++ rest) =
      match skipSpace rest with
      | .char ']' :: rest => .ok (.list (v :: acc).reverse, rest)
      | .char ',' :: rest => readItems fuel depth (v :: acc) (skipSpace rest)
      | rest => .error ⟨.commaExpected, rest.length⟩ := by
  rw [readItems, hv.reads k rest hfuel]
  rfl

/-- Behind its bracket a list that is not empty is read item by item. -/
theorem readValue_bracket {gap item : Text} (hgap : ∀ c ∈ gap, isSpace c = true)
    (hitem : Opens item) (fuel depth : Nat) (rest : Text) :
    readValue (fuel + 1) (depth + 1) (.char '[' :: (gap ++ (item ++ rest))) =
      readItems fuel depth [] (item ++ rest) := by
  rw [readValue, skipSpace_append hgap, hitem.skipSpace]
  obtain ⟨mark, hmark, more, rfl⟩ := hitem
  simp only [marks, List.mem_cons, List.not_mem_nil, or_false] at hmark
  rcases hmark with rfl | rfl | rfl <;> rfl

/-- The items of a list are read in their order, behind those that were read before. -/
theorem readItems_written {l : Layout} {depth : Nat} (k : Nat) {v : Value} {items : List Value}
    (hv : ReadsBack l depth v) (hitems : ∀ w ∈ items, ReadsBack l depth w) {fuel : Nat}
    (hfuel : (writeValue l k v).length + (writeItems l k items).length < fuel)
    (acc : List Value) {rest tail : Text} (hrest : skipSpace rest = .char ']' :: tail) :
    readItems fuel depth acc (writeValue l k v ++ (writeItems l k items ++ rest)) =
      .ok (.list (acc.reverse ++ v :: items), tail) := by
  -- An item takes one step more than its value, and its comma is one character more.
  induction items generalizing v fuel acc with
  | nil =>
    obtain ⟨steps, rfl⟩ : ∃ steps, fuel = steps + 1 := ⟨fuel - 1, by omega⟩
    rw [writeItems_nil, List.nil_append, readItems_item hv (by omega), hrest, List.reverse_cons]
    rfl
  | cons w items ih =>
    obtain ⟨hw, hmembers⟩ := List.forall_mem_cons.mp hitems
    obtain ⟨steps, rfl⟩ : ∃ steps, fuel = steps + 1 := ⟨fuel - 1, by omega⟩
    simp only [writeItems_cons, List.length_cons, List.length_append] at hfuel
    calc
      _ = readItems (steps + 1) depth acc (writeValue l k v ++ .char ',' ::
            (l.gap k false ++ (writeValue l k w ++ (writeItems l k items ++ rest)))) := by
          simp only [writeItems_cons, List.cons_append, List.append_assoc]
      _ = readItems steps depth (v :: acc) (skipSpace
            (l.gap k false ++ (writeValue l k w ++ (writeItems l k items ++ rest)))) := by
          rw [readItems_item hv (by omega), skipSpace_cons rfl]
          rfl
      _ = readItems steps depth (v :: acc)
            (writeValue l k w ++ (writeItems l k items ++ rest)) := by
          rw [skipSpace_append (isSpace_gap l k false), (hw.opens k).skipSpace]
      _ = .ok (.list (acc.reverse ++ v :: w :: items), tail) := by
          rw [ih hw hmembers (by omega), List.reverse_cons, List.append_assoc]
          rfl

/-- A list is read back when its items are. -/
theorem ReadsBack.list {l : Layout} {depth : Nat} {items : List Value}
    (h : ∀ v ∈ items, ReadsBack l depth v) : ReadsBack l (depth + 1) (.list items) := by
  cases items with
  | nil =>
    apply of_mark (by decide) (writeValue_list_nil l)
    intro k steps rest _
    rw [readValue]
    rfl
  | cons v items =>
    obtain ⟨hv, hitems⟩ := List.forall_mem_cons.mp h
    apply of_mark (by decide) (fun k => writeValue_list_cons l k v items)
    intro k steps rest hsteps
    simp only [List.length_append, List.length_singleton] at hsteps
    simp only [List.append_assoc, List.singleton_append]
    rw [readValue_bracket (isSpace_gap l (k + 1) true) (hv.opens (k + 1)),
      readItems_written (k + 1) hv hitems (by omega) [] (skipSpace_close l k rfl rest)]
    rfl

/-! ### Maps -/

/-- A member is a key and a value, and a brace or a comma is next. -/
theorem readMembers_member {l : Layout} {k depth fuel : Nat} {key : Text} {v : Value}
    (hkey : key.IsEncodable) (hv : ReadsBack l depth v)
    (hfuel : (writeMember l k key v).length ≤ fuel) (acc : List (Scalar × Value)) (rest : Text) :
    readMembers (fuel + 1) depth acc (writeMember l k key v ++ rest) =
      match skipSpace rest with
      | .char '\x7d' :: rest => .ok (.map (Value.ofPairs ((.text key, v) :: acc).reverse), rest)
      | .char ',' :: rest => readMembers fuel depth ((.text key, v) :: acc) (skipSpace rest)
      | rest => .error ⟨.commaExpected, rest.length⟩ := by
  have hvalue : skipSpace (.char ' ' :: (writeValue l k v ++ rest)) = writeValue l k v ++ rest :=
    (hv.opens k).skipSpace rest
  have hread : readValue fuel depth (skipSpace (.char ' ' :: (writeValue l k v ++ rest))) =
      .ok (v, rest) := by
    rw [hvalue]
    apply hv.reads
    simp only [writeMember, List.length_cons, List.length_append] at hfuel
    omega
  simp only [writeMember, List.cons_append, List.append_assoc]
  -- The key is read up to its quote, and the colon is next.
  rw [readMembers, readText_written hkey]
  dsimp only [bind, Except.bind]
  rw [skipSpace_cons rfl]
  simp only [hread]
  rfl

/-- Behind its brace a map that is not empty is read member by member. -/
theorem readValue_brace {gap member : Text} (hgap : ∀ c ∈ gap, isSpace c = true)
    (hmember : Opens member) (fuel depth : Nat) (rest : Text) :
    readValue (fuel + 1) (depth + 1) (.char '\x7b' :: (gap ++ (member ++ rest))) =
      readMembers fuel depth [] (member ++ rest) := by
  rw [readValue, skipSpace_append hgap, hmember.skipSpace]
  obtain ⟨mark, hmark, more, rfl⟩ := hmember
  simp only [marks, List.mem_cons, List.not_mem_nil, or_false] at hmark
  rcases hmark with rfl | rfl | rfl <;> rfl

/-- The key of an entry can be written. -/
def IsKey (k : Scalar) : Prop :=
  ∃ key : Text, key.IsEncodable ∧ k = .text key

theorem opens_member (l : Layout) (k : Nat) (key : Text) (v : Value) :
    Opens (writeMember l k key v) :=
  ⟨.char '"', by decide, _, rfl⟩

/-- The members of a map are read in their order, behind those that were read before. -/
theorem readMembers_written {l : Layout} {depth : Nat} (k : Nat) {key : Text} {v : Value}
    {entries : List (Scalar × Value)} (hkey : key.IsEncodable) (hv : ReadsBack l depth v)
    (hkeys : ∀ e ∈ entries, IsKey e.1) (hentries : ∀ e ∈ entries, ReadsBack l depth e.2)
    {fuel : Nat}
    (hfuel : (writeMember l k key v).length + (writeMembers l k entries).length < fuel)
    (acc : List (Scalar × Value)) {rest tail : Text}
    (hrest : skipSpace rest = .char '\x7d' :: tail) :
    readMembers fuel depth acc (writeMember l k key v ++ (writeMembers l k entries ++ rest)) =
      .ok (.map (Value.ofPairs (acc.reverse ++ (.text key, v) :: entries)), tail) := by
  induction entries generalizing key v fuel acc with
  | nil =>
    obtain ⟨steps, rfl⟩ : ∃ steps, fuel = steps + 1 := ⟨fuel - 1, by omega⟩
    rw [writeMembers_nil, List.nil_append, readMembers_member hkey hv (by omega), hrest,
      List.reverse_cons]
    rfl
  | cons e entries ih =>
    obtain ⟨k', w⟩ := e
    obtain ⟨hnext, hothers⟩ := List.forall_mem_cons.mp hkeys
    obtain ⟨next, hencodable, rfl⟩ : IsKey k' := hnext
    obtain ⟨hw, hmembers⟩ := List.forall_mem_cons.mp hentries
    have hw : ReadsBack l depth w := hw
    obtain ⟨steps, rfl⟩ : ∃ steps, fuel = steps + 1 := ⟨fuel - 1, by omega⟩
    simp only [writeMembers_cons, List.length_cons, List.length_append] at hfuel
    calc
      _ = readMembers (steps + 1) depth acc (writeMember l k key v ++ .char ',' ::
            (l.gap k false ++ (writeMember l k next w ++ (writeMembers l k entries ++ rest)))) := by
          simp only [writeMembers_cons, List.cons_append, List.append_assoc]
      _ = readMembers steps depth ((.text key, v) :: acc) (skipSpace
            (l.gap k false ++ (writeMember l k next w ++ (writeMembers l k entries ++ rest)))) := by
          rw [readMembers_member hkey hv (by omega), skipSpace_cons rfl]
          rfl
      _ = readMembers steps depth ((.text key, v) :: acc)
            (writeMember l k next w ++ (writeMembers l k entries ++ rest)) := by
          rw [skipSpace_append (isSpace_gap l k false), (opens_member l k next w).skipSpace]
      _ = .ok (.map (Value.ofPairs (acc.reverse ++ (.text key, v) :: (.text next, w) :: entries)),
            tail) := by
          rw [ih hencodable hw hothers hmembers (by omega),
            List.reverse_cons, List.append_assoc]
          rfl

/-- A map is read back when its keys can be written, no two of them name one entry, and its values
are read back. -/
theorem ReadsBack.map {l : Layout} {depth : Nat} {entries : List (Scalar × Value)}
    (hkeys : ∀ e ∈ entries, IsKey e.1)
    (hdistinct : entries.Pairwise fun a b => ¬ a.1.sameKey b.1 = true)
    (h : ∀ e ∈ entries, ReadsBack l depth e.2) : ReadsBack l (depth + 1) (.map entries) := by
  cases entries with
  | nil =>
    apply of_mark (by decide) (writeValue_map_nil l)
    intro k steps rest _
    rw [readValue]
    rfl
  | cons e entries =>
    obtain ⟨k', v⟩ := e
    obtain ⟨hfirst, hothers⟩ := List.forall_mem_cons.mp hkeys
    obtain ⟨key, hkey, rfl⟩ : IsKey k' := hfirst
    obtain ⟨hv, hentries⟩ := List.forall_mem_cons.mp h
    have hv : ReadsBack l depth v := hv
    apply of_mark (by decide) (fun k => writeValue_map_cons l k key v entries)
    intro k steps rest hsteps
    simp only [List.length_append, List.length_singleton] at hsteps
    simp only [List.append_assoc, List.singleton_append]
    rw [readValue_brace (isSpace_gap l (k + 1) true) (opens_member l (k + 1) key v),
      readMembers_written (k + 1) hkey hv hothers hentries (by omega) []
        (skipSpace_close l k rfl rest),
      List.reverse_nil, List.nil_append, Value.ofPairs_of_pairwise hdistinct]

/-! ## Documents -/

/-- Values made of texts that can be written, with lists and maps nested no deeper than a number.
No two members of a map have keys that name one entry. -/
inductive IsTextual : Nat → Value → Prop
  | text {depth : Nat} {s : Text} (h : s.IsEncodable) : IsTextual depth (.text s)
  | list {depth : Nat} {items : List Value} (h : ∀ v ∈ items, IsTextual depth v) :
    IsTextual (depth + 1) (.list items)
  | map {depth : Nat} {entries : List (Scalar × Value)} (hkeys : ∀ e ∈ entries, IsKey e.1)
    (hdistinct : entries.Pairwise fun a b => ¬ a.1.sameKey b.1 = true)
    (h : ∀ e ∈ entries, IsTextual depth e.2) : IsTextual (depth + 1) (.map entries)

/-- A map with names for keys. -/
theorem IsTextual.fields {depth : Nat} (fields : List (Text × Value))
    (hnames : (fields.map Prod.fst).Nodup) (hencodable : ∀ n ∈ fields.map Prod.fst, n.IsEncodable)
    (h : ∀ f ∈ fields, IsTextual depth f.2) :
    IsTextual (depth + 1) (.map (fields.map fun f => (.text f.1, f.2))) := by
  apply IsTextual.map
  · intro e he
    obtain ⟨f, hf, rfl⟩ := List.mem_map.mp he
    exact ⟨f.1, hencodable f.1 (List.mem_map_of_mem hf), rfl⟩
  · rw [List.pairwise_map]
    apply (List.pairwise_map.mp hnames).imp
    intro f g hne hsame
    exact hne (Scalar.text.inj (Value.eq_text_of_sameKey hsame))
  · intro e he
    obtain ⟨f, hf, rfl⟩ := List.mem_map.mp he
    exact h f hf

theorem IsTextual.readsBack {depth : Nat} {v : Value} (h : IsTextual depth v) (l : Layout) :
    ReadsBack l depth v := by
  induction h with
  | text h => exact .text h
  | list _ ih => exact .list ih
  | map hkeys hdistinct _ ih => exact .map hkeys hdistinct ih

/-- A document of texts is read back from either layout. -/
theorem read_writeValue {v : Value} (h : IsTextual maxDepth v) (l : Layout) :
    read (writeValue l 0 v) = .ok v := by
  have hv := h.readsBack l
  have hopens := hv.opens 0
  have hread : readValue (2 * (writeValue l 0 v).length + 2) maxDepth (writeValue l 0 v ++ []) =
      .ok (v, []) := by
    apply hv.reads
    omega
  have hstart := hopens.skipSpace []
  rw [List.append_nil] at hread hstart
  obtain ⟨mark, hmark, more, hwritten⟩ := hopens
  rw [hwritten] at hread hstart ⊢
  -- None of the marks is that of a byte order.
  simp only [marks, List.mem_cons, List.not_mem_nil, or_false] at hmark
  rcases hmark with rfl | rfl | rfl
  all_goals
    unfold read
    dsimp only [bind, Except.bind]
    rw [hstart, hread]
    rfl

end Json

end LeastPrivilege
