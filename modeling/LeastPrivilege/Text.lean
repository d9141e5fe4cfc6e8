/-!
Texts. A text is a list of code points: characters, and halves of a UTF-16 pair that stand alone. A
half is no character and has no encoding, but a document can spell one, so a text can hold it and
give it back as it was. Code points are in the order of their numbers, and texts in the order of the
first code points that differ. Sets of code points are lists of ranges.
-/

namespace LeastPrivilege

/-- A code point: a character, or a half of a pair by its distance from the first half. -/
inductive CodePoint where
  | char (c : Char)
  | half (offset : Fin 0x800)
  deriving DecidableEq, Repr, Inhabited

/-- A text. -/
abbrev Text := List CodePoint

namespace CodePoint

/-- The number of a code point. -/
def toNat : CodePoint → Nat
  | char c => c.toNat
  | half offset => 0xd800 + offset

/-- The code point with a number; beyond the last one, NUL. -/
def ofNat (n : Nat) : CodePoint :=
  if h : n - 0xd800 < 0x800 ∧ 0xd800 ≤ n then half ⟨n - 0xd800, h.1⟩ else char (Char.ofNat n)

/-- The code point is a character of a class. A half is in none. -/
def is (p : Char → Bool) : CodePoint → Bool
  | char c => p c
  | half _ => false

/-- The code point lies in a closed range. -/
def isBetween (lo hi : Char) (c : CodePoint) : Bool :=
  lo.toNat ≤ c.toNat && c.toNat ≤ hi.toNat

/-- The character that a code point is. -/
def char? : CodePoint → Option Char
  | char c => some c
  | half _ => none

/-- The code point is a half. -/
def isHalf : CodePoint → Bool
  | char _ => false
  | half _ => true

instance : Coe Char CodePoint := ⟨char⟩

instance : LT CodePoint := ⟨fun a b => a.toNat < b.toNat⟩

instance : DecidableLT CodePoint := fun a b => inferInstanceAs (Decidable (a.toNat < b.toNat))

end CodePoint

namespace Text

/-- The text of a string of characters. -/
def ofString (s : String) : Text :=
  s.toList.map .char

instance : Coe String Text := ⟨ofString⟩

/-- A character repeated. -/
def replicate (n : Nat) (c : Char) : Text :=
  List.replicate n (.char c)

/-- The string that a text without halves is. -/
def string? (t : Text) : Option String :=
  (t.mapM CodePoint.char?).map String.ofList

/-- Each character in place of which others are written; halves stay. -/
def expand (f : Char → List Char) (t : Text) : Text :=
  t.flatMap fun
    | .char c => (f c).map .char
    | .half offset => [.half offset]

/-- The parts with a separator between each two. -/
def intercalate (sep : Text) (parts : List Text) : Text :=
  List.intercalate sep parts

/-- The number of a code point lies in one of the closed ranges, which are in rising order. -/
def inRanges (n : Nat) : List (Nat × Nat) → Bool
  | [] => false
  | (lo, hi) :: rest => if n < lo then false else n ≤ hi || inRanges n rest

end Text

end LeastPrivilege
