import LeastPrivilege.Text.Digits

/-!
Half pairs: the units of UTF-16 that make a character together, the escape of one that stands
alone, and runs of halves in a text, which keep it from being encoded.
-/

namespace LeastPrivilege.Text

/-- The unit is the first half of a pair. -/
def isFirstHalf (unit : Nat) : Bool :=
  0xd800 ≤ unit && unit ≤ 0xdbff

/-- The unit is the second half of a pair. -/
def isSecondHalf (unit : Nat) : Bool :=
  0xdc00 ≤ unit && unit ≤ 0xdfff

/-- The character that two halves of a pair make. -/
def ofPair (first second : Nat) : CodePoint :=
  .ofNat (0x10000 + (first - 0xd800) * 0x400 + (second - 0xdc00))

/-- The escape of a half, with small digits. -/
def halfEscape (unit : Nat) : Text :=
  .char '\\' :: .char 'u' :: hex 4 unit

/-- The text with its halves as escapes. -/
def withHalvesEscaped (t : Text) : Text :=
  t.flatMap fun c => if c.isHalf then halfEscape c.toNat else [c]

/-- The string that stands for a text where halves cannot be written: they appear as escapes. -/
def escapedString (t : Text) : String :=
  String.ofList ((withHalvesEscaped t).filterMap CodePoint.char?)

/-- Halves in a row: the first of them, where it stands, and where the run ends. -/
structure HalfRun where
  unit : Nat
  start : Nat
  stop : Nat
  deriving DecidableEq, Repr

/-- The first run of halves at or after a place, where those that satisfy `exempt` count only after
another one of the run. -/
def halfRunFrom (exempt : Nat → Bool) : Nat → Text → Option HalfRun
  | _, [] => none
  | place, c :: rest =>
    if c.isHalf && !exempt c.toNat then
      some ⟨c.toNat, place, place + 1 + (rest.takeWhile CodePoint.isHalf).length⟩
    else halfRunFrom exempt (place + 1) rest

/-- The first run of halves in a text. -/
def halfRun? (t : Text) : Option HalfRun :=
  halfRunFrom (fun _ => false) 0 t

/-- The system reads these halves as single bytes. -/
def isByteHalf (unit : Nat) : Bool :=
  0xdc80 ≤ unit && unit ≤ 0xdcff

/-- The first run of halves in a text that the system cannot read. -/
def systemHalfRun? (t : Text) : Option HalfRun :=
  halfRunFrom isByteHalf 0 t

/-- The number of bytes of a code point in the system's form: one for a half that stands for a
byte, and as many as UTF-8 has for any other. -/
def systemBytesOf : CodePoint → Nat
  | .char c => c.utf8Size
  | .half offset => if isByteHalf (0xd800 + offset) then 1 else 3

/-- The number of bytes of a text in the system's form. -/
def systemBytes (t : Text) : Nat :=
  t.foldl (fun n c => n + systemBytesOf c) 0

end LeastPrivilege.Text
