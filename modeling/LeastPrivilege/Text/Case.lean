import LeastPrivilege.Text
import LeastPrivilege.Text.CaseRanges

/-!
Letter cases. `capitals` and `folded` serve comparisons with ASCII words, so they know the
characters whose capitals, or whose caseless forms, are ASCII; any other character stands for
itself, and no ASCII word holds it. `small` writes small letters in full.
-/

namespace LeastPrivilege.Text

/-- The capitals of a character, where they are ASCII. -/
def capitalOf (c : Char) : List Char :=
  if c.toNat < 128 then [c.toUpper]
  else if c == 'ß' then ['S', 'S']
  else if c == 'ı' then ['I']
  else if c == 'ſ' then ['S']
  else if c == 'ﬀ' then ['F', 'F']
  else if c == 'ﬁ' then ['F', 'I']
  else if c == 'ﬂ' then ['F', 'L']
  else if c == 'ﬃ' then ['F', 'F', 'I']
  else if c == 'ﬄ' then ['F', 'F', 'L']
  else if c == 'ﬅ' || c == 'ﬆ' then ['S', 'T']
  else [c]

/-- The text in capitals, for comparison with an ASCII word. -/
def capitals (t : Text) : Text :=
  t.expand capitalOf

/-- The caseless form of a character, where it is ASCII. -/
def foldedOf (c : Char) : List Char :=
  if c.toNat < 128 then [c.toLower]
  else if c == 'ß' || c == 'ẞ' then ['s', 's']
  else if c == 'ſ' then ['s']
  else if c == '\u212a' then ['k']
  else if c == 'ﬀ' then ['f', 'f']
  else if c == 'ﬁ' then ['f', 'i']
  else if c == 'ﬂ' then ['f', 'l']
  else if c == 'ﬃ' then ['f', 'f', 'i']
  else if c == 'ﬄ' then ['f', 'f', 'l']
  else if c == 'ﬅ' || c == 'ﬆ' then ['s', 't']
  else [c]

/-- The caseless form of a text, for comparison with an ASCII word. -/
def folded (t : Text) : Text :=
  t.expand foldedOf

/-- The code point of the small letter, by the run that holds the capital. -/
def smallCode (n : Nat) : List (Nat × Nat × Nat × Nat) → Nat
  | [] => n
  | (first, last, stride, target) :: rest =>
    if first ≤ n && n ≤ last && (n - first) % stride == 0 then target + (n - first)
    else smallCode n rest

/-- The small letters of one character, whatever stands around it. -/
def smallOf (c : CodePoint) : Text :=
  if c == 'İ' then ['i', '\u0307'] else [.ofNat (smallCode c.toNat smallLetterRuns)]

/-- The first character that is not ignorable has a case. -/
def meetsCased (t : Text) : Bool :=
  match t.dropWhile (inRanges ·.toNat caseIgnorableRanges) with
  | [] => false
  | c :: _ => inRanges c.toNat casedRanges

/-- Small letters of a text, with what stands before it in reverse: a capital sigma that ends a word
is written with its final form. -/
def smallAfter (before : Text) : Text → Text
  | [] => []
  | c :: rest =>
    (if c != 'Σ' then smallOf c
      else if meetsCased before && !meetsCased rest then "ς" else "σ")
      ++ smallAfter (c :: before) rest

/-- The text in small letters. -/
def small (t : Text) : Text :=
  smallAfter [] t

end LeastPrivilege.Text
