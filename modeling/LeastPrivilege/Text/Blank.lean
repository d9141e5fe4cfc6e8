import LeastPrivilege.Text

/-!
White space. Trimming removes all of it at the ends of a text and nothing else; words are what is
between it.
-/

namespace LeastPrivilege.Text

/-- White space: the control characters that move or separate, and the spaces of every width. -/
def isBlank (c : CodePoint) : Bool :=
  let n := c.toNat
  (9 ≤ n && n ≤ 13) || (28 ≤ n && n ≤ 32) || n == 0x85 || n == 0xa0 || n == 0x1680 ||
    (0x2000 ≤ n && n ≤ 0x200a) || n == 0x2028 || n == 0x2029 || n == 0x202f || n == 0x205f ||
    n == 0x3000

/-- Drops code points of a class from both ends. -/
def trimBy (p : CodePoint → Bool) (t : Text) : Text :=
  ((t.dropWhile p).reverse.dropWhile p).reverse

/-- The text without white space at its ends. -/
def trim (t : Text) : Text :=
  trimBy isBlank t

/-- The text without white space at its end. -/
def trimEnd (t : Text) : Text :=
  (t.reverse.dropWhile isBlank).reverse

/-- Words in a text, of which the first begins with the given code points, in reverse. -/
def wordsOnto (word : Text) : Text → List Text
  | [] => if word.isEmpty then [] else [word.reverse]
  | c :: rest =>
    if isBlank c then
      if word.isEmpty then wordsOnto [] rest else word.reverse :: wordsOnto [] rest
    else wordsOnto (c :: word) rest

/-- The words of a text. -/
def words (t : Text) : List Text :=
  wordsOnto [] t

/-- The text without the given character at its end. -/
def dropTrailing (c : Char) (t : Text) : Text :=
  (t.reverse.dropWhile (· == CodePoint.char c)).reverse

end LeastPrivilege.Text
