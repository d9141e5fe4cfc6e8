import LeastPrivilege.Text

/-!
Names in literals.
-/

namespace LeastPrivilege.Console.Literal

/-- The letter is some form of another: itself, a raised or lowered one, a wide one, or one of the
mathematical alphabets. -/
def isForm (forms : List Nat) (letter c : Char) : Bool :=
  c == letter || forms.contains c.toNat

/-- The forms of three letters. -/
def formsOfS : List Nat :=
  [0x17f, 0x2e2, 0x209b, 0xff53, 0x1d42c, 0x1d460, 0x1d494, 0x1d4c8, 0x1d4fc, 0x1d530, 0x1d564,
    0x1d598, 0x1d5cc, 0x1d600, 0x1d634, 0x1d668, 0x1d69c]

/-- The forms of the second letter. -/
def formsOfE : List Nat :=
  [0x1d49, 0x2091, 0x212f, 0x2147, 0xff45, 0x1d41e, 0x1d452, 0x1d486, 0x1d4ee, 0x1d522, 0x1d556,
    0x1d58a, 0x1d5be, 0x1d5f2, 0x1d626, 0x1d65a, 0x1d68e]

/-- The forms of the third letter. -/
def formsOfT : List Nat :=
  [0x1d57, 0x209c, 0xff54, 0x1d42d, 0x1d461, 0x1d495, 0x1d4c9, 0x1d4fd, 0x1d531, 0x1d565, 0x1d599,
    0x1d5cd, 0x1d601, 0x1d635, 0x1d669, 0x1d69d]

/-- The word names the maker of sets, whatever forms its letters have. -/
def spellsSet : List Char → Bool
  | [s, e, t] => isForm formsOfS 's' s && isForm formsOfE 'e' e && isForm formsOfT 't' t
  | _ => false

end LeastPrivilege.Console.Literal
