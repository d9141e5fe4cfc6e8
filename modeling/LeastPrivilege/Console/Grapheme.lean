import LeastPrivilege.Console.CellWidth

/-!
Graphemes: what takes one place of a line. A code point without a cell of its own belongs to the one
before it, a joiner takes the code point after it along, and a picture mark widens what is shown as
text. Texts are cut between graphemes only.
-/

namespace LeastPrivilege.Console

/-- The character that joins the next one to the one before. -/
def joiner : CodePoint := '\u200d'

/-- The character that asks for the picture of the one before. -/
def pictureMark : CodePoint := '\ufe0f'

/-- The number of cells of a text. `shown` is the last code point that took cells, as long as no
picture mark has followed it. -/
def cellsAfter (shown : Option CodePoint) : Text → Nat
  | [] => 0
  | c :: rest =>
    if c == joiner then
      match rest with
      | [] => 0
      | _ :: rest => cellsAfter shown rest
    else if c == pictureMark then (if shown.any hasPicture then 1 else 0) + cellsAfter none rest
    else
      let width := cellWidth c
      width + cellsAfter (if width = 0 then shown else some c) rest

/-- The number of cells of a text. -/
def cells (t : Text) : Nat :=
  cellsAfter none t

/-- A grapheme: its code points, in reverse, and the cells it takes. -/
structure Grapheme where
  back : Text
  width : Nat
  deriving DecidableEq, Repr

/-- Adds code points to the last of some graphemes, which are in reverse; without any, they are one
without a cell. -/
def joinLast (cs : Text) (extra : Nat) : List Grapheme → List Grapheme
  | [] => [⟨cs.reverse, 0⟩]
  | g :: rest => ⟨cs.reverse ++ g.back, g.width + extra⟩ :: rest

/-- The graphemes of a text after some, which are in reverse. `shown` is the last code point that
took cells, as long as no picture mark has widened it. -/
def graphemesOnto (done : List Grapheme) (shown : Option CodePoint) : Text → List Grapheme
  | [] => done.reverse
  | c :: rest =>
    if c == joiner && !done.isEmpty then
      match rest with
      | [] => graphemesOnto (joinLast [c] 0 done) shown []
      | next :: rest => graphemesOnto (joinLast [c, next] 0 done) shown rest
    else if c == pictureMark && !done.isEmpty && shown.any hasPicture then
      graphemesOnto (joinLast [c] 1 done) none rest
    else if cellWidth c = 0 then graphemesOnto (joinLast [c] 0 done) shown rest
    else graphemesOnto (⟨[c], cellWidth c⟩ :: done) (some c) rest

/-- The graphemes of a text. -/
def graphemes (t : Text) : List Grapheme :=
  graphemesOnto [] none t

/-- Parts of graphemes that fit a width. The first begins with `line`, in reverse, which takes
`used` cells. -/
def chopOnto (width : Nat) (line : Text) (used : Nat) : List Grapheme → List Text
  | [] => if used = 0 then [] else [line.reverse]
  | g :: rest =>
    if used + g.width ≤ width then chopOnto width (g.back ++ line) (used + g.width) rest
    else line.reverse :: chopOnto width g.back g.width rest

/-- A text cut where the next grapheme would not fit a width. -/
def chop (width : Nat) (t : Text) : List Text :=
  chopOnto width [] 0 (graphemes t)

/-- The graphemes that fill some cells. A space takes the place of half a grapheme. -/
def cropTo : Nat → List Grapheme → Text
  | _, [] => []
  | room, g :: rest =>
    if room = 0 then []
    else if g.width ≤ room then g.back.reverse ++ cropTo (room - g.width) rest
    else " "

/-- The text cropped or filled up with spaces to some cells. -/
def resize (width : Nat) (t : Text) : Text :=
  let size := cells t
  if size ≤ width then t ++ Text.replicate (width - size) ' ' else cropTo width (graphemes t)

end LeastPrivilege.Console
