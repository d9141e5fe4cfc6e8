import LeastPrivilege.Text

/-!
Taking a text apart: at a separator, into its lines, and at the control sequences of terminals,
which are left out.
-/

namespace LeastPrivilege.Text

/-! ## At a separator

The parts hold no separator, and with one between each two of them they are the text again. -/

/-- The parts between separators; a text without any is one part. -/
def parts (sep : Char) : Text → List Text
  | [] => [[]]
  | c :: rest =>
    if c = sep then [] :: parts sep rest
    else
      match parts sep rest with
      | [] => [[c]]
      | part :: more => (c :: part) :: more

/-! ## Lines

Besides the line feed, some other characters end a line; a carriage return and the line feed after
it end one line together. -/

/-- The character ends a line. -/
def endsLine (c : CodePoint) : Bool :=
  let n := c.toNat
  (10 ≤ n && n ≤ 13) || (28 ≤ n && n ≤ 30) || n == 0x85 || n == 0x2028 || n == 0x2029

/-- Lines of a text, of which the first begins with the given code points, in reverse. -/
def linesOnto (line : Text) : Text → List Text
  | [] => if line.isEmpty then [] else [line.reverse]
  | .char '\r' :: .char '\n' :: rest => line.reverse :: linesOnto [] rest
  | c :: rest =>
    if endsLine c then line.reverse :: linesOnto [] rest else linesOnto (c :: line) rest

/-- The lines of a text. What follows the last end of a line is a line unless it is empty. -/
def lines (t : Text) : List Text :=
  linesOnto [] t

/-! ## Control sequences

An escape character and an opening bracket, parameters, marks, and one character that ends the
sequence. -/

/-- What follows the control sequence that the text begins with. -/
def afterControlSequence? : Text → Option Text
  | .char '\x1b' :: .char '[' :: rest =>
    let after := rest.dropWhile (CodePoint.isBetween '0' '?')
    match after.dropWhile (CodePoint.isBetween ' ' '/') with
    | c :: after => if c.isBetween '@' '~' then some after else none
    | [] => none
  | _ => none

/-- The text without its control sequences. The first argument bounds the number of steps. -/
def dropControlSequences : Nat → Text → Text
  | 0, t => t
  | _, [] => []
  | fuel + 1, c :: rest =>
    match afterControlSequence? (c :: rest) with
    | some after => dropControlSequences fuel after
    | none => c :: dropControlSequences fuel rest

/-- The text without control sequences. -/
def withoutControlSequences (t : Text) : Text :=
  dropControlSequences t.length t

end LeastPrivilege.Text
