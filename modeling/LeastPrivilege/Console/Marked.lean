import LeastPrivilege.Console.Grapheme
import LeastPrivilege.Text.Blank

/-!
Marked texts: a text with the stretches of it that are to be shown in some style, and the lines that
show it. A line is broken between words where the next word would not fit; white space stays with
the word before it. A stretch without extent is lost where the text is cut, and stays where it is
not.
-/

namespace LeastPrivilege.Console

/-- A stretch of a text, from one place up to another, with the definition of its style. An action
has none. -/
structure Stretch where
  start : Nat
  stop : Nat
  style : Option Text
  deriving DecidableEq, Repr

/-- A text with stretches. -/
structure Marked where
  text : Text
  stretches : List Stretch := []
  deriving DecidableEq, Repr, Inhabited

namespace Stretch

/-- The stretch moved to the right. -/
def moved (s : Stretch) (n : Nat) : Stretch :=
  { s with start := s.start + n, stop := s.stop + n }

/-- What a stretch covers of a part of the text, seen from where the part begins. -/
def within? (s : Stretch) (start stop : Nat) : Option Stretch :=
  let first := s.start - start
  let last := min s.stop stop - start
  if first < last then some { s with start := first, stop := last } else none

/-- What is left of a stretch when the text ends at a place. -/
def before? (s : Stretch) (stop : Nat) : Option Stretch :=
  if s.start < stop then some { s with stop := min s.stop stop } else none

end Stretch

namespace Marked

/-! ## Cutting and joining -/

/-- The part of a text between two places. -/
def part (m : Marked) (start stop : Nat) : Marked where
  text := (m.text.take stop).drop start
  stretches := m.stretches.filterMap (·.within? start stop)

/-- The parts of a text from a place on, cut at further places. -/
def partsFrom (m : Marked) (start : Nat) : List Nat → List Marked
  | [] => [m.part start m.text.length]
  | stop :: rest => m.part start stop :: m.partsFrom stop rest

/-- The text cut at places in rising order. -/
def cutAt (m : Marked) (places : List Nat) : List Marked :=
  if places.isEmpty then [m] else m.partsFrom 0 places

/-- The places of a character, counted from a place. -/
def placesFrom (c : Char) (place : Nat) : Text → List Nat
  | [] => []
  | d :: rest => (if d == c then [place] else []) ++ placesFrom c (place + 1) rest

/-- The parts of a text from a place on, without the line feeds at further places. -/
def linesFrom (m : Marked) (start : Nat) : List Nat → List Marked
  | [] => [m.part start m.text.length]
  | place :: rest => m.part start place :: m.linesFrom (place + 1) rest

/-- The text cut at line feeds. -/
def lines (m : Marked) : List Marked :=
  match placesFrom '\n' 0 m.text with
  | [] => [m]
  | places => m.linesFrom 0 places

/-- Two texts in a row. -/
def append (a b : Marked) : Marked where
  text := a.text ++ b.text
  stretches := a.stretches ++ b.stretches.map (·.moved a.text.length)

/-- The text up to a place. -/
def cropAt (m : Marked) (stop : Nat) : Marked where
  text := m.text.take stop
  stretches := m.stretches.filterMap (·.before? stop)

/-- Spaces after the text. Stretches up to its end go on over them if `extend` says so. -/
def spaced (m : Marked) (n : Nat) (extend : Bool) : Marked where
  text := m.text ++ Text.replicate n ' '
  stretches := m.stretches.map fun s =>
    if extend && m.text.length ≤ s.stop then { s with stop := s.stop + n } else s

/-! ## Tabs -/

/-- The distance between tab stops. -/
def tabStop : Nat := 8

/-- A part that ends with a tab, which becomes a space, with spaces up to the next stop. The part
begins at a cell, and the cell after it is given too. -/
def tabbed (cell : Nat) (m : Marked) : Marked × Nat :=
  if m.text.getLast? == some (.char '\t') then
    let text : Text := m.text.dropLast ++ " "
    let next := cell + cells text
    let missing := (tabStop - next % tabStop) % tabStop
    (({ m with text }).spaced missing true, next + missing)
  else (m, cell + cells m.text)

/-- Parts with tabs in a row, from a cell on. -/
def joinTabbed (cell : Nat) : List Marked → Marked
  | [] => ⟨[], []⟩
  | m :: rest =>
    let (m, cell) := tabbed cell m
    m.append (joinTabbed cell rest)

/-- The text with spaces in place of tabs. -/
def withoutTabs (m : Marked) : Marked :=
  match placesFrom '\t' 0 m.text with
  | [] => m
  | places =>
    let parts := m.cutAt (places.map (· + 1))
    joinTabbed 0 (if m.text.getLast? == some (.char '\t') then parts.dropLast else parts)

/-! ## Words -/

/-- The length of a word at the start of a text: white space, other characters, and the white space
after them. It is zero if there are no other characters. -/
def wordLength (t : Text) : Nat :=
  let body := t.dropWhile Text.isBlank
  let after := body.dropWhile (!Text.isBlank ·)
  if body.isEmpty then 0 else t.length - (after.dropWhile Text.isBlank).length

/-- The words of a text. The first argument bounds their number. -/
def wordsOf : Nat → Text → List Text
  | 0, _ => []
  | fuel + 1, t =>
    let n := wordLength t
    if n = 0 then [] else t.take n :: wordsOf fuel (t.drop n)

/-- The places before parts of a word that begins at a place. At the start of a line there is
none. -/
def placesOfParts (place : Nat) : List Text → List Nat
  | [] => []
  | part :: rest =>
    (if place = 0 then [] else [place]) ++ placesOfParts (place + part.length) rest

/-- The places where a line is broken. `place` is where the next word begins, and `used` the number
of cells before it on its line. A word that is wider than a line is cut if `fold` says so. -/
def breaksFrom (fold : Bool) (width : Nat) (place used : Nat) : List Text → List Nat
  | [] => []
  | word :: rest =>
    let next := place + word.length
    let needed := cells (Text.trimEnd word)
    let start := if place = 0 then [] else [place]
    if used + needed ≤ width then breaksFrom fold width next (used + cells word) rest
    else if width < needed then
      if fold then
        let parts := chop width word
        placesOfParts place parts
          ++ breaksFrom fold width next (((parts.getLast?).map cells).getD used) rest
      else start ++ breaksFrom fold width next (cells word) rest
    else if used != 0 && place != 0 then start ++ breaksFrom fold width next (cells word) rest
    else breaksFrom fold width next used rest

/-- The places where a line is broken to fit a width. -/
def breaks (fold : Bool) (width : Nat) (line : Text) : List Nat :=
  breaksFrom fold width 0 0 (wordsOf line.length line)

/-! ## Lines that fit -/

/-- What becomes of text that is too wide for a line: it is cropped, or it ends with an ellipsis. -/
inductive Overflow where
  | fold
  | ellipsis
  deriving DecidableEq, Repr

/-- The line without the white space at its end that lies beyond a number of code points. -/
def trimmedTo (m : Marked) (width : Nat) : Marked :=
  let excess := m.text.length - width
  let blanks := m.text.length - (Text.trimEnd m.text).length
  if excess = 0 || blanks = 0 then m else m.cropAt (m.text.length - min blanks excess)

/-- The line with another text, which is not longer than the stretches may be. -/
def withText (m : Marked) (text : Text) : Marked :=
  if text.length < m.text.length then
    { text, stretches := m.stretches.filterMap (·.before? text.length) }
  else { m with text }

/-- The line cropped to a width. -/
def cropped (m : Marked) (o : Overflow) (width : Nat) : Marked :=
  if cells m.text ≤ width then m
  else
    match o with
    | .fold => m.withText (resize width m.text)
    | .ellipsis => m.withText (resize (width - 1) m.text ++ "…")

/-- The lines that show one line. -/
def wrapLine (o : Overflow) (width : Nat) (line : Marked) : List Marked :=
  let line := line.withoutTabs
  (line.cutAt (breaks (o == .fold) width line.text)).map fun m =>
    (m.trimmedTo width).cropped o width

/-- The lines that show a text in some width. -/
def wrap (o : Overflow) (width : Nat) (m : Marked) : List Marked :=
  m.lines.flatMap (wrapLine o width)

/-- The line filled up with spaces to a width. -/
def filled (m : Marked) (width : Nat) : Marked :=
  m.spaced (width - cells m.text) false

/-! ## Segments -/

/-- A list of places in rising order, with one more. -/
def insertPlace (n : Nat) : List Nat → List Nat
  | [] => [n]
  | m :: rest =>
    if n < m then n :: m :: rest else if n = m then m :: rest else m :: insertPlace n rest

/-- The parts of a text that are shown in one style each. -/
def segments (m : Marked) : List Text :=
  let places := m.stretches.flatMap fun s => [s.start, s.stop]
  let inside := places.filter fun n => n != 0 && n < m.text.length
  (m.cutAt (inside.foldr insertPlace [])).map (·.text)

end Marked

/-- The number of cells of segments. -/
def segmentCells (segments : List Text) : Nat :=
  segments.foldl (fun n s => n + cells s) 0

/-- Segments cropped to some cells. -/
def cropSegments : Nat → List Text → List Text
  | _, [] => []
  | room, s :: rest =>
    if cells s < room then s :: cropSegments (room - cells s) rest else [resize room s]

/-- A line of segments fitted to a width: cropped, or filled up with spaces if `fill` says so. -/
def fitSegments (width : Nat) (fill : Bool) (segments : List Text) : List Text :=
  let size := segmentCells segments
  if width < size then cropSegments width segments
  else if fill && size < width then segments ++ [Text.replicate (width - size) ' ']
  else segments

end LeastPrivilege.Console
