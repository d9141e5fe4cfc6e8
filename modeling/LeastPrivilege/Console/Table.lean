import LeastPrivilege.Console.Markup
import LeastPrivilege.Number.Double
import LeastPrivilege.Text.Split

/-!
Tables: columns with titles over rows of cells, in a frame, under a title. A column is as wide as
its widest cell, unless it has a width of its own. Where the columns do not fit the terminal, the
widest ones without a width of their own give way first, and their cells are broken into lines.
-/

namespace LeastPrivilege.Console

/-- A column: its title, and the width of its contents if that is set. -/
structure Column where
  title : Text
  width : Option Nat := none
  deriving DecidableEq, Repr

/-- A table. The cells of a row can hold markup, and there is one for each column. -/
structure Table where
  title : Text
  columns : List Column
  rows : List (List Text)
  deriving DecidableEq, Repr

/-- The space at both sides of a cell. -/
def padding : Nat := 2

/-! ## Widths -/

/-- The cells of the longest line of a text. -/
def longestLine (t : Text) : Nat :=
  (Text.lines t).foldl (fun n line => max n (cells line)) 0

/-- The width that a cell asks for, with the space at its sides, where there is some room. -/
def cellWish (room : Nat) (m : Marked) : Nat :=
  if room ≤ padding then room else min (min (longestLine m.text) room + padding) room

/-- The width that a column asks for, where there is some room. -/
def columnWish (room : Nat) (c : Column) (contents : List Marked) : Nat :=
  match c.width with
  | some width => min (width + padding) room
  | none => contents.foldl (fun n m => max n (cellWish room m)) 0

/-- The sum of some widths or weights. -/
def sumOf (numbers : List Nat) : Nat :=
  numbers.foldl (· + ·) 0

/-- A column that can give way: its width, its share of what is given, and the most that it
gives. -/
structure Share where
  width : Nat
  weight : Nat
  limit : Nat

/-- The widths after some excess was taken from columns by their shares, which have a sum. -/
def takeShares : Nat → Nat → List Share → List Nat
  | _, _, [] => []
  | excess, weights, s :: rest =>
    if s.weight = 0 then s.width :: takeShares excess weights rest
    else
      let given := min s.limit (Double.roundHalfEven (s.weight * excess) weights)
      (s.width - given) :: takeShares (excess - given) (weights - s.weight) rest

/-- The widths after some excess was taken from columns that have something to give. -/
def reduce (excess : Nat) (shares : List Share) : List Nat :=
  let shares := shares.map fun s => if s.limit = 0 then { s with weight := 0 } else s
  takeShares excess (sumOf (shares.map (·.weight))) shares

/-- The greatest of some widths, zero if there are none. -/
def greatest (widths : List Nat) : Nat :=
  widths.foldl max 0

/-- Takes from the widest columns that can give way, until all fit or none is left. The first
argument bounds the number of steps. -/
def collapse (room : Nat) (free : List Bool) : Nat → List Nat → List Nat
  | 0, widths => widths
  | fuel + 1, widths =>
    let excess := sumOf widths - room
    let givers := ((widths.zip free).filter (·.2)).map (·.1)
    let widest := greatest givers
    let difference := widest - greatest (givers.filter (· != widest))
    if excess = 0 || difference = 0 then widths
    else
      collapse room free fuel (reduce excess ((widths.zip free).map fun (width, isFree) =>
        ⟨width, if isFree && width == widest then 1 else 0, min excess difference⟩))

/-- The widths of columns that have some room together. -/
def fitColumns (room : Nat) (columns : List (Column × List Marked)) : List Nat :=
  let widths := columns.map fun (c, contents) => max 1 (columnWish room c contents)
  if sumOf widths ≤ room then widths
  else
    let free := columns.map fun (c, _) => c.width.isNone
    let widths := collapse room free (columns.length + 1) widths
    let widths := reduce (sumOf widths - room) (widths.map fun w => ⟨w, 1, w⟩)
    (widths.zip columns).map fun (width, c, contents) => columnWish width c contents

/-! ## Lines -/

/-- The lines of what a cell of some width holds. -/
def wrapCell (width : Nat) (m : Marked) : List Marked :=
  if width ≤ padding then [] else m.wrap .ellipsis (width - padding)

/-- The lines of a cell, as segments that fill its width. -/
def cellLines (width : Nat) (m : Marked) : List (List Text) :=
  (wrapCell width m).map fun line =>
    let inner := width - padding
    let segments := fitSegments inner true (line.filled inner).segments
    fitSegments width true (Text.ofString " " :: segments ++ [Text.ofString " "])

/-- A line of a row: what each cell has at this height, or blanks, between bars. -/
def rowLine (bar : Text) (widths : List Nat) (row : List (List (List Text))) (height : Nat) :
    List Text :=
  let parts := (widths.zip row).map fun (width, lines) =>
    fitSegments width true ((lines[height]?).getD [])
  [bar] ++ (parts.map (· ++ [bar])).flatten

/-- The lines of a row. -/
def rowLines (bar : Text) (widths : List Nat) (row : List Marked) : List (List Text) :=
  let parts := (widths.zip row).map fun (width, m) => cellLines width m
  let height := max 1 (greatest (parts.map (·.length)))
  (List.range height).map (rowLine bar widths parts)

/-- A line of the frame. -/
def frameLine (left line cross right : Text) (widths : List Nat) : List Text :=
  let bars := widths.map fun n => (List.replicate n line).flatten
  [left ++ Text.intercalate cross bars ++ right]

/-- A line in the middle of some width. -/
def centered (width : Nat) (m : Marked) : List Text :=
  let t := Text.trimEnd m.text
  let space := width - cells t
  [Text.replicate (space / 2) ' ' ++ t ++ Text.replicate (space - space / 2) ' ']

/-- The faults of the styles of lines, which are met when they are shown. -/
def checkStyles (lines : List Marked) : Except Fault Unit :=
  lines.forM fun m => m.stretches.forM fun s =>
    match s.style with
    | some definition => (normalStyle definition).map fun _ => ()
    | none => .ok ()

namespace Table

/-- The contents of the cells. All those of a column are read before any of the next, and none where
there is no room for any contents. -/
def read (t : Table) (room : Nat) : Except Fault (List (List Marked)) := do
  if room ≤ padding then return t.rows.map (·.map fun _ => { text := [] })
  (List.range t.columns.length).forM fun i =>
    t.rows.forM fun row => (marked (row[i]?.getD [])).map fun _ => ()
  t.rows.mapM (·.mapM marked)

/-- The lines that show a table on a terminal of some width. -/
def lines (t : Table) (width : Nat) : Except Fault (List Text) := do
  let header := t.columns.map fun c => { text := c.title : Marked }
  let borders := t.columns.length + 1
  let rows ← t.read (width - borders)
  let columns := t.columns.zipIdx.map fun (c, i) => (c, (header :: rows).filterMap (·[i]?))
  let widths := fitColumns (width - borders) columns
  rows.forM fun row => (widths.zip row).forM fun (width, m) => checkStyles (wrapCell width m)
  let total := sumOf widths + borders
  let title := ({ text := t.title : Marked }.wrap .fold total).map (centered total)
  let frame := title ++ [frameLine "┏" "━" "┳" "┓" widths] ++ rowLines "┃" widths header
    ++ [frameLine "┡" "━" "╇" "┩" widths] ++ (rows.map (rowLines "│" widths)).flatten
    ++ [frameLine "└" "─" "┴" "┘" widths]
  return frame.map fun segments => (fitSegments width false segments).flatten

end Table

end LeastPrivilege.Console
