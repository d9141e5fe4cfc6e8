import LeastPrivilege.Text.Digits
import LeastPrivilege.Yaml.Style

/-!
The page that a document is written on, and the writing of one scalar. The page knows its column,
and whether it stands after white space and within the indentation of a line, on which breaks and
separating spaces hang. Lines are folded at spaces once they pass the width.
-/

namespace LeastPrivilege.Yaml

/-- A page: what was written, in reverse, and where it stands. -/
structure Page where
  back : Text := []
  column : Nat := 0
  afterSpace : Bool := true
  inIndent : Bool := true

/-- The column after which lines are folded. -/
def width : Nat := 80

namespace Page

/-- Writes a text that has no line break. -/
def put (p : Page) (cs : Text) : Page :=
  { p with back := cs.reverse ++ p.back, column := p.column + cs.length }

/-- Ends the line. -/
def break_ (p : Page) : Page :=
  { back := .char '\n' :: p.back, column := 0, afterSpace := true, inIndent := true }

/-- Goes to a column, on a new line unless the page stands at or before it within indentation. -/
def indentTo (p : Page) (column : Nat) : Page :=
  let p :=
    if !p.inIndent || column < p.column || (p.column == column && !p.afterSpace) then p.break_
    else p
  if p.column < column then
    { p.put (Text.replicate (column - p.column) ' ') with afterSpace := true }
  else p

/-- Writes an indicator, after a space if it needs one and none is there. `opens` says that the
page stays within the indentation. -/
def indicator (p : Page) (needsSpace opens : Bool) (cs : Text) : Page :=
  let p := if p.afterSpace || !needsSpace then p.put cs else p.put (.char ' ' :: cs)
  { p with afterSpace := false, inIndent := p.inIndent && opens }

/-- The page stands after text. -/
def afterText (p : Page) : Page :=
  { p with afterSpace := false, inIndent := false }

/-! ## Scalars -/

/-- Runs of characters that agree in being spaces and in being breaks. -/
def runs (cs : Text) : List Text :=
  cs.splitBy fun a b => (a == .char ' ') == (b == .char ' ') && isBreak a == isBreak b

/-- Writes the runs of a plain text. -/
def plainRuns (split : Bool) (indent : Nat) : Page → List Text → Page
  | p, [] => p
  | p, run :: rest =>
    let p :=
      if run == " " && width < p.column && split then (p.indentTo indent).afterText
      else p.put run
    plainRuns split indent p rest

/-- Writes a plain text. -/
def plain (p : Page) (split : Bool) (indent : Nat) (cs : Text) : Page :=
  let p := if p.afterSpace then p else p.put " "
  plainRuns split indent p.afterText (runs cs)

/-- Writes the runs of a text in single quotes. A break is written twice, a quote too. -/
def singleRuns (split : Bool) (indent : Nat) : Bool → Page → List Text → Page
  | _, p, [] => p
  | first, p, run :: rest =>
    let p :=
      if run.any isBreak then
        ((run.foldl (fun p _ => p.break_) p.break_)).indentTo indent
      else if run == " " && width < p.column && split && !first && !rest.isEmpty then
        p.indentTo indent
      else p.put (run.flatMap fun c => if c == .char '\'' then [c, c] else [c])
    singleRuns split indent false p rest

/-- Writes a text in single quotes. -/
def single (p : Page) (split : Bool) (indent : Nat) (cs : Text) : Page :=
  (singleRuns split indent true (p.indicator true false "'") (runs cs)).indicator false false "'"

/-- The letter of a short escape. -/
def escapeLetter? (c : CodePoint) : Option Char :=
  match c with
  | .char '\x00' => some '0'
  | .char '\x07' => some 'a'
  | .char '\x08' => some 'b'
  | .char '\t' => some 't'
  | .char '\n' => some 'n'
  | .char '\x0b' => some 'v'
  | .char '\x0c' => some 'f'
  | .char '\r' => some 'r'
  | .char '\x1b' => some 'e'
  | .char '"' => some '"'
  | .char '\\' => some '\\'
  | .char '\x85' => some 'N'
  | .char '\xa0' => some '_'
  | .char '\u2028' => some 'L'
  | .char '\u2029' => some 'P'
  | _ => none

/-- The escape of a character. -/
def escape (c : CodePoint) : Text :=
  match escapeLetter? c with
  | some e => ['\\', .char e]
  | none =>
    let n := c.toNat
    if n < 0x100 then "\\x" ++ capitalHex 2 n
    else if n < 0x10000 then "\\u" ++ capitalHex 4 n
    else "\\U" ++ capitalHex 8 n
where
  /-- A number in hexadecimal with capitals. -/
  capitalHex (width n : Nat) : Text :=
    (Text.hex width n).expand fun c => [c.toUpper]

/-- A character that stands for itself in double quotes. -/
def isLiteral (c : CodePoint) : Bool :=
  c != '"' && c != '\\' && c.isBetween ' ' '~'

/-- Folds the line inside double quotes: a backslash ends it, and one begins the next if that
begins with a space. -/
def foldDouble (p : Page) (indent : Nat) (nextIsSpace : Bool) : Page :=
  let p := ((p.put "\\").indentTo indent).afterText
  if nextIsSpace then p.put "\\" else p

/-- Writes the characters of a text in double quotes. Those in `pending`, in reverse, are not
written yet. -/
def doubleChars (split : Bool) (indent : Nat) :
    Bool → Page → Text → Text → Page
  | _, p, pending, [] => p.put pending.reverse
  | first, p, pending, c :: rest =>
    let inside := split && !first && !rest.isEmpty
    if isLiteral c then
      if inside && (c == ' ' || pending.isEmpty) && width < p.column + pending.length then
        doubleChars split indent false
          ((p.put pending.reverse).foldDouble indent (c == ' ')) [c] rest
      else doubleChars split indent false p (c :: pending) rest
    else
      let p := (p.put pending.reverse).put (escape c)
      let p :=
        if inside && width + 1 < p.column then p.foldDouble indent (rest.head? == some (.char ' '))
        else p
      doubleChars split indent false p [] rest

/-- Writes a text in double quotes. -/
def double (p : Page) (split : Bool) (indent : Nat) (cs : Text) : Page :=
  (doubleChars split indent true (p.indicator true false "\"") [] cs).indicator false false "\""

/-- Writes a scalar. Further lines of it begin at `indent`; a key on one line has none. -/
def scalar (p : Page) (asKey : Bool) (indent : Nat) (s : Scalar) : Page :=
  match styled asKey s with
  | (.plain, cs) => p.plain (!asKey) indent cs
  | (.single, cs) => p.single (!asKey) indent cs
  | (.double, cs) => p.double (!asKey) indent cs

end Page

end LeastPrivilege.Yaml
