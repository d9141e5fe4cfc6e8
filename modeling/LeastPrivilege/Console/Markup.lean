import LeastPrivilege.Console.Literal
import LeastPrivilege.Console.Marked
import LeastPrivilege.Console.Style
import LeastPrivilege.Text.WordChar

/-!
Markup: text with tags in square brackets. A tag opens a style or closes one, and shows nothing
itself; a backslash in front of a tag makes it text. A closing tag must have something to close.
Names between colons stand for emoji.
-/

namespace LeastPrivilege.Console

/-- A part of a text with markup. -/
inductive Part where
  | text (t : Text)
  | tag (inner : Text)
  deriving DecidableEq, Repr

/-- The code point can begin a tag. -/
def beginsTag (c : CodePoint) : Bool :=
  c.isBetween 'a' 'z' || c == '#' || c == '/' || c == '@'

/-- What stands before the next closing bracket, with no opening one in it, and what follows. -/
def untilClose : Text → Option (Text × Text)
  | [] => none
  | c :: rest =>
    if c = ']' then some ([], rest)
    else if c = '[' then none
    else (untilClose rest).map fun (inner, after) => (c :: inner, after)

/-- The inside of a tag and what follows it, from behind its opening bracket. -/
def tagAhead? (t : Text) : Option (Text × Text) :=
  if (t.head?.map beginsTag).getD false then untilClose t else none

/-- A part for text, unless it is empty. -/
def textPart (t : Text) : List Part :=
  if t.isEmpty then [] else [.text t]

/-- A number of backslashes. -/
def slashes (n : Nat) : Text :=
  Text.replicate n '\\'

/-- The parts of a text. `before` is what was read of a part, in reverse, and `count` the number of
backslashes after it. Two backslashes before a tag are one, and an odd one makes the tag text. The
first argument bounds the number of steps. -/
def partsOnto : Nat → Text → Nat → Text → List Part
  | 0, before, count, t => textPart (before.reverse ++ slashes count ++ t)
  | _, before, count, [] => textPart (before.reverse ++ slashes count)
  | fuel + 1, before, count, c :: rest =>
    if c = '\\' then partsOnto fuel before (count + 1) rest
    else
      match if c = '[' then tagAhead? rest else none with
      | some (inner, after) =>
        textPart before.reverse ++ textPart (slashes (count / 2))
          ++ (if count % 2 = 0 then .tag inner else .text ("[" ++ inner ++ "]"))
          :: partsOnto fuel [] 0 after
      | none => partsOnto fuel (c :: slashes count ++ before) 0 rest

/-- The parts of a text. -/
def partsOf (t : Text) : List Part :=
  partsOnto t.length [] 0 t

/-- A backslash before an opening bracket is not shown. -/
def unescape : Text → Text
  | [] => []
  | .char '\\' :: .char '[' :: rest => .char '[' :: unescape rest
  | c :: rest => c :: unescape rest

/-- Control characters that are never shown. -/
def isDropped (c : CodePoint) : Bool :=
  c == '\x07' || c == '\x08' || c == '\x0b' || c == '\x0c' || c == '\r'

/-- What a part of text shows. -/
def shownText (t : Text) : Text :=
  (withEmoji (unescape t)).filter (!isDropped ·)

/-! ## Tags -/

/-- A tag that is open: its name in normal form, what stands after the equals sign, and the place
from which it holds. -/
structure OpenTag where
  name : Text
  given : Option Text
  start : Nat
  deriving DecidableEq, Repr

/-- A tag's name, and what stands after its first equals sign. -/
def splitGiven : Text → Text × Option Text
  | [] => ([], none)
  | c :: rest =>
    if c = '=' then ([], some rest)
    else
      let (name, given) := splitGiven rest
      (c :: name, given)

/-- What an action is given: what stands in parentheses after its name, nothing if it is a name
alone, and otherwise the whole. -/
def actionArguments (given : Text) : Text :=
  let given := Text.trim given
  let rest := given.dropWhile fun c => Text.isWordChar c || c == .char '.'
  if rest.isEmpty then "()"
  else if rest.head? == some (.char '(') && rest.getLast? == some (.char ')')
      && !rest.contains (.char '\n') then rest
  else given

namespace OpenTag

/-- The tag is an action. -/
def isAction (t : OpenTag) : Bool :=
  t.name.head? == some (.char '@')

/-- An action can be carried out: nothing is given to it, or literals. -/
def isGood (t : OpenTag) : Bool :=
  match t.given with
  | some (c :: rest) => !t.isAction || isLiteral (actionArguments (c :: rest))
  | _ => true

/-- The definition of a tag's style. -/
def definition (t : OpenTag) : Text :=
  match t.given with
  | some given => t.name ++ " " ++ given
  | none => t.name

/-- The stretch of a tag that ends at a place. -/
def stretch (t : OpenTag) (stop : Nat) : Stretch :=
  ⟨t.start, stop, if t.isAction then none else some t.definition⟩

end OpenTag

/-- Removes the first open tag of a name. -/
def takeTag (name : Text) : List OpenTag → Option (OpenTag × List OpenTag)
  | [] => none
  | t :: rest =>
    if t.name == name then some (t, rest)
    else (takeTag name rest).map fun (found, others) => (found, t :: others)

/-- The tag that a closing tag closes, and those that stay open. An empty name closes the last. -/
def closed? (name : Text) (active : List OpenTag) :
    Except Fault (Option (OpenTag × List OpenTag)) := do
  if name.isEmpty then
    match active with
    | t :: rest => return some (t, rest)
    | [] => return none
  else return takeTag (← normalStyle name) active

/-- What was read of a text with markup: what it shows, in reverse, with the tags that are open, the
last first, and the stretches of those that were closed, the last first. -/
structure Progress where
  back : Text := []
  length : Nat := 0
  active : List OpenTag := []
  closed : List Stretch := []

namespace Progress

/-- Shows a text. -/
def shows (p : Progress) (t : Text) : Progress :=
  { p with back := t.reverse ++ p.back, length := p.length + t.length }

/-- Goes over a tag. -/
def tag (p : Progress) (inner : Text) : Except Fault Progress := do
  let (name, given) := splitGiven inner
  match name with
  | .char '/' :: name =>
    match ← closed? (Text.trim name) p.active with
    | none => throw (.markup (.nothingToClose inner))
    | some (t, rest) =>
      if t.isGood then return { p with active := rest, closed := t.stretch p.length :: p.closed }
      else throw (.markup (.badAction (t.given.getD [])))
  | name => return { p with active := ⟨← normalStyle name, given, p.length⟩ :: p.active }

/-- Goes over parts. -/
def parts : Progress → List Part → Except Fault Progress
  | p, [] => .ok p
  | p, .text t :: rest => (p.shows (shownText t)).parts rest
  | p, .tag inner :: rest => do (← p.tag inner).parts rest

/-- The marked text at the end, where all tags that are open end. Its stretches are in the order of
where they start, and of those that start together, the ones that ended last come first. -/
def marked (p : Progress) : Marked where
  text := p.back.reverse
  stretches :=
    ((p.active.map (·.stretch p.length)).reverse ++ p.closed).mergeSort fun a b => a.start ≤ b.start

end Progress

/-- What a text with markup shows. -/
def marked (markup : Text) : Except Fault Marked :=
  if markup.contains (.char '[') then return (← Progress.parts {} (partsOf markup)).marked
  else .ok { text := (withEmoji markup).filter (!isDropped ·) }

end LeastPrivilege.Console
