import LeastPrivilege.Manifest.Node
import LeastPrivilege.Yaml.Page

/-!
Manifests as YAML documents in block style: entries in their order, two spaces for each level, the
items of a list in a map at the level of its key, and empty lists and maps in brackets. A marked
part that is met twice is written once, under an anchor, and named after that.
-/

namespace LeastPrivilege.Yaml

/-! ## Anchors -/

/-- Marks that were met, and those met again in the order in which that happened. -/
structure Meetings where
  met : List Mark := []
  repeated : List Mark := []

/-- Meets a mark. -/
def Meetings.meet (m : Meetings) (mark : Mark) : Meetings :=
  if mark ∈ m.repeated then m
  else if mark ∈ m.met then { m with repeated := m.repeated ++ [mark] }
  else { m with met := mark :: m.met }

/-- The part under the mark was met before. -/
def Meetings.knows (m : Meetings) : Option Mark → Bool
  | some mark => mark ∈ m.met
  | none => false

/-- Meets the mark of a part, if it has one. -/
def Meetings.meet? (m : Meetings) : Option Mark → Meetings
  | some mark => m.meet mark
  | none => m

mutual

/-- Goes through a node; a part that was met before is not entered again. -/
def meetings (m : Meetings) : Node → Meetings
  | .scalar _ => m
  | .list mark items => if m.knows mark then m.meet? mark else meetingsOfItems (m.meet? mark) items
  | .map mark entries =>
    if m.knows mark then m.meet? mark else meetingsOfEntries (m.meet? mark) entries

/-- Goes through items. -/
def meetingsOfItems (m : Meetings) : List Node → Meetings
  | [] => m
  | n :: rest => meetingsOfItems (meetings m n) rest

/-- Goes through entries. -/
def meetingsOfEntries (m : Meetings) : List (Scalar × Node) → Meetings
  | [] => m
  | (_, n) :: rest => meetingsOfEntries (meetings m n) rest

end

/-- The anchor of a repeated mark: its number among them, from one. -/
def anchor? (repeated : List Mark) : Option Mark → Option Text
  | none => none
  | some mark =>
    (repeated.findIdx? (· = mark)).map fun i =>
      let digits := Text.decimal (i + 1)
      "id" ++ Text.replicate (3 - digits.length) '0' ++ digits

/-! ## Blocks -/

/-- What has been written: the page, and the marks whose parts are on it. -/
structure State where
  page : Page := {}
  written : List Mark := []

/-- Writes on the page. -/
def State.on (s : State) (f : Page → Page) : State :=
  { s with page := f s.page }

/-- Writes an anchor before the part that it names. -/
def State.anchored (s : State) (mark : Option Mark) (name : Option Text) : State :=
  match mark, name with
  | some m, some cs =>
    { page := s.page.indicator true false (.char '&' :: cs), written := m :: s.written }
  | _, _ => s

/-- The part was written already, so that its name stands for it. -/
def State.has (s : State) : Option Mark → Bool
  | some m => m ∈ s.written
  | none => false

/-- The column of a level below another; the document itself stands at the first column. -/
def deeper : Option Nat → Nat
  | none => 0
  | some n => n + 2

/-- Writes an empty list or map. -/
def Page.empty (p : Page) (opening closing : Text) : Page :=
  ({ p.indicator true false opening with afterSpace := true }).indicator false false closing

/-- Writes a key up to its colon. -/
def Page.key (p : Page) (indent : Nat) (k : Scalar) : Page :=
  let p := p.indentTo indent
  if isSimpleKey k then (p.scalar true (indent + 2) k).indicator false false ":"
  else
    let p := (p.indicator true true "?").scalar false (indent + 2) k
    (p.indentTo indent).indicator true true ":"

mutual

/-- Writes a node below a level. `inMap` says that it is the value of an entry. -/
def writeNode (repeated : List Mark) (indent : Option Nat) (inMap : Bool) (s : State) :
    Node → State
  | .scalar v => s.on (·.scalar false (indent.getD 0 + 2) v)
  | .list mark items =>
    let name := anchor? repeated mark
    if s.has mark then s.on (·.indicator true false (.char '*' :: name.getD []))
    else
      let s := s.anchored mark name
      if items.isEmpty then s.on (·.empty "[" "]")
      else
        let flush := inMap && !s.page.inIndent
        writeItems repeated (if flush then indent.getD 0 else deeper indent) s items
  | .map mark entries =>
    let name := anchor? repeated mark
    if s.has mark then s.on (·.indicator true false (.char '*' :: name.getD []))
    else
      let s := s.anchored mark name
      if entries.isEmpty then s.on (·.empty "\x7b" "\x7d")
      else writeEntries repeated (deeper indent) s entries

/-- Writes items at a column. -/
def writeItems (repeated : List Mark) (column : Nat) (s : State) : List Node → State
  | [] => s
  | n :: rest =>
    let s := s.on fun p => (p.indentTo column).indicator true true "-"
    writeItems repeated column (writeNode repeated (some column) false s n) rest

/-- Writes entries at a column. -/
def writeEntries (repeated : List Mark) (column : Nat) (s : State) :
    List (Scalar × Node) → State
  | [] => s
  | (k, n) :: rest =>
    let s := s.on (·.key column k)
    writeEntries repeated column (writeNode repeated (some column) true s n) rest

end

/-- The text of a document. -/
def write (document : Node) : Text :=
  let repeated := (meetings {} document).repeated
  ((writeNode repeated none false {} document).page.indentTo 0).back.reverse

end LeastPrivilege.Yaml
