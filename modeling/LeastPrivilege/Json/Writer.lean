import LeastPrivilege.Value
import LeastPrivilege.Number.Shortest

/-!
Writing JSON text: ASCII only, with other characters as escapes of their UTF-16 units. The
indented form puts every item and member on a line of its own; the flat form is one line.
-/

namespace LeastPrivilege.Json

/-- The escape of a UTF-16 unit. -/
def unitEscape (n : Nat) : Text :=
  "\\u" ++ Text.hex 4 n

/-- One code point inside a text. A half is written as the unit that it is. -/
def textChar (c : CodePoint) : Text :=
  if c == '"' || c == '\\' then ['\\', c]
  else if c == '\n' then "\\n"
  else if c == '\r' then "\\r"
  else if c == '\t' then "\\t"
  else if c == '\x08' then "\\b"
  else if c == '\x0c' then "\\f"
  else if 32 ≤ c.toNat && c.toNat < 127 then [c]
  else if c.toNat < 0x10000 then unitEscape c.toNat
  else
    let n := c.toNat - 0x10000
    unitEscape (0xd800 + n / 0x400) ++ unitEscape (0xdc00 + n % 0x400)

/-- A text with its quotes. -/
def writeText (s : Text) : Text :=
  "\"" ++ s.flatMap textChar ++ "\""

/-- A double: the three that are no finite number have words. -/
def writeDouble : Double → Text
  | .nan => "NaN"
  | .infinity negative => if negative then "-Infinity" else "Infinity"
  | x => x.text

/-- A scalar value. -/
def writeScalar : Scalar → Text
  | .null => "null"
  | .bool b => if b then "true" else "false"
  | .int n => Text.ofInt n
  | .float x => writeDouble x
  | .text s => writeText s

/-- A key, which is always a text. -/
def writeKey : Scalar → Text
  | .text s => writeText s
  | k => "\"" ++ writeScalar k ++ "\""

/-- How the parts of a document are laid out: in one line, or indented by a number of spaces for
each level. -/
inductive Layout where
  | flat
  | indented (width : Nat)

/-- What stands before an item at a depth, after the bracket or a comma. -/
def Layout.gap (l : Layout) (depth : Nat) (first : Bool) : Text :=
  match l with
  | flat => if first then "" else " "
  | indented width => "\n" ++ Text.replicate (width * depth) ' '

/-- What stands before a closing bracket. -/
def Layout.close (l : Layout) (depth : Nat) : Text :=
  match l with
  | flat => ""
  | indented width => "\n" ++ Text.replicate (width * depth) ' '

mutual

/-- A value at a depth. -/
def writeValue (l : Layout) (depth : Nat) : Value → Text
  | .scalar s => writeScalar s
  | .list [] => "[]"
  | .list (v :: rest) =>
    "[" ++ l.gap (depth + 1) true ++ writeValue l (depth + 1) v ++ writeItems l (depth + 1) rest
      ++ l.close depth ++ "]"
  | .map [] => "\x7b\x7d"
  | .map ((k, v) :: rest) =>
    "\x7b" ++ l.gap (depth + 1) true ++ writeKey k ++ ": " ++ writeValue l (depth + 1) v
      ++ writeMembers l (depth + 1) rest ++ l.close depth ++ "\x7d"

/-- Items after the first. -/
def writeItems (l : Layout) (depth : Nat) : List Value → Text
  | [] => ""
  | v :: rest => "," ++ l.gap depth false ++ writeValue l depth v ++ writeItems l depth rest

/-- Members after the first. -/
def writeMembers (l : Layout) (depth : Nat) : List (Scalar × Value) → Text
  | [] => ""
  | (k, v) :: rest =>
    "," ++ l.gap depth false ++ writeKey k ++ ": " ++ writeValue l depth v
      ++ writeMembers l depth rest

end

/-- The document in one line. -/
def write (v : Value) : Text :=
  writeValue .flat 0 v

/-- The document with each level indented. -/
def writeIndented (width : Nat) (v : Value) : Text :=
  writeValue (.indented width) 0 v

end LeastPrivilege.Json
