import LeastPrivilege.Value
import LeastPrivilege.Number.Shortest
import LeastPrivilege.Text.Quoted

/-!
Values as text. The literal form quotes every text; the shown form of a text is the text itself.
-/

namespace LeastPrivilege

/-- A scalar inside a literal. -/
def Scalar.literal : Scalar → Text
  | .null => "None"
  | .bool b => if b then "True" else "False"
  | .int n => Text.ofInt n
  | .float x => x.text
  | .text s => Text.quoted s

namespace Value

mutual

/-- The value with every text in it quoted. -/
def literal : Value → Text
  | scalar s => s.literal
  | list items => "[" ++ literalItems items ++ "]"
  | map entries => "\x7b" ++ literalEntries entries ++ "\x7d"

/-- Items of a list, separated by commas. -/
def literalItems : List Value → Text
  | [] => ""
  | [v] => literal v
  | v :: rest => literal v ++ ", " ++ literalItems rest

/-- Entries of a map, separated by commas. -/
def literalEntries : List (Scalar × Value) → Text
  | [] => ""
  | [(k, v)] => k.literal ++ ": " ++ literal v
  | (k, v) :: rest => k.literal ++ ": " ++ literal v ++ ", " ++ literalEntries rest

end

/-- The value as it is shown: a text as it is, anything else in its literal form. -/
def shown : Value → Text
  | scalar (.text s) => s
  | v => literal v

/-- The text that a field holds: empty when the field is none. -/
def fieldText : Value → Text
  | scalar .null => ""
  | v => shown v

end Value

end LeastPrivilege
