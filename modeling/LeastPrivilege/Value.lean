import LeastPrivilege.Number.Double
import LeastPrivilege.Text

/-!
Values of any shape, as a document read from elsewhere holds them. Keys are scalars; a map keeps
its entries in the order in which their keys first came.
-/

namespace LeastPrivilege

/-- A value without parts. -/
inductive Scalar where
  | null
  | bool (b : Bool)
  | int (n : Int)
  | float (x : Double)
  | text (s : Text)
  deriving DecidableEq, Repr, Inhabited

/-- A value: a scalar, a list, or a map from scalars. -/
inductive Value where
  | scalar (s : Scalar)
  | list (items : List Value)
  | map (entries : List (Scalar × Value))
  deriving Repr, Inhabited

/-- Labels and selectors: names with values, in order. -/
abbrev Labels := List (Scalar × Value)

namespace Scalar

/-- Whole numbers and flags, exactly. -/
def asInt? : Scalar → Option Int
  | bool b => some b.toNat
  | int n => some n
  | _ => none

/-- A whole number and a double stand for the same number. -/
def intIsDouble (n : Int) (x : Double) : Bool :=
  match x with
  | .finite negative units => Double.signed negative units == n * Double.unitsPerOne
  | _ => false

/-- Two keys name the same entry: equal texts, or equal numbers in whatever form. What is no number
names one entry too. -/
def sameKey (a b : Scalar) : Bool :=
  match a.asInt?, b.asInt? with
  | some m, some n => m == n
  | some m, none => match b with
    | float y => intIsDouble m y
    | _ => false
  | none, some n => match a with
    | float x => intIsDouble n x
    | _ => false
  | none, none => match a, b with
    | float x, float y => x.sameNumber y || (x == .nan && y == .nan)
    | _, _ => a == b

end Scalar

namespace Value

/-- The text value. -/
abbrev text (s : Text) : Value := scalar (.text s)

/-- The whole-number value. -/
abbrev int (n : Int) : Value := scalar (.int n)

/-- The flag value. -/
abbrev bool (b : Bool) : Value := scalar (.bool b)

/-- The value that stands for none. -/
abbrev null : Value := scalar .null

/-- The value stands for none. -/
def isNull : Value → Bool
  | scalar .null => true
  | _ => false

/-- Sets the value of a key: in place when the key is there, at the end when it is new. -/
def setKey {α : Type} (key : Scalar) (v : α) : List (Scalar × α) → List (Scalar × α)
  | [] => [(key, v)]
  | (k, w) :: rest => if k.sameKey key then (k, v) :: rest else (k, w) :: setKey key v rest

/-- The entries of a map from pairs in order: a repeated key keeps its first place and takes its
last value. -/
def ofPairs {α : Type} (pairs : List (Scalar × α)) : List (Scalar × α) :=
  pairs.foldl (fun m p => setKey p.1 p.2 m) []

/-- The value under a key of a list of entries. -/
def getKey? {α : Type} (key : Scalar) (entries : List (Scalar × α)) : Option α :=
  (entries.find? fun e => e.1.sameKey key).map (·.2)

/-- The value is one that counts as true: not none, false, zero, or empty. -/
def isTruthy : Value → Bool
  | scalar .null => false
  | scalar (.bool b) => b
  | scalar (.int n) => n != 0
  | scalar (.float x) => !x.isZero
  | scalar (.text s) => !s.isEmpty
  | list items => !items.isEmpty
  | map entries => !entries.isEmpty

end Value

end LeastPrivilege
