/-!
Binary64 numbers. A finite one is a whole number of units of 2⁻¹⁰⁷⁴, the smallest positive
number, of which the 53 leading bits may be nonzero; so equality, order and addition are those of
whole numbers, and rounding is one function.
-/

namespace LeastPrivilege

/-- A binary64 number: a finite one has a sign and a size in units of 2⁻¹⁰⁷⁴. -/
inductive Double where
  | nan
  | infinity (negative : Bool)
  | finite (negative : Bool) (units : Nat)
  deriving DecidableEq, Repr, Inhabited

namespace Double

/-- How many units make one. -/
def unitsPerOne : Nat := Nat.pow 2 1074

/-- The first size that is too large to be finite. -/
def tooManyUnits : Nat := Nat.pow 2 (1024 + 1074)

/-- The bits in which a number is written. -/
def bitLength (n : Nat) : Nat :=
  if n = 0 then 0 else n.log2 + 1

/-- The whole number nearest to a quotient; a half goes to the even neighbour. -/
def roundHalfEven (num den : Nat) : Nat :=
  let q := num / den
  let r := num % den
  if 2 * r < den then q
  else if 2 * r = den then q + q % 2
  else q + 1

/-- The weight of the last bit of a number of this size. -/
def lastBit (units : Nat) : Nat :=
  Nat.pow 2 (bitLength units - 53)

/-- The double nearest to a quotient of whole numbers, with a sign. -/
def ofRatio (negative : Bool) (num den : Nat) : Double :=
  let exact := num * unitsPerOne
  let step := lastBit (exact / den)
  let units := roundHalfEven exact (den * step) * step
  if units < tooManyUnits then finite negative units else infinity negative

/-- The double nearest to `digits · 10 ^ exponent`. Sizes far outside the range are settled by
the count of digits alone. -/
def ofDecimal (negative : Bool) (digits : Nat) (count : Nat) (exponent : Int) : Double :=
  if digits = 0 then finite negative 0
  else if (310 : Int) < count + exponent then infinity negative
  else if count + exponent < (-330 : Int) then finite negative 0
  else if exponent < 0 then ofRatio negative digits (Nat.pow 10 exponent.natAbs)
  else ofRatio negative (digits * Nat.pow 10 exponent.natAbs) 1

/-- The double of a whole number. -/
def ofNat (n : Nat) : Double :=
  ofRatio false n 1

/-- The signed number of units, for a finite double. -/
def signed (negative : Bool) (units : Nat) : Int :=
  if negative then -units else units

/-- The sum of two doubles, rounded once. -/
def add : Double → Double → Double
  | nan, _ => nan
  | _, nan => nan
  | infinity a, infinity b => if a = b then infinity a else nan
  | infinity a, finite _ _ => infinity a
  | finite _ _, infinity b => infinity b
  | finite a x, finite b y =>
    let sum := signed a x + signed b y
    if sum = 0 then finite (a && b) 0
    else ofRatio (sum < 0) sum.natAbs unitsPerOne

/-- Strict order. It fails whenever one side is not a number. -/
def lt : Double → Double → Bool
  | nan, _ => false
  | _, nan => false
  | infinity a, infinity b => a && !b
  | infinity a, finite _ _ => a
  | finite _ _, infinity b => !b
  | finite a x, finite b y => signed a x < signed b y

/-- The number is zero, of either sign. -/
def isZero : Double → Bool
  | finite _ 0 => true
  | _ => false

/-- The two stand for the same number; zero has two signs, and what is no number equals
nothing. -/
def sameNumber : Double → Double → Bool
  | nan, _ => false
  | _, nan => false
  | infinity a, infinity b => a == b
  | finite a x, finite b y => signed a x == signed b y
  | _, _ => false

end Double

end LeastPrivilege
