import LeastPrivilege.Number.Double
import LeastPrivilege.Text.Blank
import LeastPrivilege.Text.Digits

/-!
The shortest decimal that reads back as a given double, and its layout as text. On the grid of
`n` significant digits the value has two neighbours; the first `n` for which one of them rounds
back to the value gives the digits, and of two such neighbours the nearer is taken.
-/

namespace LeastPrivilege.Double

/-- Digits and the power of ten of the first one: `d₀.d₁d₂… · 10 ^ exponent`. -/
structure Decimal where
  digits : Text
  exponent : Int

/-- Four times the units at the ends of the interval that rounds to a number of this size. Below a
power of two the neighbour is half as far away. -/
def roundingEnds (units : Nat) : Nat × Nat :=
  let step := lastBit units
  let below := if units = Nat.pow 2 (bitLength units - 1) && 1 < step then step else 2 * step
  (4 * units - below, 4 * units + 2 * step)

/-- The number `c · 10 ^ p` rounds to the given size. The ends belong to the interval when the
last bit is even. -/
def readsBack (units c : Nat) (p : Int) : Bool :=
  let (lo, hi) := roundingEnds units
  let num := if p < 0 then c * unitsPerOne * 4 else c * Nat.pow 10 p.natAbs * unitsPerOne * 4
  let den := if p < 0 then Nat.pow 10 p.natAbs else 1
  let even := units / lastBit units % 2 == 0
  (lo * den < num || (even && lo * den == num)) && (num < hi * den || (even && num == hi * den))

/-- The power of ten at or below a positive size. -/
def leadingPower (units : Nat) : Int :=
  if unitsPerOne ≤ units then ((Text.decimal (units / unitsPerOne)).length : Int) - 1
  else
    match (List.range 330).find? fun k => unitsPerOne ≤ units * Nat.pow 10 k with
    | some k => -(k : Int)
    | none => -330

/-- The neighbour of a size on the grid of multiples of `10 ^ p` that reads back and is nearest,
if one does. -/
def onGrid? (units : Nat) (p : Int) : Option Nat :=
  let num := if p < 0 then units * Nat.pow 10 p.natAbs else units
  let den := if p < 0 then unitsPerOne else unitsPerOne * Nat.pow 10 p.natAbs
  let low := num / den
  let gap := num % den
  let lowFits := readsBack units low p
  let highFits := readsBack units (low + 1) p
  if lowFits && highFits then
    some (if 2 * gap < den || (2 * gap == den && low % 2 == 0) then low else low + 1)
  else if lowFits then some low
  else if highFits then some (low + 1)
  else none

/-- Tries grids of `n`, `n + 1`, … digits, as many as the first argument says. -/
def shortestFrom (units : Nat) (lead : Int) : Nat → Nat → Nat × Int
  | 0, n => ((onGrid? units (lead - n + 1)).getD 0, lead - n + 1)
  | fuel + 1, n =>
    match onGrid? units (lead - n + 1) with
    | some c => (c, lead - n + 1)
    | none => shortestFrom units lead fuel (n + 1)

/-- The shortest decimal of a positive size. Seventeen digits always suffice. -/
def shortest (units : Nat) : Decimal :=
  let (c, p) := shortestFrom units (leadingPower units) 16 1
  let digits := Text.decimal c
  let kept := Text.dropTrailing '0' digits
  ⟨kept, p + digits.length - 1⟩

/-- How a decimal is laid out: which powers of ten are written in place, and how many digits an
exponent has at least. -/
structure Layout where
  smallestInPlace : Int
  firstNotInPlace : Int
  exponentDigits : Nat

/-- Numbers from a ten-thousandth up to ten to the sixteenth are written in place, with at least
one digit after the point; others with a signed exponent of two digits or more. -/
def plainLayout : Layout := ⟨-4, 16, 2⟩

/-- The text of a decimal in a layout. -/
def Decimal.text (l : Layout) (d : Decimal) : Text :=
  let e := d.exponent
  if l.smallestInPlace ≤ e && e < l.firstNotInPlace then
    if e < 0 then "0." ++ Text.replicate (e.natAbs - 1) '0' ++ d.digits
    else
      let whole := d.digits.take (e.natAbs + 1)
      let zeros := Text.replicate (e.natAbs + 1 - whole.length) '0'
      let fraction := d.digits.drop (e.natAbs + 1)
      whole ++ zeros ++ "." ++ (if fraction.isEmpty then Text.ofString "0" else fraction)
  else
    let power := Text.decimal e.natAbs
    let mantissa :=
      match d.digits with
      | [] => []
      | [x] => [x]
      | x :: rest => x :: .char '.' :: rest
    mantissa ++ (if e < 0 then "e-" else "e+")
      ++ Text.replicate (l.exponentDigits - power.length) '0' ++ power

/-- The shortest text that reads back as the double. -/
def text : Double → Text
  | nan => "nan"
  | infinity negative => if negative then "-inf" else "inf"
  | finite negative units =>
    (if negative then "-" else "")
      ++ (if units = 0 then Text.ofString "0.0" else (shortest units).text plainLayout)

end LeastPrivilege.Double
