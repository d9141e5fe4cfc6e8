import LeastPrivilege.Text

/-!
Digits: numbers as decimal and hexadecimal text, and the value of a run of decimal digits. There are
decimal digits of many scripts; each system is ten characters in a row.
-/

namespace LeastPrivilege.Text

/-- The character of a digit below sixteen. -/
def digitChar (d : Nat) : Char :=
  if d < 10 then Char.ofNat (48 + d) else Char.ofNat (87 + d)

/-- The digits of `n` in front of `acc`. The first argument bounds their number. -/
def digitsOnto (base : Nat) : Nat → Nat → Text → Text
  | 0, _, acc => acc
  | fuel + 1, n, acc =>
    if n < base then digitChar n :: acc
    else digitsOnto base fuel (n / base) (digitChar (n % base) :: acc)

/-- The number as decimal text, without leading zeros. -/
def decimal (n : Nat) : Text :=
  digitsOnto 10 (n + 1) n []

/-- The whole number as decimal text, with a minus sign below zero. -/
def ofInt (n : Int) : Text :=
  if n < 0 then .char '-' :: decimal n.natAbs else decimal n.natAbs

/-- The number in hexadecimal, filled up with zeros to a width. -/
def hex (width n : Nat) : Text :=
  let digits := digitsOnto 16 (n + 1) n []
  Text.replicate (width - digits.length) '0' ++ digits

/-- The code point is an ASCII digit. -/
def isDigit (c : CodePoint) : Bool :=
  c.is Char.isDigit

/-- The zeros of the decimal systems above ASCII. -/
def decimalZeros : List Nat := [
  1632, 1776, 1984, 2406, 2534, 2662, 2790, 2918,
  3046, 3174, 3302, 3430, 3558, 3664, 3792, 3872,
  4160, 4240, 6112, 6160, 6470, 6608, 6784, 6800,
  6992, 7088, 7232, 7248, 42528, 43216, 43264, 43472,
  43504, 43600, 44016, 65296, 66720, 68912, 69734, 69872,
  69942, 70096, 70384, 70736, 70864, 71248, 71360, 71472,
  71904, 72016, 72784, 73040, 73120, 92768, 92864, 93008,
  120782, 120792, 120802, 120812, 120822, 123200, 123632, 125264,
  130032]

/-- The value of a decimal digit of any system above ASCII. -/
def foreignDigit? (c : CodePoint) : Option Nat :=
  (decimalZeros.find? fun z => z ≤ c.toNat && c.toNat ≤ z + 9).map (c.toNat - ·)

/-- The code point is a decimal digit of any script. -/
def isAnyDigit (c : CodePoint) : Bool :=
  isDigit c || (foreignDigit? c).isSome

/-- The value of an ASCII digit. -/
def digitValue (c : CodePoint) : Nat :=
  c.toNat - 48

/-- The value of a run of digits, read from the left. -/
def digitsValue (digits : Text) : Nat :=
  digits.foldl (fun n c => 10 * n + digitValue c) 0

/-- The value of a hexadecimal digit. -/
def hexValue? (c : CodePoint) : Option Nat :=
  let n := c.toNat
  if 48 ≤ n && n ≤ 57 then some (n - 48)
  else if 97 ≤ n && n ≤ 102 then some (n - 87)
  else if 65 ≤ n && n ≤ 70 then some (n - 55)
  else none

end LeastPrivilege.Text
