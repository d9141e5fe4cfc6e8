import LeastPrivilege.Number.Double
import LeastPrivilege.Text.Blank
import LeastPrivilege.Text.Digits

/-!
Numbers from free text: a sign, digits of any script with single underscores between them, white
space around; for a decimal also a point, an exponent, and the words for infinity and no number.
-/

namespace LeastPrivilege.Number

/-- Why a text is not read as a whole number. -/
inductive IntegerFault where
  | malformed
  | tooManyDigits (count : Nat)
  deriving DecidableEq, Repr

/-- A whole number is read from at most this many digits. -/
def maxDigits : Nat := 4300

/-- White space of ASCII: what may surround a number. -/
def isAsciiBlank (c : CodePoint) : Bool :=
  c == ' ' || (9 ≤ c.toNat && c.toNat ≤ 13)

/-- One character of a number in its ASCII form: spaces and digits of other scripts have one,
other characters outside ASCII have none. -/
def asciiChar? (c : CodePoint) : Option CodePoint :=
  if c.toNat < 127 then some c
  else if Text.isBlank c then some ' '
  else (Text.foreignDigit? c).map fun d => Text.digitChar d

/-- The ASCII form of a number's text. It ends at the first character that has none, with a mark
that no number holds. -/
def asciiForm : Text → Text
  | [] => []
  | c :: rest =>
    match asciiChar? c with
    | some a => a :: asciiForm rest
    | none => ['?']

/-- The digits of a run in which each underscore stands between two digits. The flag says that the
run so far ends in a digit. -/
def grouped? : Bool → Text → Option Text
  | afterDigit, [] => if afterDigit then some [] else none
  | afterDigit, .char '_' :: rest => if afterDigit then grouped? false rest else none
  | _, c :: rest => if Text.isDigit c then (grouped? true rest).map (c :: ·) else none

/-- A sign, if one stands in front. -/
def splitSign : Text → Bool × Text
  | .char '-' :: rest => (true, rest)
  | .char '+' :: rest => (false, rest)
  | cs => (false, cs)

/-- The character can be part of a run of digits. -/
def isRunChar (c : CodePoint) : Bool :=
  Text.isDigit c || c == '_'

/-- The whole number that a text spells. The digit limit holds for the run of digits in front,
whatever follows it. -/
def readInteger (s : Text) : Except IntegerFault Int :=
  let (negative, body) := splitSign ((asciiForm s).dropWhile isAsciiBlank)
  match grouped? false (body.takeWhile isRunChar) with
  | none => .error .malformed
  | some digits =>
    if maxDigits < digits.length then .error (.tooManyDigits digits.length)
    else if !(body.dropWhile isRunChar).all isAsciiBlank then .error .malformed
    else
      let n : Int := Text.digitsValue digits
      .ok (if negative then -n else n)

/-- The text with its underscores taken out, each of which must stand between two digits. -/
def ungrouped? : Bool → Text → Option Text
  | _, [] => some []
  | afterDigit, .char '_' :: rest =>
    match rest with
    | c :: _ => if afterDigit && Text.isDigit c then ungrouped? false rest else none
    | [] => none
  | _, c :: rest => (ungrouped? (Text.isDigit c) rest).map (c :: ·)

/-- The exponent that ends a decimal, zero when there is none. -/
def exponent? : Text → Option Int
  | [] => some 0
  | e :: rest =>
    if e == 'e' || e == 'E' then
      let (negative, digits) := splitSign rest
      if digits.isEmpty || !digits.all Text.isDigit then none
      else
        let n : Int := Text.digitsValue digits
        some (if negative then -n else n)
    else none

/-- A decimal without sign: digits, a point, digits, an exponent; at least one digit. -/
def decimal? (negative : Bool) (cs : Text) : Option Double :=
  let whole := cs.takeWhile Text.isDigit
  let afterWhole := cs.dropWhile Text.isDigit
  let (fraction, afterFraction) :=
    match afterWhole with
    | .char '.' :: rest => (rest.takeWhile Text.isDigit, rest.dropWhile Text.isDigit)
    | _ => ([], afterWhole)
  let digits := (whole ++ fraction).dropWhile (CodePoint.is (· == '0'))
  if whole.isEmpty && fraction.isEmpty then none
  else (exponent? afterFraction).map fun e =>
    Double.ofDecimal negative (Text.digitsValue digits) digits.length (e - fraction.length)

/-- The double that a text spells. -/
def readDouble? (s : Text) : Option Double := do
  let (negative, body) :=
    splitSign (← ungrouped? false (Text.trimBy isAsciiBlank (asciiForm s)))
  let word := body.expand fun c => [c.toLower]
  if word == "inf" || word == "infinity" then return .infinity negative
  else if word == "nan" then return .nan
  else decimal? negative body

end LeastPrivilege.Number
