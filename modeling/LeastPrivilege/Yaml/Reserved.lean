import LeastPrivilege.Text

/-!
Plain texts that YAML 1.1 reads as something else than text: flags, none, whole numbers,
decimals, times of day in base sixty, dates, and the marks of merging and of the default value.
-/

namespace LeastPrivilege.Yaml

/-- Words with a meaning of their own. -/
def reservedWords : List String :=
  ["", "~", "null", "Null", "NULL", "=", "<<", "!", "&", "*",
    "yes", "Yes", "YES", "no", "No", "NO", "true", "True", "TRUE", "false", "False", "FALSE",
    "on", "On", "ON", "off", "Off", "OFF", ".nan", ".NaN", ".NAN"]

/-- The text after an optional sign. -/
def afterSign : List Char → List Char
  | '-' :: rest => rest
  | '+' :: rest => rest
  | cs => cs

/-- A decimal digit or an underscore. -/
def isDigitOrLine (c : Char) : Bool :=
  c.isDigit || c == '_'

/-- A nonempty run of digits of a base, with underscores. -/
def isRunOf (p : Char → Bool) (cs : List Char) : Bool :=
  !cs.isEmpty && cs.all fun c => p c || c == '_'

/-- An octal digit. -/
def isOctal (c : Char) : Bool := '0' ≤ c && c ≤ '7'

/-- A binary digit. -/
def isBinary (c : Char) : Bool := c == '0' || c == '1'

/-- A hexadecimal digit. -/
def isHex (c : Char) : Bool :=
  c.isDigit || ('a' ≤ c && c ≤ 'f') || ('A' ≤ c && c ≤ 'F')

/-- One or two digits of a number below sixty. -/
def isSixtieth : List Char → Bool
  | [a] => a.isDigit
  | [a, b] => '0' ≤ a && a ≤ '5' && b.isDigit
  | _ => false

/-- Text cut at a character. -/
def cutAt (sep : Char) (cs : List Char) : List (List Char) :=
  cs.foldr (fun c parts =>
    if c == sep then [] :: parts
    else match parts with
      | [] => [[c]]
      | p :: rest => (c :: p) :: rest) [[]]

/-- A whole number: binary, octal, decimal, hexadecimal, or in base sixty. -/
def isWhole (cs : List Char) : Bool :=
  let body := afterSign cs
  let based :=
    match body with
    | '0' :: rest =>
      rest.isEmpty || isRunOf isOctal rest
        || (match rest with
          | 'b' :: digits => isRunOf isBinary digits
          | 'x' :: digits => isRunOf isHex digits
          | _ => false)
    | _ => false
  let startsNonzero (part : List Char) : Bool :=
    match part with
    | c :: rest => '1' ≤ c && c ≤ '9' && rest.all isDigitOrLine
    | [] => false
  let inSixty :=
    match cutAt ':' body with
    | first :: rest => startsNonzero first && rest.all isSixtieth
    | [] => false
  based || inSixty

/-- An exponent with its sign, or nothing. -/
def isExponentOrEmpty : List Char → Bool
  | [] => true
  | e :: s :: digits =>
    (e == 'e' || e == 'E') && (s == '-' || s == '+') && !digits.isEmpty && digits.all Char.isDigit
  | _ => false

/-- A run that begins with a digit and holds digits and underscores. -/
def isDigitRun : List Char → Bool
  | c :: rest => c.isDigit && rest.all isDigitOrLine
  | [] => false

/-- What follows the point of a decimal. -/
def isFractionTail (cs : List Char) : Bool :=
  isExponentOrEmpty (cs.dropWhile isDigitOrLine)

/-- A decimal: with digits before its point, with digits only after it, in base sixty, or
infinite. -/
def isDecimal (cs : List Char) : Bool :=
  let body := afterSign cs
  let beforePoint := body.takeWhile (· != '.')
  let fromPoint := body.dropWhile (· != '.')
  let pointed :=
    match fromPoint with
    | '.' :: tail => isDigitRun beforePoint && isFractionTail tail
    | _ => false
  let bare :=
    match cs with
    | '.' :: c :: rest => c.isDigit && isFractionTail (c :: rest)
    | _ => false
  let inSixty :=
    match fromPoint, cutAt ':' beforePoint with
    | '.' :: tail, first :: second :: rest =>
      isDigitRun first && (second :: rest).all isSixtieth && tail.all isDigitOrLine
    | _, _ => false
  let infinite := [".inf", ".Inf", ".INF"].any fun w => w.toList == body
  pointed || bare || inSixty || infinite

/-- The rest after exactly `n` digits. -/
def afterDigits? : Nat → List Char → Option (List Char)
  | 0, cs => some cs
  | n + 1, c :: rest => if c.isDigit then afterDigits? n rest else none
  | _ + 1, [] => none

/-- The rest after one or two digits. -/
def afterOneOrTwo? : List Char → Option (List Char)
  | a :: b :: rest =>
    if a.isDigit then (if b.isDigit then some rest else some (b :: rest)) else none
  | [a] => if a.isDigit then some [] else none
  | [] => none

/-- The rest after one character. -/
def afterChar? (c : Char) : List Char → Option (List Char)
  | d :: rest => if c == d then some rest else none
  | [] => none

/-- A space or a tab. -/
def isGap (c : Char) : Bool := c == ' ' || c == '\t'

/-- The zone that ends a time, or nothing. -/
def isZoneOrEmpty (cs : List Char) : Bool :=
  cs.isEmpty ||
    match cs.dropWhile isGap with
    | ['Z'] => true
    | s :: rest =>
      (s == '-' || s == '+') &&
        match afterOneOrTwo? rest with
        | some [] => true
        | some (':' :: minutes) => minutes.length == 2 && minutes.all Char.isDigit
        | _ => false
    | [] => false

/-- A time of day after the date, with its separator. -/
def isTimeTail (cs : List Char) : Bool :=
  let body? :=
    match cs with
    | c :: rest =>
      if c == 'T' || c == 't' then some rest
      else if isGap c then some (rest.dropWhile isGap)
      else none
    | [] => none
  let seconds? := do
    let hours ← afterOneOrTwo? (← body?)
    let minutes ← afterDigits? 2 (← afterChar? ':' hours)
    afterDigits? 2 (← afterChar? ':' minutes)
  match seconds? with
  | some ('.' :: rest) => isZoneOrEmpty (rest.dropWhile Char.isDigit)
  | some rest => isZoneOrEmpty rest
  | none => false

/-- A date, alone with two digits for month and day, or with a time of day. -/
def isTimestamp (cs : List Char) : Bool :=
  let dateOnly := do
    let month ← afterChar? '-' (← afterDigits? 4 cs)
    let day ← afterChar? '-' (← afterDigits? 2 month)
    afterDigits? 2 day
  let date := do
    let month ← afterChar? '-' (← afterDigits? 4 cs)
    let day ← afterChar? '-' (← afterOneOrTwo? month)
    afterOneOrTwo? day
  dateOnly == some [] || (match date with | some tail => isTimeTail tail | none => false)

/-- The characters are read as something else than text. -/
def readsAsOther (cs : List Char) : Bool :=
  reservedWords.any (fun w => w.toList == cs) || isWhole cs || isDecimal cs || isTimestamp cs

/-- A plain text that is read as something else than text. All such texts are characters. -/
def isReserved (t : Text) : Bool :=
  (t.mapM CodePoint.char?).any readsAsOther

end LeastPrivilege.Yaml
