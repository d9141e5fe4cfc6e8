import LeastPrivilege.Value
import LeastPrivilege.Number.Reading
import LeastPrivilege.Text.HalfPair

/-!
Reading JSON text. Beyond the standard it takes the words `NaN`, `Infinity` and `-Infinity`;
a number with a fraction or an exponent is a double, any other a whole number of any size up to
the digit limit. A repeated member keeps its first place and takes its last value, and a half
stays one. Lists and maps can be nested up to a limit. A failure names its cause and how many
characters were left.
-/

namespace LeastPrivilege.Json

/-- What was wrong where reading stopped. -/
inductive Cause where
  | byteOrderMark
  | valueExpected
  | commaExpected
  | colonExpected
  | memberExpected
  | extraData
  | unterminatedText
  | controlCharacter
  | badEscape
  | badCodeEscape
  | tooManyDigits (count : Nat)
  | tooDeep
  deriving DecidableEq, Repr

/-- A failed reading: the cause, and the number of characters left at the place it names. -/
structure Failure where
  cause : Cause
  left : Nat
  deriving DecidableEq, Repr

/-- The wording of a cause. -/
def Cause.text : Cause → Text
  | byteOrderMark => "Unexpected UTF-8 BOM (decode using utf-8-sig)"
  | valueExpected => "Expecting value"
  | commaExpected => "Expecting ',' delimiter"
  | colonExpected => "Expecting ':' delimiter"
  | memberExpected => "Expecting property name enclosed in double quotes"
  | extraData => "Extra data"
  | unterminatedText => "Unterminated string starting at"
  | controlCharacter => "Invalid control character at"
  | badEscape => "Invalid \\escape"
  | badCodeEscape => "Invalid \\uXXXX escape"
  | tooManyDigits count => "number of " ++ Text.decimal count ++ " digits"
  | tooDeep => "nested too deeply"

/-- The wording of a failure in a text, with its place by line, column and character. -/
def Failure.message (text : Text) (f : Failure) : Text :=
  let before := text.take (text.length - f.left)
  let line := before.count (.char '\n') + 1
  let column := (before.reverse.takeWhile (· != CodePoint.char '\n')).length + 1
  f.cause.text ++ ": line " ++ Text.decimal line ++ " column " ++ Text.decimal column
    ++ " (char " ++ Text.decimal before.length ++ ")"

/-- What a reader gives: a result and the rest of the text. -/
abbrev Read (α : Type) := Except Failure (α × Text)

/-- White space between tokens. -/
def isSpace (c : CodePoint) : Bool :=
  c == ' ' || c == '\t' || c == '\n' || c == '\r'

/-- The rest of the text after white space. -/
def skipSpace (cs : Text) : Text :=
  cs.dropWhile isSpace

/-- The character of a one-letter escape. -/
def escaped? : CodePoint → Option Char
  | .char '"' => some '"'
  | .char '\\' => some '\\'
  | .char '/' => some '/'
  | .char 'b' => some '\x08'
  | .char 'f' => some '\x0c'
  | .char 'n' => some '\n'
  | .char 'r' => some '\r'
  | .char 't' => some '\t'
  | _ => none

/-- The code unit of four hexadecimal digits. -/
def codeUnit? (a b c d : CodePoint) : Option Nat := do
  let a ← Text.hexValue? a
  let b ← Text.hexValue? b
  let c ← Text.hexValue? c
  let d ← Text.hexValue? d
  return ((a * 16 + b) * 16 + c) * 16 + d

/-- What a text gives for a unit, and what waits: the first half of a pair waits for the second. -/
def joinUnit (first : Option Nat) (unit : Nat) : Text × Option Nat :=
  match first with
  | some f =>
    if Text.isSecondHalf unit then ([Text.ofPair f unit], none)
    else if Text.isFirstHalf unit then ([.ofNat f], some unit)
    else ([.ofNat f, .ofNat unit], none)
  | none => if Text.isFirstHalf unit then ([], some unit) else ([.ofNat unit], none)

/-- What a waiting first half becomes when no second follows. -/
def flushUnit (first : Option Nat) : Text :=
  (first.map CodePoint.ofNat).toList

/-- The rest of a text after its opening quote. `start` is what was left at that quote, `acc` what
was read so far in reverse. -/
def readText (start : Nat) (acc : Text) (first : Option Nat) : Text → Read Text
  | [] => .error ⟨.unterminatedText, start⟩
  | .char '"' :: rest => .ok ((flushUnit first ++ acc).reverse, rest)
  | .char '\\' :: rest =>
    match rest with
    | [] => .error ⟨.unterminatedText, start⟩
    | .char 'u' :: a :: b :: c :: d :: e :: rest' =>
      match codeUnit? a b c d with
      | some unit =>
        let (out, waiting) := joinUnit first unit
        readText start (out.reverse ++ acc) waiting (e :: rest')
      | none => .error ⟨.badCodeEscape, rest.length⟩
    | .char 'u' :: short => .error ⟨.badCodeEscape, short.length + 1⟩
    | c :: rest' =>
      match escaped? c with
      | some x => readText start (x :: (flushUnit first ++ acc)) none rest'
      | none => .error ⟨.badEscape, rest.length + 1⟩
  | c :: rest =>
    if c.toNat < 32 then .error ⟨.controlCharacter, rest.length + 1⟩
    else readText start (c :: (flushUnit first ++ acc)) none rest

/-- The digits in front of the text, and the rest. -/
def splitDigits (cs : Text) : Text × Text :=
  (cs.takeWhile Text.isDigit, cs.dropWhile Text.isDigit)

/-- A fraction: a point with digits after it. -/
def splitFraction (cs : Text) : Text × Text :=
  match cs with
  | .char '.' :: rest =>
    let (digits, rest') := splitDigits rest
    if digits.isEmpty then ([], cs) else (digits, rest')
  | _ => ([], cs)

/-- An exponent with its value. -/
def splitExponent (cs : Text) : Option Int × Text :=
  match cs with
  | e :: rest =>
    if e == 'e' || e == 'E' then
      let (negative, body) := Number.splitSign rest
      let (digits, rest') := splitDigits body
      if digits.isEmpty then (none, cs)
      else
        let n : Int := Text.digitsValue digits
        (some (if negative then -n else n), rest')
    else (none, cs)
  | [] => (none, cs)

/-- A number after its sign, `start` being what was left at the sign. -/
def readNumber (start : Nat) (negative : Bool) (cs : Text) : Read Value :=
  let (run, afterRun) := splitDigits cs
  let (whole, rest) :=
    match run with
    | .char '0' :: more => (Text.ofString "0", more ++ afterRun)
    | _ => (run, afterRun)
  if whole.isEmpty then .error ⟨.valueExpected, start⟩
  else
    let (fraction, rest) := splitFraction rest
    let (power, rest) := splitExponent rest
    if fraction.isEmpty && power.isNone then
      if Number.maxDigits < whole.length then .error ⟨.tooManyDigits whole.length, start⟩
      else
        let n : Int := Text.digitsValue whole
        .ok (Value.int (if negative then -n else n), rest)
    else
      let digits := (whole ++ fraction).dropWhile (CodePoint.is (· == '0'))
      .ok (.scalar (.float (Double.ofDecimal negative (Text.digitsValue digits) digits.length
        (power.getD 0 - fraction.length))), rest)

/-- The rest of the text after a word that it begins with. -/
def afterWord? (word : Text) (cs : Text) : Option Text :=
  if word.isPrefixOf cs then some (cs.drop word.length) else none

/-- The words that stand for a value. -/
def words : List (Text × Value) :=
  [("null", .null), ("true", .bool true), ("false", .bool false), ("NaN", .scalar (.float .nan)),
    ("Infinity", .scalar (.float (.infinity false))),
    ("-Infinity", .scalar (.float (.infinity true)))]

/-- A value that is neither a text, a list nor a map. -/
def readPlain (cs : Text) : Read Value :=
  match words.findSome? fun (w, v) => (afterWord? w cs).map fun rest => (v, rest) with
  | some r => .ok r
  | none =>
    match cs with
    | .char '-' :: rest => readNumber cs.length true rest
    | _ => readNumber cs.length false cs

/-- Lists and maps are nested at most this deep. -/
def maxDepth : Nat := 985

mutual

/-- A value. The first argument bounds the number of steps, the second how much deeper lists and
maps may be nested. -/
def readValue : Nat → Nat → Text → Read Value
  | 0, _, cs => .error ⟨.valueExpected, cs.length⟩
  | fuel + 1, depth, cs =>
    match cs, depth with
    | .char '"' :: rest, _ =>
      (readText cs.length [] none rest).map fun (s, rest) => (Value.text s, rest)
    | .char '[' :: _, 0 => .error ⟨.tooDeep, cs.length⟩
    | .char '[' :: rest, depth + 1 =>
      match skipSpace rest with
      | .char ']' :: rest => .ok (.list [], rest)
      | rest => readItems fuel depth [] rest
    | .char '\x7b' :: _, 0 => .error ⟨.tooDeep, cs.length⟩
    | .char '\x7b' :: rest, depth + 1 =>
      match skipSpace rest with
      | .char '\x7d' :: rest => .ok (.map [], rest)
      | rest => readMembers fuel depth [] rest
    | _, _ => readPlain cs

/-- Items of a list up to its closing bracket; those before are in reverse. -/
def readItems : Nat → Nat → List Value → Text → Except Failure (Value × Text)
  | 0, _, _, cs => .error ⟨.valueExpected, cs.length⟩
  | fuel + 1, depth, acc, cs => do
    let (v, rest) ← readValue fuel depth cs
    match skipSpace rest with
    | .char ']' :: rest => .ok (.list (v :: acc).reverse, rest)
    | .char ',' :: rest => readItems fuel depth (v :: acc) (skipSpace rest)
    | rest => .error ⟨.commaExpected, rest.length⟩

/-- Members of a map up to its closing brace; those before are in reverse. -/
def readMembers :
    Nat → Nat → List (Scalar × Value) → Text → Except Failure (Value × Text)
  | 0, _, _, cs => .error ⟨.memberExpected, cs.length⟩
  | fuel + 1, depth, acc, cs =>
    match cs with
    | .char '"' :: rest => do
      let (key, rest) ← readText cs.length [] none rest
      match skipSpace rest with
      | .char ':' :: rest => do
        let (v, rest) ← readValue fuel depth (skipSpace rest)
        let acc := (.text key, v) :: acc
        match skipSpace rest with
        | .char '\x7d' :: rest => .ok (.map (Value.ofPairs acc.reverse), rest)
        | .char ',' :: rest => readMembers fuel depth acc (skipSpace rest)
        | rest => .error ⟨.commaExpected, rest.length⟩
      | rest => .error ⟨.colonExpected, rest.length⟩
    | _ => .error ⟨.memberExpected, cs.length⟩

end

/-- The value that a whole text holds. -/
def read (text : Text) : Except Failure Value := do
  let cs := text
  match cs with
  | .char '\ufeff' :: _ => .error ⟨.byteOrderMark, cs.length⟩
  | _ =>
    let (v, rest) ← readValue (2 * cs.length + 2) maxDepth (skipSpace cs)
    match skipSpace rest with
    | [] => .ok v
    | rest => .error ⟨.extraData, rest.length⟩

end LeastPrivilege.Json
