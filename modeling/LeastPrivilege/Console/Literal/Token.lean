import LeastPrivilege.Console.Literal.Name
import LeastPrivilege.Text.CharacterName
import LeastPrivilege.Number.Reading

/-!
Tokens of literals: numbers, quoted texts, constants and marks. White space and comments separate
tokens; the end of a line ends a literal unless a bracket is open or a backslash stands before it.
A word that belongs to no literal has no token.
-/

namespace LeastPrivilege.Console.Literal

/-- A token. -/
inductive Token where
  /-- A whole number. -/
  | whole (n : Nat)
  | fraction
  | imaginary
  | text
  | bytes
  /-- A constant that stands for itself. -/
  | constant
  /-- The name of what makes an empty set. -/
  | setMaker
  | mark (c : Char)
  | lineEnd
  deriving DecidableEq, Repr

/-- What one token gives: the token and the rest. -/
abbrev Read := Option (Token × List Char)

/-! ## Numbers -/

/-- The character can go on a name. -/
def isNameChar (c : Char) : Bool :=
  c.isAlphanum || c == '_' || 128 ≤ c.toNat

/-- A run of digits with single underscores between them, and the rest. -/
def digitRun? (isDigit : Char → Bool) : List Char → Option (List Char × List Char)
  | [] => some ([], [])
  | c :: rest =>
    if isDigit c then (digitRun? isDigit rest).map fun (run, rest) => (c :: run, rest)
    else if c == '_' then
      if (rest.head?.map isDigit).getD false then digitRun? isDigit rest else none
    else some ([], c :: rest)

/-- The token of a number, which no name may follow. -/
def ended (t : Token) (rest : List Char) : Read :=
  if (rest.head?.map isNameChar).getD false then none else some (t, rest)

/-- The value of digits in a base. -/
def valueIn (base : Nat) (digits : List Char) : Nat :=
  digits.foldl (fun n (c : Char) => base * n + (Text.hexValue? c).getD 0) 0

/-- A whole number in a base that a letter names. -/
def based? (base : Nat) (isDigit : Char → Bool) (cs : List Char) : Read := do
  let (digits, rest) ← digitRun? isDigit cs
  if digits.isEmpty then none else ended (.whole (valueIn base digits)) rest

/-- A whole number in the decimal system. It begins with a zero only if it is zero, and has no more
digits than are read. -/
def decimal? (digits rest : List Char) : Read :=
  if digits.head? == some '0' then if digits.all (· == '0') then ended (.whole 0) rest else none
  else if Number.maxDigits < digits.length then none
  else ended (.whole (valueIn 10 digits)) rest

/-- The end of a number that is no whole one: an exponent, and the letter of the imaginary unit. -/
def afterFraction? (cs : List Char) : Read := do
  let rest ← match cs with
    | c :: rest =>
      if c == 'e' || c == 'E' then do
        let digits := if rest.head? == some '+' || rest.head? == some '-' then rest.drop 1 else rest
        if (digits.head?.map Char.isDigit).getD false then
          (digitRun? Char.isDigit digits).map (·.2)
        else none
      else some cs
    | [] => some cs
  match rest with
  | c :: after => if c == 'j' || c == 'J' then ended .imaginary after else ended .fraction rest
  | [] => some (.fraction, [])

/-- What follows a point. -/
def afterPoint? (cs : List Char) : Read :=
  if (cs.head?.map Char.isDigit).getD false then do
    let (_, rest) ← digitRun? Char.isDigit cs
    afterFraction? rest
  else afterFraction? cs

/-- A number that begins with a digit. -/
def number? (cs : List Char) : Read :=
  match cs with
  | '0' :: 'x' :: rest | '0' :: 'X' :: rest => based? 16 (fun c => (Text.hexValue? c).isSome) rest
  | '0' :: 'o' :: rest | '0' :: 'O' :: rest => based? 8 (fun c => '0' ≤ c && c ≤ '7') rest
  | '0' :: 'b' :: rest | '0' :: 'B' :: rest => based? 2 (fun c => c == '0' || c == '1') rest
  | cs => do
    let (digits, rest) ← digitRun? Char.isDigit cs
    match rest with
    | '.' :: after => afterPoint? after
    | c :: _ => if "eEjJ".contains c then afterFraction? rest else decimal? digits rest
    | [] => decimal? digits rest

/-! ## Quoted texts -/

/-- How a text is quoted. -/
structure Quotation where
  quote : Char
  /-- Three quotes open and close the text. -/
  triple : Bool
  /-- Backslashes stand for themselves. -/
  raw : Bool
  bytes : Bool

/-- The first characters are hexadecimal digits, as many as asked for, of a number up to a limit. -/
def hasHex (count limit : Nat) (cs : List Char) : Bool :=
  let digits := cs.take count
  digits.length == count && digits.all (fun c => (Text.hexValue? c).isSome)
    && valueIn 16 digits ≤ limit

/-- The name in braces that the characters begin with is that of a character. -/
def hasName (cs : List Char) : Bool :=
  match cs with
  | '\x7b' :: rest =>
    let (name, after) := rest.span (· != '\x7d')
    !after.isEmpty && Text.isCharacterName name
  | _ => false

/-- The escape of a letter, with what follows it, stands for something. -/
def isEscape (q : Quotation) (letter : Char) (after : List Char) : Bool :=
  if q.raw then true
  else if letter == 'x' then hasHex 2 0xff after
  else if q.bytes then true
  else if letter == 'u' then hasHex 4 0xffff after
  else if letter == 'U' then hasHex 8 0x10ffff after
  else if letter == 'N' then hasName after
  else true

/-- The character can stand in such a text. -/
def isAllowed (q : Quotation) (c : Char) : Bool :=
  !q.bytes || c.toNat < 128

/-- The rest after a quoted text, from inside it. -/
def afterQuoted? (q : Quotation) : List Char → Option (List Char)
  | [] => none
  | '\\' :: rest =>
    match rest with
    | [] => none
    | letter :: after =>
      if isAllowed q letter && isEscape q letter after then afterQuoted? q after else none
  | c :: rest =>
    if c == q.quote then
      if !q.triple then some rest
      else
        match rest with
        | a :: b :: after =>
          if a == c && b == c then some after else afterQuoted? q (a :: b :: after)
        | _ => none
    else if (c == '\n' && !q.triple) || !isAllowed q c then none
    else afterQuoted? q rest

/-- A quoted text, from its first quote. -/
def quoted? (raw bytes : Bool) (cs : List Char) : Read :=
  let token := if bytes then Token.bytes else .text
  match cs with
  | a :: rest =>
    match rest with
    | b :: c :: after =>
      if b == a && c == a then (afterQuoted? ⟨a, true, raw, bytes⟩ after).map fun r => (token, r)
      else (afterQuoted? ⟨a, false, raw, bytes⟩ rest).map fun r => (token, r)
    | _ => (afterQuoted? ⟨a, false, raw, bytes⟩ rest).map fun r => (token, r)
  | [] => none

/-- The character is a quote. -/
def isQuote (c : Char) : Bool :=
  c == '"' || c == '\''

/-! ## Words -/

/-- A word, or a quoted text with letters in front that say of which kind it is. -/
def word? (cs : List Char) : Read :=
  let word := cs.takeWhile isNameChar
  let rest := cs.dropWhile isNameChar
  if (rest.head?.map isQuote).getD false then
    let kind := String.ofList (word.map Char.toLower)
    if kind == "u" then quoted? false false rest
    else if kind == "r" then quoted? true false rest
    else if kind == "b" then quoted? false true rest
    else if kind == "br" || kind == "rb" then quoted? true true rest
    else none
  else if ["None", "True", "False"].contains (String.ofList word) then some (.constant, rest)
  else if spellsSet word then some (.setMaker, rest)
  else none

/-! ## Lines -/

/-- White space inside a line. -/
def isGap (c : Char) : Bool :=
  c == ' ' || c == '\t' || c == '\x0c'

/-- Line feeds in place of carriage returns, of which one before a line feed counts with it. -/
def unifyLines : List Char → List Char
  | [] => []
  | '\r' :: '\n' :: rest => '\n' :: unifyLines rest
  | '\r' :: rest => '\n' :: unifyLines rest
  | c :: rest => c :: unifyLines rest

/-- Where a line of tokens begins: the columns of white space before it, and those before the first
backslash that joined it to another line. -/
structure Margin where
  column : Nat := 0
  joined : Nat := 0

/-- A token can begin at the margin. -/
def Margin.isOpen (m : Margin) : Bool :=
  (if m.joined = 0 then m.column else m.joined) == 0

/-- The margin after one more character of white space. A form feed takes it back. -/
def Margin.after (m : Margin) (c : Char) : Margin :=
  if c == '\x0c' then { m with column := 0 }
  else if c == '\t' then { m with column := (m.column / 8 + 1) * 8 }
  else { m with column := m.column + 1 }

/-- Brackets are open in one another at most this deep. -/
def maxBrackets : Nat := 200

/-- One mark. -/
def isMark (c : Char) : Bool :=
  "(),:+-\x7b\x7d".contains c

/-- The depth of brackets after a mark; none, if it is out of bounds. -/
def depthAfter? (depth : Nat) (c : Char) : Option Nat :=
  if c == '(' || c == '\x7b' then if depth < maxBrackets then some (depth + 1) else none
  else if c == ')' || c == '\x7d' then if depth = 0 then none else some (depth - 1)
  else some depth

/-- One token that is neither a mark nor an end of a line. -/
def plainToken? (cs : List Char) : Read :=
  match cs with
  | [] => none
  | '.' :: '.' :: '.' :: rest => some (.constant, rest)
  | '.' :: rest => if (rest.head?.map Char.isDigit).getD false then afterPoint? rest else none
  | c :: _ =>
    if c.isDigit then number? cs
    else if isQuote c then quoted? false false cs
    else if isNameChar c then word? cs
    else none

/-- The tokens of characters. The margin is given where a line begins, and `depth` is the number of
open brackets. The first argument bounds the number of steps. -/
def tokensFrom : Nat → Option Margin → Nat → List Char → Option (List Token)
  | 0, _, _, _ => none
  | _, margin, depth, [] => if depth = 0 && margin.all Margin.isOpen then some [] else none
  | fuel + 1, margin, depth, c :: rest =>
    if isGap c then tokensFrom fuel (margin.map (·.after c)) depth rest
    else if c == '\\' then
      match rest with
      | '\n' :: next :: after =>
        let margin := margin.map fun m => if m.joined = 0 then { m with joined := m.column } else m
        tokensFrom fuel margin depth (next :: after)
      | _ => none
    else if c == '#' then tokensFrom fuel margin depth (rest.dropWhile (· != '\n'))
    else if c == '\n' then
      if margin.isSome || depth != 0 then tokensFrom fuel (margin.map fun _ => {}) depth rest
      else (tokensFrom fuel (some {}) depth rest).map (.lineEnd :: ·)
    else if !margin.all Margin.isOpen then none
    else if isMark c then do
      let depth ← depthAfter? depth c
      return .mark c :: (← tokensFrom fuel none depth rest)
    else do
      let (t, rest) ← plainToken? (c :: rest)
      return t :: (← tokensFrom fuel none depth rest)

/-- The tokens of a text. White space in front does not count, and a text with halves or NUL has no
tokens. -/
def tokens? (t : Text) : Option (List Token) := do
  let cs ← t.mapM CodePoint.char?
  if cs.contains '\x00' then none
  else
    let cs := unifyLines (cs.dropWhile fun c => c == ' ' || c == '\t')
    tokensFrom (cs.length + 1) (some {}) 0 cs

end LeastPrivilege.Console.Literal
