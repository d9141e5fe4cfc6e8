import LeastPrivilege.Console.Literal.Token

/-!
Literals: numbers, quoted texts, constants, and tuples, sets and maps of them. A whole number or a
fraction and an imaginary number together are one complex number. What a set holds, and the keys of
a map, must not be sets or maps themselves, or hold any.
-/

namespace LeastPrivilege.Console.Literal

/-- The kinds of numbers. -/
inductive Numeral where
  | whole (size : Nat)
  | fraction
  | imaginary
  deriving DecidableEq, Repr

/-- What a literal is, as far as it matters for what is around it. -/
inductive Meaning where
  /-- A number by itself, with a sign or without. -/
  | number (n : Numeral) (signed : Bool)
  /-- The maker of sets, which is no value before it is called. -/
  | setMaker
  /-- Any other value. Only a fixed one can be in a set or be a key. -/
  | value (fixed : Bool)
  deriving DecidableEq, Repr

/-- The meaning is a value. -/
def Meaning.isValue : Meaning → Bool
  | setMaker => false
  | _ => true

/-- The meaning is a value that can be in a set or be a key. -/
def Meaning.isFixed : Meaning → Bool
  | number .. => true
  | setMaker => false
  | value fixed => fixed

/-- What reading a part gives: its meaning and the tokens after it. -/
abbrev Reading := Option (Meaning × List Token)

/-- The number with a sign in front, unless it has one. -/
def Meaning.withSign : Meaning → Option Meaning
  | number n false => some (number n true)
  | _ => none

/-- The complex number of two parts. The first must be within the range of doubles. -/
def Meaning.plus : Meaning → Meaning → Option Meaning
  | number (.whole size) _, number .imaginary false =>
    if Double.ofNat size == .infinity false then none else some (value true)
  | number .fraction _, number .imaginary false => some (value true)
  | _, _ => none

/-- The tokens after quoted texts of the same kind. -/
def afterSame? (t : Token) : List Token → Option (List Token)
  | [] => some []
  | u :: rest =>
    if u == t then afterSame? t rest
    else if u == .text || u == .bytes then none
    else some (u :: rest)

/-- The tuple of some items, which are all values. -/
def tuple? (items : List Meaning) : Option Meaning :=
  if items.all Meaning.isValue then some (.value (items.all Meaning.isFixed)) else none

mutual

/-- A value or the maker of sets: one part, or the sum of two. The first argument bounds the number
of steps. -/
def read : Nat → List Token → Reading
  | 0, _ => none
  | fuel + 1, ts => do
    let (left, rest) ← readSigned fuel ts
    match rest with
    | .mark '+' :: after | .mark '-' :: after =>
      let (right, rest) ← readPart fuel after
      return (← left.plus right, rest)
    | _ => return (left, rest)

/-- A part with a sign in front, or without. -/
def readSigned : Nat → List Token → Reading
  | 0, _ => none
  | fuel + 1, ts =>
    match ts with
    | .mark '+' :: rest | .mark '-' :: rest => do
      let (m, rest) ← readPart fuel rest
      return (← m.withSign, rest)
    | _ => readPart fuel ts

/-- A part without sign. The maker of sets with empty parentheses is an empty set. -/
def readPart : Nat → List Token → Reading
  | 0, _ => none
  | fuel + 1, ts => do
    let (m, rest) ← readAtom fuel ts
    match m, rest with
    | .setMaker, .mark '(' :: .mark ')' :: rest => return (.value false, rest)
    | _, _ => return (m, rest)

/-- One token that is a value, quoted texts in a row, or something in brackets. -/
def readAtom : Nat → List Token → Reading
  | 0, _ => none
  | fuel + 1, ts =>
    match ts with
    | .whole n :: rest => some (.number (.whole n) false, rest)
    | .fraction :: rest => some (.number .fraction false, rest)
    | .imaginary :: rest => some (.number .imaginary false, rest)
    | .constant :: rest => some (.value true, rest)
    | .setMaker :: rest => some (.setMaker, rest)
    | .text :: rest => (afterSame? .text rest).map fun rest => (.value true, rest)
    | .bytes :: rest => (afterSame? .bytes rest).map fun rest => (.value true, rest)
    | .mark '(' :: .mark ')' :: rest => some (.value true, rest)
    | .mark '(' :: rest => do
      let (m, rest) ← read fuel rest
      match rest with
      | .mark ')' :: rest => return (m, rest)
      | rest =>
        let (items, rest) ← readItems fuel ')' [m] rest
        return (← tuple? items, rest)
    | .mark '\x7b' :: .mark '\x7d' :: rest => some (.value false, rest)
    | .mark '\x7b' :: rest => do
      let (m, rest) ← read fuel rest
      match rest with
      | .mark ':' :: rest => readEntries fuel m rest
      | rest =>
        let (items, rest) ← readItems fuel '\x7d' [m] rest
        if items.all Meaning.isFixed then return (.value false, rest) else none
    | _ => none

/-- The items up to a closing bracket, from behind the first of them; those before are in
reverse. -/
def readItems : Nat → Char → List Meaning → List Token → Option (List Meaning × List Token)
  | 0, _, _, _ => none
  | fuel + 1, close, acc, ts =>
    match ts with
    | .mark c :: rest =>
      if c == close then some (acc, rest)
      else if c != ',' then none
      else if rest.head? == some (.mark close) then some (acc, rest.drop 1)
      else do
        let (m, rest) ← read fuel rest
        readItems fuel close (m :: acc) rest
    | _ => none

/-- Entries of a map up to its closing brace, from behind the colon of the first of them, whose key
was read. -/
def readEntries : Nat → Meaning → List Token → Reading
  | 0, _, _ => none
  | fuel + 1, key, ts => do
    let (v, rest) ← read fuel ts
    if !key.isFixed || !v.isValue then none
    else
      match rest with
      | .mark '\x7d' :: rest | .mark ',' :: .mark '\x7d' :: rest => return (.value false, rest)
      | .mark ',' :: rest =>
        match ← read fuel rest with
        | (key, .mark ':' :: rest) => readEntries fuel key rest
        | _ => none
      | _ => none

end

/-- The parts of a tuple without brackets, from behind the first of them. -/
def readOpen : Nat → List Meaning → List Token → Option (List Meaning × List Token)
  | 0, _, _ => none
  | fuel + 1, acc, ts =>
    match ts with
    | [.mark ','] | .mark ',' :: .lineEnd :: _ => some (acc, ts.drop 1)
    | .mark ',' :: rest => do
      let (m, rest) ← read (7 * rest.length + 7) rest
      readOpen fuel (m :: acc) rest
    | _ => some (acc, ts)

/-- The tokens are one literal, or several with commas after them. -/
def isLine (ts : List Token) : Bool :=
  match read (7 * ts.length + 7) ts with
  | none => false
  | some (m, rest) =>
    match readOpen (rest.length + 1) [m] rest with
    | none => false
    | some (items, rest) => items.all Meaning.isValue && rest.all (· == .lineEnd)

end Literal

/-- The text is a literal. -/
def isLiteral (t : Text) : Bool :=
  (Literal.tokens? t).any Literal.isLine

end LeastPrivilege.Console
