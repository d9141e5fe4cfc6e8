import LeastPrivilege.Text.Digits

/-!
Texts and their UTF-8 bytes: reading a text from bytes, and writing one as a path segment with
percent signs.
-/

namespace LeastPrivilege.Text

/-! ## Reading bytes

A sequence that is not well formed reads as replacement characters: one for each longest part that
could have begun a character, and one for each byte that could not. -/

/-- A character that has begun: the bits so far, how many bytes are missing, and the range in
which the next of them must lie. -/
structure Begun where
  bits : Nat
  missing : Nat
  lo : Nat
  hi : Nat

/-- What a first byte of several begins. -/
def begun? (b : Nat) : Option Begun :=
  if 0xc2 ≤ b && b ≤ 0xdf then some ⟨b % 32, 1, 0x80, 0xbf⟩
  else if b == 0xe0 then some ⟨0, 2, 0xa0, 0xbf⟩
  else if b == 0xed then some ⟨13, 2, 0x80, 0x9f⟩
  else if 0xe1 ≤ b && b ≤ 0xef then some ⟨b % 16, 2, 0x80, 0xbf⟩
  else if b == 0xf0 then some ⟨0, 3, 0x90, 0xbf⟩
  else if b == 0xf4 then some ⟨4, 3, 0x80, 0x8f⟩
  else if 0xf1 ≤ b && b ≤ 0xf3 then some ⟨b % 8, 3, 0x80, 0xbf⟩
  else none

/-- The replacement character. -/
def replacement : Char := '\ufffd'

/-- A byte where a character may begin: what is written at once, and what has begun. -/
def opened (b : Nat) : Text × Option Begun :=
  if b < 0x80 then ([Char.ofNat b], none)
  else match begun? b with
    | some p => ([], some p)
    | none => ([replacement], none)

/-- Decodes the bytes that follow a beginning. -/
def decodeAfter : Option Begun → List Nat → Text
  | none, [] => []
  | some _, [] => [replacement]
  | none, b :: rest => (opened b).1 ++ decodeAfter (opened b).2 rest
  | some p, b :: rest =>
    if p.lo ≤ b && b ≤ p.hi then
      let bits := p.bits * 64 + b % 64
      if p.missing ≤ 1 then Char.ofNat bits :: decodeAfter none rest
      else decodeAfter (some ⟨bits, p.missing - 1, 0x80, 0xbf⟩) rest
    else replacement :: ((opened b).1 ++ decodeAfter (opened b).2 rest)

/-- The text of some bytes. -/
def decodeUtf8 (bytes : List Nat) : Text :=
  (decodeAfter none bytes)

/-! ## Percent encoding

Unreserved characters stand for themselves, every other byte of the text's UTF-8 form is a percent
sign and two capital hexadecimal digits. -/

/-- Characters that need no encoding: ASCII letters and digits, and four marks. -/
def isUnreserved (c : Char) : Bool :=
  c.isAlphanum || c == '_' || c == '.' || c == '-' || c == '~'

/-- One byte as a percent sign and two capital digits. -/
def percentByte (b : Nat) : Text :=
  .char '%' :: (hex 2 b).expand fun c => [c.toUpper]

/-- One code point of a segment. Halves, which have no bytes, stand for themselves. -/
def percentCodePoint : CodePoint → Text
  | .char c =>
    if isUnreserved c then [c] else (String.utf8EncodeChar c).flatMap fun b => percentByte b.toNat
  | .half offset => [.half offset]

/-- The text as one path segment. -/
def percentEncode (t : Text) : Text :=
  t.flatMap percentCodePoint

end LeastPrivilege.Text
