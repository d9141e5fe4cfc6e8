import LeastPrivilege.Value
import LeastPrivilege.Number.Shortest
import LeastPrivilege.Yaml.Reserved

/-!
Styles of scalars. A text is plain where it can be, in single quotes where plain would be misread
or is not allowed, and in double quotes where it holds characters that need escapes or breaks that
the other styles would lose.
-/

namespace LeastPrivilege.Yaml

/-- The styles in which a scalar is written. -/
inductive Style where
  | plain
  | single
  | double
  deriving DecidableEq, Repr

/-- A line break. -/
def isBreak (c : CodePoint) : Bool :=
  c == '\n' || c == '\x85' || c == '\u2028' || c == '\u2029'

/-- What separates an indicator from the text around it. -/
def isSeparator (c : CodePoint) : Bool :=
  c == '\x00' || c == ' ' || c == '\t' || c == '\r' || isBreak c

/-- A character that only double quotes can hold. -/
def isSpecial (c : CodePoint) : Bool :=
  c != '\n' && !c.isBetween ' ' '~'

/-- Indicators that cannot begin a plain text. -/
def firstIndicators : Text :=
  "#,[]\x7b\x7d&*!|>'\"%@\x60"

/-- The text ends here, or goes on with a separator. -/
def endsWord : Text → Bool
  | [] => true
  | c :: _ => isSeparator c

/-- An indicator stands in the text after its first character: a colon before a separator, or a
hash after one. -/
def holdsIndicator : CodePoint → Text → Bool
  | _, [] => false
  | before, c :: rest =>
    (c == ':' && endsWord rest) || (c == '#' && isSeparator before) || holdsIndicator c rest

/-- The text begins with an indicator or a mark of a document's ends, or holds an indicator. -/
def hasIndicators : Text → Bool
  | [] => false
  | c :: rest =>
    (Text.ofString "---").isPrefixOf (c :: rest) || (Text.ofString "...").isPrefixOf (c :: rest)
      || firstIndicators.contains c
      || ((c == '?' || c == ':' || c == '-') && endsWord rest)
      || holdsIndicator c rest

/-- Two characters in a row satisfy the two tests. -/
def hasPair (p q : CodePoint → Bool) : Text → Bool
  | a :: b :: rest => (p a && q b) || hasPair p q (b :: rest)
  | _ => false

/-- The text holds a line break. -/
def isMultiline (cs : Text) : Bool :=
  cs.any isBreak

/-- A space or a break: what cannot stand at the ends of a plain text. -/
def isSpaceOrBreak (c : CodePoint) : Bool :=
  c == ' ' || isBreak c

/-- Single quotes keep the text as it is. -/
def allowsSingle (cs : Text) : Bool :=
  let isSpace (c : CodePoint) : Bool := c == ' '
  !hasPair isBreak isSpace cs && !hasPair isSpace isBreak cs && !cs.any isSpecial

/-- Plain style keeps the text as it is. -/
def allowsPlain (cs : Text) : Bool :=
  allowsSingle cs && !isMultiline cs && !hasIndicators cs
    && !(cs.head?.any isSpaceOrBreak) && !(cs.getLast?.any isSpaceOrBreak)

/-- The style of a text. As a key on one line it cannot run over several. -/
def styleOfText (asKey : Bool) (cs : Text) : Style :=
  if !isReserved cs && allowsPlain cs then .plain
  else if allowsSingle cs && !(asKey && isMultiline cs) then .single
  else .double

/-- The characters of a scalar and the style they are written in. -/
def styled (asKey : Bool) : Scalar → Style × Text
  | .null => (.plain, "null")
  | .bool b => (.plain, if b then "true" else "false")
  | .int n => (.plain, Text.ofInt n)
  | .float x => (.plain, doubleText x)
  | .text s => (styleOfText asKey s, s)
where
  /-- A double as YAML writes it, with a point even before an exponent. -/
  doubleText : Double → Text
    | .nan => ".nan"
    | .infinity negative => if negative then "-.inf" else ".inf"
    | x =>
      let cs := x.text
      if cs.contains (.char '.') then cs
      else cs.takeWhile (· != CodePoint.char 'e') ++
        (if cs.contains (.char 'e') then ".0" else "") ++ cs.dropWhile (· != CodePoint.char 'e')

/-- The length of a scalar's type name, which counts towards a key's length. -/
def typeNameLength : Scalar → Nat
  | .null | .bool _ => 6
  | .float _ => 7
  | .int _ | .text _ => 5

/-- A key that is written on one line before its colon: not empty, without breaks, and shorter
than 128 characters together with the name of its type. -/
def isSimpleKey (s : Scalar) : Bool :=
  let cs := (styled true s).2
  !cs.isEmpty && !isMultiline cs && typeNameLength s + cs.length < 128

end LeastPrivilege.Yaml
