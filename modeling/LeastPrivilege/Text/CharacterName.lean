import LeastPrivilege.Text.CharacterNames.AToB
import LeastPrivilege.Text.CharacterNames.C
import LeastPrivilege.Text.CharacterNames.DToK
import LeastPrivilege.Text.CharacterNames.LToM
import LeastPrivilege.Text.CharacterNames.NToS
import LeastPrivilege.Text.CharacterNames.TToZ
import LeastPrivilege.Text.Digits

/-!
Names of characters. Most are listed, in a short form: a small letter says how many pieces a name
shares with the one before it, none for `a`, and the rest of the name follows; a piece ends with a
space or a hyphen. The case of letters does not matter for these. The names of Hangul syllables and
of unified ideographs are made by rule, and their letters are capital ones.
-/

namespace LeastPrivilege.Text

/-! ## Listed names -/

/-- The first pieces of a name. -/
def firstPieces : Nat → List Char → List Char
  | 0, _ => []
  | _ + 1, [] => []
  | n + 1, c :: rest => c :: firstPieces (if c == ' ' || c == '-' then n else n + 1) rest

/-- A short form holds a name, where `back` is what was read of the name at hand, in reverse. -/
def shortFormHolds (name : List Char) (back : List Char) : List Char → Bool
  | [] => back.reverse == name
  | c :: rest =>
    if c.isLower then
      back.reverse == name
        || shortFormHolds name (firstPieces (c.toNat - 97) back.reverse).reverse rest
    else shortFormHolds name (if c == '\n' then back else c :: back) rest

/-- The listed names in short form. -/
def nameLists : List String :=
  [namesAToB, namesC, namesDToK, namesLToM, namesNToS, namesTToZ]

/-- The name is listed. -/
def isListedName (name : List Char) : Bool :=
  !name.isEmpty && nameLists.any fun list => shortFormHolds name [] list.toList

/-! ## Names by rule -/

/-- The names of first sounds of a syllable. -/
def firstSounds : List String :=
  ["G", "GG", "N", "D", "DD", "R", "M", "B", "BB", "S", "SS", "", "J", "JJ", "C", "K", "T", "P",
    "H"]

/-- The names of middle sounds of a syllable. -/
def middleSounds : List String :=
  ["A", "AE", "YA", "YAE", "EO", "E", "YEO", "YE", "O", "WA", "WAE", "OE", "YO", "U", "WEO", "WE",
    "WI", "YU", "EU", "YI", "I"]

/-- The names of last sounds of a syllable. -/
def lastSounds : List String :=
  ["", "G", "GG", "GS", "N", "NJ", "NH", "D", "L", "LG", "LM", "LB", "LS", "LT", "LP", "LH", "M",
    "B", "BS", "S", "SS", "NG", "J", "C", "K", "T", "P", "H"]

/-- What follows the longest of some words that a name begins with. -/
def afterLongest (words : List String) (name : List Char) : Option (List Char) :=
  let lengths := (words.filter fun w => w.toList.isPrefixOf name).map (·.length)
  lengths.max?.map name.drop

/-- The name of a syllable: three sounds, each of which takes as much as it can. -/
def isSyllableName (name : List Char) : Bool :=
  (do afterLongest lastSounds (← afterLongest middleSounds (← afterLongest firstSounds name)))
    == some []

/-- The numbers of unified ideographs. -/
def ideographs : List (Nat × Nat) :=
  [(0x3400, 0x4dbf), (0x4e00, 0x9fff), (0x20000, 0x2a6df), (0x2a700, 0x2b738), (0x2b740, 0x2b81d),
    (0x2b820, 0x2cea1), (0x2ceb0, 0x2ebe0), (0x30000, 0x3134a)]

/-- Four or five hexadecimal digits with capital letters are the number of an ideograph. -/
def isIdeographNumber (digits : List Char) : Bool :=
  let number := digits.foldl (fun n (d : Char) => 16 * n + (hexValue? d).getD 0) 0
  (digits.length == 4 || digits.length == 5)
    && digits.all (fun d => (hexValue? d).isSome && !d.isLower)
    && ideographs.any fun r => r.1 ≤ number && number ≤ r.2

/-- What follows a word at the start of a name. -/
def afterWord (word : String) (name : List Char) : Option (List Char) :=
  if word.toList.isPrefixOf name then some (name.drop word.length) else none

/-- The name is that of a character. -/
def isCharacterName (name : List Char) : Bool :=
  match afterWord "HANGUL SYLLABLE " name, afterWord "CJK UNIFIED IDEOGRAPH-" name with
  | some sounds, _ => isSyllableName sounds
  | none, some digits => isIdeographNumber digits
  | none, none => isListedName (name.map Char.toUpper)

end LeastPrivilege.Text
