import LeastPrivilege.Command.Usage
import LeastPrivilege.Text.Similar

/-!
Options on the command line. A long option takes its value after an equals sign or from the next
word; one-letter options can stand together in one word, where the first that takes a value takes
the rest of the word, or the next one. Two dashes end the options.
-/

namespace LeastPrivilege

/-- A word that gives an option: a flag stands for a fixed value, any other takes one. -/
structure Spelling where
  word : Text
  key : Text
  fixed : Option Text := none
  deriving DecidableEq, Repr

/-- A value that was given for an option. -/
structure Given where
  key : Text
  value : Text
  deriving DecidableEq, Repr

/-- What a word of options gives: values, and the option that waits for one, by key and name. -/
abbrev WordReading := List Given × Option (Text × Text)

/-- The spelling of a word. -/
def spelling? (spellings : List Spelling) (word : Text) : Option Spelling :=
  spellings.find? fun s => s.word == word

/-- The spelling is that of a long option. -/
def Spelling.isLong (s : Spelling) : Bool :=
  (Text.ofString "--").isPrefixOf s.word

/-- Reads one-letter options. -/
def readLetters (spellings : List Spelling) : Text → Except UsageFault WordReading
  | [] => .ok ([], none)
  | c :: rest =>
    let word := .char '-' :: [c]
    match spelling? spellings word with
    | none => .error (.noSuchOption word [])
    | some s =>
      match s.fixed with
      | some value => do
        let (more, waiting) ← readLetters spellings rest
        return (⟨s.key, value⟩ :: more, waiting)
      | none =>
        if rest.isEmpty then .ok ([], some (s.key, word))
        else .ok ([⟨s.key, rest⟩], none)

/-- A word's part before its first equals sign, and the part after it. -/
def splitValue : Text → Text × Option Text
  | [] => ([], none)
  | c :: rest =>
    if c = '=' then ([], some rest)
    else
      let (name, value) := splitValue rest
      (c :: name, value)

/-- Reads a long option with the value attached to it. -/
def readLong (s : Spelling) (attached : Option Text) : Except UsageFault WordReading :=
  match s.fixed, attached with
  | some value, none => .ok ([⟨s.key, value⟩], none)
  | some _, some _ => .error (.valueUnwanted s.word)
  | none, some value => .ok ([⟨s.key, value⟩], none)
  | none, none => .ok ([], some (s.key, s.word))

/-- Reads a word that begins with a dash. -/
def readOptionWord (spellings : List Spelling) (word : Text) :
    Except UsageFault WordReading :=
  let (name, attached) := splitValue word
  let long := spellings.filter Spelling.isLong
  match spelling? long name with
  | some s => readLong s (attached)
  | none =>
    if (Text.ofString "--").isPrefixOf word then
      .error (.noSuchOption name (Text.similarWords (long.map (·.word)) name))
    else readLetters (spellings.filter (!·.isLong)) (word.drop 1)

/-- The word can be an option: a dash with something after it. -/
def isOptionWord : Text → Bool
  | .char '-' :: _ :: _ => true
  | _ => false

/-- Reads words: the values given for options, and the other words in order. `mixed` says that
options may follow other words. -/
def readWords (spellings : List Spelling) (mixed : Bool) :
    Option (Text × Text) → List Text → Except UsageFault (List Given × List Text)
  | none, [] => .ok ([], [])
  | some (_, name), [] => .error (.valueMissing name)
  | some (key, _), word :: rest => do
    let (given, words) ← readWords spellings mixed none rest
    return (⟨key, word⟩ :: given, words)
  | none, word :: rest =>
    if word = "--" then .ok ([], rest)
    else if isOptionWord word then do
      let (first, waiting) ← readOptionWord spellings word
      let (given, words) ← readWords spellings mixed waiting rest
      return (first ++ given, words)
    else if mixed then do
      let (given, words) ← readWords spellings mixed none rest
      return (given, word :: words)
    else .ok ([], word :: rest)

/-- The last value given for an option. -/
def valueOf (given : List Given) (key : Text) : Option Text :=
  (given.reverse.find? (·.key == key)).map (·.value)

/-- The option was given, as a flag. -/
def isGiven (given : List Given) (key : Text) : Bool :=
  given.any (·.key == key)

end LeastPrivilege
