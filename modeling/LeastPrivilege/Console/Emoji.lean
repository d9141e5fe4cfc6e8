import LeastPrivilege.Console.EmojiNames
import LeastPrivilege.Text.Blank
import LeastPrivilege.Text.Case

/-!
Emoji by name. A name between two colons, in any case, stands for an emoji; after a dash it can say
whether the emoji is shown as text or as a picture. An unknown name stays as it is.
-/

namespace LeastPrivilege.Console

/-- What follows a word in a list of pairs. -/
def pairedWith (word : Text) : List Text → Option Text
  | name :: value :: rest => if name == word then some value else pairedWith word rest
  | _ => none

/-- Names and emoji in turn. -/
def emojiWords : List Text :=
  Text.words emojiNames

/-- The emoji of a name. -/
def emoji? (name : Text) : Option Text :=
  pairedWith (Text.small name) emojiWords

/-- The characters that ask for an emoji as text or as a picture, by the word that asks. -/
def variants : List (Text × Text) :=
  [("-emoji", "\ufe0f"), ("-text", "\ufe0e")]

/-- A name without the word that asks for a variant, and the character of the variant. -/
def splitVariant (name : Text) : Text × Text :=
  match variants.find? fun v => v.1.isSuffixOf name with
  | some (word, c) => (name.take (name.length - word.length), c)
  | none => (name, [])

/-- What a name between colons becomes. -/
def named (name : Text) : Text :=
  let (plain, variant) := splitVariant name
  match emoji? plain with
  | some e => e ++ variant
  | none => ":" ++ name ++ ":"

/-- The name up to the next colon, with no white space in it, and what follows the colon. -/
def nameAhead? : Text → Option (Text × Text)
  | [] => none
  | c :: rest =>
    if c = ':' then some ([], rest)
    else if Text.isBlank c then none
    else (nameAhead? rest).map fun (name, after) => (c :: name, after)

/-- Puts emoji in place of their names. The first argument bounds the number of steps. -/
def replaceNames : Nat → Text → Text
  | 0, cs => cs
  | _, [] => []
  | fuel + 1, c :: rest =>
    if c = ':' then
      match nameAhead? rest with
      | some (name, after) => named name ++ replaceNames fuel after
      | none => c :: replaceNames fuel rest
    else c :: replaceNames fuel rest

/-- The text with emoji in place of their names. -/
def withEmoji (cs : Text) : Text :=
  replaceNames cs.length cs

end LeastPrivilege.Console
