import LeastPrivilege.Console.Emoji
import LeastPrivilege.Fault
import LeastPrivilege.Number.Reading
import LeastPrivilege.Text.Split

/-!
Styles of text by their definitions: attributes, each on or off, a color, a color of the background,
a link. Two definitions of one style have the same normal form, so that a tag can be closed by
another spelling of what opened it.
-/

namespace LeastPrivilege.Console

/-- The attributes of a style, in the order of the normal form, with their short names. -/
def attributes : List (Text × List Text) :=
  [("bold", ["b"]), ("dim", ["d"]), ("italic", ["i"]), ("underline", ["u"]), ("blink", []),
    ("blink2", []), ("reverse", ["r"]), ("conceal", ["c"]), ("strike", ["s"]),
    ("underline2", ["uu"]), ("frame", []), ("encircle", []), ("overline", ["o"])]

/-- The attribute that a word names. -/
def attribute? (word : Text) : Option Text :=
  (attributes.find? fun a => a.1 == word || a.2.contains word).map (·.1)

/-- The names of colors. -/
def colorNames : Text := "
black red green yellow blue magenta cyan white bright_black bright_red bright_green
bright_yellow bright_blue bright_magenta bright_cyan bright_white grey0 gray0 navy_blue
dark_blue blue3 blue1 dark_green deep_sky_blue4 dodger_blue3 dodger_blue2 green4 spring_green4
turquoise4 deep_sky_blue3 dodger_blue1 green3 spring_green3 dark_cyan light_sea_green
deep_sky_blue2 deep_sky_blue1 spring_green2 cyan3 dark_turquoise turquoise2 green1 spring_green1
medium_spring_green cyan2 cyan1 dark_red deep_pink4 purple4 purple3 blue_violet orange4 grey37
gray37 medium_purple4 slate_blue3 royal_blue1 chartreuse4 dark_sea_green4 pale_turquoise4
steel_blue steel_blue3 cornflower_blue chartreuse3 cadet_blue sky_blue3 steel_blue1 pale_green3
sea_green3 aquamarine3 medium_turquoise chartreuse2 sea_green2 sea_green1 aquamarine1
dark_slate_gray2 dark_magenta dark_violet purple light_pink4 plum4 medium_purple3 slate_blue1
yellow4 wheat4 grey53 gray53 light_slate_grey light_slate_gray medium_purple light_slate_blue
dark_olive_green3 dark_sea_green light_sky_blue3 sky_blue2 dark_sea_green3 dark_slate_gray3
sky_blue1 chartreuse1 light_green pale_green1 dark_slate_gray1 red3 medium_violet_red magenta3
dark_orange3 indian_red hot_pink3 medium_orchid3 medium_orchid medium_purple2 dark_goldenrod
light_salmon3 rosy_brown grey63 gray63 medium_purple1 gold3 dark_khaki navajo_white3 grey69
gray69 light_steel_blue3 light_steel_blue yellow3 dark_sea_green2 light_cyan3 light_sky_blue1
green_yellow dark_olive_green2 dark_sea_green1 pale_turquoise1 deep_pink3 magenta2 hot_pink2
orchid medium_orchid1 orange3 light_pink3 pink3 plum3 violet light_goldenrod3 tan misty_rose3
thistle3 plum2 khaki3 light_goldenrod2 light_yellow3 grey84 gray84 light_steel_blue1 yellow2
dark_olive_green1 honeydew2 light_cyan1 red1 deep_pink2 deep_pink1 magenta1 orange_red1
indian_red1 hot_pink dark_orange salmon1 light_coral pale_violet_red1 orchid2 orchid1 orange1
sandy_brown light_salmon1 light_pink1 pink1 plum1 gold1 navajo_white1 misty_rose1 thistle1
yellow1 light_goldenrod1 khaki1 wheat1 cornsilk1 grey100 gray100 grey3 gray3 grey7 gray7 grey11
gray11 grey15 gray15 grey19 gray19 grey23 gray23 grey27 gray27 grey30 gray30 grey35 gray35
grey39 gray39 grey42 gray42 grey46 gray46 grey50 gray50 grey54 gray54 grey58 gray58 grey62
gray62 grey66 gray66 grey70 gray70 grey74 gray74 grey78 gray78 grey82 gray82 grey85 gray85
grey89 gray89 grey93 gray93
default"

/-- A style. -/
structure Style where
  /-- The attributes that are said to be on or off, the last saying first. -/
  said : List (Text × Bool) := []
  color : Option Text := none
  background : Option Text := none
  link : Option Text := none
  deriving DecidableEq, Repr

/-- The attribute in the normal form, if it is said. -/
def Style.attributeWord? (s : Style) (name : Text) : Option Text :=
  (s.said.lookup name).map fun on => if on then name else "not " ++ name

/-- The normal form of a style. -/
def Style.text (s : Style) : Text :=
  let parts := attributes.filterMap (fun a => s.attributeWord? a.1) ++ s.color.toList
    ++ (s.background.map (Text.ofString "on " ++ ·)).toList
    ++ (s.link.map (Text.ofString "link " ++ ·)).toList
  if parts.isEmpty then "none" else Text.intercalate " " parts

/-- What stands between a word's opening and a closing parenthesis that ends it. -/
def argument? (opening : Text) (cs : Text) : Option Text :=
  if opening.isPrefixOf cs && cs.getLast? == some (.char ')') then
    some ((cs.drop opening.length).dropLast)
  else none

/-- A whole number of a color. -/
def component (text : Text) : Except Fault Int :=
  (Number.readInteger text).mapError fun fault => .value (.ofInteger text fault)

/-- Three numbers up to 255 make a color. -/
def isTriple (parts : List Text) : Except Fault Bool :=
  if parts.length != 3 then .ok false
  else return (← parts.mapM component).all (· ≤ 255)

/-- A word in small letters is a color: a name, six hexadecimal digits, a number, or three
numbers. -/
def isColor (word : Text) : Except Fault Bool :=
  let cs := word
  if (Text.words colorNames).contains word then .ok true
  else if cs.length == 7 && cs.head? == some (.char '#') then
    .ok (cs.tail.all fun c => (Text.hexValue? c).isSome)
  else
    match argument? "color(" cs, argument? "rgb(" cs with
    | some digits, _ =>
      .ok (digits.all Text.isDigit && 1 ≤ digits.length && digits.length ≤ 3
        && Text.digitsValue digits ≤ 255)
    | none, some inner =>
      if !inner.isEmpty && inner.all (fun c => Text.isAnyDigit c || c == .char ',') then
        isTriple (Text.parts ',' inner)
      else .ok false
    | none, none => .ok false

/-- The style that words define after some; nothing, if they define none. -/
def styleOnto : Style → List Text → Except Fault (Option Style)
  | s, [] => .ok (some s)
  | s, original :: rest => do
    let word := Text.small original
    if word = "on" then
      match rest with
      | [] => return none
      | color :: rest =>
        let color := Text.small color
        if ← isColor color then styleOnto { s with background := some color } rest else return none
    else if word = "not" then
      match rest with
      | [] => return none
      | name :: rest =>
        match attribute? name with
        | some a => styleOnto { s with said := (a, false) :: s.said } rest
        | none => return none
    else if word = "link" then
      match rest with
      | [] => return none
      | target :: rest => styleOnto { s with link := some target } rest
    else
      match attribute? word with
      | some a => styleOnto { s with said := (a, true) :: s.said } rest
      | none => if ← isColor word then styleOnto { s with color := some word } rest else return none

/-- The normal form of a definition. What defines no style is taken in small letters. -/
def normalStyle (definition : Text) : Except Fault Text := do
  if Text.trim definition == "none" then return "none"
  match ← styleOnto {} (Text.words definition) with
  | some s => return s.text
  | none => return Text.small (Text.trim definition)

end LeastPrivilege.Console
