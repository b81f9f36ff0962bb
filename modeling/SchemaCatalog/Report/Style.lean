import SchemaCatalog.Text.Blank
import SchemaCatalog.Text.Digit
import SchemaCatalog.Text.LetterCase

/-!
# Styles

A style is written as words: attributes such as `bold`, a colour, a colour of the background after
`on`, and a link. Different texts can write one style; `normalStyle` gives the one text for it. What
is no style is its own text in small letters.
-/

namespace SchemaCatalog.Report

/-- The attributes of a style in the order of their normal text, each with its spellings. -/
def styleAttributes : List (List String) :=
  [["bold", "b"], ["dim", "d"], ["italic", "i"], ["underline", "u"], ["blink"], ["blink2"],
    ["reverse", "r"], ["conceal", "c"], ["strike", "s"], ["underline2", "uu"], ["frame"], ["encircle"],
    ["overline", "o"]]

def colourNames : List String :=
  [
    "default",
    "black", "red", "green", "yellow", "blue", "magenta", "cyan", "white", "bright_black",
    "bright_red", "bright_green", "bright_yellow", "bright_blue", "bright_magenta", "bright_cyan",
    "bright_white", "grey0", "gray0", "navy_blue", "dark_blue", "blue3", "blue1", "dark_green",
    "deep_sky_blue4", "dodger_blue3", "dodger_blue2", "green4", "spring_green4", "turquoise4",
    "deep_sky_blue3", "dodger_blue1", "green3", "spring_green3", "dark_cyan", "light_sea_green",
    "deep_sky_blue2", "deep_sky_blue1", "spring_green2", "cyan3", "dark_turquoise", "turquoise2",
    "green1", "spring_green1", "medium_spring_green", "cyan2", "cyan1", "dark_red", "deep_pink4",
    "purple4", "purple3", "blue_violet", "orange4", "grey37", "gray37", "medium_purple4",
    "slate_blue3", "royal_blue1", "chartreuse4", "dark_sea_green4", "pale_turquoise4",
    "steel_blue", "steel_blue3", "cornflower_blue", "chartreuse3", "cadet_blue", "sky_blue3",
    "steel_blue1", "pale_green3", "sea_green3", "aquamarine3", "medium_turquoise", "chartreuse2",
    "sea_green2", "sea_green1", "aquamarine1", "dark_slate_gray2", "dark_magenta", "dark_violet",
    "purple", "light_pink4", "plum4", "medium_purple3", "slate_blue1", "yellow4", "wheat4",
    "grey53", "gray53", "light_slate_grey", "light_slate_gray", "medium_purple",
    "light_slate_blue", "dark_olive_green3", "dark_sea_green", "light_sky_blue3", "sky_blue2",
    "dark_sea_green3", "dark_slate_gray3", "sky_blue1", "chartreuse1", "light_green",
    "pale_green1", "dark_slate_gray1", "red3", "medium_violet_red", "magenta3", "dark_orange3",
    "indian_red", "hot_pink3", "medium_orchid3", "medium_orchid", "medium_purple2",
    "dark_goldenrod", "light_salmon3", "rosy_brown", "grey63", "gray63", "medium_purple1", "gold3",
    "dark_khaki", "navajo_white3", "grey69", "gray69", "light_steel_blue3", "light_steel_blue",
    "yellow3", "dark_sea_green2", "light_cyan3", "light_sky_blue1", "green_yellow",
    "dark_olive_green2", "dark_sea_green1", "pale_turquoise1", "deep_pink3", "magenta2",
    "hot_pink2", "orchid", "medium_orchid1", "orange3", "light_pink3", "pink3", "plum3", "violet",
    "light_goldenrod3", "tan", "misty_rose3", "thistle3", "plum2", "khaki3", "light_goldenrod2",
    "light_yellow3", "grey84", "gray84", "light_steel_blue1", "yellow2", "dark_olive_green1",
    "honeydew2", "light_cyan1", "red1", "deep_pink2", "deep_pink1", "magenta1", "orange_red1",
    "indian_red1", "hot_pink", "dark_orange", "salmon1", "light_coral", "pale_violet_red1",
    "orchid2", "orchid1", "orange1", "sandy_brown", "light_salmon1", "light_pink1", "pink1",
    "plum1", "gold1", "navajo_white1", "misty_rose1", "thistle1", "yellow1", "light_goldenrod1",
    "khaki1", "wheat1", "cornsilk1", "grey100", "gray100", "grey3", "gray3", "grey7", "gray7",
    "grey11", "gray11", "grey15", "gray15", "grey19", "gray19", "grey23", "gray23", "grey27",
    "gray27", "grey30", "gray30", "grey35", "gray35", "grey39", "gray39", "grey42", "gray42",
    "grey46", "gray46", "grey50", "gray50", "grey54", "gray54", "grey58", "gray58", "grey62",
    "gray62", "grey66", "gray66", "grey70", "gray70", "grey74", "gray74", "grey78", "gray78",
    "grey82", "gray82", "grey85", "gray85", "grey89", "gray89", "grey93", "gray93"]

/-- A style: the attributes that are switched on or off, by their place in `styleAttributes`, two
colours, and a link. -/
structure Style where
  attributes : List (Nat × Bool) := []
  colour : Option String := none
  background : Option String := none
  link : Option String := none
  deriving DecidableEq, Repr

/-- A number of one to three digits that is no greater than 255. -/
def isByte (digits : List Char) : Bool :=
  !digits.isEmpty && digits.length ≤ 3 && digits.all Char.isDigit
    && match Text.readInt? 10 digits with
      | some n => n ≤ 255
      | none => false

/-- The text between an opening and the closing parenthesis at the end. -/
def insideOf? (opening word : String) : Option (List Char) :=
  if word.startsWith opening && word.endsWith ")" then
    some ((word.toList.drop opening.length).dropLast)
  else none

def isColourPart (part : String) : Bool :=
  match Text.readInt? 10 part.toList with
  | some n => 0 ≤ n && n ≤ 255
  | none => false

/-- A word in small letters writes a colour: by name, by number, or by its parts. -/
def isColour (word : String) : Bool :=
  let digits := word.toList.drop 1
  colourNames.contains word
    || (word.startsWith "#" && digits.length == 6
      && digits.all fun c => c.isDigit || ('a' ≤ c && c ≤ 'f'))
    || (insideOf? "color(" word).any isByte
    || (insideOf? "rgb(" word).any fun inner =>
      let parts := (String.ofList inner).splitOn ","
      parts.length == 3 && parts.all isColourPart

def attributePlace? (word : String) : Option Nat := styleAttributes.findIdx? (·.contains word)

namespace Style

def switch (s : Style) (place : Nat) (on : Bool) : Style :=
  { s with attributes := (place, on) :: s.attributes.filter (·.1 != place) }

/-- The style that words write after those already read. -/
def readFrom (s : Style) : List String → Option Style
  | [] => some s
  | word :: words =>
    let lowered := Text.lower word
    if lowered == "on" then
      match words with
      | colour :: rest =>
        let colour := Text.lower colour
        if isColour colour then readFrom { s with background := some colour } rest else none
      | [] => none
    else if lowered == "not" then
      match words with
      | switchedOff :: rest =>
        match attributePlace? switchedOff with
        | some place => readFrom (s.switch place false) rest
        | none => none
      | [] => none
    else if lowered == "link" then
      match words with
      | target :: rest => readFrom { s with link := some target } rest
      | [] => none
    else
      match attributePlace? lowered with
      | some place => readFrom (s.switch place true) words
      | none => if isColour lowered then readFrom { s with colour := some lowered } words else none

def attributeWords (s : Style) (place : Nat) (spellings : List String) : List String :=
  match s.attributes.find? (·.1 == place) with
  | some (_, true) => spellings.take 1
  | some (_, false) => "not" :: spellings.take 1
  | none => []

def text (s : Style) : String :=
  let attributes := (styleAttributes.mapIdx s.attributeWords).flatten
  let background :=
    match s.background with
    | some colour => ["on", colour]
    | none => []
  let link :=
    match s.link with
    | some target => ["link", target]
    | none => []
  let words := attributes ++ s.colour.toList ++ background ++ link
  if words.isEmpty then "none" else " ".intercalate words

end Style

/-- The normal text of a style, or the text in small letters if it writes none. -/
def normalStyle (definition : String) : String :=
  let stripped := Text.strip definition
  if stripped.isEmpty || stripped == "none" then "none"
  else
    match Style.readFrom {} (Text.words definition) with
    | some style => style.text
    | none => Text.lower stripped

end SchemaCatalog.Report
