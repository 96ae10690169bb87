import Workbench.Text.Blank
import Workbench.Text.Lines

/-!
# Names of styles

A style is named by words: attributes such as `bold`, perhaps with `not` before them, a colour, a
colour behind `on`, an address behind `link`. Names that mean the same style have the same
canonical name; what is not the name of a style stands for itself.
-/
namespace Workbench.Console.Style

/-- The attributes and their short names, in the order in which a canonical name has them. -/
def attributes : List (String × List String) :=
  [("bold", ["b"]), ("dim", ["d"]), ("italic", ["i"]), ("underline", ["u"]), ("blink", []),
    ("blink2", []), ("reverse", ["r"]), ("conceal", ["c"]), ("strike", ["s"]),
    ("underline2", ["uu"]), ("frame", []), ("encircle", []), ("overline", ["o"])]

/-- The attribute that a word names. -/
def attribute? (word : String) : Option String :=
  (attributes.find? fun (name, short) => name == word || short.contains word).map (·.1)

/-- The words of a text. -/
def wordsOf (s : String) : List String :=
  ((Text.splitBy Text.isBlankChar s.toList).filter (!·.isEmpty)).map String.ofList

/-- The names of colours, apart from `default`. -/
def colourNames : String :=
"black red green yellow blue magenta cyan white bright_black bright_red bright_green bright_yellow
bright_blue bright_magenta bright_cyan bright_white grey0 gray0 navy_blue dark_blue blue3 blue1
dark_green deep_sky_blue4 dodger_blue3 dodger_blue2 green4 spring_green4 turquoise4 deep_sky_blue3
dodger_blue1 green3 spring_green3 dark_cyan light_sea_green deep_sky_blue2 deep_sky_blue1
spring_green2 cyan3 dark_turquoise turquoise2 green1 spring_green1 medium_spring_green cyan2 cyan1
dark_red deep_pink4 purple4 purple3 blue_violet orange4 grey37 gray37 medium_purple4 slate_blue3
royal_blue1 chartreuse4 dark_sea_green4 pale_turquoise4 steel_blue steel_blue3 cornflower_blue
chartreuse3 cadet_blue sky_blue3 steel_blue1 pale_green3 sea_green3 aquamarine3 medium_turquoise
chartreuse2 sea_green2 sea_green1 aquamarine1 dark_slate_gray2 dark_magenta dark_violet purple
light_pink4 plum4 medium_purple3 slate_blue1 yellow4 wheat4 grey53 gray53 light_slate_grey
light_slate_gray medium_purple light_slate_blue dark_olive_green3 dark_sea_green light_sky_blue3
sky_blue2 dark_sea_green3 dark_slate_gray3 sky_blue1 chartreuse1 light_green pale_green1
dark_slate_gray1 red3 medium_violet_red magenta3 dark_orange3 indian_red hot_pink3 medium_orchid3
medium_orchid medium_purple2 dark_goldenrod light_salmon3 rosy_brown grey63 gray63 medium_purple1
gold3 dark_khaki navajo_white3 grey69 gray69 light_steel_blue3 light_steel_blue yellow3
dark_sea_green2 light_cyan3 light_sky_blue1 green_yellow dark_olive_green2 dark_sea_green1
pale_turquoise1 deep_pink3 magenta2 hot_pink2 orchid medium_orchid1 orange3 light_pink3 pink3
plum3 violet light_goldenrod3 tan misty_rose3 thistle3 plum2 khaki3 light_goldenrod2 light_yellow3
grey84 gray84 light_steel_blue1 yellow2 dark_olive_green1 honeydew2 light_cyan1 red1 deep_pink2
deep_pink1 magenta1 orange_red1 indian_red1 hot_pink dark_orange salmon1 light_coral
pale_violet_red1 orchid2 orchid1 orange1 sandy_brown light_salmon1 light_pink1 pink1 plum1 gold1
navajo_white1 misty_rose1 thistle1 yellow1 light_goldenrod1 khaki1 wheat1 cornsilk1 grey100
gray100 grey3 gray3 grey7 gray7 grey11 gray11 grey15 gray15 grey19 gray19 grey23 gray23 grey27
gray27 grey30 gray30 grey35 gray35 grey39 gray39 grey42 gray42 grey46 gray46 grey50 gray50 grey54
gray54 grey58 gray58 grey62 gray62 grey66 gray66 grey70 gray70 grey74 gray74 grey78 gray78 grey82
gray82 grey85 gray85 grey89 gray89 grey93 gray93"

def isHexDigit (c : Char) : Bool := c.isDigit || ('a' ≤ c && c ≤ 'f')

/-- A number below 256 in decimal digits. -/
def isByte (cs : List Char) : Bool :=
  !cs.isEmpty && cs.all Char.isDigit && cs.foldl (fun n d => n * 10 + (d.toNat - 48)) 0 < 256

/-- The text between a beginning and an end. -/
def between? (front back : String) (cs : List Char) : Option (List Char) :=
  if front.toList.isPrefixOf cs && back.toList.isSuffixOf (cs.drop front.length) then
    some ((cs.drop front.length).dropLast)
  else none

/-- Is the word, in lower case, a colour: a name, a number of the palette, or its components? -/
def isColour (word : String) : Bool :=
  let cs := word.toList
  word == "default" || (wordsOf colourNames).contains word ||
    (cs.head? == some '#' && cs.length == 7 && cs.tail.all isHexDigit) ||
    (between? "color(" ")" cs).any (fun n => n.length ≤ 3 && isByte n) ||
    (between? "rgb(" ")" cs).any (fun rgb =>
      let parts := Text.splitBy (· == ',') rgb
      parts.length == 3 && parts.all isByte)

/-- What the words of a name have said so far. -/
structure Reading where
  /-- Attributes that are on or off. -/
  switched : List (String × Bool) := []
  colour : Option String := none
  background : Option String := none
  address : Option String := none

/-- Switch an attribute. -/
def Reading.switch (r : Reading) (name : String) (isOn : Bool) : Reading :=
  { r with switched := (name, isOn) :: r.switched }

/-- Read the words of a name; a word out of place makes it no name of a style. -/
def read? : Reading → List String → Option Reading
  | r, [] => some r
  | r, word :: rest =>
    match word.map Char.toLower, rest with
    | "on", next :: rest =>
      let colour := next.map Char.toLower
      if isColour colour then read? { r with background := some colour } rest else none
    | "on", [] => none
    | "not", next :: rest => (attribute? next).bind fun a => read? (r.switch a false) rest
    | "not", [] => none
    | "link", next :: rest => read? { r with address := some next } rest
    | "link", [] => none
    | lower, rest =>
      match attribute? lower with
      | some a => read? (r.switch a true) rest
      | none => if isColour lower then read? { r with colour := some lower } rest else none

/-- The name of what has been read. -/
def Reading.name (r : Reading) : String :=
  let switched := attributes.filterMap fun (a, _) =>
    (r.switched.lookup a).map fun isOn => if isOn then a else "not " ++ a
  let parts := switched ++ r.colour.toList ++ (r.background.map ("on " ++ ·)).toList ++
    (r.address.map ("link " ++ ·)).toList
  if parts.isEmpty then "none" else " ".intercalate parts

/-- The canonical name of a style. -/
def canonical (name : String) : String :=
  let stripped := Text.strip name
  if stripped == "none" then "none"
  else
    match read? {} (wordsOf name) with
    | some r => r.name
    | none => stripped.map Char.toLower

end Workbench.Console.Style
