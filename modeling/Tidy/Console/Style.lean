/-
# Tidy.Console.Style -- styles of text, and their names

A style is written as words: attributes, a colour, a colour for the background after `on`, and a link. Styles with
the same effect have one normal form, so that a closing tag may name a style in other words than the opening tag.
What is no style is a name like any other and only loses its capitals.
-/

import Tidy.Text.Blank
import Tidy.Text.Digit
import Tidy.Text.Lowercase

namespace Tidy.Console

/-- Why words are no style. -/
inductive StyleFault where
  /-- Some word has no meaning. -/
  | unknown
  /-- A part of a colour should be a number and is none. -/
  | noNumber
deriving DecidableEq

/-! ## Colours -/

/-- The names of colours, several in a line. -/
def colorNames : List String :=
  ["aquamarine1 aquamarine3 black blue blue1 blue3 blue_violet bright_black bright_blue bright_cyan bright_green",
   "bright_magenta bright_red bright_white bright_yellow cadet_blue chartreuse1 chartreuse2 chartreuse3",
   "chartreuse4 cornflower_blue cornsilk1 cyan cyan1 cyan2 cyan3 dark_blue dark_cyan dark_goldenrod dark_green",
   "dark_khaki dark_magenta dark_olive_green1 dark_olive_green2 dark_olive_green3 dark_orange dark_orange3",
   "dark_red dark_sea_green dark_sea_green1 dark_sea_green2 dark_sea_green3 dark_sea_green4 dark_slate_gray1",
   "dark_slate_gray2 dark_slate_gray3 dark_turquoise dark_violet deep_pink1 deep_pink2 deep_pink3 deep_pink4",
   "deep_sky_blue1 deep_sky_blue2 deep_sky_blue3 deep_sky_blue4 dodger_blue1 dodger_blue2 dodger_blue3 gold1",
   "gold3 gray0 gray100 gray11 gray15 gray19 gray23 gray27 gray3 gray30 gray35 gray37 gray39 gray42 gray46",
   "gray50 gray53 gray54 gray58 gray62 gray63 gray66 gray69 gray7 gray70 gray74 gray78 gray82 gray84 gray85",
   "gray89 gray93 green green1 green3 green4 green_yellow grey0 grey100 grey11 grey15 grey19 grey23 grey27 grey3",
   "grey30 grey35 grey37 grey39 grey42 grey46 grey50 grey53 grey54 grey58 grey62 grey63 grey66 grey69 grey7",
   "grey70 grey74 grey78 grey82 grey84 grey85 grey89 grey93 honeydew2 hot_pink hot_pink2 hot_pink3 indian_red",
   "indian_red1 khaki1 khaki3 light_coral light_cyan1 light_cyan3 light_goldenrod1 light_goldenrod2",
   "light_goldenrod3 light_green light_pink1 light_pink3 light_pink4 light_salmon1 light_salmon3 light_sea_green",
   "light_sky_blue1 light_sky_blue3 light_slate_blue light_slate_gray light_slate_grey light_steel_blue",
   "light_steel_blue1 light_steel_blue3 light_yellow3 magenta magenta1 magenta2 magenta3 medium_orchid",
   "medium_orchid1 medium_orchid3 medium_purple medium_purple1 medium_purple2 medium_purple3 medium_purple4",
   "medium_spring_green medium_turquoise medium_violet_red misty_rose1 misty_rose3 navajo_white1 navajo_white3",
   "navy_blue orange1 orange3 orange4 orange_red1 orchid orchid1 orchid2 pale_green1 pale_green3 pale_turquoise1",
   "pale_turquoise4 pale_violet_red1 pink1 pink3 plum1 plum2 plum3 plum4 purple purple3 purple4 red red1 red3",
   "rosy_brown royal_blue1 salmon1 sandy_brown sea_green1 sea_green2 sea_green3 sky_blue1 sky_blue2 sky_blue3",
   "slate_blue1 slate_blue3 spring_green1 spring_green2 spring_green3 spring_green4 steel_blue steel_blue1",
   "steel_blue3 tan thistle1 thistle3 turquoise2 turquoise4 violet wheat1 wheat4 white yellow yellow1 yellow2",
   "yellow3 yellow4"]

/-- The text between a start and a closing parenthesis at the end. -/
def enclosed? (start t : Text) : Option Text :=
  (Text.after? start t).bind fun rest =>
    if rest.getLast? = some (CodePoint.char ')') then some rest.dropLast else none

/-- The number that a part of a colour writes. -/
def colorPart (part : Text) : Except StyleFault Nat :=
  if part.isEmpty || 4300 < part.length then .error .noNumber
  else .ok (part.foldl (fun n c => n * 10 + c.decimalValue?.getD 0) 0)

/-- Checks a colour that is given by three parts, each at most 255. -/
def checkParts (body : Text) : Except StyleFault Unit := do
  let parts := Text.splitAt ',' body
  if parts.length ≠ 3 then .error .unknown
  else
    let numbers ← parts.mapM colorPart
    if numbers.all (· ≤ 255) then .ok () else .error .unknown

/-- The colour that a word names: by a name, by a row of six hexadecimal digits, by a number or by three parts. -/
def color (word : Text) : Except StyleFault Text :=
  let word := Text.lower word
  let isNamed := word = "default" ||
    colorNames.any fun line => (Text.splitAt ' ' (Text.ofString line)).contains word
  let isHex := match word with
    | '#' :: digits => digits.length = 6 && digits.all fun c => c.hexValue?.isSome
    | _ => false
  let isNumbered := (enclosed? "color(" word).any fun digits =>
    !digits.isEmpty && digits.length ≤ 3 && digits.all CodePoint.isAsciiDigit && Text.decimalValue digits ≤ 255
  let parts := (enclosed? "rgb(" word).filter fun body =>
    !body.isEmpty && body.all fun c => c.decimalValue?.isSome || c = CodePoint.char ','
  if isNamed || isHex || isNumbered then .ok word
  else match parts with
    | some body => (checkParts body).map fun _ => word
    | none => .error .unknown

/-! ## Styles -/

/-- The attributes of a style, each with the words for it. The first word is its name. -/
def attributeWords : List (List Text) :=
  [["bold", "b"], ["dim", "d"], ["italic", "i"], ["underline", "u"], ["blink"], ["blink2"], ["reverse", "r"],
   ["conceal", "c"], ["strike", "s"], ["underline2", "uu"], ["frame"], ["encircle"], ["overline", "o"]]

/-- The name of the attribute that a word stands for. -/
def attribute? (word : Text) : Option Text :=
  (attributeWords.find? (·.contains word)).bind List.head?

/-- A style. An attribute may be set, unset or left alone. -/
structure Style where
  attributes : List (Text × Bool) := []
  color : Option Text := none
  background : Option Text := none
  link : Option Text := none
deriving DecidableEq

namespace Style

/-- Sets or unsets an attribute. -/
def put (style : Style) (name : Text) (value : Bool) : Style :=
  { style with attributes := (name, value) :: style.attributes }

/-- The style that words write, on top of another style. -/
def ofWords (style : Style) : List Text → Except StyleFault Style
  | [] => .ok style
  | word :: rest =>
    let lower := Text.lower word
    if lower = "on" then
      match rest with
      | [] => .error .unknown
      | word :: rest => do
        let background ← Console.color word
        ofWords { style with background } rest
    else if lower = "not" then
      match rest with
      | [] => .error .unknown
      | word :: rest =>
        match attribute? word with
        | some name => ofWords (style.put name false) rest
        | none => .error .unknown
    else if lower = "link" then
      match rest with
      | [] => .error .unknown
      | word :: rest => ofWords { style with link := some word } rest
    else
      match attribute? lower with
      | some name => ofWords (style.put name true) rest
      | none => do
        let color ← Console.color lower
        ofWords { style with color } rest

/-- The words of a text. -/
def wordsOf (t : Text) : List Text :=
  (Text.splitAt ' ' (Text.collapse t)).filter (!·.isEmpty)

/-- The style that a text writes. -/
def ofText (t : Text) : Except StyleFault Style :=
  if Text.trim t = "none" then .ok {} else ofWords {} (wordsOf t)

/-- The words for a style: its attributes in their order, its colour, its background and its link. -/
def words (style : Style) : List Text :=
  let attributes := attributeWords.filterMap fun names =>
    names.head?.bind fun name => (style.attributes.find? (·.1 = name)).map fun entry =>
      if entry.2 then name else "not " ++ name
  let named : Text → Text → Text := fun lead word => lead ++ word
  attributes ++ style.color.toList ++ style.background.toList.map (named "on ") ++
    style.link.toList.map (named "link ")

/-- The normal form of a style. -/
def name (style : Style) : Text :=
  if style.words.isEmpty then "none" else Text.join " " style.words

end Style

/-- The normal form of the name of a tag. -/
def normalName (t : Text) : Except StyleFault Text :=
  match Style.ofText t with
  | .ok style => .ok style.name
  | .error .unknown => .ok (Text.lower (Text.trim t))
  | .error .noNumber => .error .noNumber

end Tidy.Console
