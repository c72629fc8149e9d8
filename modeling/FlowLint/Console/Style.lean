import FlowLint.Number.Numeral
import FlowLint.Text.LowerCase
import FlowLint.Text.Split
import FlowLint.Text.Words

/-!
# Styles of console text

A style asks for attributes such as bold, a colour, a background and a link. Styles that ask for
the same have one canonical name, by which a closing tag finds the tag that it closes.
-/

namespace FlowLint.Console

/-- Why a text is no style: it holds what is none of the words of styles, or a colour with a
component that is no number. -/
inductive StyleFault where
  | unknown
  | badComponent (fault : Numeral.Fault)
deriving DecidableEq, Repr

/-! ## Colours -/

def colorNames : List String := [
  "aquamarine1", "aquamarine3", "black", "blue", "blue1", "blue3", "blue_violet", "bright_black",
  "bright_blue", "bright_cyan", "bright_green", "bright_magenta", "bright_red", "bright_white",
  "bright_yellow", "cadet_blue", "chartreuse1", "chartreuse2", "chartreuse3", "chartreuse4",
  "cornflower_blue", "cornsilk1", "cyan", "cyan1", "cyan2", "cyan3", "dark_blue", "dark_cyan",
  "dark_goldenrod", "dark_green", "dark_khaki", "dark_magenta", "dark_olive_green1",
  "dark_olive_green2", "dark_olive_green3", "dark_orange", "dark_orange3", "dark_red",
  "dark_sea_green", "dark_sea_green1", "dark_sea_green2", "dark_sea_green3", "dark_sea_green4",
  "dark_slate_gray1", "dark_slate_gray2", "dark_slate_gray3", "dark_turquoise", "dark_violet",
  "deep_pink1", "deep_pink2", "deep_pink3", "deep_pink4", "deep_sky_blue1", "deep_sky_blue2",
  "deep_sky_blue3", "deep_sky_blue4", "default", "dodger_blue1", "dodger_blue2", "dodger_blue3",
  "gold1", "gold3", "gray0", "gray100", "gray11", "gray15", "gray19", "gray23", "gray27", "gray3",
  "gray30", "gray35", "gray37", "gray39", "gray42", "gray46", "gray50", "gray53", "gray54",
  "gray58", "gray62", "gray63", "gray66", "gray69", "gray7", "gray70", "gray74", "gray78",
  "gray82", "gray84", "gray85", "gray89", "gray93", "green", "green1", "green3", "green4",
  "green_yellow", "grey0", "grey100", "grey11", "grey15", "grey19", "grey23", "grey27", "grey3",
  "grey30", "grey35", "grey37", "grey39", "grey42", "grey46", "grey50", "grey53", "grey54",
  "grey58", "grey62", "grey63", "grey66", "grey69", "grey7", "grey70", "grey74", "grey78",
  "grey82", "grey84", "grey85", "grey89", "grey93", "honeydew2", "hot_pink", "hot_pink2",
  "hot_pink3", "indian_red", "indian_red1", "khaki1", "khaki3", "light_coral", "light_cyan1",
  "light_cyan3", "light_goldenrod1", "light_goldenrod2", "light_goldenrod3", "light_green",
  "light_pink1", "light_pink3", "light_pink4", "light_salmon1", "light_salmon3", "light_sea_green",
  "light_sky_blue1", "light_sky_blue3", "light_slate_blue", "light_slate_gray", "light_slate_grey",
  "light_steel_blue", "light_steel_blue1", "light_steel_blue3", "light_yellow3", "magenta",
  "magenta1", "magenta2", "magenta3", "medium_orchid", "medium_orchid1", "medium_orchid3",
  "medium_purple", "medium_purple1", "medium_purple2", "medium_purple3", "medium_purple4",
  "medium_spring_green", "medium_turquoise", "medium_violet_red", "misty_rose1", "misty_rose3",
  "navajo_white1", "navajo_white3", "navy_blue", "orange1", "orange3", "orange4", "orange_red1",
  "orchid", "orchid1", "orchid2", "pale_green1", "pale_green3", "pale_turquoise1",
  "pale_turquoise4", "pale_violet_red1", "pink1", "pink3", "plum1", "plum2", "plum3", "plum4",
  "purple", "purple3", "purple4", "red", "red1", "red3", "rosy_brown", "royal_blue1", "salmon1",
  "sandy_brown", "sea_green1", "sea_green2", "sea_green3", "sky_blue1", "sky_blue2", "sky_blue3",
  "slate_blue1", "slate_blue3", "spring_green1", "spring_green2", "spring_green3", "spring_green4",
  "steel_blue", "steel_blue1", "steel_blue3", "tan", "thistle1", "thistle3", "turquoise2",
  "turquoise4", "violet", "wheat1", "wheat4", "white", "yellow", "yellow1", "yellow2", "yellow3",
  "yellow4"]

/-- The inside of a text in the round brackets of a function. -/
def arguments? (function : String) (cs : List Char) : Option (List Char) := do
  let inside ← (function.toList ++ ['(']).isPrefixOf? cs
  if inside.getLast? = some ')' then some inside.dropLast else none

def component (digits : List Char) : Except StyleFault Int :=
  match Numeral.integer 10 digits with
  | .ok n => .ok n
  | .error fault => .error (.badComponent fault)

/-- The three components of a colour are in range. All of them are read before any is judged. -/
def areComponents (parts : List (List Char)) : Except StyleFault Bool := do
  match parts with
  | [red, green, blue] =>
    let components := [← component red, ← component green, ← component blue]
    return components.all (· ≤ 255)
  | _ => return false

/-- The name of a colour in small letters: one of the known names, six hexadecimal digits, a number
of the palette, or the components of red, green and blue. -/
def colorName (word : List Char) : Except StyleFault (List Char) := do
  let color := Text.lower word
  let isColor ←
    if colorNames.contains (String.ofList color) then pure true
    else
      match color, arguments? "color" color, arguments? "rgb" color with
      | '#' :: digits, _, _ =>
        pure (digits.length == 6 && digits.all fun c => (digitOf? 16 c).isSome)
      | _, some digits, _ =>
        pure (digits.length ≤ 3 && digits.all isDigit && (numeral? 10 digits).any (· ≤ 255))
      | _, _, some inside =>
        if inside ≠ [] ∧ inside.all fun c => (Text.decimalDigit? c).isSome || c == ',' then
          areComponents (Text.splitAll ',' inside)
        else pure false
      | _, _, _ => pure false
  if isColor then return color else throw .unknown

/-! ## Styles -/

/-- The attributes of styles, in the order in which a canonical name has them. -/
def attributes : List String :=
  ["bold", "dim", "italic", "underline", "blink", "blink2", "reverse", "conceal", "strike",
    "underline2", "frame", "encircle", "overline"]

def attributeWords : List (String × String) :=
  [("b", "bold"), ("d", "dim"), ("i", "italic"), ("u", "underline"), ("r", "reverse"),
    ("c", "conceal"), ("s", "strike"), ("uu", "underline2"), ("o", "overline")]

def attribute? (word : List Char) : Option String :=
  let name := String.ofList word
  if attributes.contains name then some name else attributeWords.lookup name

/-- What a style asks for. Of settings of one attribute the one in front counts. -/
structure Style where
  settings : List (String × Bool) := []
  color : Option (List Char) := none
  background : Option (List Char) := none
  link : Option (List Char) := none

namespace Style

def withWords (style : Style) : List (List Char) → Except StyleFault Style
  | [] => .ok style
  | word :: rest => do
    let small := Text.lower word
    if small = "on".toList then
      match rest with
      | color :: more => withWords { style with background := some (← colorName color) } more
      | [] => throw .unknown
    else if small = "not".toList then
      match rest with
      | negated :: more =>
        match attribute? negated with
        | some name => withWords { style with settings := (name, false) :: style.settings } more
        | none => throw .unknown
      | [] => throw .unknown
    else if small = "link".toList then
      match rest with
      | address :: more => withWords { style with link := some address } more
      | [] => throw .unknown
    else
      match attribute? small with
      | some name => withWords { style with settings := (name, true) :: style.settings } rest
      | none => withWords { style with color := some (← colorName word) } rest

def canonicalWords (style : Style) : List (List Char) :=
  let set := attributes.filterMap fun name =>
    (style.settings.lookup name).map fun on =>
      if on then name.toList else "not ".toList ++ name.toList
  let behind (word : String) (name : Option (List Char)) : List (List Char) :=
    (name.map fun n => [word.toList, n]).getD []
  set ++ style.color.toList ++ behind "on" style.background ++ behind "link" style.link

def canonicalName (style : Style) : List Char :=
  match style.canonicalWords with
  | [] => "none".toList
  | words => List.intercalate [' '] words

end Style

/-- The canonical name for a name of a style: that of the style, and for what is no style the name
in small letters. A component that is no number leaves none. -/
def canonicalStyle (name : List Char) : Except Numeral.Fault (List Char) :=
  if Text.trim name = "none".toList then .ok "none".toList
  else
    match Style.withWords {} (Text.words name) with
    | .ok style => .ok style.canonicalName
    | .error .unknown => .ok (Text.lower (Text.trim name))
    | .error (.badComponent fault) => .error fault

end FlowLint.Console
