import NoteVault.Text.Blank
import NoteVault.Text.Digit
import NoteVault.Text.Lower

/-!
# Styles

The words in a tag describe a style: attributes, a colour, a background after `on`, the
target of a link after `link`. What comes later wins. `not` before an attribute turns it
off. Two descriptions mean the same style if their normal forms are equal; words that
describe no style are their own normal form, apart from case.

A colour in numbers can lack one of them. That is a fault of its own.

## Main definitions

* `Style.ofWords` — the style that words describe.
* `Style.normalForm` — the normal form of a description.
-/

namespace NoteVault

/-- A description of how text looks. -/
structure Style where
  /-- The attributes that are turned on or off. -/
  attributes : List (Text × Bool) := []
  /-- The colour. -/
  color : Option Text := none
  /-- The colour of the background. -/
  background : Option Text := none
  /-- The target of a link. -/
  link : Option Text := none

/-- What is wrong with the description of a style. -/
inductive StyleFault where
  /-- A word has no meaning. -/
  | meaningless
  /-- A number of a colour is missing. -/
  | numberMissing
  deriving DecidableEq

namespace Style

/-- The attributes in the order of a normal form, each with its shorter name. -/
def attributeNames : List (Text × Text) :=
  [("bold", "b"), ("dim", "d"), ("italic", "i"), ("underline", "u"), ("blink", "blink"),
    ("blink2", "blink2"), ("reverse", "r"), ("conceal", "c"), ("strike", "s"),
    ("underline2", "uu"), ("frame", "frame"), ("encircle", "encircle"), ("overline", "o")]

/-- The attribute that a word names. -/
def attribute? (word : Text) : Option Text :=
  (attributeNames.find? fun (name, short) => word = name || word = short).map (·.1)

/-! ## Colours -/

/-- The names of colours, apart from the shades of grey. -/
def colorLines : List String :=
  ["black red green yellow blue magenta cyan white bright_black bright_red bright_green",
    "bright_yellow bright_blue bright_magenta bright_cyan bright_white navy_blue dark_blue",
    "blue3 blue1 dark_green deep_sky_blue4 dodger_blue3 dodger_blue2 green4 spring_green4",
    "turquoise4 deep_sky_blue3 dodger_blue1 green3 spring_green3 dark_cyan light_sea_green",
    "deep_sky_blue2 deep_sky_blue1 spring_green2 cyan3 dark_turquoise turquoise2 green1",
    "spring_green1 medium_spring_green cyan2 cyan1 dark_red deep_pink4 purple4 purple3",
    "blue_violet orange4 medium_purple4 slate_blue3 royal_blue1 chartreuse4 dark_sea_green4",
    "pale_turquoise4 steel_blue steel_blue3 cornflower_blue chartreuse3 cadet_blue sky_blue3",
    "steel_blue1 pale_green3 sea_green3 aquamarine3 medium_turquoise chartreuse2 sea_green2",
    "sea_green1 aquamarine1 dark_slate_gray2 dark_magenta dark_violet purple light_pink4",
    "plum4 medium_purple3 slate_blue1 yellow4 wheat4 light_slate_grey light_slate_gray",
    "medium_purple light_slate_blue dark_olive_green3 dark_sea_green light_sky_blue3",
    "sky_blue2 dark_sea_green3 dark_slate_gray3 sky_blue1 chartreuse1 light_green pale_green1",
    "dark_slate_gray1 red3 medium_violet_red magenta3 dark_orange3 indian_red hot_pink3",
    "medium_orchid3 medium_orchid medium_purple2 dark_goldenrod light_salmon3 rosy_brown",
    "medium_purple1 gold3 dark_khaki navajo_white3 light_steel_blue3 light_steel_blue yellow3",
    "dark_sea_green2 light_cyan3 light_sky_blue1 green_yellow dark_olive_green2",
    "dark_sea_green1 pale_turquoise1 deep_pink3 magenta2 hot_pink2 orchid medium_orchid1",
    "orange3 light_pink3 pink3 plum3 violet light_goldenrod3 tan misty_rose3 thistle3 plum2",
    "khaki3 light_goldenrod2 light_yellow3 light_steel_blue1 yellow2 dark_olive_green1",
    "honeydew2 light_cyan1 red1 deep_pink2 deep_pink1 magenta1 orange_red1 indian_red1",
    "hot_pink dark_orange salmon1 light_coral pale_violet_red1 orchid2 orchid1 orange1",
    "sandy_brown light_salmon1 light_pink1 pink1 plum1 gold1 navajo_white1 misty_rose1",
    "thistle1 yellow1 light_goldenrod1 khaki1 wheat1 cornsilk1"]

/-- The shades of grey that have a name. -/
def greyShades : List Nat :=
  [0, 3, 7, 11, 15, 19, 23, 27, 30, 35, 37, 39, 42, 46, 50, 53, 54, 58, 62, 63, 66, 69, 70, 74,
    78, 82, 84, 85, 89, 93, 100]

/-- Whether a word is the name of a colour. -/
def isColorName (word : Text) : Bool :=
  word = "default".toList
    || colorLines.any (fun line => (Text.words line).contains word)
    || greyShades.any fun n => word = "grey" ++ Text.ofNat n || word = "gray" ++ Text.ofNat n

/-- What stands in brackets behind a word. -/
def inBrackets? (name word : Text) : Option Text :=
  (Text.dropStart? (name ++ ['(']) word).bind fun rest =>
    if rest.getLast? = some ')' then some rest.dropLast else none

/-- Whether a word is a colour as six hexadecimal digits. -/
def isHexColor : Text → Bool
  | '#' :: digits => digits.length = 6 && digits.all fun c => c.isDigit || ('a' ≤ c && c ≤ 'f')
  | _ => false

/-- Whether a word is a colour as its number in the palette. -/
def isPaletteColor (word : Text) : Bool :=
  match inBrackets? "color" word with
  | some digits =>
    0 < digits.length && digits.length ≤ 3 && digits.all Char.isDigit
      && Text.digitsValue digits ≤ 255
  | none => false

/-- Whether a word is a colour as three numbers. -/
def isMixedColor (word : Text) : Except StyleFault Bool :=
  match inBrackets? "rgb" word with
  | none => .ok false
  | some inner =>
    if inner.isEmpty || !inner.all (fun c => Text.isDigit c || c = ',') then .ok false
    else
      match Text.splitOn ',' inner with
      | [r, g, b] =>
        if [r, g, b].any (·.isEmpty) then .error .numberMissing
        else .ok ([r, g, b].all fun n => Text.digitsValue n ≤ 255)
      | _ => .ok false

/-- The colour that a word is. -/
def readColor (word : Text) : Except StyleFault Text := do
  let word := Text.lower word
  if isColorName word || isHexColor word || isPaletteColor word || (← isMixedColor word) then
    return word
  else throw .meaningless

/-! ## Descriptions -/

/-- The style that words describe on top of another one. -/
def addWords (style : Style) : List Text → Except StyleFault Style
  | [] => .ok style
  | written :: rest =>
    let word := Text.lower written
    if word = "on".toList then
      match rest with
      | [] => .error .meaningless
      | color :: rest => do addWords { style with background := some (← readColor color) } rest
    else if word = "not".toList then
      match rest with
      | [] => .error .meaningless
      | name :: rest =>
        match attribute? name with
        | some name => addWords { style with attributes := (name, false) :: style.attributes } rest
        | none => .error .meaningless
    else if word = "link".toList then
      match rest with
      | [] => .error .meaningless
      | target :: rest => addWords { style with link := some target } rest
    else
      match attribute? word with
      | some name => addWords { style with attributes := (name, true) :: style.attributes } rest
      | none => do addWords { style with color := some (← readColor word) } rest

/-- The style that words describe. -/
def ofWords (words : List Text) : Except StyleFault Style := addWords {} words

/-- The words that describe a style in its normal form. -/
def toWords (style : Style) : List Text :=
  let attributes := attributeNames.filterMap fun (name, _) =>
    (style.attributes.lookup name).map fun isOn => if isOn then name else "not " ++ name
  let background := style.background.elim [] fun color => ["on".toList, color]
  let link := style.link.elim [] fun target => ["link".toList, target]
  attributes ++ style.color.toList ++ background ++ link

/-- The normal form of a description. -/
def normalForm (description : Text) : Except StyleFault Text :=
  if Text.strip description = "none".toList then .ok "none"
  else
    match ofWords (Text.words description) with
    | .ok style =>
      let words := style.toWords
      .ok (if words.isEmpty then "none" else Text.joinWith [' '] words)
    | .error .meaningless => .ok (Text.lower (Text.strip description))
    | .error .numberMissing => .error .numberMissing

end Style
end NoteVault
