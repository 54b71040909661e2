/-
# Names of styles

A style is named by words: features, features taken back, a colour, and a
colour of the background. Names of the same style have one canonical form, so
that a closing tag can be matched with the opening one whichever words they use.

## Main definitions

* `ColorWord.ofText` - whether a word names a colour.
* `Style.ofWords` - the style that words name.
* `canonicalStyle?` - the canonical form of a name.
-/

import EntryPoint.Text.Digits
import EntryPoint.Text.LowerCase
import EntryPoint.Text.Ranges
import EntryPoint.Text.Split

namespace EntryPoint.Console

open Text

/-! ### Colours -/

/-- The names of the colours of a terminal. -/
def colorNames : List String :=
  words "default black red green yellow blue magenta cyan white bright_black bright_red bright_green
    bright_yellow bright_blue bright_magenta bright_cyan bright_white navy_blue dark_blue blue3
    blue1 dark_green deep_sky_blue4 dodger_blue3 dodger_blue2 green4 spring_green4 turquoise4
    deep_sky_blue3 dodger_blue1 green3 spring_green3 dark_cyan light_sea_green deep_sky_blue2
    deep_sky_blue1 spring_green2 cyan3 dark_turquoise turquoise2 green1 spring_green1
    medium_spring_green cyan2 cyan1 dark_red deep_pink4 purple4 purple3 blue_violet orange4
    medium_purple4 slate_blue3 royal_blue1 chartreuse4 dark_sea_green4 pale_turquoise4 steel_blue
    steel_blue3 cornflower_blue chartreuse3 cadet_blue sky_blue3 steel_blue1 pale_green3
    sea_green3 aquamarine3 medium_turquoise chartreuse2 sea_green2 sea_green1 aquamarine1
    dark_slate_gray2 dark_magenta dark_violet purple light_pink4 plum4 medium_purple3 slate_blue1
    yellow4 wheat4 light_slate_grey light_slate_gray medium_purple light_slate_blue
    dark_olive_green3 dark_sea_green light_sky_blue3 sky_blue2 dark_sea_green3 dark_slate_gray3
    sky_blue1 chartreuse1 light_green pale_green1 dark_slate_gray1 red3 medium_violet_red
    magenta3 dark_orange3 indian_red hot_pink3 medium_orchid3 medium_orchid medium_purple2
    dark_goldenrod light_salmon3 rosy_brown medium_purple1 gold3 dark_khaki navajo_white3
    light_steel_blue3 light_steel_blue yellow3 dark_sea_green2 light_cyan3 light_sky_blue1
    green_yellow dark_olive_green2 dark_sea_green1 pale_turquoise1 deep_pink3 magenta2 hot_pink2
    orchid medium_orchid1 orange3 light_pink3 pink3 plum3 violet light_goldenrod3 tan misty_rose3
    thistle3 plum2 khaki3 light_goldenrod2 light_yellow3 light_steel_blue1 yellow2
    dark_olive_green1 honeydew2 light_cyan1 red1 deep_pink2 deep_pink1 magenta1 orange_red1
    indian_red1 hot_pink dark_orange salmon1 light_coral pale_violet_red1 orchid2 orchid1 orange1
    sandy_brown light_salmon1 light_pink1 pink1 plum1 gold1 navajo_white1 misty_rose1 thistle1
    yellow1 light_goldenrod1 khaki1 wheat1 cornsilk1"

/-- The degrees of grey that have names. -/
def greyDegrees : List Nat :=
  [0, 3, 7, 11, 15, 19, 23, 27, 30, 35, 37, 39, 42, 46, 50, 53, 54, 58, 62, 63, 66, 69, 70, 74, 78,
    82, 84, 85, 89, 93, 100]

/-- Whether a text is a grey of some degree. -/
def isGrey (text : List Char) : Bool :=
  (text.take 4 = "grey".toList || text.take 4 = "gray".toList) &&
    (greyDegrees.any fun degree => (decimal degree).toList = text.drop 4)

/-- Whether a text is digits that spell a number up to 255. -/
def isByte (text : List Char) : Bool :=
  !text.isEmpty && text.all Char.isDigit && ofDigits 10 text ≤ 255

/-- The text between an opening and a closing, if it has both. -/
def between? (opening : String) (text : List Char) : Option (List Char) :=
  if opening.toList.isPrefixOf text ∧ text.getLast? = some ')' then
    some (text.drop opening.length).dropLast
  else none

/-- Whether a text is a number sign and six hexadecimal digits. -/
def isHexColor : List Char → Bool
  | '#' :: digits => digits.length = 6 && digits.all (isDigitOf 16)
  | _ => false

/-- Whether a text is a numbered colour. -/
def isNumberedColor (text : List Char) : Bool :=
  match between? "color(" text with
  | some digits => digits.length ≤ 3 && isByte digits
  | none => false

/-- What a word may be among the words of a style: the name of a colour, a colour with a part that
cannot be read, or something else. -/
inductive ColorWord
  | color
  | unreadable
  | other
  deriving DecidableEq

/-- What a word is if it is a colour mixed of three parts. A part that is missing cannot be read. -/
def ColorWord.ofParts (text : List Char) : ColorWord :=
  match between? "rgb(" text with
  | some inside =>
    let parts := partsOf ',' inside
    -- Only what has the form of three parts at all can be unreadable.
    if parts.length ≠ 3 || !inside.all (fun c => c = ',' || c.isDigit) then .other
    else if parts.any List.isEmpty then .unreadable
    else if parts.all isByte then .color
    else .other
  | none => .other

/-- What a word is. -/
def ColorWord.ofText (text : String) : ColorWord :=
  let chars := text.toList
  if colorNames.contains text || isGrey chars || isHexColor chars || isNumberedColor chars then
    .color
  else .ofParts chars

/-! ### Styles -/

/-- The features in canonical order. -/
def featureNames : List String :=
  ["bold", "dim", "italic", "underline", "blink", "blink2", "reverse", "conceal", "strike",
    "underline2", "frame", "encircle", "overline"]

/-- The short names of features. -/
def shortFeatures : List (String × String) :=
  [("d", "dim"), ("b", "bold"), ("i", "italic"), ("u", "underline"), ("r", "reverse"),
    ("c", "conceal"), ("s", "strike"), ("uu", "underline2"), ("o", "overline")]

/-- The feature that a word names. -/
def feature? (word : String) : Option String :=
  if featureNames.contains word then some word else shortFeatures.lookup word

/-- A style: which features are set to what, the colours, and a link. -/
structure Style where
  features : List (String × Bool) := []
  color : Option String := none
  background : Option String := none
  link : Option String := none

namespace Style

/-- Why words name no style: one fits nowhere, or is a colour that cannot be read. -/
inductive StyleMistake
  | unknown
  | unreadable
  deriving DecidableEq

/-- A word that names a colour. -/
def colorOf (word : String) : Except StyleMistake String :=
  match ColorWord.ofText word with
  | .color => .ok word
  | .unreadable => .error .unreadable
  | .other => .error .unknown

/-- Reads words into a style. -/
def addWords (style : Style) : List String → Except StyleMistake Style
  | [] => .ok style
  | first :: rest =>
    let word := lower first
    if word = "on" then
      match rest with
      | color :: rest => do
        let background ← colorOf (lower color)
        addWords { style with background := some background } rest
      | [] => .error .unknown
    else if word = "not" then
      match rest with
      | name :: rest =>
        match feature? name with
        | some feature =>
          addWords { style with features := (feature, false) :: style.features } rest
        | none => .error .unknown
      | [] => .error .unknown
    else if word = "link" then
      match rest with
      | target :: rest => addWords { style with link := some target } rest
      | [] => .error .unknown
    else
      match feature? word with
      | some feature =>
        addWords { style with features := (feature, true) :: style.features } rest
      | none => do
        let color ← colorOf word
        addWords { style with color := some color } rest

/-- The style that words name. -/
def ofWords (words : List String) : Except StyleMistake Style :=
  if words = ["none"] then .ok {} else addWords {} words

/-- The words of a style in canonical order. -/
def canonicalWords (style : Style) : List String :=
  let features := featureNames.filterMap fun name =>
    (style.features.lookup name).map fun isSet => if isSet then name else "not " ++ name
  features ++ style.color.toList ++ (style.background.map ("on " ++ ·)).toList ++
    (style.link.map ("link " ++ ·)).toList

end Style

/-- The words of a text between blanks. -/
def blankWords : List Char → List String
  | [] => []
  | c :: rest =>
    match blankWords rest with
    | others =>
      if isBlank c then others
      else
        match rest with
        | [] => [String.ofList [c]]
        | next :: _ =>
          if isBlank next then String.ofList [c] :: others
          else
            match others with
            | [] => [String.ofList [c]]
            | word :: others => (String.ofList [c] ++ word) :: others

/-- The canonical form of the name of a style; none where a colour cannot be read. A name that names
no style is only trimmed and put in lower case. -/
def canonicalStyle? (name : List Char) : Option String :=
  match Style.ofWords (blankWords name) with
  | .ok style =>
    let words := style.canonicalWords
    some (if words.isEmpty then "none" else " ".intercalate words)
  | .error .unknown => some (lower (String.ofList (trimBlanks name)))
  | .error .unreadable => none

end EntryPoint.Console
