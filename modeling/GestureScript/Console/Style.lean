import GestureScript.Numeral
import GestureScript.Text.Blank
import GestureScript.Text.DecimalDigit
import GestureScript.Text.Lowercase
import GestureScript.Text.Quoted

/-!
# Styles of console text

A style is named by words for its attributes and colors, in any order, and a word
may be short for another. The normal form of a name is the same for all names of
one style. A name that is no style's is only put in lower case.
-/

set_option autoImplicit false

namespace GestureScript.Console

open Text

/-- The words for each attribute, the full one first. -/
def attributeWords : List (List String) :=
  [["bold", "b"], ["dim", "d"], ["italic", "i"], ["underline", "u"], ["blink"], ["blink2"],
   ["reverse", "r"], ["conceal", "c"], ["strike", "s"], ["underline2", "uu"], ["frame"],
   ["encircle"], ["overline", "o"]]

/-- The names of the terminal colors. -/
def colorNames : List (List Char) :=
  ["black red green yellow blue magenta cyan white bright_black bright_red bright_green",
   "bright_yellow bright_blue bright_magenta bright_cyan bright_white grey0 gray0 navy_blue",
   "dark_blue blue3 blue1 dark_green deep_sky_blue4 dodger_blue3 dodger_blue2 green4",
   "spring_green4 turquoise4 deep_sky_blue3 dodger_blue1 green3 spring_green3 dark_cyan",
   "light_sea_green deep_sky_blue2 deep_sky_blue1 spring_green2 cyan3 dark_turquoise turquoise2",
   "green1 spring_green1 medium_spring_green cyan2 cyan1 dark_red deep_pink4 purple4 purple3",
   "blue_violet orange4 grey37 gray37 medium_purple4 slate_blue3 royal_blue1 chartreuse4",
   "dark_sea_green4 pale_turquoise4 steel_blue steel_blue3 cornflower_blue chartreuse3",
   "cadet_blue sky_blue3 steel_blue1 pale_green3 sea_green3 aquamarine3 medium_turquoise",
   "chartreuse2 sea_green2 sea_green1 aquamarine1 dark_slate_gray2 dark_magenta dark_violet",
   "purple light_pink4 plum4 medium_purple3 slate_blue1 yellow4 wheat4 grey53 gray53",
   "light_slate_grey light_slate_gray medium_purple light_slate_blue dark_olive_green3",
   "dark_sea_green light_sky_blue3 sky_blue2 dark_sea_green3 dark_slate_gray3 sky_blue1",
   "chartreuse1 light_green pale_green1 dark_slate_gray1 red3 medium_violet_red magenta3",
   "dark_orange3 indian_red hot_pink3 medium_orchid3 medium_orchid medium_purple2",
   "dark_goldenrod light_salmon3 rosy_brown grey63 gray63 medium_purple1 gold3 dark_khaki",
   "navajo_white3 grey69 gray69 light_steel_blue3 light_steel_blue yellow3 dark_sea_green2",
   "light_cyan3 light_sky_blue1 green_yellow dark_olive_green2 dark_sea_green1 pale_turquoise1",
   "deep_pink3 magenta2 hot_pink2 orchid medium_orchid1 orange3 light_pink3 pink3 plum3 violet",
   "light_goldenrod3 tan misty_rose3 thistle3 plum2 khaki3 light_goldenrod2 light_yellow3",
   "grey84 gray84 light_steel_blue1 yellow2 dark_olive_green1 honeydew2 light_cyan1 red1",
   "deep_pink2 deep_pink1 magenta1 orange_red1 indian_red1 hot_pink dark_orange salmon1",
   "light_coral pale_violet_red1 orchid2 orchid1 orange1 sandy_brown light_salmon1 light_pink1",
   "pink1 plum1 gold1 navajo_white1 misty_rose1 thistle1 yellow1 light_goldenrod1 khaki1 wheat1",
   "cornsilk1 grey100 gray100 grey3 gray3 grey7 gray7 grey11 gray11 grey15 gray15 grey19 gray19",
   "grey23 gray23 grey27 gray27 grey30 gray30 grey35 gray35 grey39 gray39 grey42 gray42 grey46",
   "gray46 grey50 gray50 grey54 gray54 grey58 gray58 grey62 gray62 grey66 gray66 grey70 gray70",
   "grey74 gray74 grey78 gray78 grey82 gray82 grey85 gray85 grey89 gray89 grey93 gray93"].flatMap
    (words ·.toList)

def isHex (c : Char) : Bool := c.isDigit || ('a' ≤ c && c ≤ 'f')

/-- Why a part of a color is no number. -/
inductive ColorFault where
  | emptyPart
  | longPart (digits : Nat)
  deriving DecidableEq, Repr

def ColorFault.message : ColorFault → String
  | .emptyPart => "invalid literal for int() with base 10: " ++ String.ofList (quoted [])
  | .longPart digits => Numeral.tooLongMessage digits

/-- The value of a part of a color. -/
def partValue (ds : List Char) : Except ColorFault Nat :=
  if ds.isEmpty then .error .emptyPart
  else if Numeral.digitLimit < ds.length then .error (.longPart ds.length)
  else .ok (Numeral.natural ds)

/-- Is a text between brackets a red, a green and a blue part? -/
def isTriple (cs : List Char) : Except ColorFault Bool :=
  let ds := asciiDigits cs
  if ds.isEmpty || ds.any (fun c => !c.isDigit && c != ',') then .ok false
  else match splitOn ',' ds with
    | [red, green, blue] => do
      let values := [← partValue red, ← partValue green, ← partValue blue]
      return values.all (· ≤ 255)
    | _ => .ok false

def isNumbered (cs : List Char) : Bool :=
  Numeral.isDigits cs && cs.length ≤ 3 && Numeral.natural cs ≤ 255

/-- The text between a word and a closing bracket. -/
def argument? (name cs : List Char) : Option (List Char) :=
  if name.isPrefixOf cs && cs.getLast? == some ')' then some (cs.drop name.length).dropLast
  else none

/-- Is a lower-case word a color? -/
def isColor (w : List Char) : Except ColorFault Bool :=
  match argument? "rgb(".toList w with
  | some triple => isTriple triple
  | none =>
    .ok (w = "default".toList || colorNames.contains w ||
      (match w with
        | '#' :: ds => ds.length == 6 && ds.all isHex
        | _ => false) ||
      (argument? "color(".toList w).any isNumbered)

structure Style where
  /-- Attributes that are on or off, the latest first. -/
  attributes : List (String × Bool) := []
  color : Option (List Char) := none
  background : Option (List Char) := none
  link : Option (List Char) := none

namespace Style

def attribute? (w : List Char) : Option String :=
  (attributeWords.find? (fun ws => ws.contains (String.ofList w))).bind (·.head?)

def withAttribute (s : Style) (name : String) (on : Bool) : Style :=
  { s with attributes := (name, on) :: s.attributes }

/-- Read the words of a name. The first word that does not fit decides; it may be a
color with a fault. -/
def readWords (s : Style) : List (List Char) → Except ColorFault (Option Style)
  | [] => .ok (some s)
  | w :: ws =>
    let l := lower w
    if l = "on".toList then
      match ws with
      | c :: ws =>
        match isColor (lower c) with
        | .error f => .error f
        | .ok false => .ok none
        | .ok true => readWords { s with background := some (lower c) } ws
      | [] => .ok none
    else if l = "not".toList then
      match ws with
      | a :: ws =>
        match attribute? a with
        | some name => readWords (s.withAttribute name false) ws
        | none => .ok none
      | [] => .ok none
    else if l = "link".toList then
      match ws with
      | target :: ws => readWords { s with link := some target } ws
      | [] => .ok none
    else
      match attribute? l with
      | some name => readWords (s.withAttribute name true) ws
      | none =>
        match isColor l with
        | .error f => .error f
        | .ok false => .ok none
        | .ok true => readWords { s with color := some l } ws

/-- The style of a name, if it is one's. -/
def read (name : List Char) : Except ColorFault (Option Style) :=
  if trim name = "none".toList then .ok (some {}) else readWords {} (words name)

def attributeTexts (s : Style) : List String :=
  (attributeWords.filterMap (·.head?)).filterMap fun name =>
    (s.attributes.lookup name).map fun on => if on then name else "not " ++ name

/-- The words of a style in their fixed order. -/
def texts (s : Style) : List String :=
  let text (before : String) (w : List Char) := before ++ String.ofList w
  s.attributeTexts ++ (s.color.map (text "")).toList ++ (s.background.map (text "on ")).toList ++
    (s.link.map (text "link ")).toList

def written (s : Style) : List Char :=
  match s.texts with
  | [] => "none".toList
  | ts => (" ".intercalate ts).toList

/-- The normal form of a name. -/
def normal (name : List Char) : Except ColorFault (List Char) :=
  (read name).map fun s => s.elim (lower (trim name)) written

end Style

end GestureScript.Console
