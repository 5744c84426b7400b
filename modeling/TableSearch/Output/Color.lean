import TableSearch.Pattern.Syntax
import TableSearch.Text.Case

/-! # Colors

A color of a terminal: its own default, one of a numbered palette, or a mixture of red, green and
blue.  `Color.codes` gives the parameters that select a color on a terminal with sixteen colors; the
other colors are replaced by the nearest of these.
-/

namespace TableSearch

/-- What a color is. -/
inductive Shade where
  | default
  | numbered (number : Nat)
  | mixed (red green blue : Nat)
deriving DecidableEq, Repr

/-- A color with the name by which it was asked for. -/
structure Color where
  name : Text
  shade : Shade
deriving DecidableEq, Repr

/-- Why a word is no color. -/
inductive ColorError where
  | unknown
  /-- A component of a mixture is no number. -/
  | component (text : Text)
  /-- A component of a mixture has too many digits. -/
  | longComponent (digits : Nat)
deriving DecidableEq, Repr

namespace Color

/-- The names of the numbered colors. -/
def names : List (String × Nat) :=
  [("black", 0), ("red", 1), ("green", 2), ("yellow", 3), ("blue", 4), ("magenta", 5),
    ("cyan", 6), ("white", 7), ("bright_black", 8), ("bright_red", 9), ("bright_green", 10),
    ("bright_yellow", 11), ("bright_blue", 12), ("bright_magenta", 13), ("bright_cyan", 14),
    ("bright_white", 15), ("grey0", 16), ("gray0", 16), ("navy_blue", 17), ("dark_blue", 18),
    ("blue3", 20), ("blue1", 21), ("dark_green", 22), ("deep_sky_blue4", 25),
    ("dodger_blue3", 26), ("dodger_blue2", 27), ("green4", 28), ("spring_green4", 29),
    ("turquoise4", 30), ("deep_sky_blue3", 32), ("dodger_blue1", 33), ("green3", 40),
    ("spring_green3", 41), ("dark_cyan", 36), ("light_sea_green", 37), ("deep_sky_blue2", 38),
    ("deep_sky_blue1", 39), ("spring_green2", 47), ("cyan3", 43), ("dark_turquoise", 44),
    ("turquoise2", 45), ("green1", 46), ("spring_green1", 48), ("medium_spring_green", 49),
    ("cyan2", 50), ("cyan1", 51), ("dark_red", 88), ("deep_pink4", 125), ("purple4", 55),
    ("purple3", 56), ("blue_violet", 57), ("orange4", 94), ("grey37", 59), ("gray37", 59),
    ("medium_purple4", 60), ("slate_blue3", 62), ("royal_blue1", 63), ("chartreuse4", 64),
    ("dark_sea_green4", 71), ("pale_turquoise4", 66), ("steel_blue", 67), ("steel_blue3", 68),
    ("cornflower_blue", 69), ("chartreuse3", 76), ("cadet_blue", 73), ("sky_blue3", 74),
    ("steel_blue1", 81), ("pale_green3", 114), ("sea_green3", 78), ("aquamarine3", 79),
    ("medium_turquoise", 80), ("chartreuse2", 112), ("sea_green2", 83), ("sea_green1", 85),
    ("aquamarine1", 122), ("dark_slate_gray2", 87), ("dark_magenta", 91), ("dark_violet", 128),
    ("purple", 129), ("light_pink4", 95), ("plum4", 96), ("medium_purple3", 98),
    ("slate_blue1", 99), ("yellow4", 106), ("wheat4", 101), ("grey53", 102), ("gray53", 102),
    ("light_slate_grey", 103), ("light_slate_gray", 103), ("medium_purple", 104),
    ("light_slate_blue", 105), ("dark_olive_green3", 149), ("dark_sea_green", 108),
    ("light_sky_blue3", 110), ("sky_blue2", 111), ("dark_sea_green3", 150),
    ("dark_slate_gray3", 116), ("sky_blue1", 117), ("chartreuse1", 118), ("light_green", 120),
    ("pale_green1", 156), ("dark_slate_gray1", 123), ("red3", 160), ("medium_violet_red", 126),
    ("magenta3", 164), ("dark_orange3", 166), ("indian_red", 167), ("hot_pink3", 168),
    ("medium_orchid3", 133), ("medium_orchid", 134), ("medium_purple2", 140),
    ("dark_goldenrod", 136), ("light_salmon3", 173), ("rosy_brown", 138), ("grey63", 139),
    ("gray63", 139), ("medium_purple1", 141), ("gold3", 178), ("dark_khaki", 143),
    ("navajo_white3", 144), ("grey69", 145), ("gray69", 145), ("light_steel_blue3", 146),
    ("light_steel_blue", 147), ("yellow3", 184), ("dark_sea_green2", 157), ("light_cyan3", 152),
    ("light_sky_blue1", 153), ("green_yellow", 154), ("dark_olive_green2", 155),
    ("dark_sea_green1", 193), ("pale_turquoise1", 159), ("deep_pink3", 162), ("magenta2", 200),
    ("hot_pink2", 169), ("orchid", 170), ("medium_orchid1", 207), ("orange3", 172),
    ("light_pink3", 174), ("pink3", 175), ("plum3", 176), ("violet", 177),
    ("light_goldenrod3", 179), ("tan", 180), ("misty_rose3", 181), ("thistle3", 182),
    ("plum2", 183), ("khaki3", 185), ("light_goldenrod2", 222), ("light_yellow3", 187),
    ("grey84", 188), ("gray84", 188), ("light_steel_blue1", 189), ("yellow2", 190),
    ("dark_olive_green1", 192), ("honeydew2", 194), ("light_cyan1", 195), ("red1", 196),
    ("deep_pink2", 197), ("deep_pink1", 199), ("magenta1", 201), ("orange_red1", 202),
    ("indian_red1", 204), ("hot_pink", 206), ("dark_orange", 208), ("salmon1", 209),
    ("light_coral", 210), ("pale_violet_red1", 211), ("orchid2", 212), ("orchid1", 213),
    ("orange1", 214), ("sandy_brown", 215), ("light_salmon1", 216), ("light_pink1", 217),
    ("pink1", 218), ("plum1", 219), ("gold1", 220), ("navajo_white1", 223), ("misty_rose1", 224),
    ("thistle1", 225), ("yellow1", 226), ("light_goldenrod1", 227), ("khaki1", 228),
    ("wheat1", 229), ("cornsilk1", 230), ("grey100", 231), ("gray100", 231), ("grey3", 232),
    ("gray3", 232), ("grey7", 233), ("gray7", 233), ("grey11", 234), ("gray11", 234),
    ("grey15", 235), ("gray15", 235), ("grey19", 236), ("gray19", 236), ("grey23", 237),
    ("gray23", 237), ("grey27", 238), ("gray27", 238), ("grey30", 239), ("gray30", 239),
    ("grey35", 240), ("gray35", 240), ("grey39", 241), ("gray39", 241), ("grey42", 242),
    ("gray42", 242), ("grey46", 243), ("gray46", 243), ("grey50", 244), ("gray50", 244),
    ("grey54", 245), ("gray54", 245), ("grey58", 246), ("gray58", 246), ("grey62", 247),
    ("gray62", 247), ("grey66", 248), ("gray66", 248), ("grey70", 249), ("gray70", 249),
    ("grey74", 250), ("gray74", 250), ("grey78", 251), ("gray78", 251), ("grey82", 252),
    ("gray82", 252), ("grey85", 253), ("gray85", 253), ("grey89", 254), ("gray89", 254),
    ("grey93", 255), ("gray93", 255)]

/-! ## Reading -/

/-- The value of a hexadecimal digit in lower case. -/
def hexValue? (c : Char) : Option Nat :=
  if isDigit c then some (digitValue c)
  else if 'a' ≤ c && c ≤ 'f' then some (c.toNat - 'a'.toNat + 10)
  else none

/-- The mixture that six hexadecimal digits write. -/
def ofHex? (digits : Text) : Option Shade :=
  (digits.mapM hexValue?).bind fun
    | [r₁, r₂, g₁, g₂, b₁, b₂] => some (.mixed (16 * r₁ + r₂) (16 * g₁ + g₂) (16 * b₁ + b₂))
    | _ => none

/-- The text between an opening word and a closing parenthesis. -/
def inside? (opening : String) (word : Text) : Option Text :=
  if opening.toList.isPrefixOf word && word.getLast? = some ')' then
    some ((word.drop opening.length).dropLast)
  else none

/-- The numbered color that digits write. -/
def ofNumber? (digits : Text) : Option Shade :=
  let number := natOfDigits digits
  if 1 ≤ digits.length && digits.length ≤ 3 && digits.all isDigit && number ≤ 255 then
    some (.numbered number)
  else none

/-- The value of a component of a mixture; digits of every script count, and blanks around them do
not. -/
def component (text : Text) : Except ColorError Nat :=
  match text.trim.mapM CharClass.decimalValue? with
  | some (first :: rest) =>
    if PatternError.digitLimit < (first :: rest).length then
      .error (.longComponent (first :: rest).length)
    else .ok ((first :: rest).foldl (fun value digit => 10 * value + digit) 0)
  | _ => .error (.component text)

/-- The mixture that components with commas between them write. -/
def ofComponents (text : Text) : Except ColorError Shade :=
  if text.isEmpty || !text.all (fun c => CharClass.isDecimal c || CharClass.isBlank c || c == ',')
  then .error .unknown
  else
    match text.splitOn ',' with
    | [red, green, blue] => do
      let red ← component red
      let green ← component green
      let blue ← component blue
      if red ≤ 255 && green ≤ 255 && blue ≤ 255 then return .mixed red green blue
      else .error .unknown
    | _ => .error .unknown

/-- What the color that a word in lower case names is. -/
def shadeOf (word : Text) : Except ColorError Shade :=
  let known (shade : Option Shade) : Except ColorError Shade := shade.elim (.error .unknown) .ok
  match names.lookup word.toString with
  | some number => .ok (.numbered number)
  | none =>
    match word with
    | '#' :: digits => known (ofHex? digits)
    | _ =>
      if word = "default".toList then .ok .default
      else
        match inside? "color(" word, inside? "rgb(" word with
        | some digits, _ => known (ofNumber? digits)
        | none, some components => ofComponents components
        | none, none => .error .unknown

/-- The color that a word names. -/
def ofText (word : Text) : Except ColorError Color :=
  let name := word.lower.trim
  (shadeOf name).map (⟨name, ·⟩)

/-! ## The terminal -/

/-- The mixtures of the sixteen colors of a terminal. -/
def standardMixtures : List (Nat × Nat × Nat) :=
  [(0, 0, 0), (170, 0, 0), (0, 170, 0), (170, 85, 0), (0, 0, 170), (170, 0, 170), (0, 170, 170),
    (170, 170, 170), (85, 85, 85), (255, 85, 85), (85, 255, 85), (255, 255, 85), (85, 85, 255),
    (255, 85, 255), (85, 255, 255), (255, 255, 255)]

/-- The mixture of a numbered color from 16 on: a cube with six steps on each side, then greys. -/
def mixtureOf (number : Nat) : Nat × Nat × Nat :=
  if number < 232 then
    let place := number - 16
    let level (step : Nat) : Nat := if step = 0 then 0 else 55 + 40 * step
    (level (place / 36), level (place / 6 % 6), level (place % 6))
  else
    let grey := 8 + 10 * (number - 232)
    (grey, grey, grey)

/-- The square of how far two mixtures are apart.  The weights of red and blue depend on the mean of
the reds. -/
def distance : Nat × Nat × Nat → Nat × Nat × Nat → Nat
  | (r₁, g₁, b₁), (r₂, g₂, b₂) =>
    let square (a b : Nat) : Nat := Nat.pow ((a : Int) - b).natAbs 2
    let mean := (r₁ + r₂) / 2
    (512 + mean) * square r₁ r₂ / 256 + 4 * square g₁ g₂ + (767 - mean) * square b₁ b₂ / 256

/-- The number of the nearest of the sixteen colors; of several the first. -/
def nearest (mixture : Nat × Nat × Nat) : Nat :=
  let distances := standardMixtures.map (distance mixture)
  let least := distances.foldl min (distances.headD 0)
  distances.findIdx (· == least)

/-- The number of the terminal color for a shade; none for its default. -/
def standard? : Shade → Option Nat
  | .default => none
  | .numbered number => some (if number < 16 then number else nearest (mixtureOf number))
  | .mixed red green blue => some (nearest (red, green, blue))

/-- The parameter that selects a color, for letters or for what is behind them. -/
def code (color : Color) (isBackground : Bool) : Nat :=
  let shift := if isBackground then 10 else 0
  match standard? color.shade with
  | none => 39 + shift
  | some number => (if number < 8 then 30 + number else 82 + number) + shift

end Color

end TableSearch
