import TableSearch.Output.Color
import TableSearch.Text.Quoted

/-! # Styles

A style says how text looks on a terminal: which effects are on or off, its color and the color
behind it.  `Style.ofText` reads a style from words such as `bold red on white`, `Style.text` writes
it, and `Style.paint` wraps a text in the codes that switch it on and off.
-/

namespace TableSearch

/-- An effect that letters can have. -/
inductive Effect where
  | bold
  | dim
  | italic
  | underline
  | blink
  | fastBlink
  | reverse
  | conceal
  | strike
  | doubleUnderline
  | frame
  | encircle
  | overline
deriving DecidableEq, Repr

namespace Effect

/-- All effects in the order in which a style lists them. -/
def all : List Effect :=
  [bold, dim, italic, underline, blink, fastBlink, reverse, conceal, strike, doubleUnderline, frame,
    encircle, overline]

/-- The name of an effect. -/
def name : Effect → String
  | bold => "bold"
  | dim => "dim"
  | italic => "italic"
  | underline => "underline"
  | blink => "blink"
  | fastBlink => "blink2"
  | reverse => "reverse"
  | conceal => "conceal"
  | strike => "strike"
  | doubleUnderline => "underline2"
  | frame => "frame"
  | encircle => "encircle"
  | overline => "overline"

/-- The short name of an effect, if it has one. -/
def shortName? : Effect → Option String
  | bold => some "b"
  | dim => some "d"
  | italic => some "i"
  | underline => some "u"
  | reverse => some "r"
  | conceal => some "c"
  | strike => some "s"
  | doubleUnderline => some "uu"
  | overline => some "o"
  | _ => none

/-- The effect with a name. -/
def named? (word : Text) : Option Effect :=
  all.find? fun effect =>
    effect.name == word.toString || effect.shortName? == some word.toString

/-- The parameter that switches an effect on. -/
def code : Effect → Nat
  | bold => 1
  | dim => 2
  | italic => 3
  | underline => 4
  | blink => 5
  | fastBlink => 6
  | reverse => 7
  | conceal => 8
  | strike => 9
  | doubleUnderline => 21
  | frame => 51
  | encircle => 52
  | overline => 53

end Effect

/-- How text looks. -/
structure Style where
  /-- The effects that are set, on or off. -/
  effects : List (Effect × Bool)
  color : Option Color
  background : Option Color
  link : Option Text
deriving DecidableEq, Repr

/-- Why a text is no style. -/
inductive StyleError where
  | malformed
  /-- A component of a color is no number. -/
  | component (text : Text)
  /-- A component of a color has too many digits. -/
  | longComponent (digits : Nat)
deriving DecidableEq, Repr

namespace StyleError

/-- The wording of an error. -/
def message : StyleError → String
  | malformed => "not a style"
  | component text => "invalid literal for int() with base 10: " ++ text.quoted.toString
  | longComponent digits => PatternError.tooManyDigits digits

/-- The error of a style for an error of a color. -/
def ofColor : ColorError → StyleError
  | .unknown => malformed
  | .component text => component text
  | .longComponent digits => longComponent digits

end StyleError

namespace Style

/-- The style that changes nothing. -/
def plain : Style := ⟨[], none, none, none⟩

/-- Whether an effect is on or off, if it is set. -/
def effect? (style : Style) (effect : Effect) : Option Bool :=
  style.effects.lookup effect

/-- The style with an effect set. -/
def set (style : Style) (effect : Effect) (isOn : Bool) : Style :=
  { style with
    effects := (effect, isOn) :: style.effects.filter (·.1 != effect) }

/-- The second style on top of the first: what it sets wins. -/
def overlay (below above : Style) : Style where
  effects :=
    above.effects ++ below.effects.filter fun set => (above.effect? set.1).isNone
  color := above.color <|> below.color
  background := above.background <|> below.background
  link := above.link <|> below.link

/-! ## Reading -/

/-- A style with the color that a word names. -/
def withColor (style : Style) (word : Text) (isBackground : Bool) : Except StyleError Style :=
  match Color.ofText word with
  | .ok color =>
    .ok (if isBackground then { style with background := some color }
      else { style with color := some color })
  | .error error => .error (.ofColor error)

/-- A style changed by words: an effect, `not` with an effect, a color, `on` with a color, or
`link` with a target. -/
def readWords (style : Style) : List Text → Except StyleError Style
  | [] => .ok style
  | word :: rest =>
    let lower := word.lower
    if lower = "on".toList then
      match rest with
      | [] => .error .malformed
      | color :: rest => do readWords (← style.withColor color true) rest
    else if lower = "not".toList then
      match rest with
      | [] => .error .malformed
      | name :: rest =>
        match Effect.named? name with
        | some effect => readWords (style.set effect false) rest
        | none => .error .malformed
    else if lower = "link".toList then
      match rest with
      | [] => .error .malformed
      | target :: rest => readWords { style with link := some target } rest
    else
      match Effect.named? lower with
      | some effect => readWords (style.set effect true) rest
      | none => do readWords (← style.withColor lower false) rest

/-- The style that a text describes. -/
def ofText (text : Text) : Except StyleError Style :=
  if text.trim = "none".toList then .ok plain else readWords plain text.words

/-! ## Writing -/

/-- The words that describe a style. -/
def words (style : Style) : List Text :=
  Effect.all.filterMap (fun effect =>
    (style.effect? effect).map fun isOn =>
      (if isOn then effect.name else "not " ++ effect.name).toList) ++
    (style.color.map Color.name).toList ++
    (style.background.map fun color => "on ".toList ++ color.name).toList ++
    (style.link.map fun target => "link ".toList ++ target).toList

/-- The text that describes a style. -/
def text (style : Style) : Text :=
  if style.words.isEmpty then "none".toList else Text.join [' '] style.words

/-- A style in its own words, or a text that is no style in lower case. -/
def normalize (described : Text) : Except StyleError Text :=
  match ofText described with
  | .ok style => .ok style.text
  | .error .malformed => .ok described.trim.lower
  | .error error => .error error

/-- The parameters that switch a style on. -/
def codes (style : Style) : List Nat :=
  (Effect.all.filter fun effect => style.effect? effect == some true).map
      Effect.code ++
    (style.color.map (·.code false)).toList ++ (style.background.map (·.code true)).toList

/-- The character that begins a code. -/
def escape : Char := '\x1b'

/-- A text with the link of a style around it. -/
def linked (style : Style) (text : Text) : Text :=
  match style.link with
  | none => text
  | some target =>
    escape :: "]8;;".toList ++ target ++ [escape, '\\'] ++ text ++ escape :: "]8;;".toList ++
      [escape, '\\']

/-- A text between the codes that switch a style on and off. -/
def paint (style : Style) (text : Text) : Text :=
  if text.isEmpty then text
  else if style.codes.isEmpty then style.linked text
  else
    style.linked (escape :: '[' :: Text.join [';'] (style.codes.map Text.ofNat) ++ 'm' :: text ++
      [escape, '[', '0', 'm'])

end Style

end TableSearch
