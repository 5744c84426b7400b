import TableSearch.Text.Basic

/-! # Styled texts

A text some ranges of which wear a style.  Ranges may overlap; a later one lies above the earlier
ones.  `StyledTexts.highlight` styles ranges of a text by means of a library of such texts, and
`StyledText.library` is the one of the command line.
-/

namespace TableSearch

/-- A range of a text that wears a style. -/
structure StyledRange where
  start : Int
  stop : Int
  style : Text
deriving DecidableEq, Repr

/-- A text with styled ranges, the lowest first. -/
structure StyledText where
  text : Text
  ranges : List StyledRange
deriving DecidableEq, Repr

/-- A library of texts with styled ranges. -/
structure StyledTexts (σ : Type) where
  /-- A text without styles. -/
  make : Text → σ
  /-- The text with one more styled range, between two offsets. -/
  stylize : σ → Text → Int → Int → σ
  /-- What is shown. -/
  text : σ → Text
  /-- The ranges that wear a style, the lowest first. -/
  ranges : σ → List StyledRange

/-- A text whose given ranges wear a style; ranges without characters are left out. -/
def StyledTexts.highlight {σ : Type} (library : StyledTexts σ) (text : Text)
    (spans : List (Int × Int)) (style : Text) : σ :=
  spans.foldl
    (fun shown span =>
      if span.1 < span.2 then library.stylize shown style span.1 span.2 else shown)
    (library.make text)

namespace StyledText

/-- The characters that move the cursor or ring a bell; a text that is shown does not hold them. -/
def isStripped (c : Char) : Bool :=
  c.toNat == 7 || c.toNat == 8 || (11 ≤ c.toNat && c.toNat ≤ 13)

/-- A text without styles. -/
def plain (text : Text) : StyledText :=
  ⟨text.filter (!isStripped ·), []⟩

/-- An offset that counts from the end if it is negative. -/
def offset (shown : StyledText) (place : Int) : Int :=
  if place < 0 then place + shown.text.length else place

/-- The text with one more styled range, cut at the end of the text.  A range without characters, or
one that starts behind the text, adds nothing. -/
def stylize (shown : StyledText) (style : Text) (start stop : Int) : StyledText :=
  let first := shown.offset start
  let last := shown.offset stop
  if style.isEmpty || (shown.text.length : Int) ≤ first || last ≤ first then shown
  else { shown with ranges := shown.ranges ++ [⟨first, min last shown.text.length, style⟩] }

/-- The styled texts of the command line. -/
def library : StyledTexts StyledText where
  make := plain
  stylize := stylize
  text := (·.text)
  ranges := (·.ranges)

end StyledText

end TableSearch
