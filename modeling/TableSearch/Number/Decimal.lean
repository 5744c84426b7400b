import TableSearch.Number.Double

/-! # Decimal texts of doubles

Two forms of a finite double in decimal digits: the fewest digits that read back as the same double
(`shortest`), and a given number of significant digits (`rounded`).  The layouts `Decimal.text` and
`Decimal.brief` place the point and the exponent.
-/

namespace TableSearch

/-- The digits and the power of ten of a positive decimal number `digits · 10 ^ exponent`. -/
structure Decimal where
  digits : Nat
  exponent : Int
deriving DecidableEq, Repr

namespace Decimal

/-- A positive fraction. -/
structure Fraction where
  numerator : Nat
  denominator : Nat

/-- The fraction `units · 2 ^ exponent`. -/
def Fraction.ofScaled (units : Nat) : Int → Fraction
  | .ofNat power => ⟨units * Nat.pow 2 power, 1⟩
  | .negSucc power => ⟨units, Nat.pow 2 (power + 1)⟩

/-- A fraction divided by a power of ten. -/
def Fraction.scale (x : Fraction) : Int → Fraction
  | .ofNat power => ⟨x.numerator, x.denominator * Nat.pow 10 power⟩
  | .negSucc power => ⟨x.numerator * Nat.pow 10 (power + 1), x.denominator⟩

/-- Whether `10 ^ power` is at most the fraction. -/
def Fraction.reaches (x : Fraction) (power : Int) : Bool :=
  let scaled := x.scale power
  scaled.denominator ≤ scaled.numerator

/-- The largest `power ≤ start` with `10 ^ power` at most the fraction, sought downwards. -/
def Fraction.leading (x : Fraction) (start : Int) : Nat → Int
  | 0 => start
  | fuel + 1 => if x.reaches start then start else x.leading (start - 1) fuel

/-- The power of ten of the leading digit of a double's magnitude. -/
def leadingPower (significand : Nat) (exponent : Int) : Int :=
  let bits := (Nat.log2 significand : Int) + exponent
  (Fraction.ofScaled significand exponent).leading (bits * 30103 / 100000 + 1) 4

/-- The digits of a number without the zeros at its end, each raising the exponent. -/
def trimZeros (digits : Nat) (exponent : Int) : Nat → Decimal
  | 0 => ⟨digits, exponent⟩
  | fuel + 1 =>
    if digits % 10 = 0 ∧ digits ≠ 0 then trimZeros (digits / 10) (exponent + 1) fuel
    else ⟨digits, exponent⟩

/-- The reals that round to a double, in units of a quarter of its last place. -/
structure RoundingInterval where
  low : Nat
  value : Nat
  high : Nat
  closed : Bool

/-- The interval of a finite positive double: half a place to each side, less below a power of two;
its ends belong to it when the significand is even. -/
def RoundingInterval.of (significand : Nat) (exponent : Int) : RoundingInterval :=
  let lower :=
    if significand = Nat.pow 2 52 ∧ exponent ≠ Double.leastExponent then 4 * significand - 1
    else 4 * significand - 2
  ⟨lower, 4 * significand, 4 * significand + 2, significand % 2 == 0⟩

/-- The shortest digits on the grid of `count` and more digits: the neighbours of the value are
tried, the nearer first. -/
def shortestFrom (interval : RoundingInterval) (exponent leading : Int) (count : Nat) :
    Nat → Decimal
  | 0 => ⟨0, 0⟩
  | fuel + 1 =>
    let step := leading - (count : Int) + 1
    let unit := (Fraction.ofScaled 1 (exponent - 2)).scale step
    -- the value in units of the grid is `value · numerator / denominator`
    let scaled := interval.value * unit.numerator
    let below := scaled / unit.denominator
    let inside (candidate : Nat) : Bool :=
      let position := candidate * unit.denominator
      let low := interval.low * unit.numerator
      let high := interval.high * unit.numerator
      if interval.closed then low ≤ position && position ≤ high
      else low < position && position < high
    let gapBelow := scaled - below * unit.denominator
    let gapAbove := (below + 1) * unit.denominator - scaled
    let nearerBelow := gapBelow < gapAbove || (gapBelow == gapAbove && below % 2 == 0)
    if nearerBelow && below ≠ 0 && inside below then trimZeros below step (count + 1)
    else if inside (below + 1) then
      if !nearerBelow || below = 0 || !inside below then trimZeros (below + 1) step (count + 1)
      else trimZeros below step (count + 1)
    else if below ≠ 0 && inside below then trimZeros below step (count + 1)
    else shortestFrom interval exponent leading (count + 1) fuel

/-- The fewest digits that read back as the double `significand · 2 ^ exponent`, and of those the
nearest to it. -/
def shortest (significand : Nat) (exponent : Int) : Decimal :=
  shortestFrom (RoundingInterval.of significand exponent) exponent
    (leadingPower significand exponent) 1 17

/-- A double to the given number of significant digits, zeros at the end removed. -/
def rounded (count significand : Nat) (exponent : Int) : Decimal :=
  let step := leadingPower significand exponent - (count : Int) + 1
  let scaled := (Fraction.ofScaled significand exponent).scale step
  trimZeros (Double.roundDiv scaled.numerator scaled.denominator) step (count + 1)

/-- How a decimal is laid out: the powers of the leading digit that are written with a point and no
exponent, and whether a whole number gets the fraction `.0`. -/
structure Layout where
  lowest : Int
  highest : Int
  keepPoint : Bool

/-- The layout of a number in full: an exponent below `1e-4` and from `1e16`. -/
def full : Layout := ⟨-4, 15, true⟩

/-- The layout of a number to six digits: an exponent below `1e-4` and from `1e6`. -/
def brief : Layout := ⟨-4, 5, false⟩

/-- An exponent with its sign and at least two digits. -/
def exponentText (exponent : Int) : Text :=
  (if exponent < 0 then ['e', '-'] else ['e', '+']) ++ (Text.ofNat exponent.natAbs).padLeft 2 '0'

/-- A decimal in a layout. -/
def layOut (layout : Layout) (x : Decimal) : Text :=
  let digits := Text.ofNat x.digits
  let leading := x.exponent + digits.length - 1
  if layout.lowest ≤ leading && leading ≤ layout.highest then
    if 0 ≤ x.exponent then
      digits ++ List.replicate x.exponent.toNat '0' ++ if layout.keepPoint then ['.', '0'] else []
    else
      let places := (-x.exponent).toNat
      let padded := digits.padLeft (places + 1) '0'
      padded.take (padded.length - places) ++ '.' :: padded.drop (padded.length - places)
  else
    match digits with
    | [] => []
    | [d] => d :: exponentText leading
    | d :: rest => d :: '.' :: rest ++ exponentText leading

end Decimal

namespace Double

/-- The text of a double with the given digits in the given layout. -/
def textWith (digits : Nat → Int → Decimal) (layout : Decimal.Layout) : Double → Text
  | .nan => "nan".toList
  | .infinite negative => (if negative then "-inf" else "inf").toList
  | .finite negative significand exponent =>
    let sign : Text := if negative then ['-'] else []
    let magnitude : Decimal := if significand = 0 then ⟨0, 0⟩ else digits significand exponent
    sign ++ magnitude.layOut layout

/-- The shortest text that reads back as the double. -/
def text (x : Double) : Text :=
  x.textWith Decimal.shortest Decimal.full

/-- The text of the double to six significant digits. -/
def briefText (x : Double) : Text :=
  x.textWith (Decimal.rounded 6) Decimal.brief

end Double

end TableSearch
