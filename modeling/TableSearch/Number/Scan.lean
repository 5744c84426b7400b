import TableSearch.Text.Case
import TableSearch.Number.Double

/-! # Numbers at the start of a text

`FoundNumber.scan` reads the longest number a text starts with: an optional minus sign and then
`nan`, at least three letters of `infinity`, or digits with an optional point and exponent.  A
number stands for the interval of half a unit of its last place to both sides.
-/

namespace TableSearch

/-- A number found at the start of a text: the values it may stand for and its length. -/
structure FoundNumber where
  low : Double
  high : Double
  length : Nat
deriving DecidableEq, Repr

namespace FoundNumber

/-- The parts of a decimal numeral: `whole [. fraction] [e [-] exponent]`. -/
structure Numeral where
  whole : Text
  pointed : Bool
  fraction : Text
  exponent : Option (Bool × Text)
deriving DecidableEq, Repr

namespace Numeral

/-- How many characters the numeral fills. -/
def length (numeral : Numeral) : Nat :=
  numeral.whole.length + (if numeral.pointed then 1 else 0) + numeral.fraction.length +
    match numeral.exponent with
    | none => 0
    | some (negative, digits) => 1 + (if negative then 1 else 0) + digits.length

/-- The typed exponent as a number. -/
def exponentValue (numeral : Numeral) : Int :=
  match numeral.exponent with
  | none => 0
  | some (negative, digits) =>
    if negative then -(natOfDigits digits : Int) else natOfDigits digits

/-- The power of ten of the last digit that was typed. -/
def lastPlace (numeral : Numeral) : Int :=
  numeral.exponentValue - numeral.fraction.length

/-- The number that the numeral writes. -/
def value (negative : Bool) (numeral : Numeral) : Double :=
  Double.ofDecimal negative (natOfDigits (numeral.whole ++ numeral.fraction)) numeral.lastPlace

end Numeral

/-- Digits, an optional point and more digits, with at least one digit in all, and the text after
them. -/
def scanMantissa (text : Text) : Option (Numeral × Text) :=
  let whole := text.takeWhile isDigit
  match text.dropWhile isDigit with
  | '.' :: rest =>
    let fraction := rest.takeWhile isDigit
    if whole.isEmpty && fraction.isEmpty then none
    else some (⟨whole, true, fraction, none⟩, rest.dropWhile isDigit)
  | rest => if whole.isEmpty then none else some (⟨whole, false, [], none⟩, rest)

/-- The most characters an exponent may have, its sign included. -/
def exponentLimit : Nat := 19

/-- A complete exponent after the letter `e`: whether it has a minus sign, and its digits. -/
def scanExponent (text : Text) : Option (Bool × Text) :=
  let (negative, rest) := match text with
    | '-' :: rest => (true, rest)
    | _ => (false, text)
  let digits := rest.takeWhile isDigit
  if digits.isEmpty || exponentLimit < digits.length + (if negative then 1 else 0) then none
  else some (negative, digits)

/-- Whether the numeral is a run of zeros without a point. -/
def isTrivial (numeral : Numeral) : Bool :=
  !numeral.pointed && numeral.whole.all (· == '0')

/-- The numeral at the start of a text.  Zeros directly before an `e` are no number. -/
def scanNumeral (text : Text) : Option Numeral :=
  match scanMantissa text with
  | none => none
  | some (numeral, rest) =>
    match rest with
    | e :: after =>
      if e = 'e' || e = 'E' then
        if isTrivial numeral then none else some { numeral with exponent := scanExponent after }
      else some numeral
    | [] => some numeral

/-- How many characters at the start of a text spell the start of `word` in some case. -/
def matchedLength : Text → Text → Nat
  | w :: word, c :: text => if CharCase.lowerForm c = [w] then matchedLength word text + 1 else 0
  | _, _ => 0

/-- The word for the infinite number. -/
def infinityWord : Text := "infinity".toList

/-- The word for what is not a number. -/
def nanWord : Text := "nan".toList

/-- The interval of a numeral: its value and half a unit of its last place to both sides. -/
def ofNumeral (negative : Bool) (numeral : Numeral) (length : Nat) : FoundNumber :=
  let value := numeral.value negative
  let tolerance := (Double.powerOfTen numeral.lastPlace).half
  ⟨value.sub tolerance, value.add tolerance, length⟩

/-- The number after the sign. -/
def scanUnsigned (negative : Bool) (signLength : Nat) (body : Text) : Option FoundNumber :=
  let infinite := matchedLength infinityWord body
  if matchedLength nanWord body = 3 then some ⟨.nan, .nan, signLength + 3⟩
  else if 3 ≤ infinite then
    some ⟨.infinite negative, .infinite negative, signLength + infinite⟩
  else
    (scanNumeral body).map fun numeral => ofNumeral negative numeral (signLength + numeral.length)

/-- The number a text starts with. -/
def scan : Text → Option FoundNumber
  | '-' :: body => scanUnsigned true 1 body
  | text => scanUnsigned false 0 text

/-- The number at an offset of a text. -/
def scanAt (text : Text) (start : Nat) : Option FoundNumber :=
  scan (text.drop start)

/-- The number that a text is as a whole. -/
def scanWhole (text : Text) : Option FoundNumber :=
  (scan text).filter (·.length == text.length)

end FoundNumber

end TableSearch
