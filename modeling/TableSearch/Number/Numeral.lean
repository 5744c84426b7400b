import TableSearch.Number.Double

/-! # Numerals

A whole text as a double: an optional sign, then `inf`, `nan`, or digits with an optional point and
exponent.
-/

namespace TableSearch

namespace Double

/-- A sign at the start of a text: whether it is a minus, and the text after it. -/
def takeSign : Text → Bool × Text
  | '-' :: rest => (true, rest)
  | '+' :: rest => (false, rest)
  | text => (false, text)

/-- The exponent that a text is as a whole; without characters it is zero. -/
def exponent? (text : Text) : Option Int :=
  match text with
  | [] => some 0
  | e :: rest =>
    let (negative, digits) := takeSign rest
    if (e = 'e' || e = 'E') && !digits.isEmpty && digits.all isDigit then
      some (if negative then -(natOfDigits digits : Int) else natOfDigits digits)
    else none

/-- The double that a numeral writes. -/
def ofText? (text : Text) : Option Double :=
  let (negative, body) := takeSign text
  if body = "inf".toList then some (.infinite negative)
  else if body = "nan".toList then some .nan
  else
    let whole := body.takeWhile isDigit
    let (fraction, rest) :=
      match body.dropWhile isDigit with
      | '.' :: rest => (rest.takeWhile isDigit, rest.dropWhile isDigit)
      | rest => ([], rest)
    if whole.isEmpty && fraction.isEmpty then none
    else
      (exponent? rest).map fun power =>
        ofDecimal negative (natOfDigits (whole ++ fraction)) (power - fraction.length)

end Double

end TableSearch
