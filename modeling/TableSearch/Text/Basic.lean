/-! # Texts

A text is the list of its code points, so that offsets, lengths and spans count code points.  The
operations here cut and join texts; each is plain recursion on the list.
-/

namespace TableSearch

/-- A text, as the list of its code points. -/
abbrev Text := List Char

namespace Text

/-- The pieces of a text between the occurrences of a separator: always one more than those. -/
def splitOn (separator : Char) : Text → List Text
  | [] => [[]]
  | c :: rest =>
    if c = separator then [] :: splitOn separator rest
    else
      match splitOn separator rest with
      | [] => [[c]]
      | piece :: pieces => (c :: piece) :: pieces

/-- Texts joined with a separator between neighbours. -/
def join (separator : Text) : List Text → Text
  | [] => []
  | [piece] => piece
  | piece :: pieces => piece ++ separator ++ join separator pieces

/-- Where the first occurrence of a character stands. -/
def indexOf? (c : Char) (text : Text) : Option Nat :=
  text.findIdx? (· == c)

/-- Whether `needle` occurs somewhere in a text. -/
def includes : Text → Text → Bool
  | [], needle => needle.isEmpty
  | c :: rest, needle => needle.isPrefixOf (c :: rest) || includes rest needle

/-- Every character of `marks` removed from both ends. -/
def trimMarks (marks : Text) (text : Text) : Text :=
  ((text.dropWhile marks.contains).reverse.dropWhile marks.contains).reverse

/-- A text of the given length or longer, filled up on the left. -/
def padLeft (width : Nat) (fill : Char) (text : Text) : Text :=
  List.replicate (width - text.length) fill ++ text

/-- The decimal digits of a number. -/
def ofNat (n : Nat) : Text :=
  Nat.toDigits 10 n

/-- The decimal digits of a number, after a minus sign if it is negative. -/
def ofInt : Int → Text
  | .ofNat n => ofNat n
  | .negSucc n => '-' :: ofNat (n + 1)

/-- The text as a string of output. -/
def toString (text : Text) : String :=
  String.ofList text

end Text

/-- The sum of numbers. -/
def total (numbers : List Nat) : Nat :=
  numbers.foldr (· + ·) 0

/-- ASCII digits. -/
def isDigit (c : Char) : Bool :=
  '0' ≤ c && c ≤ '9'

/-- The value of an ASCII digit. -/
def digitValue (c : Char) : Nat :=
  c.toNat - '0'.toNat

/-- The number that ASCII digits denote. -/
def natOfDigits (digits : Text) : Nat :=
  digits.foldl (fun value c => 10 * value + digitValue c) 0

end TableSearch
