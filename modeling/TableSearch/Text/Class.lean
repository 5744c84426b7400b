import TableSearch.Text.Basic
import TableSearch.Text.ClassTable

/-! # Character classes

Blank, alphanumeric, decimal and printable characters.  Each class answers for ASCII by comparing
and for the rest by a search in its table.
-/

namespace TableSearch

namespace CharTable

/-- How many of the ascending `ends` are at or below `code`, counted from `low` and searched below
`high`. -/
def rank (ends : Array Nat) (code low high : Nat) : Nat :=
  if low < high then
    let middle := (low + high) / 2
    if ends.getD middle 0 ≤ code then rank ends code (middle + 1) high
    else rank ends code low middle
  else low
termination_by high - low

/-- Whether `code` lies in the class with the given ends. -/
def member (ends : Array Nat) (code : Nat) : Bool :=
  rank ends code 0 ends.size % 2 == 1

end CharTable

namespace CharClass

/-- White space: what separates tokens and may be trimmed. -/
def isBlank (c : Char) : Bool :=
  let code := c.toNat
  if code < 128 then code == 32 || (9 ≤ code && code ≤ 13) || (28 ≤ code && code ≤ 31)
  else code == 0x85 || code == 0xA0 || code == 0x1680 || (0x2000 ≤ code && code ≤ 0x200A)
    || code == 0x2028 || code == 0x2029 || code == 0x202F || code == 0x205F || code == 0x3000

/-- Letters of the ASCII range. -/
def isAsciiLetter (c : Char) : Bool :=
  ('a' ≤ c && c ≤ 'z') || ('A' ≤ c && c ≤ 'Z')

/-- Letters and numbers of every script. -/
def isAlphanumeric (c : Char) : Bool :=
  if c.toNat < 128 then isAsciiLetter c || isDigit c
  else CharTable.member CharTable.alphanumericEnds c.toNat

/-- The value of a decimal digit of any script. -/
def decimalValue? (c : Char) : Option Nat :=
  if c.toNat < 128 then if isDigit c then some (digitValue c) else none
  else
    (CharTable.decimalZeros.find? fun base => base ≤ c.toNat && c.toNat ≤ base + 9).map
      (c.toNat - ·)

/-- Decimal digits of any script. -/
def isDecimal (c : Char) : Bool :=
  (decimalValue? c).isSome

/-- Characters of words: letters, numbers and the underscore. -/
def isWord (c : Char) : Bool :=
  c == '_' || isAlphanumeric c

/-- Word characters that are neither decimal digits nor the underscore. -/
def isLetter (c : Char) : Bool :=
  isAlphanumeric c && !isDecimal c

/-- Characters that a quoted text shows as themselves. -/
def isPrintable (c : Char) : Bool :=
  if c.toNat < 128 then 32 ≤ c.toNat && c.toNat < 127
  else CharTable.member CharTable.printableEnds c.toNat

/-- Characters a name in a pattern may start with. -/
def isNameStart (c : Char) : Bool :=
  if c.toNat < 128 then c == '_' || isAsciiLetter c
  else CharTable.member CharTable.nameStartEnds c.toNat

/-- Characters a name in a pattern may go on with. -/
def isNamePart (c : Char) : Bool :=
  if c.toNat < 128 then c == '_' || isAsciiLetter c || isDigit c
  else CharTable.member CharTable.namePartEnds c.toNat

/-- How many columns of a terminal a character fills. -/
def width (c : Char) : Nat :=
  if c.toNat < 32 then 0
  else if c.toNat < 127 then 1
  else if c.toNat < 160 then 0
  else if CharTable.member CharTable.wideEnds c.toNat then 2
  else if CharTable.member CharTable.zeroWidthEnds c.toNat then 0
  else 1

end CharClass

namespace Text

/-- Blanks removed from both ends. -/
def trim (text : Text) : Text :=
  ((text.dropWhile CharClass.isBlank).reverse.dropWhile CharClass.isBlank).reverse

/-- Whether a text has characters and all of them are blank. -/
def isBlank (text : Text) : Bool :=
  !text.isEmpty && text.all CharClass.isBlank

/-- Auxiliary scan of `words`: the word being read, in reverse, and the text after it. -/
def wordsFrom : Text → Text → List Text
  | [], [] => []
  | current, [] => [current.reverse]
  | current, c :: rest =>
    if CharClass.isBlank c then
      if current.isEmpty then wordsFrom [] rest else current.reverse :: wordsFrom [] rest
    else wordsFrom (c :: current) rest

/-- The maximal runs of non-blank characters. -/
def words (text : Text) : List Text :=
  wordsFrom [] text

/-- How many columns of a terminal a text fills. -/
def width (text : Text) : Nat :=
  total (text.map CharClass.width)

end Text

end TableSearch
