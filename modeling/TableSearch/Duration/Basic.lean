import TableSearch.Text.Case
import TableSearch.Text.Quoted
import TableSearch.Number.Double

/-! # Durations

A length of time such as `1h30m` or `90 seconds`.  A part is a number, blanks, and the spelling of
a unit that no letter follows; parts may be separated by blanks and commas.  `Duration.scan?` reads
the longest run of parts that a text begins with.

Letters of a unit are compared without their case.  Some letters outside ASCII are a case of an
ASCII letter without being its capital; a unit spelled with one of them is found, but its length is
not known, and the scan fails.
-/

namespace TableSearch

/-- A length of time, with the text it was read from. -/
structure Duration where
  text : Text
  seconds : Double
deriving DecidableEq, Repr

/-- A unit was found by its letters but is spelled with letters that no unit has. -/
structure UnknownUnit where
  spelling : Text
deriving DecidableEq, Repr

namespace UnknownUnit

/-- The wording of the failure: the spelling between quotes. -/
def message (problem : UnknownUnit) : String :=
  problem.spelling.quoted.toString

end UnknownUnit

namespace Duration

/-- The order of two durations; what is not a number stands above. -/
def order (mine theirs : Duration) : Ordering :=
  (Double.order? mine.seconds theirs.seconds).getD .gt

/-- The duration without the sign of a zero. -/
def plain (length : Duration) : Duration :=
  { length with seconds := length.seconds.plain }

/-- The spellings of the units, the longest first, with their length in thousandths of a second. -/
def units : List (Text × Nat) :=
  [("milliseconds", 1), ("millisecond", 1), ("minutes", 60000), ("seconds", 1000),
    ("millis", 1), ("minute", 60000), ("months", 2592000000), ("second", 1000), ("hours", 3600000),
    ("month", 2592000000), ("msecs", 1), ("weeks", 604800000), ("years", 31536000000),
    ("days", 86400000), ("hour", 3600000), ("mins", 60000), ("msec", 1), ("secs", 1000),
    ("week", 604800000), ("year", 31536000000), ("day", 86400000), ("hrs", 3600000),
    ("min", 60000), ("sec", 1000), ("wks", 604800000), ("yrs", 31536000000), ("hr", 3600000),
    ("mo", 2592000000), ("ms", 1), ("wk", 604800000), ("yr", 31536000000), ("d", 86400000),
    ("h", 3600000), ("m", 60000), ("s", 1000), ("w", 604800000), ("y", 31536000000)].map
    fun (spelling, thousandths) => (spelling.toList, thousandths)

/-- The length of a unit in seconds. -/
def unitSeconds? (spelling : Text) : Option Double :=
  (units.lookup spelling).map fun thousandths => Double.ofRatio false thousandths 1000

/-- Whether a text begins with a word in some case. -/
def beginsWith (word text : Text) : Bool :=
  match word, text with
  | [], _ => true
  | _ :: _, [] => false
  | w :: word, c :: text =>
    CharCase.foldCode c.toNat == CharCase.foldCode w.toNat && beginsWith word text

/-- The length of the longest spelling of a unit that a text begins with and no letter follows. -/
def unitLength? (text : Text) : Option Nat :=
  (units.map Prod.fst).findSome? fun spelling =>
    if beginsWith spelling text && !(text[spelling.length]?).any CharClass.isLetter then
      some spelling.length
    else none

/-- A part of a duration: the digits of its number, before and after the point, and its unit. -/
structure Part where
  whole : Text
  fraction : Text
  unit : Text
deriving DecidableEq, Repr

namespace Part

/-- The value of digits of any script. -/
def digitsValue (digits : Text) : Nat :=
  digits.foldl (fun value c => 10 * value + (CharClass.decimalValue? c).getD 0) 0

/-- The number of a part. -/
def number (part : Part) : Double :=
  Double.ofDecimal false (digitsValue (part.whole ++ part.fraction)) (-(part.fraction.length : Int))

/-- The length of a part in seconds. -/
def seconds (part : Part) : Except UnknownUnit Double :=
  match unitSeconds? part.unit.lower with
  | some unit => .ok (part.number.mul unit)
  | none => .error ⟨part.unit.lower⟩

end Part

/-- Blanks that may stand between a number and its unit. -/
def isGap (c : Char) : Bool :=
  c == ' ' || c == '\t'

/-- Characters that may stand between two parts. -/
def isSeparator (c : Char) : Bool :=
  isGap c || c == ','

/-- The part that a text begins with, and the text after it. -/
def scanPart? (text : Text) : Option (Part × Text) :=
  let whole := text.takeWhile CharClass.isDecimal
  let afterWhole := text.dropWhile CharClass.isDecimal
  let (fraction, afterNumber) :=
    match afterWhole with
    | '.' :: rest =>
      let digits := rest.takeWhile CharClass.isDecimal
      if digits.isEmpty then ([], afterWhole) else (digits, rest.dropWhile CharClass.isDecimal)
    | _ => ([], afterWhole)
  let afterGap := afterNumber.dropWhile isGap
  if whole.isEmpty then none
  else
    (unitLength? afterGap).map fun length =>
      (⟨whole, fraction, afterGap.take length⟩, afterGap.drop length)

/-- The parts that a text begins with, up to the first place where none follows, and the text after
the last of them. -/
def scanParts (text : Text) : Nat → List Part × Text
  | 0 => ([], text)
  | rounds + 1 =>
    match scanPart? text with
    | none => ([], text)
    | some (part, rest) =>
      let (parts, last) := scanParts (rest.dropWhile isSeparator) rounds
      if parts.isEmpty then ([part], rest) else (part :: parts, last)

/-- The sum of the lengths of parts, from left to right. -/
def total (sum : Double) : List Part → Except UnknownUnit Double
  | [] => .ok sum
  | part :: rest =>
    match part.seconds with
    | .ok seconds => total (sum.add seconds) rest
    | .error problem => .error problem

/-- The longest duration that a text begins with. -/
def scan? (text : Text) : Except UnknownUnit (Option Duration) :=
  match scanParts text (text.length + 1) with
  | ([], _) => .ok none
  | (parts, rest) =>
    (total (Double.zero false) parts).map fun seconds =>
      some ⟨text.take (text.length - rest.length), seconds⟩

/-- The longest duration at an offset of a text. -/
def scanAt? (text : Text) (start : Nat) : Except UnknownUnit (Option Duration) :=
  scan? (text.drop start)

/-- The duration that a text is as a whole. -/
def readWhole? (text : Text) : Except UnknownUnit (Option Duration) :=
  (scan? text).map fun found => found.filter fun duration => duration.text.length == text.length

end Duration

end TableSearch
