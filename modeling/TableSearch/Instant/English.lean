import TableSearch.Instant.Basic
import TableSearch.Instant.Calendar
import TableSearch.Text.Case

/-! # Reading English dates

`English.readDate` reads a text as a date in three steps.

* The text is tidied: blanks are joined, points behind letters and colons at the end are dropped.
* It is cut into pieces: numbers, words and joining marks.  Every word has to be known.  A time
  zone at the end is taken away; it does not change the fields.
* The pieces are laid out again and read from left to right.  A number is a month, a day or a year,
  the first of these that it fits and that is still open; a time has a colon, or stands before `am`
  or `pm`.
-/

namespace TableSearch

namespace English

/-! ## Tidying -/

/-- Marks that count as blanks. -/
def isFiller (c : Char) : Bool :=
  ['»', '·', '\u200e', '\u200f', '\u064e', '\u064f'].contains c

/-- Every run of blanks as one space. -/
def joinBlanks : Text → Text
  | [] => []
  | c :: rest =>
    if CharClass.isBlank c || isFiller c then
      match joinBlanks rest with
      | ' ' :: tail => ' ' :: tail
      | tail => ' ' :: tail
    else c :: joinBlanks rest

/-- The text without the points that follow something other than a digit or a blank. -/
def dropPoints (previous : Option Char) : Text → Text
  | [] => []
  | c :: rest =>
    if c = '.' && previous.any fun p => !isDigit p && !CharClass.isBlank p then
      dropPoints (some c) rest
    else c :: dropPoints (some c) rest

/-- The text after the first `on:` that a blank follows; the whole text if there is none. -/
def afterOn (text : Text) : Text :=
  let rec seek : Text → Option Text
    | 'o' :: 'n' :: ':' :: ' ' :: rest => some (rest.dropWhile (· == ' '))
    | _ :: rest => seek rest
    | [] => none
  (seek text).getD text

/-- The text without colons at its end. -/
def dropLastColons (text : Text) : Text :=
  (text.reverse.dropWhile (· == ':')).reverse

/-- A text in the form in which it is cut into pieces. -/
def tidy (text : Text) : Text :=
  Text.trim (dropLastColons (afterOn (dropPoints none (joinBlanks text))))

/-! ## Pieces -/

/-- A piece of a text: a number, a word, a mark that joins pieces, or something that only separates
them. -/
inductive Piece where
  | number (digits : Text)
  | word (letters : Text)
  | mark (c : Char)
  | gap
deriving DecidableEq, Repr

/-- The marks that join pieces. -/
def isMark (c : Char) : Bool :=
  ['+', ':', '.', ' ', '-', '/'].contains c

/-- The ASCII form of a decimal digit. -/
def plainDigit (c : Char) : Char :=
  match CharClass.decimalValue? c with
  | some value => Char.ofNat ('0'.toNat + value)
  | none => c

/-- A text cut into pieces. -/
def pieces (text : Text) : List Piece :=
  match text with
  | [] => []
  | c :: rest =>
    if CharClass.isDecimal c then
      .number ((c :: rest.takeWhile CharClass.isDecimal).map plainDigit) ::
        pieces (rest.dropWhile CharClass.isDecimal)
    else if CharClass.isLetter c then
      .word (c :: rest.takeWhile CharClass.isLetter) :: pieces (rest.dropWhile CharClass.isLetter)
    else (if isMark c then .mark c else .gap) :: pieces rest
termination_by text.length
decreasing_by
  · have := (List.dropWhile_sublist (l := rest) CharClass.isDecimal).length_le
    simp only [List.length_cons]
    omega
  · have := (List.dropWhile_sublist (l := rest) CharClass.isLetter).length_le
    simp only [List.length_cons]
    omega
  · simp

/-- Hours and minutes with letters as a time: `9h05` and `9h05m`.  The flag says whether a number or
a word stands directly before. -/
def spellTimes (joined : Bool) : List Piece → List Piece
  | .number hours :: .word ['h'] :: .number minutes :: .word ['m'] :: rest =>
    if joined || (match rest with | .number _ :: _ => true | _ => false) then
      .number hours :: spellTimes true (.word ['h'] :: .number minutes :: .word ['m'] :: rest)
    else .number hours :: .mark ':' :: .number minutes :: spellTimes true rest
  | .number hours :: .word ['h'] :: .number minutes :: rest =>
    if joined || (match rest with | .word _ :: _ => true | _ => false) then
      .number hours :: spellTimes true (.word ['h'] :: .number minutes :: rest)
    else .number hours :: .mark ':' :: .number minutes :: spellTimes true rest
  | piece :: rest =>
    piece :: spellTimes (match piece with | .number _ | .word _ => true | _ => false) rest
  | [] => []

/-- Noon and midnight, with or without a twelve before them, as times. -/
def spellNoon : List Piece → List Piece
  | .number ['1', '2'] :: .mark ' ' :: .word word :: rest =>
    if word = "noon".toList then
      .number ['1', '2'] :: .mark ':' :: .number ['0', '0'] :: spellNoon rest
    else if word = "midnight".toList then
      .number ['0', '0'] :: .mark ':' :: .number ['0', '0'] :: spellNoon rest
    else .number ['1', '2'] :: .mark ' ' :: .word word :: spellNoon rest
  | .word word :: rest =>
    if word = "noon".toList then
      .number ['1', '2'] :: .mark ':' :: .number ['0', '0'] :: spellNoon rest
    else if word = "midnight".toList then
      .number ['0', '0'] :: .mark ':' :: .number ['0', '0'] :: spellNoon rest
    else .word word :: spellNoon rest
  | piece :: rest => piece :: spellNoon rest
  | [] => []

/-- The words for small numbers, with their digits. -/
def numberWords : List (Text × Text) :=
  [("a", "1"), ("an", "1"), ("one", "1"), ("two", "2"), ("three", "3"), ("four", "4"),
    ("five", "5"), ("six", "6"), ("seven", "7"), ("eight", "8"), ("nine", "9"), ("ten", "10"),
    ("eleven", "11"), ("twelve", "12")].map fun (word, digits) => (word.toList, digits.toList)

/-- Whether a piece is one character that is neither a letter nor a digit. -/
def isSeparator : Piece → Bool
  | .mark _ | .gap => true
  | .number _ | .word _ => false

/-- A word for a number as that number wherever separators or the ends of the text stand around it.
Two such words do not share a separator; `free` says whether there is one before the pieces. -/
def spellNumber (word digits : Text) (free : Bool) : List Piece → List Piece
  | [] => []
  | [piece] => if free && piece == .word word then [.number digits] else [piece]
  | piece :: next :: rest =>
    if free && piece == .word word && isSeparator next then
      .number digits :: next :: spellNumber word digits false rest
    else piece :: spellNumber word digits (isSeparator piece) (next :: rest)

/-- All words for numbers as numbers. -/
def spellNumbers (all : List Piece) : List Piece :=
  numberWords.foldl (fun all (word, digits) => spellNumber word digits true all) all

/-! ## Words -/

/-- The names of the months. -/
def monthNames : List Text :=
  ["january", "february", "march", "april", "may", "june", "july", "august", "september",
    "october", "november", "december"].map String.toList

/-- The month that a name or its first three letters stand for. -/
def month? (word : Text) : Option Nat :=
  let place :=
    if word = "sept".toList then some 8
    else monthNames.findIdx? fun name => name == word || name.take 3 == word
  place.map (· + 1)

/-- The names of the days of the week. -/
def weekdayNames : List Text :=
  ["monday", "tuesday", "wednesday", "thursday", "friday", "saturday", "sunday"].map String.toList

/-- Whether a word is a day of the week or its first three letters; but `mon` stands for months. -/
def isWeekday (word : Text) : Bool :=
  word ≠ "mon".toList && weekdayNames.any fun name => name == word || name.take 3 == word

/-- Words that say nothing. -/
def fillWords : List Text :=
  ["about", "ad", "and", "at", "by", "just", "m", "nd", "of", "on", "rd", "st", "th", "the", "t",
    "utc", "gmt", "z"].map String.toList

/-- Names of units that are passed over. -/
def unitWords : List Text :=
  ["year", "years", "yr", "yrs", "hour", "hours", "hr", "hrs", "h", "minute", "minutes", "min",
    "mins"].map String.toList

/-- What a word means. -/
inductive Meaning where
  | month (number : Nat)
  | weekday
  | half (afternoon : Bool)
  | unit
  | within
  | fill
deriving DecidableEq, Repr

/-- The meaning of a known word. -/
def meaning? (word : Text) : Option Meaning :=
  match month? word with
  | some number => some (.month number)
  | none =>
    if isWeekday word then some .weekday
    else if word = ['a', 'm'] then some (.half false)
    else if word = ['p', 'm'] then some (.half true)
    else if unitWords.contains word then some .unit
    else if word = ['i', 'n'] then some .within
    else if fillWords.contains word then some .fill
    else none

/-! ## Time zones -/

/-- Abbreviations of time zones. -/
def zoneNames : List Text :=
  ["acdt", "acst", "act", "adt", "aedt", "aest", "aft", "akdt", "akst", "almt", "amst", "amt",
    "anast", "anat", "aqtt", "art", "ast", "awdt", "awst", "azost", "azot", "azst", "azt", "bnt",
    "bot", "brst", "brt", "bst", "btt", "cast", "cat", "cct", "cdt", "cest", "cet", "chadt",
    "chast", "ckt", "clst", "clt", "cot", "cst", "cvt", "cxt", "davt", "easst", "east", "eat",
    "ect", "edt", "eest", "eet", "egst", "egt", "est", "et", "fet", "fjst", "fjt", "fkst", "fkt",
    "fnt", "galt", "gamt", "get", "gft", "gilt", "gmt", "gst", "gyt", "hast", "hkt", "hovt", "hst",
    "ict", "idt", "iot", "irdt", "irkst", "irkt", "irst", "ist", "jst", "kgt", "krast", "krat",
    "kst", "kuyt", "lhdt", "lhst", "lint", "magst", "magt", "mart", "mawt", "mdt", "mht", "mmt",
    "msd", "msk", "mst", "mut", "mvt", "myt", "nct", "ndt", "nft", "novst", "novt", "npt", "nst",
    "nut", "nzdt", "nzst", "omsst", "omst", "orat", "pdt", "pet", "petst", "pett", "pgt", "phot",
    "pht", "pkt", "pmdt", "pmst", "pont", "pst", "pt", "pwt", "pyst", "pyt", "ret", "rott",
    "sakt", "samt", "sast", "sbt", "sct", "sgt", "sret", "srt", "sst", "syot", "taht", "tft",
    "tjt", "tkt", "tlt", "tmt", "tot", "tvt", "ulat", "utc", "uyst", "uyt", "uzt", "vet",
    "vlast", "vlat", "vost", "vut", "wakt", "wast", "wat", "west", "wft", "wgst", "wgt", "wib",
    "wit", "wita", "wst", "wt", "yakst", "yakt", "yapt", "yekst", "yekt", "z"].map String.toList

/-- The offsets of time zones from universal time that are not whole hours. -/
def partialOffsets : List Text :=
  ["-0930", "-0430", "-0330", "+0330", "+0430", "+0530", "+0545", "+0630", "+0845", "+0930",
    "+1030", "+1130", "+1245"].map String.toList

/-- Whether a sign, hours and minutes are those of a time zone. -/
def isOffset (sign : Char) (hours minutes : Text) : Bool :=
  hours.length == 2 && minutes.length == 2 &&
    (partialOffsets.contains (sign :: hours ++ minutes) ||
      (minutes == ['0', '0'] && natOfDigits hours ≤ (if sign = '-' then 12 else 14)))

/-- The pieces of a text without the name of a time zone at the end.  Something other than a word
has to stand before it. -/
def dropZoneName (all : List Piece) : List Piece :=
  match all.reverse with
  | .word name :: before :: rest =>
    if zoneNames.contains name then (before :: rest).reverse else all
  | _ => all

/-- The pieces of a text without an offset from universal time at the end. -/
def dropZoneOffset (all : List Piece) : List Piece :=
  let joined : List Piece → Bool
    | .word _ :: _ => true
    | [] => true
    | _ => false
  let isSign (c : Char) : Bool := c == '+' || c == '-'
  match all.reverse with
  | .number minutes :: .mark ':' :: .number hours :: .mark c :: rest =>
    if isSign c && isOffset c hours minutes && !joined rest then rest.reverse else all
  | .number digits :: .mark c :: rest =>
    if isSign c && isOffset c (digits.take 2) (digits.drop 2) && !joined rest then rest.reverse
    else all
  | _ => all

/-- The pieces without a time zone at the end. -/
def dropZone (all : List Piece) : List Piece :=
  let shorter := dropZoneName all
  if shorter.length < all.length then shorter else dropZoneOffset all

/-- Whether every word is known. -/
def allKnown (all : List Piece) : Bool :=
  all.all fun
    | .word letters => (meaning? letters).isSome
    | _ => true

/-! ## Laying out -/

/-- The text that a piece is laid out as; none if it says nothing. -/
def layout? (within : Bool) : Piece → Option Text
  | .number digits => some digits
  | .mark c => some [c]
  | .gap => none
  | .word letters =>
    match meaning? letters with
    | some (.month number) => monthNames[number - 1]?
    | some .fill => none
    | some .unit => some "hour".toList
    | some .within => if within then some letters else none
    | _ => some letters

/-- Whether a laid out piece is a mark. -/
def isMarkText (text : Text) : Bool :=
  match text with
  | [c] => isMark c
  | _ => false

/-- Laid out pieces with a space between two of them that are no marks. -/
def joinLayout : List Text → Text
  | [] => []
  | [text] => text
  | text :: next :: rest =>
    text ++ (if isMarkText text || isMarkText next then [] else [' ']) ++ joinLayout (next :: rest)

/-- The text of pieces in the form in which it is read. -/
def layOut (all : List Piece) : Text :=
  let units := all.any fun
    | .word letters => unitWords.contains letters
    | _ => false
  joinLayout (all.filterMap (layout? units))

/-! ## Reading -/

/-- What a token of the laid out text consists of. -/
inductive TokenKind where
  | number
  | word
  | other
deriving DecidableEq, Repr

/-- A token of the laid out text. -/
structure Token where
  text : Text
  kind : TokenKind
deriving DecidableEq, Repr

/-- The kind of token that a character belongs to. -/
def tokenKind (c : Char) : TokenKind :=
  if isDigit c || c == ':' then .number
  else if 'a' ≤ c && c ≤ 'z' then .word
  else .other

/-- The runs of characters of one kind. -/
def tokens : Text → List Token
  | [] => []
  | c :: rest =>
    match tokens rest with
    | [] => [⟨[c], tokenKind c⟩]
    | token :: later =>
      if token.kind = tokenKind c then ⟨c :: token.text, token.kind⟩ :: later
      else ⟨[c], tokenKind c⟩ :: token :: later

/-- A number of one or two digits between two bounds. -/
def smallNumber? (low high : Nat) (digits : Text) : Option Nat :=
  if (digits.length = 1 || digits.length = 2) && digits.all isDigit then
    let value := natOfDigits digits
    if low ≤ value && value ≤ high then some value else none
  else none

/-- The ways to read a number as a part of a date, in the order in which they are tried. -/
inductive NumberForm where
  | month
  | day
  | shortYear
  | longYear
deriving DecidableEq, Repr

/-- The number that digits write in a form.  Years of two digits lie between 1969 and 2068. -/
def NumberForm.read? (digits : Text) : NumberForm → Option Nat
  | .month => smallNumber? 1 12 digits
  | .day => smallNumber? 1 31 digits
  | .shortYear =>
    if digits.length = 2 then
      (smallNumber? 0 99 digits).map fun value => if value < 69 then 2000 + value else 1900 + value
    else none
  | .longYear =>
    if digits.length = 4 && digits.all isDigit && natOfDigits digits ≠ 0 then
      some (natOfDigits digits)
    else none

/-- A part of a date that has been read, with its text.  A month read from a word is `named`. -/
structure Part where
  value : Nat
  text : Text
  named : Bool

/-- A time of day. -/
structure ClockTime where
  hour : Nat
  minute : Nat
  second : Nat
  microsecond : Nat
deriving DecidableEq, Repr

/-- What has been read of a date. -/
structure Draft where
  year : Option Part
  month : Option Part
  day : Option Part
  weekday : Bool
  time : Option ClockTime
  /-- The year has been read from four digits. -/
  yearDone : Bool
  /-- The month was read from a number and has not become the day since. -/
  monthFromNumber : Bool
  /-- Numbers that gave way to later ones. -/
  displaced : List Text

namespace Draft

/-- Nothing read yet. -/
def empty : Draft := ⟨none, none, none, false, none, false, false, []⟩

/-- The part that a form writes. -/
def part? (draft : Draft) : NumberForm → Option Part
  | .month => draft.month
  | .day => draft.day
  | .shortYear => draft.year
  | .longYear => draft.year

/-- The draft with a part read from a number. -/
def put (draft : Draft) (part : Part) : NumberForm → Draft
  | .month => { draft with month := some part, monthFromNumber := true }
  | .day => { draft with day := some part }
  | .shortYear => { draft with year := some part }
  | .longYear => { draft with year := some part, yearDone := true }

/-- A number read in one form, if it fits.  A part that is already there gives way only if its own
text does not fit the form. -/
def tryForm (draft : Draft) (digits : Text) (form : NumberForm) : Option Draft :=
  if draft.yearDone && (form == .shortYear || form == .longYear) then none
  else
    match form.read? digits with
    | none => none
    | some value =>
      match draft.part? form with
      | none => some (draft.put ⟨value, digits, false⟩ form)
      | some before =>
        if before.named || (form.read? before.text).isSome then none
        else
          some { draft.put ⟨value, digits, false⟩ form with
            displaced := draft.displaced ++ [before.text] }

/-- A number read in the first form that takes it. -/
def readNumber (draft : Draft) (digits : Text) : Option Draft :=
  [NumberForm.month, .day, .shortYear, .longYear].findSome? (draft.tryForm digits)

/-- A word read as a day of the week or a month.  A month that was a number becomes the day, if that
is still open. -/
def readWord (draft : Draft) (word : Text) : Option Draft :=
  if isWeekday word && !draft.weekday then some { draft with weekday := true }
  else
    match month? word with
    | none => none
    | some number =>
      match draft.month with
      | none => some { draft with month := some ⟨number, word, true⟩ }
      | some before =>
        if draft.monthFromNumber && draft.day.isNone then
          some { draft with
            day := some before
            month := some ⟨number, word, true⟩
            monthFromNumber := false }
        else none

end Draft

/-- The parts of a time between its colons. -/
def clockParts? (text : Text) : Option (List Nat) :=
  (Text.splitOn ':' text).mapM (smallNumber? 0 61)

/-- An hour of the twelve-hour clock on the clock of the day. -/
def fullHour (hour : Nat) (afternoon : Bool) : Nat :=
  if afternoon then if hour = 12 then 12 else hour + 12 else if hour = 12 then 0 else hour

/-- A time within the day. -/
def clock? (hour minute second microsecond : Nat) : Option ClockTime :=
  if hour < 24 && minute < 60 && second < 60 then some ⟨hour, minute, second, microsecond⟩ else none

/-- The time that a text, the digits of a fraction and a half of the day write. -/
def time? (text : Text) (fraction : Option Text) (half : Option Bool) : Option ClockTime := do
  let parts ← clockParts? text
  let digits := fraction.getD []
  let micro := natOfDigits (digits ++ List.replicate (6 - digits.length) '0')
  let onTwelve (hour : Nat) : Bool := 1 ≤ hour && hour ≤ 12
  match parts, fraction, half with
  | [hour, minute, second], _, none => clock? hour minute second micro
  | [hour, minute], none, none => clock? hour minute 0 0
  | [hour, minute, second], _, some afternoon =>
    if onTwelve hour then clock? (fullHour hour afternoon) minute second micro else none
  | [hour, minute], none, some afternoon =>
    if onTwelve hour then clock? (fullHour hour afternoon) minute 0 0 else clock? hour minute 0 0
  | [hour], none, some afternoon =>
    if onTwelve hour then clock? (fullHour hour afternoon) 0 0 0 else none
  | _, _, _ => none

/-- A token that is no separator, with its place among all tokens. -/
structure Placed where
  token : Token
  place : Nat
deriving DecidableEq, Repr

/-- The half of the day that a token writes. -/
def halfOfDay? (placed : Placed) : Option Bool :=
  if placed.token.text = ['a', 'm'] then some false
  else if placed.token.text = ['p', 'm'] then some true
  else none

/-- Hours and minutes with a point between them, for a number and the next token: the point stands
behind the number and nowhere else, and the number after it has two digits. -/
def pointedTime? (all : List Token) (here : Placed) (next : Option Placed) (nextIsLast : Bool) :
    Option Text :=
  let textAt (place : Nat) : Option Text := (all[place]?).map (·.text)
  match next with
  | none => none
  | some next =>
    let isBehindPoint := here.place ≠ 0 && textAt (here.place - 1) = some ['.']
    if textAt (here.place + 1) = some ['.'] && !isBehindPoint
        && (nextIsLast || (textAt (next.place + 1)).any (· ≠ ['.'])) then
      let hours := smallNumber? 0 23 here.token.text
      let minutes := if next.token.text.length = 2 then smallNumber? 0 59 next.token.text else none
      if hours.isSome && minutes.isSome then some (here.token.text ++ ':' :: next.token.text)
      else none
    else none

/-- The digits of a fraction of a second in the token after a time, which a point separates. -/
def fraction? (all : List Token) (text : Text) (kind : TokenKind) (next : Option Placed) :
    Option Text :=
  let digits := (next.map (·.token.text)).getD [] |>.dropWhile (!isDigit ·) |>.takeWhile isDigit
  let place := all.findIdx? (· == ⟨text, kind⟩)
  let separator := (place.bind fun i => all[i + 1]?).map (·.text)
  if digits.isEmpty || !text.contains ':' || !separator.any (·.contains '.') then none
  else some (digits.take 6)

/-- Reads tokens from left to right.  The number says how many of the next tokens have been used
up. -/
def readTokens (all : List Token) (draft : Draft) (used : Nat) : List Placed → Option Draft
  | [] => some draft
  | here :: rest =>
    if used ≠ 0 then readTokens all draft (used - 1) rest
    else if here.token.text = ['t'] || here.token.text = "hour".toList then
      readTokens all draft 0 rest
    else
      let plain : Unit → Option Draft := fun _ =>
        (match here.token.kind with
          | .number => draft.readNumber here.token.text
          | _ => draft.readWord here.token.text).bind fun later => readTokens all later 0 rest
      if draft.time.isSome then plain ()
      else
        let pointed := pointedTime? all here rest.head? (rest.length == 1)
        let text := pointed.getD here.token.text
        let fraction := fraction? all text here.token.kind rest.head?
        let ahead := (if pointed.isSome then 1 else 0) + if fraction.isSome then 1 else 0
        let half := (rest[ahead]?).bind halfOfDay?
        if text.contains ':' || half.isSome then
          match time? text fraction half with
          | none => none
          | some time =>
            readTokens all { draft with time := some time }
              (ahead + if half.isSome then 1 else 0) rest
        else plain ()

/-- The draft with the parts still open filled from numbers that gave way; the last one counts. -/
def Draft.fill (draft : Draft) : Draft :=
  match draft.displaced.getLast? with
  | none => draft
  | some digits =>
    let part : Part := ⟨natOfDigits digits, digits, false⟩
    { draft with
      year := draft.year.or (some part)
      month := draft.month.or (some part)
      day := draft.day.or (some part) }

/-- The moment that a draft means when the parts still open are taken from a base.  Without a time
it is the start of the day. -/
def Draft.momentFrom (draft : Draft) (base : Moment) : Moment :=
  let time := draft.time.getD ⟨0, 0, 0, 0⟩
  { year := (draft.year.map (·.value)).getD base.year
    month := (draft.month.map (·.value)).getD base.month
    day := (draft.day.map (·.value)).getD base.day
    hour := time.hour
    minute := time.minute
    second := time.second
    microsecond := time.microsecond }

/-- How precise a draft is. -/
def Draft.precision (draft : Draft) : Precision :=
  if draft.time.isSome then .time
  else if draft.day.isSome then .day
  else if draft.month.isSome then .month
  else if draft.year.isSome then .year
  else .day

/-- The first of the moments from which open parts are taken. -/
def firstBase : Moment := ⟨2004, 3, 10, 11, 11, 11, 0⟩

/-- The second of the moments from which open parts are taken; it shares no part with the first. -/
def secondBase : Moment := ⟨2008, 10, 20, 13, 13, 13, 0⟩

/-- What a draft says, if its date exists and it says anything. -/
def Draft.resolution? (draft : Draft) : Option Resolution :=
  let year := draft.year.map (·.value)
  let month := draft.month.map (·.value)
  let day := draft.day.map (·.value)
  if year.isNone && month.isNone && day.isNone && draft.time.isNone && !draft.weekday then none
  else if Calendar.exists? year month day then
    some ⟨draft.momentFrom firstBase, draft.momentFrom secondBase, draft.precision⟩
  else none

/-- The date that pieces write. -/
def readPieces (all : List Piece) : Option Resolution :=
  let tokens := tokens (layOut all)
  let placed := (tokens.zipIdx.map fun (token, place) => Placed.mk token place).filter
    (·.token.kind != .other)
  (readTokens tokens Draft.empty 0 placed).bind fun draft => draft.fill.resolution?

/-- The date that a text writes. -/
def readDate (text : Text) : Option Resolution :=
  let all := spellNumbers (spellNoon (spellTimes false (pieces (tidy text).lower)))
  if allKnown all || allKnown (dropZoneName all) then readPieces (dropZone (all.filter (· != .gap)))
  else none

end English

end TableSearch
