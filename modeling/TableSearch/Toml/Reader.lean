import TableSearch.Text.Cursor
import TableSearch.Text.Position
import TableSearch.Number.Numeral
import TableSearch.Instant.Calendar
import TableSearch.Pattern.Syntax
import TableSearch.Toml.Document

/-! # Reading TOML

`Toml.read` reads a text as a TOML document, statement by statement.  The first problem ends the
reading.  Lists and inline tables may be nested only as deeply as there is room for.
-/

namespace TableSearch

namespace Toml

/-- The text of a document with line feeds as its only line breaks. -/
def joinReturns : Text → Text
  | '\r' :: '\n' :: rest => '\n' :: joinReturns rest
  | c :: rest => c :: joinReturns rest
  | [] => []

/-- Why a text could not be read.  Offsets count in the text with line feeds as its only line
breaks. -/
inductive ReadError where
  | malformed (problem : Problem) (offset : Nat)
  /-- An integer has too many digits. -/
  | longInteger (digits : Nat)
  /-- Lists and inline tables are nested too deeply. -/
  | tooDeep
deriving DecidableEq, Repr

namespace ReadError

/-- The wording for values that are nested too deeply. -/
def nestingMessage : String := "maximum recursion depth exceeded"

/-- The wording of an error in a text. -/
def message (text : Text) : ReadError → String
  | malformed problem offset =>
    let text := joinReturns text
    problem.message ++
      (if text.length ≤ offset then " (at end of document)"
        else " (at line " ++ toString (text.lineAt offset) ++ ", column " ++
          toString (text.columnAt offset) ++ ")")
  | longInteger digits => PatternError.tooManyDigits digits
  | tooDeep => nestingMessage

end ReadError

/-- The end of the reading at a place. -/
def fail {α : Type} (place : Cursor) (problem : Problem) : Except ReadError α :=
  .error (.malformed problem place.offset)

/-! ## Characters -/

/-- Blanks inside a line. -/
def isSpace (c : Char) : Bool :=
  c == ' ' || c == '\t'

/-- Blanks and line breaks. -/
def isGap (c : Char) : Bool :=
  isSpace c || c == '\n'

/-- Characters that may stand nowhere but, in strings of several lines, the line feed. -/
def isControl (c : Char) : Bool :=
  (c.toNat < 32 && c != '\t') || c.toNat == 127

/-- Characters of a key without quotes. -/
def isBare (c : Char) : Bool :=
  c.isAlphanum || c == '-' || c == '_'

/-- The value of a hexadecimal digit. -/
def hexValue? (c : Char) : Option Nat :=
  if isDigit c then some (digitValue c)
  else if 'a' ≤ c && c ≤ 'f' then some (c.toNat - 'a'.toNat + 10)
  else if 'A' ≤ c && c ≤ 'F' then some (c.toNat - 'A'.toNat + 10)
  else none

/-! ## Comments -/

/-- The text up to the first occurrence of another text, and the cursor there. -/
def upTo (stop : Text) : Text → Option Text
  | [] => if stop.isEmpty then some [] else none
  | c :: rest => if stop.isPrefixOf (c :: rest) then some [] else (upTo stop rest).map (c :: ·)

/-- The text up to the end mark, in which refused characters may not occur. -/
def readUpTo (refused : Char → Bool) (stop : Text) (needed : Bool) (cursor : Cursor) :
    Except ReadError (Text × Cursor) :=
  let inside : Except ReadError Text :=
    match upTo stop cursor.rest with
    | some inside => .ok inside
    | none =>
      if needed then fail (cursor.drop cursor.rest.length) (.expectedText stop)
      else .ok cursor.rest
  do
    let inside ← inside
    match inside.find? refused with
    | some c => fail (cursor.skip (!refused ·)) (.invalidCharacter c)
    | none => return (inside, cursor.drop inside.length)

/-- The cursor behind a comment. -/
def skipComment (cursor : Cursor) : Except ReadError Cursor :=
  if cursor.next? = some '#' then
    (readUpTo isControl ['\n'] false (cursor.drop 1)).map Prod.snd
  else .ok cursor

/-- The cursor behind blanks, line breaks and comments. -/
def skipGaps (cursor : Cursor) : Nat → Except ReadError Cursor
  | 0 => .ok cursor
  | rounds + 1 => do
    let later ← skipComment (cursor.skip isGap)
    if later.offset = cursor.offset then return later else skipGaps later rounds

/-! ## Strings -/

/-- The character of the hexadecimal code at a cursor. -/
def readCode (cursor : Cursor) (length : Nat) : Except ReadError (Text × Cursor) :=
  let digits := cursor.rest.take length
  match digits.mapM hexValue? with
  | some values =>
    let code := values.foldl (fun code value => 16 * code + value) 0
    if digits.length ≠ length then fail cursor .badHexadecimal
    else if code < 0xD800 || (0xE000 ≤ code && code ≤ 0x10FFFF) then
      .ok ([Char.ofNat code], cursor.drop length)
    else fail (cursor.drop length) .noCharacter
  | none => fail cursor .badHexadecimal

/-- What an escape stands for; the cursor is at its backslash. -/
def readEscape (severalLines : Bool) (cursor : Cursor) : Except ReadError (Text × Cursor) :=
  let after := cursor.drop 2
  let short (c : Char) : Except ReadError (Text × Cursor) := .ok ([c], after)
  match cursor.rest[1]? with
  | some 'u' => readCode after 4
  | some 'U' => readCode after 8
  | some 'b' => short '\x08'
  | some 't' => short '\t'
  | some 'n' => short '\n'
  | some 'f' => short '\x0c'
  | some 'r' => short '\r'
  | some '"' => short '"'
  | some '\\' => short '\\'
  | some c =>
    if severalLines && c = '\n' then .ok ([], after.skip isGap)
    else if severalLines && isSpace c then
      let last := after.skip isSpace
      match last.next? with
      | none => .ok ([], last)
      | some '\n' => .ok ([], (last.drop 1).skip isGap)
      | some _ => fail last .badEscape
    else fail after .badEscape
  | none => fail after .badEscape

/-- The text of a string with escapes, up to its closing quotes. -/
def readBasic (severalLines : Bool) (cursor : Cursor) : Nat → Except ReadError (Text × Cursor)
  | 0 => fail cursor .unterminated
  | rounds + 1 =>
    let literally (c : Char) : Except ReadError (Text × Cursor) := do
      let (text, later) ← readBasic severalLines (cursor.drop 1) rounds
      return (c :: text, later)
    match cursor.rest with
    | [] => fail cursor .unterminated
    | '"' :: _ =>
      if !severalLines then .ok ([], cursor.drop 1)
      else if cursor.sees ['"', '"', '"'] then .ok ([], cursor.drop 3)
      else literally '"'
    | '\\' :: _ => do
      let (escaped, later) ← readEscape severalLines cursor
      let (text, later) ← readBasic severalLines later rounds
      return (escaped ++ text, later)
    | c :: _ =>
      if isControl c && !(severalLines && c == '\n') then fail cursor (.illegalCharacter c)
      else literally c

/-- A string on one line, with escapes. -/
def readLineString (cursor : Cursor) : Except ReadError (Text × Cursor) :=
  readBasic false (cursor.drop 1) (cursor.rest.length + 1)

/-- A string on one line, without escapes. -/
def readLiteral (cursor : Cursor) : Except ReadError (Text × Cursor) := do
  let (text, later) ← readUpTo isControl ['\''] true (cursor.drop 1)
  return (text, later.drop 1)

/-- A string of several lines, between three quotes.  Up to two more quotes before the closing ones
belong to it. -/
def readLines (quote : Char) (cursor : Cursor) : Except ReadError (Text × Cursor) := do
  let start := cursor.drop 3
  let start := if start.next? = some '\n' then start.drop 1 else start
  let (text, later) ←
    if quote = '"' then readBasic true start (start.rest.length + 1)
    else do
      let (text, later) ←
        readUpTo (fun c => isControl c && c != '\n') ['\'', '\'', '\''] true start
      pure (text, later.drop 3)
  let extra := ((later.rest.take 2).takeWhile (· == quote))
  return (text ++ extra, later.drop extra.length)

/-! ## Keys -/

/-- One name of a key. -/
def readName (cursor : Cursor) : Except ReadError (Text × Cursor) :=
  match cursor.next? with
  | some '"' => readLineString cursor
  | some '\'' => readLiteral cursor
  | some c =>
    if isBare c then
      let name := cursor.run isBare
      .ok (name, cursor.drop name.length)
    else fail cursor .invalidKey
  | none => fail cursor .invalidKey

/-- The names of a key with points between them, and the cursor behind the blanks after it. -/
def readKey (cursor : Cursor) : Nat → Except ReadError (Key × Cursor)
  | 0 => fail cursor .invalidKey
  | rounds + 1 => do
    let (name, later) ← readName cursor
    let later := later.skip isSpace
    if later.next? = some '.' then
      let (rest, later) ← readKey ((later.drop 1).skip isSpace) rounds
      return (name :: rest, later)
    else return ([name], later)

/-! ## Numbers and moments -/

/-- Digits at the start of a text, with single underscores between them. -/
def digitRun (accepts : Char → Bool) : Text → Text
  | [] => []
  | c :: rest =>
    if accepts c then
      c :: (match rest with
        | '_' :: d :: more => if accepts d then '_' :: digitRun accepts (d :: more) else []
        | more => digitRun accepts more)
    else []

/-- The digits of a run. -/
def digitsOf (run : Text) : Text :=
  run.filter (· != '_')

/-- An integer with a letter for its base, and its length. -/
def readBased? : Text → Option (Value × Nat)
  | '0' :: letter :: rest =>
    let base? : Option Nat :=
      if letter = 'x' then some 16 else if letter = 'o' then some 8
      else if letter = 'b' then some 2 else none
    base?.bind fun base =>
      let run := digitRun (fun c => (hexValue? c).any (· < base)) rest
      if run.isEmpty then none
      else
        let value := (digitsOf run).foldl (fun value c => base * value + (hexValue? c).getD 0) 0
        some (.int value, run.length + 2)
  | _ => none

/-- A decimal number, and its length. -/
def readDecimal? (text : Text) : Option (Except ReadError Value × Nat) :=
  let (sign, body) : Text × Text :=
    match text with
    | '-' :: rest => (['-'], rest)
    | '+' :: rest => (['+'], rest)
    | _ => ([], text)
  let whole := if body.head? = some '0' then ['0'] else digitRun isDigit body
  let afterWhole := body.drop whole.length
  let fraction :=
    match afterWhole with
    | '.' :: rest => let run := digitRun isDigit rest; if run.isEmpty then [] else '.' :: run
    | _ => []
  let afterFraction := afterWhole.drop fraction.length
  let exponent :=
    match afterFraction with
    | e :: rest =>
      if e = 'e' || e = 'E' then
        let sign := (rest.take 1).filter fun c => c == '+' || c == '-'
        let run := digitRun isDigit (rest.drop sign.length)
        if run.isEmpty then [] else e :: sign ++ run
      else []
    | [] => []
  let length := sign.length + whole.length + fraction.length + exponent.length
  if whole.isEmpty then none
  else if fraction.isEmpty && exponent.isEmpty then
    let digits := digitsOf whole
    if PatternError.digitLimit < digits.length then
      some (.error (.longInteger digits.length), length)
    else
      let value : Int := natOfDigits digits
      some (.ok (.int (if sign = ['-'] then -value else value)), length)
  else
    (Double.ofText? (digitsOf (sign ++ whole ++ fraction ++ exponent))).map fun x =>
      (.ok (.float x), length)

/-- A number that is no decimal, and its length. -/
def readSpecial? (text : Text) : Option (Value × Nat) :=
  let (sign, body) := Double.takeSign text
  let signLength := text.length - body.length
  if ['i', 'n', 'f'].isPrefixOf body then some (.float (.infinite sign), signLength + 3)
  else if ['n', 'a', 'n'].isPrefixOf body then some (.float .nan, signLength + 3)
  else none

/-- Two digits between two bounds at the start of a text. -/
def twoDigits? (low high : Nat) (text : Text) : Option Nat :=
  let digits := text.take 2
  let value := natOfDigits digits
  if digits.length = 2 && digits.all isDigit && low ≤ value && value ≤ high then some value
  else none

/-- How many characters a time of day at the start of a text fills. -/
def timeLength? (text : Text) : Option Nat := do
  let _ ← twoDigits? 0 23 text
  let _ ← twoDigits? 0 59 (text.drop 3)
  let _ ← twoDigits? 0 59 (text.drop 6)
  if text[2]? = some ':' && text[5]? = some ':' then
    match text.drop 8 with
    | '.' :: rest =>
      let fraction := rest.takeWhile isDigit
      return if fraction.isEmpty then 8 else 9 + fraction.length
    | _ => return 8
  else none

/-- How many characters an offset from universal time at the start of a text fills. -/
def zoneLength (text : Text) : Nat :=
  match text with
  | 'Z' :: _ | 'z' :: _ => 1
  | c :: rest =>
    if (c = '+' || c = '-') && (twoDigits? 0 23 rest).isSome && rest[2]? = some ':' &&
        (twoDigits? 0 59 (rest.drop 3)).isSome then 6
    else 0
  | [] => 0

/-- A moment at the start of a text, its length, and whether its date exists. -/
def readMoment? (text : Text) : Option (MomentKind × Nat × Bool) :=
  let year := text.take 4
  let date? : Option Bool := do
    if year.length = 4 && year.all isDigit && text[4]? = some '-' && text[7]? = some '-' then
      let month ← twoDigits? 1 12 (text.drop 5)
      let day ← twoDigits? 1 31 (text.drop 8)
      return natOfDigits year ≠ 0 &&
        Calendar.exists? (some (natOfDigits year)) (some month) (some day)
    else none
  match date? with
  | some dateExists =>
    let time? : Option Nat :=
      match text[10]? with
      | some c => if c = 'T' || c = 't' || c = ' ' then timeLength? (text.drop 11) else none
      | none => none
    match time? with
    | some length =>
      let length := 11 + length
      some (.dateTime, length + zoneLength (text.drop length), dateExists)
    | none => some (.date, 10, dateExists)
  | none => (timeLength? text).map fun length => (.time, length, true)

/-! ## Values -/

/-- A value that holds no others and is no string. -/
def readPlain (cursor : Cursor) : Except ReadError (Value × Cursor) :=
  if cursor.sees ['t', 'r', 'u', 'e'] then .ok (.bool true, cursor.drop 4)
  else if cursor.sees ['f', 'a', 'l', 's', 'e'] then .ok (.bool false, cursor.drop 5)
  else
    match readMoment? cursor.rest with
    | some (kind, length, dateExists) =>
      if dateExists then .ok (.moment kind (cursor.rest.take length), cursor.drop length)
      else fail cursor .invalidDate
    | none =>
      match readBased? cursor.rest, readDecimal? cursor.rest, readSpecial? cursor.rest with
      | some (value, length), _, _ => .ok (value, cursor.drop length)
      | none, some (.ok value, length), _ => .ok (value, cursor.drop length)
      | none, some (.error problem, _), _ => .error problem
      | none, none, some (value, length) => .ok (value, cursor.drop length)
      | none, none, none => fail cursor .invalidValue

/-- How much room a list takes from what it holds. -/
def listRoom : Nat := 2

/-- How much room an inline table takes from what it holds. -/
def tableRoom : Nat := 3

mutual

/-- The value at a cursor.  The first number is the room for what it holds, the last one bounds the
steps. -/
def readValue (room : Nat) (cursor : Cursor) : Nat → Except ReadError (Value × Cursor)
  | 0 => fail cursor .invalidValue
  | rounds + 1 =>
    let string (reading : Except ReadError (Text × Cursor)) : Except ReadError (Value × Cursor) :=
      reading.map fun (text, later) => (.text text, later)
    match cursor.next? with
    | some '"' =>
      string (if cursor.sees ['"', '"', '"'] then readLines '"' cursor else readLineString cursor)
    | some '\'' =>
      string (if cursor.sees ['\'', '\'', '\''] then readLines '\'' cursor else readLiteral cursor)
    | some '[' =>
      if room < listRoom then .error .tooDeep
      else readItems (room - listRoom) [] (cursor.drop 1) rounds
    | some '\x7b' =>
      if room < tableRoom then .error .tooDeep
      else
        let inside := (cursor.drop 1).skip isSpace
        if inside.next? = some '\x7d' then .ok (.table [], inside.drop 1)
        else readFields (room - tableRoom) .empty inside rounds
    | _ => readPlain cursor

/-- The items of a list up to its closing bracket. -/
def readItems (room : Nat) (items : List Value) (cursor : Cursor) :
    Nat → Except ReadError (Value × Cursor)
  | 0 => fail cursor .openList
  | rounds + 1 => do
    let start ← skipGaps cursor (cursor.rest.length + 1)
    if start.next? = some ']' then return (.list items, start.drop 1)
    else
      let (item, later) ← readValue room start rounds
      let later ← skipGaps later (later.rest.length + 1)
      match later.next? with
      | some ']' => return (.list (items ++ [item]), later.drop 1)
      | some ',' => readItems room (items ++ [item]) (later.drop 1) rounds
      | _ => fail later .openList

/-- The fields of an inline table up to its closing brace. -/
def readFields (room : Nat) (inline : InlineTable) (cursor : Cursor) :
    Nat → Except ReadError (Value × Cursor)
  | 0 => fail cursor .openTable
  | rounds + 1 => do
    let (key, later) ← readKey cursor (cursor.rest.length + 1)
    if later.next? ≠ some '=' then fail later .expectedEquals
    else
      let (value, later) ← readValue room ((later.drop 1).skip isSpace) rounds
      match inline.assign key value with
      | .error problem => fail later problem
      | .ok inline =>
        let later := later.skip isSpace
        match later.next? with
        | some '\x7d' => return (.table inline.table, later.drop 1)
        | some ',' => readFields room inline ((later.drop 1).skip isSpace) rounds
        | _ => fail later .openTable

end

/-! ## Statements -/

/-- The section that a header opens; the cursor is at its bracket. -/
def readHeader (document : Document) (cursor : Cursor) : Except ReadError (Document × Cursor) := do
  let document := document.endSection
  let isList := cursor.sees ['[', '[']
  let start := (cursor.drop (if isList then 2 else 1)).skip isSpace
  let (key, later) ← readKey start (start.rest.length + 1)
  let opened := if isList then document.openListTable key else document.openTable key
  let closing : Text := if isList then [']', ']'] else [']']
  match opened with
  | .error problem => fail later problem
  | .ok document =>
    if later.sees closing then return (document, later.drop closing.length)
    else fail later (if isList then .expectedListEnd else .expectedTableEnd)

/-- The assignment at a cursor. -/
def readAssignment (room : Nat) (document : Document) (cursor : Cursor) :
    Except ReadError (Document × Cursor) := do
  let (key, later) ← readKey cursor (cursor.rest.length + 1)
  if later.next? ≠ some '=' then fail later .expectedEquals
  else
    let (value, later) ←
      readValue room ((later.drop 1).skip isSpace) (2 * cursor.rest.length + 2)
    match document.assign key value with
    | .error problem => fail later problem
    | .ok document => return (document, later)

/-- The statements of a document from a cursor on. -/
def readStatements (room : Nat) (document : Document) (cursor : Cursor) :
    Nat → Except ReadError Document
  | 0 => .ok document
  | rounds + 1 =>
    let start := cursor.skip isSpace
    match start.next? with
    | none => .ok document
    | some '\n' => readStatements room document (start.drop 1) rounds
    | some c => do
      let (document, later) ←
        if isBare c || c = '"' || c = '\'' then readAssignment room document start
        else if c = '[' then readHeader document start
        else if c = '#' then pure (document, start)
        else fail start .invalidStatement
      let last ← skipComment (later.skip isSpace)
      match last.next? with
      | none => return document
      | some '\n' => readStatements room document (last.drop 1) rounds
      | some _ => fail last .expectedLineEnd

/-- The document that a text with plain line feeds writes. -/
def readUnified (room : Nat) (text : Text) : Except ReadError Table :=
  (readStatements room .empty (Cursor.start text) (text.length + 1)).map (·.table)

/-- The document that a text writes, with its values nested as deeply as there is room for. -/
def read (room : Nat) (text : Text) : Except ReadError Table :=
  readUnified room (joinReturns text)

end Toml

end TableSearch
