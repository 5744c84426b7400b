import TableSearch.Value.Basic
import TableSearch.Text.Cursor
import TableSearch.Text.Position
import TableSearch.Pattern.Syntax

/-! # Reading JSON

`Json.read` reads a text as one JSON value.  Besides the standard it takes `NaN`, `Infinity` and
`-Infinity`.  A number with a point or an exponent is a double, any other an integer; of fields of
one name the last counts, in the place of the first.  Lists and objects may be nested only as deeply as
the caller allows.
-/

namespace TableSearch

namespace Json

/-- Why a text is no JSON. -/
inductive Problem where
  | expectedValue
  | expectedName
  | expectedColon
  | expectedComma
  | extraData
  | controlCharacter
  | unterminated
  | unknownEscape
  | malformedCode
  | byteOrderMark
deriving DecidableEq, Repr

namespace Problem

/-- The wording of a problem. -/
def message : Problem → String
  | expectedValue => "Expecting value"
  | expectedName => "Expecting property name enclosed in double quotes"
  | expectedColon => "Expecting ':' delimiter"
  | expectedComma => "Expecting ',' delimiter"
  | extraData => "Extra data"
  | controlCharacter => "Invalid control character at"
  | unterminated => "Unterminated string starting at"
  | unknownEscape => "Invalid \\escape"
  | malformedCode => "Invalid \\uXXXX escape"
  | byteOrderMark => "Unexpected UTF-8 BOM (decode using utf-8-sig)"

end Problem

/-- Why a text could not be read, and where. -/
inductive ReadError where
  | malformed (problem : Problem) (offset : Nat)
  /-- An integer has too many digits. -/
  | longInteger (digits : Nat)
  /-- Lists and objects are nested too deeply; the innermost one is an object or a list. -/
  | tooDeep (isObject : Bool)
deriving DecidableEq, Repr

namespace ReadError

/-- The wording of an error in a text. -/
def message (text : Text) : ReadError → String
  | malformed problem offset =>
    problem.message ++ ": line " ++ toString (text.lineAt offset) ++ " column " ++
      toString (text.columnAt offset) ++ " (char " ++ toString offset ++ ")"
  | longInteger digits => PatternError.tooManyDigits digits
  | tooDeep isObject =>
    "maximum recursion depth exceeded while decoding a JSON " ++
      (if isObject then "object" else "array") ++ " from a unicode string"

end ReadError

/-- White space of JSON. -/
def isSpace (c : Char) : Bool :=
  c == ' ' || c == '\t' || c == '\n' || c == '\r'

/-- The end of the reading at a place. -/
def fail {α : Type} (source : Cursor) (problem : Problem) : Except ReadError α :=
  .error (.malformed problem source.offset)

/-- The value of a hexadecimal digit. -/
def hexValue? (c : Char) : Option Nat :=
  if isDigit c then some (digitValue c)
  else if 'a' ≤ c && c ≤ 'f' then some (c.toNat - 'a'.toNat + 10)
  else if 'A' ≤ c && c ≤ 'F' then some (c.toNat - 'A'.toNat + 10)
  else none

/-- The code that four hexadecimal digits write. -/
def code? (digits : Text) : Option Nat :=
  if digits.length = 4 then
    (digits.mapM hexValue?).map fun values => values.foldl (fun code value => 16 * code + value) 0
  else none

/-- The character that a letter behind a backslash stands for. -/
def escaped? : Char → Option Char
  | '"' => some '"'
  | '\\' => some '\\'
  | '/' => some '/'
  | 'b' => some '\x08'
  | 'f' => some '\x0c'
  | 'n' => some '\n'
  | 'r' => some '\r'
  | 't' => some '\t'
  | _ => none

/-- The character of a code behind a backslash and a `u`, and how many characters it fills: two
codes may stand for one character together.  The digits begin at the source. -/
def readCode (source : Cursor) : Except ReadError (Char × Nat) :=
  match code? (source.rest.take 4), source.rest.drop 4 with
  | none, _ => .error (.malformed .malformedCode (source.offset - 1))
  | some _, [] => .error (.malformed .malformedCode (source.offset - 1))
  | some high, rest =>
    match rest with
    | '\\' :: 'u' :: more =>
      if 0xD800 ≤ high && high < 0xDC00 && 4 < more.length then
        match code? (more.take 4) with
        | none => .error (.malformed .malformedCode (source.offset + 5))
        | some low =>
          if 0xDC00 ≤ low && low < 0xE000 then
            .ok (Char.ofNat (0x10000 + (high - 0xD800) * 0x400 + (low - 0xDC00)), 10)
          else .ok (Char.ofNat high, 4)
      else .ok (Char.ofNat high, 4)
    | _ => .ok (Char.ofNat high, 4)

/-- The text of a string up to its closing quote, and the source behind it.  `start` is the offset
of the opening quote. -/
def readString (start : Nat) (source : Cursor) : Nat → Except ReadError (Text × Cursor)
  | 0 => .error (.malformed .unterminated start)
  | rounds + 1 =>
    match source.rest with
    | [] => .error (.malformed .unterminated start)
    | '"' :: _ => .ok ([], source.drop 1)
    | '\\' :: [] => .error (.malformed .unterminated start)
    | '\\' :: 'u' :: _ => do
      let (c, length) ← readCode (source.drop 2)
      let (text, later) ← readString start (source.drop (2 + length)) rounds
      return (c :: text, later)
    | '\\' :: c :: _ =>
      match escaped? c with
      | none => fail source .unknownEscape
      | some c => do
        let (text, later) ← readString start (source.drop 2) rounds
        return (c :: text, later)
    | c :: _ =>
      if c.toNat < 32 then fail source .controlCharacter
      else do
        let (text, later) ← readString start (source.drop 1) rounds
        return (c :: text, later)

/-- The number at the start of a text, and how many characters it fills. -/
def readNumber? (text : Text) : Option (Except ReadError (Value × Nat)) :=
  let negative := text.head? == some '-'
  let body := if negative then text.drop 1 else text
  let whole :=
    match body with
    | '0' :: _ => ['0']
    | _ => body.takeWhile isDigit
  let afterWhole := body.drop whole.length
  let fraction :=
    match afterWhole with
    | '.' :: rest => rest.takeWhile isDigit
    | _ => []
  let afterFraction :=
    if fraction.isEmpty then afterWhole else afterWhole.drop (fraction.length + 1)
  let (signLength, exponent) : Nat × Option (Bool × Text) :=
    match afterFraction with
    | e :: rest =>
      if e = 'e' || e = 'E' then
        match rest with
        | '-' :: digits => (2, some (true, digits.takeWhile isDigit))
        | '+' :: digits => (2, some (false, digits.takeWhile isDigit))
        | _ => (1, some (false, rest.takeWhile isDigit))
      else (0, none)
    | [] => (0, none)
  let exponent := exponent.filter fun (_, digits) => !digits.isEmpty
  let length := (if negative then 1 else 0) + whole.length
    + (if fraction.isEmpty then 0 else fraction.length + 1)
    + match exponent with
      | some (_, digits) => signLength + digits.length
      | none => 0
  if whole.isEmpty then none
  else if fraction.isEmpty && exponent.isNone then
    if PatternError.digitLimit < whole.length then some (.error (.longInteger whole.length))
    else
      let value : Int := natOfDigits whole
      some (.ok (.int (if negative then -value else value), length))
  else
    let power : Int :=
      match exponent with
      | some (true, digits) => -(natOfDigits digits : Int)
      | some (false, digits) => natOfDigits digits
      | none => 0
    let digits := natOfDigits (whole ++ fraction)
    some (.ok (.float (Double.ofDecimal negative digits (power - fraction.length)), length))

/-- The words that stand for a value. -/
def words : List (Text × Value) :=
  [("null".toList, .null), ("true".toList, .bool true), ("false".toList, .bool false),
    ("NaN".toList, .float .nan), ("Infinity".toList, .float (.infinite false)),
    ("-Infinity".toList, .float (.infinite true))]

mutual

/-- The value at the start of a source, and the source behind it.  The first number bounds the depth,
the last one the steps. -/
def readValue (depth : Nat) (source : Cursor) : Nat → Except ReadError (Value × Cursor)
  | 0 => fail source .expectedValue
  | rounds + 1 =>
    match source.rest with
    | [] => fail source .expectedValue
    | '"' :: rest => do
      let (text, later) ← readString source.offset (source.drop 1) (rest.length + 1)
      return (.text text, later)
    | '\x7b' :: _ =>
      if depth = 0 then .error (.tooDeep true)
      else
        let inside := (source.drop 1).skip isSpace
        if inside.rest.head? == some '\x7d' then .ok (.object [], inside.drop 1)
        else readFields (depth - 1) [] inside rounds
    | '[' :: _ =>
      if depth = 0 then .error (.tooDeep false)
      else
        let inside := (source.drop 1).skip isSpace
        if inside.rest.head? == some ']' then .ok (.list [], inside.drop 1)
        else readItems (depth - 1) [] inside rounds
    | text =>
      match words.find? fun (word, _) => word.isPrefixOf text with
      | some (word, value) => .ok (value, source.drop word.length)
      | none =>
        match readNumber? text with
        | some (.ok (value, length)) => .ok (value, source.drop length)
        | some (.error problem) => .error problem
        | none => fail source .expectedValue

/-- The items of a list up to its closing bracket. -/
def readItems (depth : Nat) (items : List Value) (source : Cursor) :
    Nat → Except ReadError (Value × Cursor)
  | 0 => fail source .expectedValue
  | rounds + 1 => do
    let (item, later) ← readValue depth source rounds
    let later := later.skip isSpace
    match later.rest with
    | ']' :: _ => return (.list (items ++ [item]), later.drop 1)
    | ',' :: _ => readItems depth (items ++ [item]) ((later.drop 1).skip isSpace) rounds
    | _ => fail later .expectedComma

/-- The fields of an object up to its closing brace. -/
def readFields (depth : Nat) (fields : List (Text × Value)) (source : Cursor) :
    Nat → Except ReadError (Value × Cursor)
  | 0 => fail source .expectedValue
  | rounds + 1 =>
    match source.rest with
    | '"' :: rest => do
      let (name, later) ← readString source.offset (source.drop 1) (rest.length + 1)
      let colon := later.skip isSpace
      if colon.rest.head? ≠ some ':' then fail colon .expectedColon
      else
        let (value, later) ← readValue depth ((colon.drop 1).skip isSpace) rounds
        let later := later.skip isSpace
        match later.rest with
        | '\x7d' :: _ => return (.object (Value.putField fields name value), later.drop 1)
        | ',' :: _ =>
          readFields depth (Value.putField fields name value) ((later.drop 1).skip isSpace) rounds
        | _ => fail later .expectedComma
    | _ => fail source .expectedName

end

/-- The value that a text writes, nested at most as deeply as given. -/
def read (depth : Nat) (text : Text) : Except ReadError Value :=
  if text.head? = some '\ufeff' then .error (.malformed .byteOrderMark 0)
  else do
    let (value, later) ← readValue depth ((Cursor.start text).skip isSpace) (2 * text.length + 2)
    let last := later.skip isSpace
    if last.rest.isEmpty then return value else fail last .extraData

end Json

end TableSearch
