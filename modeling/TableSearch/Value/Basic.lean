import TableSearch.Text.Quoted
import TableSearch.Number.Decimal

/-! # Values

The value of a cell as a source gives it: nothing, a truth value, a number, a text, bytes, or a list
or an object of values.  `Value.plain` is the text of a value, `Value.shown` its form inside a
message or another value.
-/

namespace TableSearch

/-- The value of a cell. -/
inductive Value where
  | null
  | bool (value : Bool)
  | int (value : Int)
  | float (value : Double)
  | text (value : Text)
  | bytes (value : List UInt8)
  | list (items : List Value)
  | object (fields : List (Text × Value))
deriving Inhabited

namespace Value

/-- A byte between quotes of the given kind. -/
def quotedByte (quote : Char) (byte : UInt8) : Text :=
  let c := Char.ofNat byte.toNat
  if c = quote || c = '\\' then ['\\', c]
  else if c = '\n' then ['\\', 'n']
  else if c = '\r' then ['\\', 'r']
  else if c = '\t' then ['\\', 't']
  else if 32 ≤ byte.toNat && byte.toNat < 127 then [c]
  else ['\\', 'x'] ++ Text.hexDigits byte.toNat 2

/-- Bytes between quotes. -/
def quotedBytes (bytes : List UInt8) : Text :=
  let quote := if bytes.contains 39 && !bytes.contains 34 then '"' else '\''
  'b' :: quote :: bytes.flatMap (quotedByte quote) ++ [quote]

mutual

/-- A value in the form it has inside a message or another value. -/
def shown : Value → Text
  | null => "None".toList
  | bool value => (if value then "True" else "False").toList
  | int value => Text.ofInt value
  | float value => value.text
  | text value => value.quoted
  | bytes value => quotedBytes value
  | list items => '[' :: Text.join ", ".toList (shownItems items) ++ [']']
  | object fields => '\x7b' :: Text.join ", ".toList (shownFields fields) ++ ['\x7d']

/-- Several values in the form they have inside another value. -/
def shownItems : List Value → List Text
  | [] => []
  | item :: rest => shown item :: shownItems rest

/-- Several fields in the form they have inside another value. -/
def shownFields : List (Text × Value) → List Text
  | [] => []
  | (name, value) :: rest => (name.quoted ++ ": ".toList ++ shown value) :: shownFields rest

end

/-- The text of a value. -/
def plain : Value → Text
  | text value => value
  | value => value.shown

/-- The text of a cell where nothing else is asked for: nothing is empty. -/
def cell : Value → Text
  | null => []
  | value => value.plain

/-- Fields with a further one: a repeated name keeps its place and gets the later value. -/
def putField (fields : List (Text × Value)) (name : Text) (value : Value) : List (Text × Value) :=
  if fields.any (·.1 == name) then
    fields.map fun field => if field.1 == name then (name, value) else field
  else fields ++ [(name, value)]

/-- Fields in which every name occurs once. -/
def fieldsOf (fields : List (Text × Value)) : List (Text × Value) :=
  fields.foldl (fun known field => putField known field.1 field.2) []

end Value

end TableSearch
