import TableSearch.Value.Basic

/-! # Writing JSON

A value as JSON on one line, and as JSON with one item a line.  Characters outside ASCII stand for
themselves.
-/

namespace TableSearch

namespace Json

/-- A character inside a JSON string. -/
def stringChar (c : Char) : Text :=
  if c = '"' then ['\\', '"']
  else if c = '\\' then ['\\', '\\']
  else if c = '\n' then ['\\', 'n']
  else if c = '\r' then ['\\', 'r']
  else if c = '\t' then ['\\', 't']
  else if c.toNat = 12 then ['\\', 'f']
  else if c.toNat = 8 then ['\\', 'b']
  else if c.toNat < 32 then ['\\', 'u'] ++ Text.hexDigits c.toNat 4
  else [c]

/-- A JSON string. -/
def string (text : Text) : Text :=
  '"' :: text.flatMap stringChar ++ ['"']

/-- A JSON number, or the word for what is none. -/
def number : Double → Text
  | .nan => "NaN".toList
  | .infinite negative => (if negative then "-Infinity" else "Infinity").toList
  | x => x.text

/-- How the items of a list or an object are laid out: the line break before an item and the text
between items.  Without indentation there are no line breaks. -/
structure Layout where
  indent : Option Nat

namespace Layout

/-- The line break before an item at a depth. -/
def lineBreak (layout : Layout) (depth : Nat) : Text :=
  match layout.indent with
  | none => []
  | some width => '\n' :: List.replicate (width * depth) ' '

/-- The text between two items. -/
def comma (layout : Layout) (depth : Nat) : Text :=
  match layout.indent with
  | none => [',', ' ']
  | some _ => ',' :: layout.lineBreak depth

/-- Items between brackets. -/
def enclose (layout : Layout) (depth : Nat) (opening closing : Char) (items : List Text) : Text :=
  if items.isEmpty then [opening, closing]
  else
    opening :: layout.lineBreak (depth + 1) ++ Text.join (layout.comma (depth + 1)) items ++
      layout.lineBreak depth ++ [closing]

end Layout

mutual

/-- A value as JSON at a depth.  Bytes are written as the text that shows them. -/
def writeAt (layout : Layout) (depth : Nat) : Value → Text
  | .null => "null".toList
  | .bool value => (if value then "true" else "false").toList
  | .int value => Text.ofInt value
  | .float value => number value
  | .text value => string value
  | .bytes value => string (Value.quotedBytes value)
  | .list items => layout.enclose depth '[' ']' (writeItems layout (depth + 1) items)
  | .object fields => layout.enclose depth '\x7b' '\x7d' (writeFields layout (depth + 1) fields)

/-- The items of a list as JSON. -/
def writeItems (layout : Layout) (depth : Nat) : List Value → List Text
  | [] => []
  | item :: rest => writeAt layout depth item :: writeItems layout depth rest

/-- The fields of an object as JSON. -/
def writeFields (layout : Layout) (depth : Nat) : List (Text × Value) → List Text
  | [] => []
  | (name, value) :: rest =>
    (string name ++ [':', ' '] ++ writeAt layout depth value) :: writeFields layout depth rest

end

/-- A value as JSON on one line. -/
def write (value : Value) : Text :=
  writeAt ⟨none⟩ 0 value

/-- A value as JSON with one item a line, two blanks deeper at every level. -/
def writeLines (value : Value) : Text :=
  writeAt ⟨some 2⟩ 0 value

end Json

namespace Value

/-- The text of a value in a table that has been read from a source. -/
def sourceCell : Value → Text
  | null => []
  | bool value => (if value then "true" else "false").toList
  | list items => Json.write (list items)
  | object fields => Json.write (object fields)
  | bytes value => value.flatMap fun byte => Text.hexDigits byte.toNat 2
  | value => value.plain

end Value

end TableSearch
