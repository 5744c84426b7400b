import TableSearch.Text.Quoted
import TableSearch.Toml.Value

/-! # Writing TOML

A document of sections, each with a header and one line for each field.  A list has one line for
each item.
-/

namespace TableSearch

namespace Toml

/-- A character inside a string. -/
def stringChar (c : Char) : Text :=
  if c = '"' then ['\\', '"']
  else if c = '\\' then ['\\', '\\']
  else if c = '\n' then ['\\', 'n']
  else if c = '\r' then ['\\', 'r']
  else if c.toNat = 8 then ['\\', 'b']
  else if c.toNat = 12 then ['\\', 'f']
  else if (c.toNat < 32 && c ≠ '\t') || c.toNat = 127 then ['\\', 'u'] ++ Text.hexDigits c.toNat 4
  else [c]

/-- A string. -/
def string (text : Text) : Text :=
  '"' :: text.flatMap stringChar ++ ['"']

/-- A value of a settings file. -/
inductive Setting where
  | text (value : Text)
  | int (value : Int)
  | bool (value : Bool)
  | texts (items : List Text)
deriving DecidableEq, Repr

/-- A value as it is written. -/
def writeSetting : Setting → Text
  | .text value => string value
  | .int value => Text.ofInt value
  | .bool value => (if value then "true" else "false").toList
  | .texts [] => ['[', ']']
  | .texts items =>
    ['[', '\n'] ++ items.flatMap (fun item => "    ".toList ++ string item ++ [',', '\n']) ++ [']']

/-- A section with a header. -/
def writeSection (name : Text) (fields : List (Text × Setting)) : Text :=
  '[' :: name ++ [']', '\n'] ++
    fields.flatMap fun (name, value) => name ++ " = ".toList ++ writeSetting value ++ ['\n']

/-- Sections with an empty line between them. -/
def write (sections : List (Text × List (Text × Setting))) : Text :=
  Text.join ['\n'] (sections.map fun (name, fields) => writeSection name fields)

end Toml

end TableSearch
