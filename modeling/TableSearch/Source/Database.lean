import TableSearch.Source.Sheet
import TableSearch.Number.Natural
import TableSearch.Number.Numeral

/-! # Database tables

A database file holds tables.  A column has a declared type, which gives it an affinity: a stored
value is converted to it where nothing is lost.  A `Database` is what can be asked of such a file once
it is open.
-/

namespace TableSearch

/-- The kind of value that a column prefers. -/
inductive Affinity where
  | integer
  | text
  | blob
  | real
  | numeric
deriving DecidableEq, Repr

namespace Affinity

/-- The affinity of a declared type: the first of some words that the type holds decides. -/
def ofType (declared : Text) : Affinity :=
  let lower := declared.lower
  let holds (word : String) : Bool := lower.includes word.toList
  if holds "int" then integer
  else if holds "char" || holds "clob" || holds "text" then text
  else if holds "blob" || declared.isEmpty then blob
  else if holds "real" || holds "floa" || holds "doub" then real
  else numeric

/-- The integer that a double equals, if it fits into 64 bits. -/
def integerOf? : Double → Option Int
  | .finite negative significand exponent =>
    let units : Option Nat :=
      match exponent with
      | .ofNat power => some (significand * Nat.pow 2 power)
      | .negSucc power =>
        if significand % Nat.pow 2 (power + 1) = 0 then
          some (significand / Nat.pow 2 (power + 1))
        else none
    units.bind fun units =>
      if units < Nat.pow 2 63 then some (if negative then -(units : Int) else units) else none
  | _ => none

/-- The number that a text is, if it is one. -/
def numberOf? (text : Text) : Option Value :=
  let text := text.trim
  let (negative, digits) := Double.takeSign text
  if digits.isEmpty || !digits.all (fun c => isDigit c || ".eE+-".toList.contains c) then none
  else if digits.all isDigit && natOfDigits digits < Nat.pow 2 63 then
    some (.int (if negative then -(natOfDigits digits : Int) else natOfDigits digits))
  else (Double.ofText? text).map .float

/-- A number without a fraction as an integer. -/
def preferInteger : Value → Value
  | .float x => (integerOf? x).elim (.float x) .int
  | value => value

/-- An integer as a number with a point. -/
def preferReal : Value → Value
  | .int value => .float (Double.ofInt value)
  | value => value

/-- A value as a database holds it: a truth value is a number, and what is not a number is
nothing. -/
def stored : Value → Value
  | .bool value => .int (if value then 1 else 0)
  | .float .nan => .null
  | value => value

/-- A text as the number that it is, if it is one. -/
def readNumber : Value → Value
  | .text digits => (numberOf? digits).getD (.text digits)
  | value => value

/-- A value as a column keeps it. -/
def keep (affinity : Affinity) (value : Value) : Value :=
  match affinity, stored value with
  | .blob, value => value
  | .text, .int value => .text (Text.ofInt value)
  | .text, .float value => .text value.text
  | .text, value => value
  | .real, value => preferReal (readNumber value)
  | .integer, value | .numeric, value => preferInteger (readNumber value)

end Affinity

/-- A table of a database. -/
structure StoredTable where
  name : Text
  /-- The names of the columns with their declared types. -/
  columns : List (Text × Text)
  rows : List (List Value)

namespace StoredTable

/-- The rows of a table with the names of its columns. -/
def sheet (table : StoredTable) : Sheet :=
  let affinities := table.columns.map fun column => Affinity.ofType column.2
  let names := table.columns.map Prod.fst
  ⟨table.name, names, table.rows.map fun row =>
    names.zip (List.zipWith Affinity.keep affinities row)⟩

/-- The table with a name, whose letters may be written in either case. -/
def named? (tables : List StoredTable) (name : Text) : Option StoredTable :=
  let folded (text : Text) : Text := text.map Char.toLower
  tables.find? fun table => folded table.name == folded name

/-- The names of tables in the order of their characters. -/
def names (tables : List StoredTable) : List Text :=
  (tables.map (·.name)).mergeSort fun name₁ name₂ => name₁.order name₂ != .gt

end StoredTable

/-- Why a database gives no answer. -/
inductive DatabaseError where
  /-- The library that reads databases says so. -/
  | library (wording : String)
  /-- An error of another kind that the library lets through. -/
  | foreign (kind wording : String)
deriving DecidableEq, Repr

namespace DatabaseError

/-- The wording of an error. -/
def message : DatabaseError → String
  | library wording | foreign _ wording => wording

end DatabaseError

/-- An open database. -/
structure Database where
  tableNames : Except DatabaseError (List Text)
  /-- The sheet that the table with a name is, if there is one. -/
  sheet? : Text → Except DatabaseError (Option Sheet)

namespace Database

/-- The database with the given tables. -/
def ofTables (tables : List StoredTable) : Database where
  tableNames := .ok (StoredTable.names tables)
  sheet? name := .ok ((StoredTable.named? tables name).map StoredTable.sheet)

/-- A file that is no database. -/
def broken : Database where
  tableNames := .error (.library "file is not a database")
  sheet? _ := .error (.library "file is not a database")

end Database

end TableSearch
