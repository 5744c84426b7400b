import TableSearch.Text.Case
import TableSearch.Json.Writer
import TableSearch.Table.Record

/-! # Sheets

A sheet is what a source is read into: a name, the names of its columns and its rows.
-/

namespace TableSearch

/-- The rows of a source with the names of its columns. -/
structure Sheet where
  name : Text
  columns : List Text
  rows : List (List (Text × Value))

namespace Sheet

/-- Whether a column is left out of the general search; letter case does not count. -/
def isExcluded (excluded : List Text) (name : Text) : Bool :=
  (excluded.map Text.lower).contains name.lower

/-- The columns for the names of a sheet. -/
def columnsOf (names excluded : List Text) : List (Column Record) :=
  names.map fun name =>
    Record.column ⟨name, !isExcluded excluded name⟩ (.name name) Value.sourceCell none

/-- The text of a cell. -/
def cellText (row : List (Text × Value)) (name : Text) : Text :=
  Value.sourceCell ((row.lookup name).getD .null)

/-- The texts of all cells. -/
def texts (sheet : Sheet) : List (List Text) :=
  sheet.rows.map fun row => sheet.columns.map (cellText row)

end Sheet

end TableSearch
