import TableSearch.Search.Basic
import TableSearch.Table.CellOrder

/-! # Columns

A column of a table knows its name, whether it takes part in the general search, the text of its
cell in a row, and how two rows compare in it.  The type of rows is left open.
-/

namespace TableSearch

/-- Why a table could not be filtered. -/
inductive TableError where
  /-- The search itself failed. -/
  | search (problem : SearchError)
  /-- A row has been set up for another number of columns. -/
  | slotCount (slots columns : Nat)
  /-- Two rows have the same key. -/
  | duplicateKey (shown : Text)
  /-- A row has no cell for its key. -/
  | missingKey (shown : Text)
  /-- The key of a row is a list or an object. -/
  | compoundKey (kind : String)
  /-- A row has too few cells. -/
  | cellPlace
  /-- A list of cells is asked for a name. -/
  | cellName
  /-- There is no row at a place. -/
  | rowPlace
deriving DecidableEq, Repr

namespace TableError

/-- The wording of a failure. -/
def message : TableError → String
  | search problem => problem.message
  | slotCount slots columns =>
    "Row has " ++ toString slots ++ " match slots but " ++ toString columns ++ " columns"
  | duplicateKey shown => "Duplicate row key: " ++ shown.toString
  | missingKey shown => shown.toString
  | compoundKey kind => "unhashable type: '" ++ kind ++ "'"
  | cellPlace => "list index out of range"
  | cellName => "list indices must be integers or slices, not str"
  | rowPlace => "list assignment index out of range"

end TableError

/-- A column of a table with rows of type `ρ`. -/
structure Column (ρ : Type) where
  head : ColumnHead
  render : ρ → Except TableError Text
  /-- The order of two rows, if the column has one of its own.  It is told whether the direction is
  descending, and need not be the reversed order then. -/
  comparator : Option (ρ → ρ → Bool → Ordering)

namespace Column

variable {ρ : Type}

/-- The order of two rows in a column: the given one, or that of the cell texts. -/
def order (column : Column ρ) (reverse : Bool) (row₁ row₂ : ρ) : Ordering :=
  match column.comparator with
  | some compare => compare row₁ row₂ reverse
  | none =>
    CellOrder.orderCells reverse (column.render row₁).toOption (column.render row₂).toOption

/-- The texts of a row in several columns. -/
def renderAll (columns : List (Column ρ)) (row : ρ) : Except TableError (List Text) :=
  columns.mapM fun column => column.render row

/-- What a search looks at in several columns. -/
def heads (columns : List (Column ρ)) : List ColumnHead :=
  columns.map (·.head)

end Column

end TableSearch
