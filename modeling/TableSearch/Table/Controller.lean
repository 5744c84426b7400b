import TableSearch.Control.Combine
import TableSearch.Table.Filter

/-! # A table under a changing control

A controller holds the rows, the columns and the control of a table.  Each can be replaced; the
filtered rows and the ordered columns are computed when they are read, and kept until something they
depend on changes.
-/

namespace TableSearch

/-- A table whose rows, columns and control change over time. -/
structure Controller (κ ρ : Type) where
  columns : List (Column ρ)
  rows : List ρ
  control : Control
  key : KeyReader κ ρ
  cache : MatchCache κ ρ
  /-- The filtered rows, if nothing has changed since they were computed. -/
  filtered : Option (List (FilteredRow ρ))
  /-- The ordered columns, if nothing has changed since they were computed. -/
  ordered : Option (List (Column ρ))

namespace Controller

variable {κ ρ : Type} [DecidableEq κ]

/-- A controller that has not been read. -/
def make (columns : List (Column ρ)) (rows : List ρ) (control : Control) (key : KeyReader κ ρ) :
    Controller κ ρ :=
  ⟨columns, rows, control, key, .empty, none, none⟩

/-- The controller with everything that was computed dropped. -/
def invalidate (table : Controller κ ρ) : Controller κ ρ :=
  { table with filtered := none, ordered := none }

/-- The controller with another control. -/
def setControl (table : Controller κ ρ) (control : Control) : Controller κ ρ :=
  if control.isLike table.control then table else { table with control }.invalidate

/-- The controller with other rows. -/
def setRows (table : Controller κ ρ) (rows : List ρ) : Controller κ ρ :=
  { table with rows, filtered := none }

/-- The controller with one row replaced.  A negative place counts from the end. -/
def updateRow (table : Controller κ ρ) (place : Int) (row : ρ) :
    Except TableError (Controller κ ρ) :=
  let index := if place < 0 then place + table.rows.length else place
  if index < 0 || (table.rows.length : Int) ≤ index then .error .rowPlace
  else .ok { table with rows := table.rows.set index.toNat row, filtered := none }

/-- The controller with other columns. -/
def setColumns (table : Controller κ ρ) (columns : List (Column ρ)) : Controller κ ρ :=
  { table with columns }.invalidate

/-- The controller with the order by a column turned around. -/
def toggleSort (table : Controller κ ρ) (column : Text) : Controller κ ρ :=
  table.setControl (table.control.toggleSort column true)

/-- The filtered rows, and the controller that keeps them. -/
def readRows (env : Environment) (table : Controller κ ρ) :
    Except TableError (List (FilteredRow ρ)) × Controller κ ρ :=
  match table.filtered with
  | some rows => (.ok rows, table)
  | none =>
    match Table.apply env table.columns table.control table.key table.cache table.rows with
    | (.ok rows, cache) => (.ok rows, { table with cache, filtered := some rows })
    | (.error problem, cache) => (.error problem, { table with cache })

/-- The columns in display order, and the controller that keeps them. -/
def readColumns (table : Controller κ ρ) : List (Column ρ) × Controller κ ρ :=
  match table.ordered with
  | some columns => (columns, table)
  | none =>
    let columns := Table.orderColumns (·.head.name) table.control table.columns
    (columns, { table with ordered := some columns })

end Controller

end TableSearch
