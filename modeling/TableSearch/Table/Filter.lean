import TableSearch.Control.ColumnName
import TableSearch.Sorting.Basic
import TableSearch.Table.Cache

/-! # Filtering and ordering a table

`Table.apply` returns the rows that pass the filter of a control, ordered by the tokens that sort
rows, then by relevance, then as they came.  It uses and renews a cache of what was found before.
`Table.orderColumns` puts the columns that a control names to the front.
-/

namespace TableSearch

/-- The key of a row: its identity, and how it is shown in a message. -/
structure RowKey (κ : Type) where
  identity : κ
  shown : Text

/-- How rows are told apart.  The key of a row may depend on its place. -/
abbrev KeyReader (κ ρ : Type) := Nat → ρ → Except TableError (RowKey κ)

namespace Table

variable {κ ρ : Type} [DecidableEq κ] (env : Environment)

/-- The order of two rows by the tokens of a control.  A token orders by the first column it names,
and not at all if it names none. -/
def sortOrder (columns : List (Column ρ)) (row₁ row₂ : ρ) : List Text → Ordering
  | [] => .eq
  | token :: rest =>
    let answer :=
      match columns.findSome? fun column =>
        (ColumnName.direction? token column.head.name).map (column, ·) with
      | some (column, direction) => column.order (direction == Direction.descending) row₁ row₂
      | none => .eq
    answer.then (sortOrder columns row₁ row₂ rest)

/-- The order of two filtered rows under a control. -/
def rowOrder (columns : List (Column ρ)) (control : Control) (row₁ row₂ : FilteredRow ρ) :
    Ordering :=
  (sortOrder columns row₁.value row₂.value control.rowSorting).then
    (if control.isSearch then row₁.relevance row₂ else .eq)

/-- Filtered rows in the order of a control. -/
def orderRows (columns : List (Column ρ)) (control : Control) (rows : List (FilteredRow ρ)) :
    List (FilteredRow ρ) :=
  if control.rowSorting.isEmpty && !control.isSearch then rows
  else Sorting.sort (fun row₁ row₂ => rowOrder columns control row₁ row₂ == .lt) rows

/-- One row evaluated, with the entry for it in the cache.  The entry is there even if the
evaluation fails. -/
def evaluateRow (columns : List (Column ρ)) (control : Control) (key : κ) (value : ρ)
    (cache : MatchCache κ ρ) : Except TableError (FilteredRow ρ) × MatchCache κ ρ :=
  let entry := cache.entry key value columns.length
  let evaluated := do
    let texts ← Column.renderAll columns value
    if entry.isCurrent texts control then return entry
    else entry.update env (Column.heads columns) texts control
  match evaluated with
  | .ok row => (.ok row, cache.put key row)
  | .error problem => (.error problem, cache.put key entry)

/-- The rows of a table that pass the filter, in the order they come in, the keys of all rows, and
the cache.  A failure ends the run; the rows before it stay in the cache. -/
def filterRows (columns : List (Column ρ)) (control : Control) (key : KeyReader κ ρ)
    (cache : MatchCache κ ρ) (keys : List κ) (place : Nat) :
    List ρ → Except TableError (List (FilteredRow ρ) × List κ) × MatchCache κ ρ
  | [] => (.ok ([], keys), cache)
  | value :: rest =>
    match key place value with
    | .error problem => (.error problem, cache)
    | .ok rowKey =>
      if rowKey.identity ∈ keys then (.error (.duplicateKey rowKey.shown), cache)
      else
        match evaluateRow env columns control rowKey.identity value cache with
        | (.error problem, cache) => (.error problem, cache)
        | (.ok row, cache) =>
          match filterRows columns control key cache (rowKey.identity :: keys) (place + 1) rest with
          | (.error problem, cache) => (.error problem, cache)
          | (.ok (kept, keys), cache) =>
            (.ok (if row.hasMatch then row :: kept else kept, keys), cache)

/-- The rows of a table that a control shows, in its order, and the renewed cache.  Rows that are no
longer there leave the cache. -/
def apply (columns : List (Column ρ)) (control : Control) (key : KeyReader κ ρ)
    (cache : MatchCache κ ρ) (rows : List ρ) :
    Except TableError (List (FilteredRow ρ)) × MatchCache κ ρ :=
  match filterRows env columns control key (cache.syncColumns (Column.heads columns)) [] 0 rows with
  | (.error problem, cache) => (.error problem, cache)
  | (.ok (kept, keys), cache) => (.ok (orderRows columns control kept), cache.retain keys)

/-- The place of the first token that names a column; the number of tokens if none does. -/
def columnRank (tokens : List Text) (name : Text) : Nat :=
  tokens.findIdx fun token => ColumnName.isNamedBy token name

/-- Columns in the order of a control: those its tokens name come first, in the order of the
tokens. -/
def orderColumns {α : Type} (name : α → Text) (control : Control) (columns : List α) : List α :=
  let rank (column : α) : Nat := columnRank control.columnSorting (name column)
  columns.mergeSort fun a b => rank a ≤ rank b

end Table

end TableSearch
