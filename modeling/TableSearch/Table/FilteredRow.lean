import TableSearch.Search.Row
import TableSearch.Table.Basic

/-! # Filtered rows

A row together with what a control found in it, and with the texts and the control for which that
was found.
-/

namespace TableSearch

/-- A row with what was found in it. -/
structure FilteredRow (ρ : Type) where
  value : ρ
  /-- What was found in each column. -/
  found : RowMatch
  /-- Whether the row passes the filter. -/
  hasMatch : Bool
  /-- Whether there was a filter, as opposed to an order alone. -/
  filtered : Bool
  /-- The texts that were evaluated, and the control without the signs of its zeros. -/
  evaluated : Option (List Text × Control)

namespace FilteredRow

variable {ρ : Type}

/-- A row in which nothing has been looked for. -/
def fresh (value : ρ) (columns : Nat) : FilteredRow ρ :=
  ⟨value, .none columns, false, false, none⟩

/-- The row with everything forgotten, for another number of columns. -/
def resize (row : FilteredRow ρ) (columns : Nat) : FilteredRow ρ :=
  .fresh row.value columns

/-- Whether the row has been evaluated for these texts and this control. -/
def isCurrent (row : FilteredRow ρ) (texts : List Text) (control : Control) : Bool :=
  decide (row.evaluated = some (texts, control.plain))

/-- What a control finds in a row with these texts. -/
def evaluate (env : Environment) (value : ρ) (heads : List ColumnHead) (texts : List Text)
    (control : Control) : Except SearchError (FilteredRow ρ) :=
  if control.isSearch then do
    let found := ((← control.findRow env heads texts)).getD (.none texts.length)
    return ⟨value, found, found.isHit, true, some (texts, control.plain)⟩
  else .ok ⟨value, .none texts.length, true, false, some (texts, control.plain)⟩

/-- The row evaluated for new texts, which have to fit its columns. -/
def update (env : Environment) (row : FilteredRow ρ) (heads : List ColumnHead) (texts : List Text)
    (control : Control) : Except TableError (FilteredRow ρ) :=
  if texts.length ≠ row.found.length then .error (.slotCount row.found.length texts.length)
  else (evaluate env row.value heads texts control).mapError .search

/-- How many spans were found. -/
def matchCount (row : FilteredRow ρ) : Nat :=
  total (row.found.map fun found => (found.map SpanSet.size).getD 0)

/-- Where the earliest span starts. -/
def firstStart? (row : FilteredRow ρ) : Option Nat :=
  (row.found.filterMap fun found => found.bind SpanSet.firstStart?).min?

/-- The order by relevance: more spans first, then the earlier first span. -/
def relevance (row other : FilteredRow ρ) : Ordering :=
  (compare other.matchCount row.matchCount).then
    (match row.firstStart?, other.firstStart? with
      | some start, some start' => compare start start'
      | _, _ => .eq)

end FilteredRow

end TableSearch
