import TableSearch.Search.Cell

/-! # Searching a row

`Control.findRow` evaluates a control on all cells of a row.  Every control of a conjunction has to
match somewhere in the row, the columns may differ; if one does not, the row has no matches at all.
-/

namespace TableSearch

/-- What a control finds in the cells of a row. -/
abbrev RowMatch := List CellMatch

namespace RowMatch

/-- Nothing found in a row of the given length. -/
def none (length : Nat) : RowMatch :=
  List.replicate length Option.none

/-- Two findings in one row taken together. -/
def merge (found other : RowMatch) : RowMatch :=
  List.zipWith CellMatch.merge found other

/-- Whether spans were found in some cell. -/
def isHit (found : RowMatch) : Bool :=
  found.any CellMatch.isHit

end RowMatch

/-- A cell of a row: what a search looks at in its column, and its text. -/
structure Cell where
  head : ColumnHead
  text : Text
deriving DecidableEq, Repr

namespace Control

variable (env : Environment)

/-- What a control finds in a list of cells, each by itself. -/
def findCells (control : Control) : List Cell → Except SearchError RowMatch
  | [] => .ok []
  | cell :: rest => do
    let found ← control.find env cell.head.name cell.text cell.head.general
    return found :: (← findCells control rest)

variable (cells : List Cell)

mutual

/-- What a control finds in a row; nothing at all if it does not filter. -/
def findIn : Control → Except SearchError (Option RowMatch)
  | allOf children =>
    if anySearch children then (findInAll (.none cells.length) children).map some else .ok none
  | anyOf children =>
    if allSearch children then (findInAny (.none cells.length) children).map some else .ok none
  | term t => (findCells env (.term t) cells).map some
  | emptyCell => (findCells env .emptyCell cells).map some
  | predicate column test => (findCells env (.predicate column test) cells).map some
  | category name inner => (findCells env (.category name inner) cells).map some
  | rowSort _ | columnSort _ | unfiltered => .ok none

/-- What several controls find, added to what has been found. -/
def findInAny (found : RowMatch) : List Control → Except SearchError RowMatch
  | [] => .ok found
  | child :: rest => do
    match ← findIn child with
    | some answer => findInAny (found.merge answer) rest
    | none => findInAny found rest

/-- What several controls find, added to what has been found.  If one that filters finds nothing,
nothing is found at all. -/
def findInAll (found : RowMatch) : List Control → Except SearchError RowMatch
  | [] => .ok found
  | child :: rest => do
    if child.isSearch then
      match (← findIn child).filter RowMatch.isHit with
      | some answer => findInAll (found.merge answer) rest
      | none => return .none cells.length
    else findInAll found rest

end

/-- What a control finds in a row with the given columns and texts. -/
def findRow (heads : List ColumnHead) (texts : List Text) (control : Control) :
    Except SearchError (Option RowMatch) :=
  if heads.length ≠ texts.length then .error (.textCount texts.length heads.length)
  else control.findIn env (List.zipWith Cell.mk heads texts)

end Control

end TableSearch
