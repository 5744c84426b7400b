import TableSearch.Control.ColumnName
import TableSearch.Search.Term

/-! # Searching a cell

`Control.find` evaluates a control on the text of one cell.  It answers nothing if the control does
not apply to the column, and otherwise the spans it matches, which may be none.
-/

namespace TableSearch

/-- What a control finds in one cell: nothing if it does not apply, otherwise a set of spans. -/
abbrev CellMatch := Option SpanSet

namespace CellMatch

/-- Two findings in one cell taken together. -/
def merge : CellMatch → CellMatch → CellMatch
  | found, none => found
  | none, some spans => some spans
  | some before, some spans => some (before.union spans)

/-- Whether spans were found. -/
def isHit (found : CellMatch) : Bool :=
  found.any (!·.isEmpty)

end CellMatch

namespace Control

variable (env : Environment) (column text : Text)

mutual

/-- What a control finds in a cell.  Terms are looked for only if the column takes part in the
general search, or if a category names it. -/
def find (general : Bool) : Control → Except SearchError CellMatch
  | term t => if general then (t.find env.readDate text).map some else .ok none
  | emptyCell => .ok (some (if text.isEmpty then .ofList [⟨0, 0⟩] else .empty))
  | predicate name test =>
    .ok (if name ≠ column then none
      else some (if env.cellTest test text then .ofList [⟨0, text.length⟩] else .empty))
  | category name inner =>
    if ColumnName.startsWith name column then find true inner else .ok none
  | anyOf children => findAny general none children
  | allOf children => findAll general none children
  | rowSort _ | columnSort _ | unfiltered => .ok none

/-- What several controls find, added to what has been found. -/
def findAny (general : Bool) (found : CellMatch) : List Control → Except SearchError CellMatch
  | [] => .ok found
  | child :: rest => do
    findAny general (found.merge (← find general child)) rest

/-- What several controls find, added to what has been found, as long as each of them that filters
finds something; otherwise the answer of the first that does not. -/
def findAll (general : Bool) (found : CellMatch) : List Control → Except SearchError CellMatch
  | [] => .ok found
  | child :: rest => do
    if child.isSearch then
      let answer ← find general child
      if CellMatch.isHit answer then findAll general (found.merge answer) rest else return answer
    else findAll general found rest

end

end Control

end TableSearch
