import TableSearch.Instant.Scan
import TableSearch.Control.Basic

/-! # What a search depends on

The reading of dates and the named tests on cells are given from outside; every statement about a
search holds for all of them.
-/

namespace TableSearch

/-- What a search is given from outside. -/
structure Environment where
  /-- The reading of texts as dates. -/
  readDate : DateReader
  /-- Whether a named test accepts the text of a cell. -/
  cellTest : Text → Text → Bool

/-- Why a search could not be carried out. -/
inductive SearchError where
  /-- A duration in a cell has a unit that is not known. -/
  | unit (problem : UnknownUnit)
  /-- A term of an unknown kind was looked for. -/
  | unknownTerm
  /-- A row has more or fewer texts than there are columns. -/
  | textCount (texts columns : Nat)
deriving DecidableEq, Repr

namespace SearchError

/-- The wording of a failure. -/
def message : SearchError → String
  | unit problem => problem.message
  | unknownTerm => "Unknown control type: Unknown"
  | textCount texts columns => toString texts ++ " texts for " ++ toString columns ++ " columns"

end SearchError

/-- What a search looks at in a column: its name, and whether terms without a column name are looked
for in it. -/
structure ColumnHead where
  name : Text
  general : Bool
deriving DecidableEq, Repr

end TableSearch
