import TableSearch.Proofs.Search.Order

/-! # The rows that satisfy a control

A control other than a combination is satisfied by a row if it reports a span in some cell; a
disjunction if one of its parts is satisfied, and a conjunction if all of its parts that filter are
satisfied, each perhaps in another cell (`TableSearch.Control.satisfied`). The spans of a satisfied
control in a cell are those of its satisfied parts taken together
(`TableSearch.Control.contribution`).

The search of a row agrees with both, and it returns an answer exactly when none of the parts that
it has to look at fails (`TableSearch.Control.findRow_agrees_iff`).
-/

namespace TableSearch

namespace Control

/-- What a control finds in a cell. -/
def findCell (env : Environment) (control : Control) (cell : Cell) :
    Except SearchError CellMatch :=
  control.find env cell.head.name cell.text cell.head.general

/-- The spans that a control reports in a cell. -/
def reported (env : Environment) (control : Control) (cell : Cell) : SpanSet :=
  match control.findCell env cell with
  | .ok found => found.spans
  | .error _ => .empty

variable (env : Environment) (cells : List Cell)

/-- Whether a control reports a span in some cell. -/
def reports (control : Control) : Bool :=
  cells.any fun cell => !(control.reported env cell).isEmpty

/-- Whether a control fails in some cell. -/
def isStuck (control : Control) : Bool :=
  cells.any fun cell => !(control.findCell env cell).isOk

mutual

/-- Whether a row satisfies a control. -/
def satisfied : Control → Bool
  | anyOf children => anySatisfied children
  | allOf children => allSatisfied children
  | term t => (term t).reports env cells
  | emptyCell => emptyCell.reports env cells
  | predicate column test => (predicate column test).reports env cells
  | category name inner => (category name inner).reports env cells
  | rowSort tokens => (rowSort tokens).reports env cells
  | columnSort tokens => (columnSort tokens).reports env cells
  | unfiltered => unfiltered.reports env cells

/-- Whether a row satisfies one of several controls. -/
def anySatisfied : List Control → Bool
  | [] => false
  | child :: rest => satisfied child || anySatisfied rest

/-- Whether a row satisfies every one of several controls that filters. -/
def allSatisfied : List Control → Bool
  | [] => true
  | child :: rest => (!child.isSearch || satisfied child) && allSatisfied rest

end

mutual

/-- The spans of a satisfied control in a cell. -/
def contribution (cell : Cell) : Control → SpanSet
  | anyOf children => contributions cell children
  | allOf children => contributions cell children
  | term t => (term t).reported env cell
  | emptyCell => emptyCell.reported env cell
  | predicate column test => (predicate column test).reported env cell
  | category name inner => (category name inner).reported env cell
  | rowSort tokens => (rowSort tokens).reported env cell
  | columnSort tokens => (columnSort tokens).reported env cell
  | unfiltered => unfiltered.reported env cell

/-- The spans in a cell of those among several controls that filter and are satisfied. -/
def contributions (cell : Cell) : List Control → SpanSet
  | [] => .empty
  | child :: rest =>
    if child.isSearch && child.satisfied env cells then
      (contribution cell child).union (contributions cell rest)
    else contributions cell rest

end

/-- The spans of a control in a cell, none if it is not satisfied. -/
def shown (control : Control) (cell : Cell) : SpanSet :=
  if control.satisfied env cells then control.contribution env cells cell else .empty

mutual

/-- Whether the search of a row has to look at a control that fails in some cell. -/
def fails : Control → Bool
  | anyOf children => anyFails children
  | allOf children => failsInTurn children
  | term t => (term t).isStuck env cells
  | emptyCell => emptyCell.isStuck env cells
  | predicate column test => (predicate column test).isStuck env cells
  | category name inner => (category name inner).isStuck env cells
  | rowSort tokens => (rowSort tokens).isStuck env cells
  | columnSort tokens => (columnSort tokens).isStuck env cells
  | unfiltered => unfiltered.isStuck env cells

/-- Whether one of several controls fails. -/
def anyFails : List Control → Bool
  | [] => false
  | child :: rest => fails child || anyFails rest

/-- Whether one of several controls that filter fails before one that is not satisfied. -/
def failsInTurn : List Control → Bool
  | [] => false
  | child :: rest =>
    if child.isSearch then fails child || (child.satisfied env cells && failsInTurn rest)
    else failsInTurn rest

end

variable {env cells} {control : Control} {cell : Cell} {children : List Control}

/-! ## One of several controls -/

/-- One of several controls is satisfied exactly when some control among them is. -/
theorem anySatisfied_iff :
    anySatisfied env cells children = true ↔ ∃ child ∈ children, child.satisfied env cells = true := by
  induction children with
  | nil =>
      rw [anySatisfied]
      simp
  | cons child rest ih =>
      rw [anySatisfied, Bool.or_eq_true, ih]
      simp

/-- One of several controls fails exactly when some control among them does. -/
theorem anyFails_iff :
    anyFails env cells children = true ↔ ∃ child ∈ children, child.fails env cells = true := by
  induction children with
  | nil =>
      rw [anyFails]
      simp
  | cons child rest ih =>
      rw [anyFails, Bool.or_eq_true, ih]
      simp

/-! ## The spans of a satisfied control -/

theorem reported_ordered : (control.reported env cell).Ordered := by
  rw [reported]
  split
  · rename_i found answer
    exact CellMatch.spans_ordered (find_ordered control answer)
  · exact SpanSet.ordered_empty

mutual

/-- What a control contributes in a cell is in order. -/
theorem contribution_ordered : (control : Control) →
    (control.contribution env cells cell).Ordered
  | anyOf children | allOf children => by
      rw [contribution]
      exact contributions_ordered children
  | term _ | emptyCell | predicate _ _ | category _ _ | rowSort _ | columnSort _ | unfiltered => by
      rw [contribution]
      exact reported_ordered

/-- What several controls contribute in a cell is in order. -/
theorem contributions_ordered : (children : List Control) →
    (contributions env cells cell children).Ordered
  | [] => by
      rw [contributions]
      exact SpanSet.ordered_empty
  | child :: rest => by
      rw [contributions]
      split
      · exact SpanSet.union_ordered (contribution_ordered child) (contributions_ordered rest)
      · exact contributions_ordered rest

end

/-- Controls none of which is satisfied contribute nothing. -/
theorem contributions_eq_empty (unsatisfied : anySatisfied env cells children = false) :
    contributions env cells cell children = .empty := by
  induction children with
  | nil => rw [contributions]
  | cons child rest ih =>
      rw [anySatisfied, Bool.or_eq_false_iff] at unsatisfied
      rw [contributions, unsatisfied.1, Bool.and_false, if_neg Bool.false_ne_true]
      exact ih unsatisfied.2

mutual

/-- A control that filters and is satisfied has a span in some cell. -/
theorem exists_contribution : (control : Control) → control.isSearch = true →
    control.satisfied env cells = true →
    ∃ cell ∈ cells, (control.contribution env cells cell).isEmpty = false
  | anyOf children, search, holds => by
      rw [isSearch] at search
      rw [satisfied] at holds
      exact exists_contributions_of_any children search holds
  | allOf children, search, holds => by
      rw [isSearch] at search
      rw [satisfied] at holds
      exact exists_contributions_of_all children search holds
  | term _, _, holds | emptyCell, _, holds | predicate _ _, _, holds | category _ _, _, holds => by
      rw [satisfied, reports, List.any_eq_true] at holds
      simpa only [contribution, Bool.not_eq_true'] using holds
  | rowSort _, search, _ | columnSort _, search, _ | unfiltered, search, _ => by
      rw [isSearch] at search
      cases search

/-- A disjunction of searches that is satisfied contributes spans in some cell. -/
theorem exists_contributions_of_any : (children : List Control) → allSearch children = true →
    anySatisfied env cells children = true →
    ∃ cell ∈ cells, (contributions env cells cell children).isEmpty = false
  | [], _, holds => by
      rw [anySatisfied] at holds
      cases holds
  | child :: rest, search, holds => by
      rw [allSearch, Bool.and_eq_true] at search
      rw [anySatisfied] at holds
      by_cases first : child.satisfied env cells = true
      · obtain ⟨cell, member, nonempty⟩ := exists_contribution child search.1 first
        refine ⟨cell, member, ?_⟩
        rw [contributions, search.1, first, Bool.and_self, if_pos rfl, SpanSet.isEmpty_union,
          nonempty, Bool.false_and]
      · rw [Bool.not_eq_true] at first
        rw [first, Bool.false_or] at holds
        obtain ⟨cell, member, nonempty⟩ := exists_contributions_of_any rest search.2 holds
        refine ⟨cell, member, ?_⟩
        rw [contributions, first, Bool.and_false, if_neg Bool.false_ne_true, nonempty]

/-- A conjunction with a search that is satisfied contributes spans in some cell. -/
theorem exists_contributions_of_all : (children : List Control) → anySearch children = true →
    allSatisfied env cells children = true →
    ∃ cell ∈ cells, (contributions env cells cell children).isEmpty = false
  | [], search, _ => by
      rw [anySearch] at search
      cases search
  | child :: rest, search, holds => by
      rw [allSatisfied, Bool.and_eq_true] at holds
      rw [anySearch] at search
      by_cases filters : child.isSearch = true
      · have first : child.satisfied env cells = true := by
          simpa only [filters, Bool.not_true, Bool.false_or] using holds.1
        obtain ⟨cell, member, nonempty⟩ := exists_contribution child filters first
        refine ⟨cell, member, ?_⟩
        rw [contributions, filters, first, Bool.and_self, if_pos rfl, SpanSet.isEmpty_union,
          nonempty, Bool.false_and]
      · rw [Bool.not_eq_true] at filters
        rw [filters, Bool.false_or] at search
        obtain ⟨cell, member, nonempty⟩ := exists_contributions_of_all rest search holds.2
        refine ⟨cell, member, ?_⟩
        rw [contributions, filters, Bool.false_and, if_neg Bool.false_ne_true, nonempty]

end

end Control

end TableSearch
