import TableSearch.Proofs.Search.Order

/-! # A row of one cell

A control is evaluated on a cell and on a row by two different recursions. They merge what the parts
of a control find in different ways, and a conjunction that misses a part answers with what that part
found in the cell, but with nothing for the row.

`TableSearch.Control.findRow_singleton`: for a control that filters, the row of a single cell has a
match exactly if the cell has spans, and then both have found the same.

By recursion over the control, both answers have the same spans, and are the same failure if one of
them is one (`TableSearch.AnswersAlike`).  An answer without spans may be written in two ways, so that
this is all that can be said of a part that is missed.
-/

namespace TableSearch

/-- Whether the answer for a row of one cell and the answer for the cell are the same failure, or
findings with the same spans. -/
def AnswersAlike (row : Except SearchError (Option RowMatch)) (cell : Except SearchError CellMatch) :
    Prop :=
  (∃ problem, row = .error problem ∧ cell = .error problem) ∨
    ∃ found answer : CellMatch, row = .ok (some [found]) ∧ cell = .ok answer ∧
      found.Ordered ∧ answer.Ordered ∧ found.spans = answer.spans

namespace AnswersAlike

variable {found answer : CellMatch} {cell : Except SearchError CellMatch}

theorem of_findings (left : found.Ordered) (right : answer.Ordered)
    (same : found.spans = answer.spans) : AnswersAlike (.ok (some [found])) (.ok answer) :=
  .inr ⟨found, answer, rfl, rfl, left, right, same⟩

/-- The answer for a cell is like itself as the answer for a row. -/
theorem self (ordered : ∀ answer, cell = .ok answer → answer.Ordered) :
    AnswersAlike (cell.map fun answer => some [answer]) cell := by
  cases cell with
  | error problem => exact .inl ⟨problem, rfl, rfl⟩
  | ok answer => exact of_findings (ordered answer rfl) (ordered answer rfl) rfl

end AnswersAlike

namespace CellMatch

variable {found answer more added : CellMatch}

/-- A finding in a row of one cell is a hit exactly if the cell has spans. -/
theorem isHit_congr (same : found.spans = answer.spans) : found.isHit = answer.isHit := by
  rw [isHit_eq, isHit_eq, same]

/-- Findings with the same spans are equal if there are some. -/
theorem eq_of_spans (same : found.spans = answer.spans) (hit : found.isHit = true) :
    found = answer := by
  have hit' : answer.isHit = true := (isHit_congr same).symm.trans hit
  cases found with
  | none => cases hit
  | some spans =>
      cases answer with
      | none => cases hit'
      | some spans' => exact congrArg some same

/-- A finding without spans has the spans of no finding. -/
theorem spans_of_not_hit (missed : ¬found.isHit = true) : found.spans = spans none := by
  rw [isHit_eq, Bool.not_eq_true, Bool.not_eq_false'] at missed
  exact SpanSet.eq_of_spans_eq (List.isEmpty_iff.mp missed)

theorem spans_merge_congr (left : more.Ordered) (right : added.Ordered)
    (same : found.spans = answer.spans) (same' : more.spans = added.spans) :
    (found.merge more).spans = (answer.merge added).spans := by
  rw [spans_merge left, spans_merge right, same, same']

end CellMatch

namespace Control

variable {env : Environment} {head : ColumnHead} {text : Text} {control : Control}

theorem findCells_singleton :
    (control.findCells env [⟨head, text⟩]).map some =
      (control.find env head.name text head.general).map fun answer => some [answer] := by
  rw [findCells, findCells]
  cases control.find env head.name text head.general <;> rfl

theorem findCells_agrees :
    AnswersAlike ((control.findCells env [⟨head, text⟩]).map some)
      (control.find env head.name text head.general) := by
  rw [findCells_singleton]
  exact .self fun _ => find_ordered control

mutual

/-- **Parts.** What a control that filters finds in a row of one cell, and in the cell. -/
theorem findIn_agrees : (control : Control) → control.isSearch = true →
    AnswersAlike (control.findIn env [⟨head, text⟩])
      (control.find env head.name text head.general)
  | anyOf children, search => by
      rw [isSearch] at search
      rw [findIn, if_pos search, find]
      exact findInAny_agrees children search CellMatch.ordered_none CellMatch.ordered_none rfl
  | allOf children, search => by
      rw [isSearch] at search
      rw [findIn, if_pos search, find]
      exact findInAll_agrees children CellMatch.ordered_none CellMatch.ordered_none rfl
  | term _, _ | emptyCell, _ | predicate _ _, _ | category _ _, _ => by
      rw [findIn]
      exact findCells_agrees
  | rowSort _, search | columnSort _, search | unfiltered, search => by
      rw [isSearch] at search
      cases search

/-- A disjunction has like answers for the row and for the cell, if what was found before has the
same spans. -/
theorem findInAny_agrees {found answer : CellMatch} : (children : List Control) →
    allSearch children = true → found.Ordered → answer.Ordered → found.spans = answer.spans →
    AnswersAlike ((findInAny env [⟨head, text⟩] [found] children).map some)
      (findAny env head.name text head.general answer children)
  | [], _, left, right, same => by
      rw [findInAny, findAny]
      exact .of_findings left right same
  | child :: rest, search, left, right, same => by
      rw [allSearch, Bool.and_eq_true] at search
      rw [findInAny, findAny]
      rcases findIn_agrees child search.1 with
        ⟨problem, row, cell⟩ | ⟨more, added, row, cell, left', right', same'⟩
      · rw [row, cell]
        exact .inl ⟨problem, rfl, rfl⟩
      · rw [row, cell]
        exact findInAny_agrees rest search.2 (CellMatch.merge_ordered left left')
          (CellMatch.merge_ordered right right') (CellMatch.spans_merge_congr left' right' same same')

/-- A conjunction has like answers for the row and for the cell, if what was found before has the
same spans. -/
theorem findInAll_agrees {found answer : CellMatch} : (children : List Control) →
    found.Ordered → answer.Ordered → found.spans = answer.spans →
    AnswersAlike ((findInAll env [⟨head, text⟩] [found] children).map some)
      (findAll env head.name text head.general answer children)
  | [], left, right, same => by
      rw [findInAll, findAll]
      exact .of_findings left right same
  | child :: rest, left, right, same => by
      rw [findInAll, findAll]
      by_cases search : child.isSearch = true
      · rw [if_pos search, if_pos search]
        rcases findIn_agrees child search with
          ⟨problem, row, cell⟩ | ⟨more, added, row, cell, left', right', same'⟩
        · rw [row, cell]
          exact .inl ⟨problem, rfl, rfl⟩
        · have single : RowMatch.isHit [more] = added.isHit :=
            (Bool.or_false _).trans (CellMatch.isHit_congr same')
          rw [row, cell]
          simp only [bind, Except.bind, Option.filter, single]
          by_cases hit : added.isHit = true
          · rw [if_pos hit, if_pos hit]
            exact findInAll_agrees rest (CellMatch.merge_ordered left left')
              (CellMatch.merge_ordered right right')
              (CellMatch.spans_merge_congr left' right' same same')
          · -- The row has found nothing at all, the cell what the part that it misses has found.
            rw [if_neg hit, if_neg hit]
            exact .of_findings CellMatch.ordered_none right'
              (CellMatch.spans_of_not_hit hit).symm
      · rw [if_neg search, if_neg search]
        exact findInAll_agrees rest left right same

end

/-- **Single cells.** For a control that filters, the search of a row of one cell fails as the search
of the cell does; otherwise it has a match exactly if the cell has spans, and has found the same. -/
theorem findRow_singleton (search : control.isSearch = true) :
    (∀ problem, control.findRow env [head] [text] = .error problem ↔
      control.find env head.name text head.general = .error problem) ∧
    ∀ answer, control.find env head.name text head.general = .ok answer →
      ∃ found, control.findRow env [head] [text] = .ok (some [found]) ∧
        RowMatch.isHit [found] = answer.isHit ∧
        (RowMatch.isHit [found] = true → found = answer) := by
  have whole : control.findRow env [head] [text] = control.findIn env [⟨head, text⟩] := by
    have fits : [head].length = [text].length := rfl
    rw [findRow, if_neg (not_not_intro fits)]
    rfl
  rw [whole]
  rcases findIn_agrees control search with
    ⟨problem, row, cell⟩ | ⟨found, answer, row, cell, -, -, same⟩
  · rw [row, cell]
    refine ⟨fun problem' => ?_, fun answer absent => by cases absent⟩
    rw [Except.error.injEq, Except.error.injEq]
  · rw [row, cell]
    have single : RowMatch.isHit [found] = found.isHit := Bool.or_false _
    constructor
    · intro problem
      exact iff_of_false (fun absent => by cases absent) fun absent => by cases absent
    · rintro _ ⟨⟩
      refine ⟨found, rfl, ?_, ?_⟩
      · rw [single, CellMatch.isHit_congr same]
      · rw [single]
        exact CellMatch.eq_of_spans same

/-- A cell with `ab` in the column `x`, for a conjunction with a disjunction, a search in `x` and an
order. -/
theorem findRow_singleton_of_conjunction :
    let env : Environment := ⟨fun _ => none, fun _ _ => false⟩
    let head : ColumnHead := ⟨['x'], true⟩
    let text : Text := ['a', 'b']
    let control : Control := .allOf [.anyOf [.emptyCell, .term (.literal ['b'])],
      .category ['x'] (.term (.literal ['a'])), .rowSort [['x']]]
    control.isSearch = true ∧
      ∃ found, control.findRow env [head] [text] = .ok (some [found]) ∧
        RowMatch.isHit [found] = true ∧ found = some ⟨[⟨0, 1⟩, ⟨1, 2⟩]⟩ := by
  intro env head text control
  have known : control.find env head.name text head.general =
      .ok (some ⟨[⟨0, 1⟩, ⟨1, 2⟩]⟩) := by decide +kernel
  have search : control.isSearch = true := by decide
  obtain ⟨found, row, hit, same⟩ := (findRow_singleton search).2 _ known
  exact ⟨search, found, row, hit, same hit⟩

end Control

end TableSearch
