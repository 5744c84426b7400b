import TableSearch.Proofs.Answers
import TableSearch.Proofs.Table.Criteria
import TableSearch.Proofs.Table.Transparency

/-! # Empty cells stand last

`TableSearch.Table.empty_cells_last`: if the first token of a control that names a column names one
without an order of its own, the rows with an empty cell in it stand behind all others, whichever
way the token orders.

Nothing is assumed of the other comparisons, nor of the comparison of two cells with text: the
relation that the sort keeps (`TableSearch.Table.EmptyAfter`) is an order between the two classes of
rows alone.
-/

namespace TableSearch

variable {κ ρ : Type} {env : Environment}

namespace FilteredRow

/-- An update keeps the value of a row. -/
theorem update_value {row other : FilteredRow ρ} {heads : List ColumnHead} {texts : List Text}
    {control : Control} (answer : row.update env heads texts control = .ok other) :
    other.value = row.value := by
  rw [update] at answer
  split at answer
  · cases answer
  · cases evaluated : evaluate env row.value heads texts control with
    | error problem =>
        rw [evaluated] at answer
        cases answer
    | ok result =>
        rw [evaluated] at answer
        cases answer
        exact (evaluate_stores evaluated).1

end FilteredRow

/-- If all cells of a row have texts, each has one. -/
theorem Column.exists_render_of_renderAll {columns : List (Column ρ)} {column : Column ρ}
    {value : ρ} {texts : List Text} (rendered : renderAll columns value = .ok texts)
    (member : column ∈ columns) : ∃ text, column.render value = .ok text := by
  obtain ⟨text, -, known⟩ := exists_of_forall₂ (mapM_eq_ok.mp rendered) member
  exact ⟨text, known⟩

namespace Table

variable [DecidableEq κ] {columns : List (Column ρ)} {column : Column ρ} {control : Control}
  {key : KeyReader κ ρ} {keys keys' : List κ} {place : Nat} {cache : MatchCache κ ρ}
  {rows : List ρ} {value : ρ} {row : FilteredRow ρ} {kept result : List (FilteredRow ρ)}

/-! ## The cells of filtered rows -/

/-- Whatever the cache holds, a row is evaluated with its own texts. -/
theorem rendered_of_evaluateRow {identity : κ}
    (answer : (evaluateRow env columns control identity value cache).1 = .ok row) :
    ∃ texts, Column.renderAll columns row.value = .ok texts := by
  rw [evaluateRow] at answer
  split at answer
  · rename_i evaluated known
    cases answer
    obtain ⟨texts, rendered, onward⟩ := bind_eq_ok.mp known
    have same : row.value = value := by
      split at onward
      · cases onward
        exact MatchCache.value_entry
      · rw [FilteredRow.update_value onward, MatchCache.value_entry]
    exact ⟨texts, by rw [same, rendered]⟩
  · cases answer

/-- All cells of the rows that pass the filter have texts. -/
theorem rendered_of_filterRows
    (answer : (filterRows env columns control key cache keys place rows).1 = .ok (kept, keys')) :
    ∀ row ∈ kept, ∃ texts, Column.renderAll columns row.value = .ok texts := by
  induction rows generalizing cache keys place kept with
  | nil =>
      cases answer
      exact fun _ member => (List.not_mem_nil member).elim
  | cons value rest ih =>
      rw [filterRows] at answer
      split at answer
      · cases answer
      · split at answer
        · cases answer
        · split at answer
          · cases answer
          · rename_i row renewed evaluated
            have first : ∃ texts, Column.renderAll columns row.value = .ok texts :=
              rendered_of_evaluateRow (by rw [evaluated])
            split at answer
            · cases answer
            · rename_i later _ _ filtered
              cases answer
              have others := ih (by rw [filtered])
              split
              · exact List.forall_mem_cons.mpr ⟨first, others⟩
              · exact others

/-! ## Two classes of rows -/

/-- Whether a row may stand before a later one: not if its cell is empty and the other one has
text. -/
def EmptyAfter (column : Column ρ) (row later : FilteredRow ρ) : Prop :=
  column.render row.value = .ok [] → column.render later.value = .ok []

/-- Whether the cell of a row has a text, which may be empty. -/
def HasCell (column : Column ρ) (row : FilteredRow ρ) : Prop :=
  ∃ text, column.render row.value = .ok text

/-- Standing behind all rows with text is an order between the rows with an empty cell and the
others. -/
theorem emptyAfter_ranking : Sorting.Ranking (EmptyAfter column) (EmptyAfter column) where
  weak_of_strong after := after
  weak_trans after after' lacks := after' (after lacks)
  strong_of_strong_of_weak after after' lacks := after' (after lacks)
  strong_of_weak_of_strong after after' lacks := after' (after lacks)

variable {direction : Direction}

/-- The first column that is named compares rows before anything else does. -/
theorem rowOrder_of_first (row later : FilteredRow ρ)
    (first : control.rowSorting.findSome? (named? columns) = some (column, direction)) :
    ∃ others, rowOrder columns control row later =
      (column.order (direction == .descending) row.value later.value).then others := by
  obtain ⟨others, same⟩ := columnOrders_of_first first
  rw [rowOrder, sortOrder_eq_inTurn, same, Sorting.inTurn_cons, Ordering.then_assoc]
  exact ⟨_, rfl⟩

/-- A cell with text comes before an empty one in both directions. -/
theorem order_of_empty {reverse : Bool} {value' : ρ} {text : Text}
    (plain : column.comparator = none) (empty : column.render value = .ok [])
    (known : column.render value' = .ok text) (some : text ≠ []) :
    column.order reverse value value' = .gt ∧ column.order reverse value' value = .lt := by
  obtain ⟨c, rest, rfl⟩ := List.exists_cons_of_ne_nil some
  rw [Column.order, Column.order, plain, empty, known]
  exact ⟨rfl, rfl⟩

/-- A row with an empty cell stands behind one with text, whatever the direction. -/
theorem rowOrder_of_empty {later : FilteredRow ρ}
    (first : control.rowSorting.findSome? (named? columns) = some (column, direction))
    (plain : column.comparator = none) (empty : column.render row.value = .ok [])
    (cell : HasCell column later) (some : column.render later.value ≠ .ok []) :
    rowOrder columns control row later = .gt ∧ rowOrder columns control later row = .lt := by
  obtain ⟨text, known⟩ := cell
  have differs : text ≠ [] := by
    rintro rfl
    exact some known
  obtain ⟨others, after⟩ := rowOrder_of_first row later first
  obtain ⟨others', before⟩ := rowOrder_of_first later row first
  obtain ⟨above, below⟩ := order_of_empty plain empty known differs
  rw [after, before, above, below]
  exact ⟨rfl, rfl⟩

/-- The comparison of rows agrees with the order between those with an empty cell and the others,
and nothing more is asked of it. -/
theorem emptyAfter_agrees
    (first : control.rowSorting.findSome? (named? columns) = some (column, direction))
    (plain : column.comparator = none) :
    Sorting.Agrees (fun row later => rowOrder columns control row later == .lt) (HasCell column)
      (EmptyAfter column) (EmptyAfter column) where
  strong_of_below := by
    intro row later _ cell below empty
    by_contra some
    rw [(rowOrder_of_empty first plain empty cell some).1] at below
    cases below
  weak_of_not_below := by
    intro later row cell _ stays empty
    by_contra some
    rw [(rowOrder_of_empty first plain empty cell some).2] at stays
    cases stays

/-- **Empty cells.** If the first token that names a column names one without an order of its own,
no row with an empty cell in it stands before one with text, in either direction. -/
theorem empty_cells_last
    (answer : (apply env columns control key cache rows).1 = .ok result)
    (first : control.rowSorting.findSome? (named? columns) = some (column, direction))
    (plain : column.comparator = none) :
    result.Pairwise fun row later =>
      column.render row.value = .ok [] → column.render later.value = .ok [] := by
  obtain ⟨token, member, naming⟩ := List.exists_of_findSome?_eq_some first
  rw [apply] at answer
  split at answer
  · cases answer
  · rename_i kept keys renewed filtered
    obtain rfl := Except.ok.inj answer
    have sorts : ¬(control.rowSorting.isEmpty && !control.isSearch) = true := by
      rw [Bool.and_eq_true, List.isEmpty_iff]
      rintro ⟨none, -⟩
      rw [none] at member
      cases member
    rw [orderRows, if_neg sorts]
    refine (Sorting.sort_arranges emptyAfter_ranking (emptyAfter_agrees first plain) ?_).pairwise
    intro row inside
    obtain ⟨texts, rendered⟩ := rendered_of_filterRows (by rw [filtered]) row inside
    exact Column.exists_render_of_renderAll rendered (mem_of_named? naming)

/-- The rows without text stand behind three rows whose texts are in no order: each of `.5`, `/` and
`0.1` comes before the next one, and `0.1` before `.5`. -/
theorem empty_cells_last_of_cycle :
    let env : Environment := ⟨fun _ => none, fun _ _ => false⟩
    let column : Column Text := ⟨⟨['a'], true⟩, .ok, none⟩
    let control := Control.rowSort [['-', 'a']]
    let rows : List Text := [[], ['.', '5'], [], ['/'], ['0', '.', '1']]
    let key : KeyReader Nat Text := fun place _ => .ok ⟨place, []⟩
    ∃ result, (apply env [column] control key .empty rows).1 = .ok result ∧
      result.map (·.value) = [['/'], ['.', '5'], ['0', '.', '1'], [], []] ∧
      control.rowSorting.findSome? (named? [column]) = some (column, .descending) ∧
      column.comparator = none ∧
      result.Pairwise fun row later =>
        column.render row.value = .ok [] → column.render later.value = .ok [] := by
  intro env column control rows key
  have named : control.rowSorting.findSome? (named? [column]) = some (column, .descending) := rfl
  have answer : (apply env [column] control key .empty rows).1.map (List.map (·.value)) =
      .ok [['/'], ['.', '5'], ['0', '.', '1'], [], []] := by decide +kernel
  obtain ⟨result, answer, order⟩ := map_eq_ok.mp answer
  exact ⟨result, answer, order, named, rfl, empty_cells_last answer named rfl⟩

end Table

end TableSearch
