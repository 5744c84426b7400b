import TableSearch.Proofs.Table.Selection

/-! # A changed row and the other rows

If a row of a table is replaced by another one, a filtering should show the other rows as before, with
the same spans and in the same order, whether the row passes the filter before, after, both times or
never.  `TableSearch.Table.apply_frame_iff`: so it does exactly if all rows have an answer before and
after.  A row that has none disturbs every other row, since nothing is shown then.

For this to be said of rows that may be equal, every row is filtered together with its place
(`TableSearch.Table.applyPlaced`).  The places take no part: without them the answer is that of the
rows themselves.
-/

namespace TableSearch

variable {ρ σ : Type} {env : Environment}

/-! ## Rows seen through a function -/

/-- A column for the rows that a function gives, as a column for its arguments. -/
def Column.comap (f : σ → ρ) (column : Column ρ) : Column σ where
  head := column.head
  render row := column.render (f row)
  comparator := column.comparator.map fun compare row other => compare (f row) (f other)

/-- A filtered row with its value changed. -/
def FilteredRow.mapValue (f : σ → ρ) (row : FilteredRow σ) : FilteredRow ρ :=
  { row with value := f row.value }

namespace Column

variable {f : σ → ρ} {column : Column ρ} {columns : List (Column ρ)} {reverse : Bool} {row : σ}

theorem order_comap :
    (column.comap f).order reverse = fun row other => column.order reverse (f row) (f other) := by
  funext row other
  rw [order, order, comap]
  cases column.comparator <;> rfl

theorem renderAll_comap :
    renderAll (columns.map (comap f)) row = renderAll columns (f row) := by
  rw [renderAll, renderAll, List.mapM_map]
  rfl

theorem heads_comap : heads (columns.map (comap f)) = heads columns :=
  List.map_map

/-- Columns that put rows in an order put their arguments in one. -/
theorem ordersAmong_comap {rows : List σ} {values : List ρ}
    (ordered : ∀ column ∈ columns, ∀ reverse, Sorting.OrdersAmong (column.order reverse) values)
    (among : ∀ row ∈ rows, f row ∈ values) :
    ∀ column ∈ columns.map (comap f), ∀ reverse,
      Sorting.OrdersAmong (column.order reverse) rows := by
  intro column member reverse
  obtain ⟨column, present, rfl⟩ := List.mem_map.mp member
  rw [order_comap]
  exact (ordered column present reverse).comap among

end Column

namespace Table

variable {f : σ → ρ} {columns : List (Column ρ)} {control : Control} {row other : FilteredRow σ}
  {value value' : σ}

/-- A token names the same column, whatever the rows are. -/
theorem named?_comap {token : Text} :
    named? (columns.map (Column.comap f)) token =
      (named? columns token).map fun naming => (naming.1.comap f, naming.2) := by
  rw [named?, named?, List.findSome?_map, List.map_findSome?]
  congr 1
  funext column
  rw [Function.comp_apply, Function.comp_apply, Option.map_map]
  rfl

/-- The orders that tokens ask for compare arguments by their rows. -/
theorem columnOrders_comap {tokens : List Text} :
    columnOrders (columns.map (Column.comap f)) tokens =
      (columnOrders columns tokens).map fun order value value' => order (f value) (f value') := by
  have named : named? (columns.map (Column.comap f)) = fun token =>
      (named? columns token).map fun naming => (naming.1.comap f, naming.2) := by
    funext token
    exact named?_comap
  rw [columnOrders, columnOrders, named, ← List.map_filterMap, List.map_map, List.map_map]
  congr 1
  funext naming
  exact Column.order_comap

/-- The criteria of a control compare arguments by their rows. -/
theorem inTurn_criteria_comap :
    Sorting.inTurn (criteria (columns.map (Column.comap f)) control) =
      fun row other => Sorting.inTurn (criteria columns control) (row.mapValue f)
        (other.mapValue f) := by
  have turned : criteria (columns.map (Column.comap f)) control =
      (criteria columns control).map fun order row other =>
        order (row.mapValue f) (other.mapValue f) := by
    rw [criteria, criteria, columnOrders_comap, List.map_append, List.map_map, List.map_map]
    cases control.isSearch <;> rfl
  funext row other
  rw [turned, Sorting.inTurn_comap]

/-- The evaluation of an argument is that of its row. -/
theorem evaluateFresh_comap :
    (evaluateFresh env (columns.map (Column.comap f)) control value).map (.mapValue f) =
      evaluateFresh env columns control (f value) := by
  have same : Column.renderAll (columns.map (Column.comap f)) value =
      Column.renderAll columns (f value) := Column.renderAll_comap
  cases rendered : Column.renderAll columns (f value) with
  | error problem =>
      rw [evaluateFresh, evaluateFresh, same, rendered]
      rfl
  | ok texts =>
      rw [evaluateFresh_of_rendered (same.trans rendered), evaluateFresh_of_rendered rendered,
        Column.heads_comap, FilteredRow.evaluate, FilteredRow.evaluate]
      cases control.isSearch with
      | false => rfl
      | true => cases control.findRow env (Column.heads columns) texts <;> rfl

/-! ## The order of some rows -/

section Order

variable {columns : List (Column ρ)} {rows : List ρ} {evaluated : List (FilteredRow ρ)}
  {placed : List (FilteredRow σ)}

/-- Rows can be left out before or after the others are put in order. -/
theorem orderRows_filter
    (ordered : ∀ column ∈ columns, ∀ reverse, Sorting.OrdersAmong (column.order reverse) rows)
    (evaluates : List.Forall₂ (Evaluates env columns control) rows evaluated)
    (p : FilteredRow ρ → Bool) :
    (orderRows columns control (evaluated.filter (·.hasMatch))).filter p =
      orderRows columns control ((evaluated.filter p).filter (·.hasMatch)) := by
  obtain ⟨orders, stable⟩ := orderRows_of_evaluates ordered evaluates
  have part : (evaluated.filter (·.hasMatch)).filter p ⊆ evaluated.filter (·.hasMatch) :=
    List.filter_subset_self ..
  rw [List.filter_comm]
  refine (stable.filter p).unique (orders.subset part) ?_
  refine orderRows_isStableOrder (orders.subset part) ?_
  intro search row member
  exact starts_of_evaluates evaluates search row (part member)

end Order

/-! ## Rows with their places -/

section Places

variable {columns : List (Column ρ)} {rows rows' : List ρ} {values : List σ} {place : Nat}

/-- What a control makes of an argument it makes of its row. -/
theorem evaluates_comap {row : FilteredRow σ}
    (evaluates : Evaluates env (columns.map (Column.comap f)) control value row) :
    Evaluates env columns control (f value) (row.mapValue f) := by
  rw [← evaluateFresh_eq_ok_iff, ← evaluateFresh_comap, evaluateFresh_eq_ok_iff.mpr evaluates]
  rfl

/-- A filtering shows the same whether or not its columns see the rows through a function. -/
theorem apply_comap (ordered : ∀ column ∈ columns, ∀ reverse,
      Sorting.OrdersAmong (column.order reverse) (values.map f)) :
    (apply env (columns.map (Column.comap f)) control keyByPlace .empty values).1.map
        (List.map (.mapValue f)) =
      (apply env columns control keyByPlace .empty (values.map f)).1 := by
  have single : evaluateFresh env columns control ∘ f = fun value =>
      (evaluateFresh env (columns.map (Column.comap f)) control value).map (.mapValue f) := by
    funext value
    exact evaluateFresh_comap.symm
  rw [apply_eq_mapM MatchCache.empty_sound (hasKeys_keyByPlace values),
    apply_eq_mapM MatchCache.empty_sound (hasKeys_keyByPlace (values.map f)), List.mapM_map, single,
    ← mapM_map_answers, map_map, map_map]
  refine map_congr ?_
  intro placed answer
  simp only [mapM_eq_ok, evaluateFresh_eq_ok_iff] at answer
  have seen : List.Forall₂ (Evaluates env columns control) (values.map f)
      (placed.map (.mapValue f)) := by
    rw [List.forall₂_map_left_iff, List.forall₂_map_right_iff]
    exact answer.imp fun _ _ => evaluates_comap
  have among : ∀ value ∈ values, f value ∈ values.map f := fun _ => List.mem_map_of_mem
  -- Both are stable orders of the same rows: the criteria see the rows through the function.
  obtain ⟨orders, stable⟩ := orderRows_of_evaluates ordered seen
  obtain ⟨-, stable'⟩ := orderRows_of_evaluates (Column.ordersAmong_comap ordered among) answer
  rw [inTurn_criteria_comap] at stable'
  rw [List.filter_map] at orders stable ⊢
  exact stable'.map.unique orders stable

/-- The rows of a table with their places, filtered by what the columns show of the rows. -/
def applyPlaced (env : Environment) (columns : List (Column ρ)) (control : Control)
    (rows : List ρ) : Except TableError (List (FilteredRow (ρ × Nat))) :=
  (apply env (columns.map (Column.comap Prod.fst)) control keyByPlace .empty rows.zipIdx).1

/-- The places of the rows take no part in what is shown. -/
theorem applyPlaced_forget
    (ordered : ∀ column ∈ columns, ∀ reverse, Sorting.OrdersAmong (column.order reverse) rows) :
    (applyPlaced env columns control rows).map (List.map (.mapValue Prod.fst)) =
      (apply env columns control keyByPlace .empty rows).1 := by
  have back : rows.zipIdx.map Prod.fst = rows := List.zipIdx_map_fst 0 rows
  rw [applyPlaced, apply_comap (by rwa [back]), back]

/-- Filtered rows without the one from a place. -/
def without (place : Nat) (shown : List (FilteredRow (ρ × Nat))) : List (FilteredRow (ρ × Nat)) :=
  shown.filter fun row => row.value.2 ≠ place

/-- Lists that differ in one place have the same elements in all other places. -/
theorem filter_zipIdx_congr {start : Nat} (fits : rows.length = rows'.length)
    (elsewhere : ∀ index, start + index ≠ place → rows[index]? = rows'[index]?) :
    ((rows.zipIdx start).filter fun value => value.2 ≠ place) =
      (rows'.zipIdx start).filter fun value => value.2 ≠ place := by
  induction rows generalizing rows' start with
  | nil =>
      rw [List.length_nil, eq_comm, List.length_eq_zero_iff] at fits
      rw [fits]
  | cons row rest ih =>
      rcases rows' with _ | ⟨row', rest'⟩
      · cases fits
      have later : ((rest.zipIdx (start + 1)).filter fun value => value.2 ≠ place) =
          (rest'.zipIdx (start + 1)).filter fun value => value.2 ≠ place := by
        apply ih (Nat.succ.inj fits)
        intro index differs
        have same := elsewhere (index + 1) (by omega)
        rwa [List.getElem?_cons_succ, List.getElem?_cons_succ] at same
      rw [List.zipIdx_cons, List.zipIdx_cons, List.filter_cons, List.filter_cons, later]
      by_cases here : start = place
      · simp only [here, ne_eq, not_true, decide_false, Bool.false_eq_true, if_false]
      · have same := elsewhere 0 here
        rw [List.getElem?_cons_zero, List.getElem?_cons_zero, Option.some.injEq] at same
        rw [same]

/-- The rows of the other places are filtered as if the row of a place were not there. -/
theorem applyPlaced_without
    (ordered : ∀ column ∈ columns, ∀ reverse, Sorting.OrdersAmong (column.order reverse) rows)
    (evaluates : ∀ value, rows[place]? = some value → ∃ row, Evaluates env columns control value row) :
    (applyPlaced env columns control rows).map (without place) =
      ((rows.zipIdx.filter fun value => value.2 ≠ place).mapM
          (evaluateFresh env (columns.map (Column.comap Prod.fst)) control)).map fun evaluated =>
        orderRows (columns.map (Column.comap Prod.fst)) control
          (evaluated.filter (·.hasMatch)) := by
  have among : ∀ value ∈ rows.zipIdx, value.1 ∈ rows := by
    intro value member
    exact List.mem_of_getElem? (List.mem_zipIdx_iff_getElem?.mp member)
  have leaves : ∀ evaluated,
      rows.zipIdx.mapM (evaluateFresh env (columns.map (Column.comap Prod.fst)) control) =
        .ok evaluated →
      without place (orderRows (columns.map (Column.comap Prod.fst)) control
        (evaluated.filter (·.hasMatch))) =
        orderRows (columns.map (Column.comap Prod.fst)) control
          ((without place evaluated).filter (·.hasMatch)) := by
    intro evaluated answer
    simp only [mapM_eq_ok, evaluateFresh_eq_ok_iff] at answer
    exact orderRows_filter (Column.ordersAmong_comap ordered among) answer _
  have alone : (rows.zipIdx.mapM
      (evaluateFresh env (columns.map (Column.comap Prod.fst)) control)).map (without place) =
        (rows.zipIdx.filter fun value => value.2 ≠ place).mapM
          (evaluateFresh env (columns.map (Column.comap Prod.fst)) control) := by
    apply mapM_filter
    · intro value _ row answer
      rw [(evaluateFresh_eq_ok_iff.mp answer).value_eq]
    · intro value member here
      rw [decide_eq_false_iff_not, not_not] at here
      obtain ⟨row, becomes⟩ := evaluates value.1 (here ▸ List.mem_zipIdx_iff_getElem?.mp member)
      rw [← evaluateFresh_eq_ok_iff, ← evaluateFresh_comap] at becomes
      exact exists_map_eq_ok.mp ⟨row, becomes⟩
  rw [applyPlaced, apply_eq_mapM MatchCache.empty_sound (hasKeys_keyByPlace _), map_map,
    map_congr leaves, ← alone, map_map]

/-- Rows with their places are shown exactly if every row has an answer. -/
theorem exists_applyPlaced_iff
    (ordered : ∀ column ∈ columns, ∀ reverse, Sorting.OrdersAmong (column.order reverse) rows) :
    (∃ shown, applyPlaced env columns control rows = .ok shown) ↔
      ∀ value ∈ rows, Answerable env columns control value := by
  rw [← exists_apply_iff MatchCache.empty_sound (hasKeys_keyByPlace rows),
    ← applyPlaced_forget ordered, exists_map_eq_ok]

/-- Two tables that differ in one row, which has an answer in both, show the same rows in all other
places or fail alike. -/
theorem applyPlaced_frame (fits : rows.length = rows'.length)
    (elsewhere : ∀ index, index ≠ place → rows[index]? = rows'[index]?)
    (ordered : ∀ column ∈ columns, ∀ reverse, Sorting.OrdersAmong (column.order reverse) rows)
    (ordered' : ∀ column ∈ columns, ∀ reverse, Sorting.OrdersAmong (column.order reverse) rows')
    (answers : ∀ value, rows[place]? = some value → Answerable env columns control value)
    (answers' : ∀ value, rows'[place]? = some value → Answerable env columns control value) :
    (applyPlaced env columns control rows).map (without place) =
      (applyPlaced env columns control rows').map (without place) := by
  have others : (rows.zipIdx.filter fun value => value.2 ≠ place) =
      rows'.zipIdx.filter fun value => value.2 ≠ place := by
    apply filter_zipIdx_congr fits
    intro index differs
    exact elsewhere index (by rwa [Nat.zero_add] at differs)
  rw [applyPlaced_without ordered fun value there => exists_evaluates_iff.mpr (answers value there),
    applyPlaced_without ordered' fun value there => exists_evaluates_iff.mpr (answers' value there),
    others]

/-- Whether two filterings both show something, and the same rows in all places but one. -/
def ShowAlike (place : Nat) (answer answer' : Except TableError (List (FilteredRow (ρ × Nat)))) :
    Prop :=
  ∃ shown shown', answer = .ok shown ∧ answer' = .ok shown' ∧ without place shown = without place shown'

/-- **Frame.** Two tables that differ in one row only show the same rows in all other places, with the
same spans and in the same order, exactly if every row of both has an answer.  What they show is what
the rows with their places show, and the places of the rows tell which of them is the one that
differs. -/
theorem apply_frame_iff (fits : rows.length = rows'.length)
    (elsewhere : ∀ index, index ≠ place → rows[index]? = rows'[index]?)
    (ordered : ∀ column ∈ columns, ∀ reverse, Sorting.OrdersAmong (column.order reverse) rows)
    (ordered' : ∀ column ∈ columns, ∀ reverse, Sorting.OrdersAmong (column.order reverse) rows') :
    (apply env columns control keyByPlace .empty rows).1 =
        (applyPlaced env columns control rows).map (List.map (.mapValue Prod.fst)) ∧
      (apply env columns control keyByPlace .empty rows').1 =
        (applyPlaced env columns control rows').map (List.map (.mapValue Prod.fst)) ∧
      (ShowAlike place (applyPlaced env columns control rows) (applyPlaced env columns control rows') ↔
        (∀ value ∈ rows, Answerable env columns control value) ∧
          ∀ value ∈ rows', Answerable env columns control value) := by
  refine ⟨(applyPlaced_forget ordered).symm, (applyPlaced_forget ordered').symm, ?_⟩
  rw [← exists_applyPlaced_iff ordered, ← exists_applyPlaced_iff ordered']
  constructor
  · rintro ⟨shown, shown', answer, answer', -⟩
    exact ⟨⟨shown, answer⟩, ⟨shown', answer'⟩⟩
  · rintro ⟨⟨shown, answer⟩, ⟨shown', answer'⟩⟩
    have all := (exists_applyPlaced_iff ordered).mp ⟨shown, answer⟩
    have all' := (exists_applyPlaced_iff ordered').mp ⟨shown', answer'⟩
    have same := applyPlaced_frame fits elsewhere ordered ordered'
      (fun value there => all value (List.mem_of_getElem? there))
      (fun value there => all' value (List.mem_of_getElem? there))
    rw [answer, answer'] at same
    exact ⟨shown, shown', answer, answer', Except.ok.inj same⟩

/-- A row that comes into a search, with more spans than any other, leaves those as they are. -/
example :
    let env : Environment := ⟨fun _ => none, fun _ _ => false⟩
    let columns : List (Column Text) := [⟨⟨['t'], true⟩, .ok, none⟩]
    let control := Control.term (.literal ['x'])
    (applyPlaced env columns control [['a', 'x'], ['b'], ['x']]).map (List.map (·.value)) =
        .ok [(['x'], 2), (['a', 'x'], 0)] ∧
      (applyPlaced env columns control [['a', 'x'], ['x', 'b', 'x'], ['x']]).map
          (List.map (·.value)) =
        .ok [(['x', 'b', 'x'], 1), (['x'], 2), (['a', 'x'], 0)] := by
  decide +kernel

/-- A row that is changed to the long s for a unit takes the row that says `5s` with it. -/
theorem not_alike_of_long_s :
    let env : Environment := ⟨fun _ => none, fun _ _ => false⟩
    let columns : List (Column Text) := [⟨⟨['x'], true⟩, .ok, none⟩]
    let rows : List Text := [['5', 's'], ['a']]
    let rows' : List Text := [['5', 's'], ['5', 'ſ']]
    ∃ control, Control.parse env.readDate ['5', 's'] = .ok control ∧ rows.length = rows'.length ∧
      (∀ index, index ≠ 1 → rows[index]? = rows'[index]?) ∧
      (∀ column ∈ columns, ∀ reverse, Sorting.OrdersAmong (column.order reverse) rows) ∧
      (∀ column ∈ columns, ∀ reverse, Sorting.OrdersAmong (column.order reverse) rows') ∧
      (applyPlaced env columns control rows).map (List.map (·.value)) = .ok [(['5', 's'], 0)] ∧
      ¬ShowAlike 1 (applyPlaced env columns control rows) (applyPlaced env columns control rows') := by
  intro env columns rows rows'
  let seconds : Control := .anyOf
    [.term (.literal ['5', 's']), .term (.duration ⟨['5', 's'], .ofNat 5⟩)]
  have accepted : Control.parse env.readDate ['5', 's'] = .ok seconds := by decide +kernel
  have fits : rows.length = rows'.length := rfl
  have elsewhere : ∀ index, index ≠ 1 → rows[index]? = rows'[index]? := by
    intro index differs
    rcases index with _ | _ | index
    · rfl
    · exact (differs rfl).elim
    · rfl
  have ordered : ∀ column ∈ columns, ∀ reverse,
      Sorting.OrdersAmong (column.order reverse) rows := by
    decide +kernel
  have ordered' : ∀ column ∈ columns, ∀ reverse,
      Sorting.OrdersAmong (column.order reverse) rows' := by
    decide +kernel
  have before : (applyPlaced env columns seconds rows).map (List.map (·.value)) =
      .ok [(['5', 's'], 0)] := by
    decide +kernel
  refine ⟨seconds, accepted, fits, elsewhere, ordered, ordered', before, ?_⟩
  rw [(apply_frame_iff fits elsewhere ordered ordered').2.2]
  rintro ⟨-, all⟩
  exact not_answerable_of_fails rfl rfl (by decide +kernel) (all ['5', 'ſ'] (by decide))

end Places

end Table

end TableSearch
