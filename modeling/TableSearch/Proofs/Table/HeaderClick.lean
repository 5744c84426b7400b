import TableSearch.Proofs.Control.SortKey
import TableSearch.Proofs.Search.Toggle
import TableSearch.Proofs.Table.Selection

/-! # A click on the head of a column

`TableSearch.Controller.clickSorts_iff`: when a click on the head of a column, by which the rows are not
ordered yet, puts the rows of every table in ascending order by it.  It does if the token that is
made from the name of the column names no column in front of it and the column itself without a
sign, and if no token for another column stays in front of it.

That it does follows from what the rows are compared by first
(`TableSearch.Table.pairwise_of_first`).  That it does not otherwise is shown by a table of two rows
with the same texts, which every other column orders in the opposite way
(`TableSearch.Table.opposed`).
-/

namespace TableSearch

variable {κ ρ : Type} {env : Environment}

/-! ## The rows that are shown -/

/-- What is shown of a row: its value and its spans, if it passes the filter. -/
def FilteredRow.shown? (row : FilteredRow ρ) : Option (ρ × RowMatch) :=
  if row.hasMatch then some (row.value, row.found) else none

/-- A row shows its value and its spans exactly if it passes the filter. -/
theorem FilteredRow.shown?_eq_some_iff {row : FilteredRow ρ} {value : ρ} {found : RowMatch} :
    row.shown? = some (value, found) ↔
      row.hasMatch = true ∧ row.value = value ∧ row.found = found := by
  rw [shown?]
  split
  · rename_i passes
    simp [passes]
  · rename_i fails
    simp [fails]

namespace Table

variable {columns : List (Column ρ)} {control other : Control} {value : ρ}

/-- What is shown of a row is the verdict of the control. -/
theorem evaluateFresh_shown {texts : List Text}
    (rendered : Column.renderAll columns value = .ok texts) :
    (evaluateFresh env columns control value).map FilteredRow.shown? =
      ((control.verdict env (Column.heads columns) texts).mapError .search).map
        (Option.map (value, ·)) := by
  rw [evaluateFresh_of_rendered rendered, ← Control.evaluate_verdict value]
  cases evaluated : FilteredRow.evaluate env value (Column.heads columns) texts control with
  | error problem => rfl
  | ok row =>
      refine congrArg Except.ok ?_
      rw [FilteredRow.shown?, (FilteredRow.evaluate_stores evaluated).1]
      beta_reduce
      cases row.hasMatch <;> rfl

/-- Controls that make the same of every row show the same of it. -/
theorem evaluateFresh_showsAs (alike : control.ShowsAs other) :
    (evaluateFresh env columns control value).map FilteredRow.shown? =
      (evaluateFresh env columns other value).map FilteredRow.shown? := by
  cases rendered : Column.renderAll columns value with
  | error problem =>
      rw [evaluateFresh, evaluateFresh, rendered]
      rfl
  | ok texts =>
      rw [evaluateFresh_shown rendered, evaluateFresh_shown rendered, alike.verdict_eq]

/-- A row whose texts a control shows passes with the spans of the verdict. -/
theorem exists_evaluates_of_verdict {texts : List Text} {found : RowMatch}
    (rendered : Column.renderAll columns value = .ok texts)
    (known : control.verdict env (Column.heads columns) texts = .ok (some found)) :
    ∃ row, Evaluates env columns control value row ∧ row.hasMatch = true ∧ row.found = found := by
  have shown : (evaluateFresh env columns control value).map FilteredRow.shown? =
      .ok (some (value, found)) := by
    rw [evaluateFresh_shown rendered, known]
    rfl
  obtain ⟨row, evaluated, same⟩ := map_eq_ok.mp shown
  obtain ⟨passes, -, spans⟩ := FilteredRow.shown?_eq_some_iff.mp same
  exact ⟨row, evaluateFresh_eq_ok_iff.mp evaluated, passes, spans⟩

variable [DecidableEq κ] {key : KeyReader κ ρ} {keys keys' : List κ} {place : Nat} {rows : List ρ}
  {kept before : List (FilteredRow ρ)}

/-- What is selected from a table: the values and spans of the rows that pass, and all keys. -/
def selected (answer : List (FilteredRow ρ) × List κ) : List (ρ × RowMatch) × List κ :=
  (answer.1.map fun row => (row.value, row.found), answer.2)

/-- The selection from a table is that of its first row in front of that of the others, or fails
where one of both does. -/
theorem select_cons_selected {rest : List ρ} :
    (select env columns control key keys place (value :: rest)).map selected =
      (key place value).bind fun rowKey =>
        if rowKey.identity ∈ keys then .error (.duplicateKey rowKey.shown)
        else ((evaluateFresh env columns control value).map FilteredRow.shown?).bind fun shown =>
          ((select env columns control key (rowKey.identity :: keys) (place + 1) rest).map
            selected).map fun others => (shown.toList ++ others.1, others.2) := by
  rw [select]
  cases key place value with
  | error problem => rfl
  | ok rowKey =>
      simp only [Except.bind]
      split
      · rfl
      · cases evaluateFresh env columns control value with
        | error problem => rfl
        | ok row =>
            cases select env columns control key (rowKey.identity :: keys) (place + 1) rest with
            | error problem => rfl
            | ok others =>
                refine congrArg Except.ok ?_
                rw [FilteredRow.shown?, selected, selected]
                split <;> rfl

/-- Controls that make the same of every row select the same rows with the same spans, or fail
alike. -/
theorem select_showsAs (alike : control.ShowsAs other) :
    (select env columns control key keys place rows).map selected =
      (select env columns other key keys place rows).map selected := by
  induction rows generalizing keys place with
  | nil => rfl
  | cons value rest ih =>
      rw [select_cons_selected, select_cons_selected, evaluateFresh_showsAs alike]
      simp only [ih]

/-- The selected rows are rows of the table that pass the filter. -/
theorem evaluates_of_select
    (answer : select env columns control key keys place rows = .ok (kept, keys')) :
    ∀ row ∈ kept, row.hasMatch = true ∧ ∃ value ∈ rows, Evaluates env columns control value row := by
  induction rows generalizing keys place kept with
  | nil =>
      cases answer
      exact List.forall_mem_nil _
  | cons value rest ih =>
      rw [select] at answer
      split at answer
      · cases answer
      · split at answer
        · cases answer
        · split at answer
          · cases answer
          · rename_i row evaluated
            split at answer
            · cases answer
            · rename_i others _ selected
              cases answer
              have later : ∀ row ∈ others, row.hasMatch = true ∧
                  ∃ value' ∈ value :: rest, Evaluates env columns control value' row := by
                intro row member
                obtain ⟨passes, value', inside, becomes⟩ := ih selected row member
                exact ⟨passes, value', List.mem_cons_of_mem _ inside, becomes⟩
              split
              · rename_i passes
                rw [List.forall_mem_cons]
                exact ⟨⟨passes, value, List.mem_cons_self, evaluateFresh_eq_ok_iff.mp evaluated⟩,
                  later⟩
              · exact later

/-- The selected rows are put in their stable order by the criteria of the control. -/
theorem isStableOrder_of_select
    (ordered : ∀ column ∈ columns, ∀ reverse, Sorting.OrdersAmong (column.order reverse) rows)
    (answer : select env columns control key keys place rows = .ok (kept, keys')) :
    Sorting.IsStableOrder (Sorting.inTurn (criteria columns control)) kept
      (orderRows columns control kept) := by
  have selected := evaluates_of_select answer
  refine orderRows_isStableOrder (ordersAmong_criteria ordered ?_) ?_
  · intro row member
    obtain ⟨-, value, inside, becomes⟩ := selected row member
    rw [becomes.value_eq]
    exact inside
  · intro search row member
    obtain ⟨passes, value, -, becomes⟩ := selected row member
    exact becomes.firstStart?_ne_none search passes

/-- Controls that make the same of every row show the same rows, perhaps in another order. -/
theorem apply_showsAs (alike : other.ShowsAs control)
    (ordered : ∀ column ∈ columns, ∀ reverse, Sorting.OrdersAmong (column.order reverse) rows)
    (answer : (apply env columns control key .empty rows).1 = .ok before) :
    ∃ shown, (apply env columns other key .empty rows).1 = .ok shown ∧
      (shown.map fun row => (row.value, row.found)).Perm
        (before.map fun row => (row.value, row.found)) ∧
      shown.Pairwise fun row later =>
        Sorting.inTurn (criteria columns other) row later ≠ .gt := by
  rw [apply_eq_select MatchCache.empty_sound, map_eq_ok] at answer
  obtain ⟨⟨kept, keys⟩, chosen, rfl⟩ := answer
  have alike' : (select env columns other key [] 0 rows).map selected =
      (select env columns control key [] 0 rows).map selected := select_showsAs alike
  rw [chosen] at alike'
  obtain ⟨⟨kept', keys'⟩, chosen', same⟩ := map_eq_ok.mp alike'
  have stable := isStableOrder_of_select ordered chosen
  have stable' := isStableOrder_of_select ordered chosen'
  refine ⟨orderRows columns other kept', ?_, ?_, stable'.ascending⟩
  · rw [apply_eq_select MatchCache.empty_sound, chosen']
    rfl
  · have pairs : (kept'.map fun row => (row.value, row.found)) =
        kept.map fun row => (row.value, row.found) := congrArg Prod.fst same
    refine (stable'.perm.map _).trans ?_
    rw [pairs]
    exact (stable.perm.map _).symm

/-- A row that is shown has texts for which the control shows a row. -/
theorem exists_shows_of_apply {row : FilteredRow ρ}
    (ordered : ∀ column ∈ columns, ∀ reverse, Sorting.OrdersAmong (column.order reverse) rows)
    (answer : (apply env columns control key .empty rows).1 = .ok before) (member : row ∈ before) :
    ∃ texts, texts.length = columns.length ∧
      control.Shows env (Column.heads columns) texts := by
  rw [apply_eq_select MatchCache.empty_sound, map_eq_ok] at answer
  obtain ⟨⟨kept, keys⟩, chosen, rfl⟩ := answer
  have inside := (isStableOrder_of_select ordered chosen).perm.mem_iff.mp member
  obtain ⟨passes, value, -, becomes⟩ := evaluates_of_select chosen row inside
  have evaluated := evaluateFresh_eq_ok_iff.mpr becomes
  cases rendered : Column.renderAll columns value with
  | error problem =>
      rw [evaluateFresh, rendered] at evaluated
      cases evaluated
  | ok texts =>
      have shown : Except.map FilteredRow.shown? (.ok row) = _ :=
        evaluated ▸ evaluateFresh_shown rendered
      obtain ⟨answer, known, same⟩ := map_eq_ok.mp shown.symm
      rw [mapError_eq_ok] at known
      rw [FilteredRow.shown?, if_pos passes, Option.map_eq_some_iff] at same
      obtain ⟨found, rfl, -⟩ := same
      exact ⟨texts, length_renderAll rendered, found, known⟩

/-! ## The first criterion -/

/-- The column that the first token names is what the rows are compared by first. -/
theorem criteria_of_first {column : Column ρ} {direction : Direction}
    (first : control.rowSorting.findSome? (named? columns) = some (column, direction)) :
    ∃ others, criteria columns control =
      (fun row later => column.order (direction == .descending) row.value later.value) ::
        others := by
  obtain ⟨others, same⟩ := columnOrders_of_first first
  rw [criteria, same]
  exact ⟨_, rfl⟩

/-- Rows in the order of a control are in the order of the first column that its tokens name. -/
theorem pairwise_of_first {column : Column ρ} {direction : Direction}
    {result : List (FilteredRow ρ)}
    (first : control.rowSorting.findSome? (named? columns) = some (column, direction))
    (ascending : result.Pairwise fun row later =>
      Sorting.inTurn (criteria columns control) row later ≠ .gt) :
    result.Pairwise fun row later =>
      column.order (direction == .descending) row.value later.value ≠ .gt := by
  obtain ⟨others, same⟩ := criteria_of_first first
  refine ascending.imp fun {row later} before above => before ?_
  rw [same, Sorting.inTurn_cons, above]
  rfl

/-! ## Two rows that only one column puts in ascending order -/

section Opposed

variable {heads : List ColumnHead} {texts : List Text} {name : Text} {reverse : Bool}

/-- Columns with the given heads and the same texts in two rows.  The one with the given name puts
`false` before `true`, all others put `true` before `false` if they are read in the given
direction. -/
def opposed (heads : List ColumnHead) (texts : List Text) (name : Text) (reverse : Bool) :
    List (Column Bool) :=
  (heads.zip texts).map fun cell => ⟨cell.1, fun _ => .ok cell.2, some fun row later reverse' =>
    CellOrder.directed reverse' (if cell.1.name = name then compare row later
      else CellOrder.directed reverse (compare later row))⟩

theorem heads_opposed (fits : heads.length = texts.length) :
    Column.heads (opposed heads texts name reverse) = heads := by
  rw [Column.heads, opposed, List.map_map]
  exact List.map_fst_zip fits.le

/-- Opposed columns show the same texts in both rows. -/
theorem renderAll_opposed (fits : heads.length = texts.length) (row : Bool) :
    Column.renderAll (opposed heads texts name reverse) row = .ok texts := by
  rw [Column.renderAll, mapM_eq_ok, opposed, List.forall₂_map_left_iff]
  induction heads generalizing texts with
  | nil =>
      obtain rfl := List.length_eq_zero_iff.mp fits.symm
      exact .nil
  | cons head rest ih =>
      cases texts with
      | nil => cases fits
      | cons text more => exact .cons rfl (ih (Nat.succ.inj fits))

variable {column : Column Bool} {row later : Bool}

/-- The column with the given name compares the two rows as they are; every other one compares them
the other way round, in a direction of its own. -/
theorem order_opposed (member : column ∈ opposed heads texts name reverse) (reverse' : Bool) :
    column.order reverse' row later = CellOrder.directed reverse'
      (if column.head.name = name then compare row later
        else CellOrder.directed reverse (compare later row)) := by
  obtain ⟨cell, -, rfl⟩ := List.mem_map.mp member
  rfl

/-- Opposed columns put the two rows in an order. -/
theorem ordersAmong_opposed (member : column ∈ opposed heads texts name reverse)
    (reverse' : Bool) : Sorting.OrdersAmong (column.order reverse') [true, false] := by
  refine .congr ?_ fun _ _ _ _ => order_opposed member reverse'
  split
  · cases reverse' <;> decide
  · cases reverse <;> cases reverse' <;> decide

/-- If the column is not the first to be ordered by, or not ascending, the columns can be such that
`false` does not have to come before `true`. -/
theorem exists_opposed (fits : heads.length = texts.length)
    (elsewhere : control.rowSorting.findSome? (firstNamed? heads) ≠ some (name, .ascending)) :
    ∃ reverse, ∀ first second : FilteredRow Bool, first.value = true → second.value = false →
      first.found = second.found →
      Sorting.inTurn (criteria (opposed heads texts name reverse) control) first second ≠ .gt := by
  have naming (reverse) : control.rowSorting.findSome? (firstNamed? heads) =
      (control.rowSorting.findSome? (named? (opposed heads texts name reverse))).map
        fun naming => (naming.1.head.name, naming.2) := by
    rw [← findSome?_firstNamed?_heads, heads_opposed fits]
  cases found : control.rowSorting.findSome? (firstNamed? heads) with
  | none =>
      -- No column orders the rows, and their spans are the same.
      refine ⟨false, fun first second _ _ same => ?_⟩
      have none := naming false
      rw [found, eq_comm, Option.map_eq_none_iff, ← List.head?_filterMap, List.head?_eq_none_iff]
        at none
      have counts : first.matchCount = second.matchCount := by
        rw [FilteredRow.matchCount, FilteredRow.matchCount, same]
      have starts : first.firstStart? = second.firstStart? := by
        rw [FilteredRow.firstStart?, FilteredRow.firstStart?, same]
      rw [criteria, columnOrders, none]
      split
      · simp [relevanceOrders, Sorting.inTurn, compareLex, compareOn, counts, starts]
      · exact Ordering.noConfusion
  | some first =>
      obtain ⟨other, direction⟩ := first
      refine ⟨direction == .descending, fun first second high low _ => ?_⟩
      have named := naming (direction == .descending)
      rw [found, eq_comm, Option.map_eq_some_iff] at named
      obtain ⟨⟨column, direction'⟩, known, pair⟩ := named
      obtain ⟨called, rfl⟩ := Prod.mk.inj pair
      obtain ⟨others, same⟩ := criteria_of_first known
      obtain ⟨token, -, names⟩ := List.exists_of_findSome?_eq_some known
      have before : column.order (direction' == .descending) true false = .lt := by
        rw [order_opposed (mem_of_named? names)]
        by_cases own : column.head.name = name
        · rw [if_pos own]
          cases direction' with
          | ascending => exact absurd (found.trans (by rw [← called, own])) elsewhere
          | descending => rfl
        · rw [if_neg own]
          cases direction' <;> rfl
      rw [same, Sorting.inTurn_cons, high, low, before]
      exact Ordering.noConfusion

/-- The two rows pass under every control that shows their texts, with the same spans. -/
theorem exists_evaluates_opposed (name : Text) (reverse : Bool)
    (fits : heads.length = texts.length) (shows : control.Shows env heads texts) :
    ∃ first second : FilteredRow Bool,
      List.Forall₂ (Evaluates env (opposed heads texts name reverse) control) [true, false]
        [first, second] ∧
      [first, second].filter (·.hasMatch) = [first, second] ∧ first.found = second.found := by
  obtain ⟨found, known⟩ := shows
  have same : Column.heads (opposed heads texts name reverse) = heads := heads_opposed fits
  rw [← same] at known
  obtain ⟨first, becomes, passes, spans⟩ :=
    exists_evaluates_of_verdict (renderAll_opposed fits true) known
  obtain ⟨second, becomes', passes', spans'⟩ :=
    exists_evaluates_of_verdict (renderAll_opposed fits false) known
  refine ⟨first, second, .cons becomes (.cons becomes' .nil), ?_, spans.trans spans'.symm⟩
  rw [List.filter_cons_of_pos passes, List.filter_cons_of_pos passes', List.filter_nil]

/-- If nothing puts `false` before `true`, the two rows are shown as they came. -/
theorem apply_opposed (fits : heads.length = texts.length) (shows : control.Shows env heads texts)
    (unsorted : ∀ first second : FilteredRow Bool, first.value = true → second.value = false →
      first.found = second.found →
      Sorting.inTurn (criteria (opposed heads texts name reverse) control) first second ≠ .gt) :
    ∃ first second : FilteredRow Bool, first.value = true ∧ second.value = false ∧
      (apply env (opposed heads texts name reverse) control keyByPlace .empty [true, false]).1 =
        .ok [first, second] := by
  obtain ⟨first, second, evaluates, passes, spans⟩ :=
    exists_evaluates_opposed name reverse fits shows
  have values : [first, second].map (·.value) = [true, false] := values_of_evaluates evaluates
  obtain ⟨high, low⟩ : first.value = true ∧ second.value = false := by simpa using values
  obtain ⟨orders, stable⟩ := orderRows_of_evaluates (fun _ => ordersAmong_opposed) evaluates
  have answer := apply_of_evaluates MatchCache.empty_sound (hasKeys_keyByPlace _) evaluates
  rw [passes] at orders stable answer
  have ascending : [first, second].Pairwise fun row later =>
      Sorting.inTurn (criteria (opposed heads texts name reverse) control) row later ≠ .gt :=
    List.pairwise_pair.mpr (unsorted first second high low spans)
  rw [stable.unique orders (.of_ascending ascending)] at answer
  exact ⟨first, second, high, low, answer⟩

end Opposed

end Table

/-! ## Clicks -/

/-- Whether a click on the head of a column orders every table with these heads under a control by
the column: if its rows could be read before, they can be afterwards, they are the same with the same
spans, and none stands behind a row with a greater cell in the column. -/
def Controller.ClickSorts (env : Environment) (heads : List ColumnHead) (control : Control)
    (name : Text) : Prop :=
  ∀ (κ ρ : Type) [DecidableEq κ] (table : Controller κ ρ) (view : TableView κ ρ)
    (before : List (FilteredRow ρ)),
    table.Agrees env view → Column.heads view.columns = heads → view.control = control →
    (∀ column ∈ view.columns, ∀ reverse, Sorting.OrdersAmong (column.order reverse) view.rows) →
    (table.readRows env).1 = .ok before →
    ∃ shown, ((table.toggleSort name).readRows env).1 = .ok shown ∧
      (shown.map fun row => (row.value, row.found)).Perm
        (before.map fun row => (row.value, row.found)) ∧
      ∀ column ∈ view.columns, column.head.name = name →
        shown.Pairwise fun row later => column.order false row.value later.value ≠ .gt

namespace Controller

variable {heads : List ColumnHead} {control : Control} {name : Text}

/-- A click orders by a column if it is the first that is named afterwards. -/
theorem clickSorts_of_first (distinct : (heads.map (·.name)).Nodup)
    (first : (∃ texts, texts.length = heads.length ∧ control.Shows env heads texts) →
      (control.toggleSort name true).rowSorting.findSome? (Table.firstNamed? heads) =
        some (name, .ascending)) :
    ClickSorts env heads control name := by
  rintro κ ρ _ table view before agrees rfl rfl ordered answer
  rw [agrees.readRows.1] at answer
  have alike := Control.toggleSort_showsAs name view.control true
  obtain ⟨shown, answer', same, ascending⟩ := Table.apply_showsAs alike ordered answer
  refine ⟨shown, (agrees.toggleSort name).readRows.1.trans answer', same, ?_⟩
  intro column member called
  match before with
  | [] =>
      obtain rfl := List.map_eq_nil_iff.mp (List.Perm.eq_nil same)
      exact .nil
  | row :: _ =>
      obtain ⟨texts, fits, shows⟩ :=
        Table.exists_shows_of_apply ordered answer List.mem_cons_self
      have naming := first ⟨texts, by rw [fits, Column.heads, List.length_map], shows⟩
      rw [Table.findSome?_firstNamed?_heads, Option.map_eq_some_iff] at naming
      obtain ⟨⟨column', direction⟩, known, pair⟩ := naming
      obtain ⟨called', rfl⟩ := Prod.mk.inj pair
      obtain ⟨token, -, names⟩ := List.exists_of_findSome?_eq_some known
      rw [Column.heads, List.map_map] at distinct
      obtain rfl : column' = column := List.inj_on_of_nodup_map distinct
        (Table.mem_of_named? names) member (called'.trans called.symm)
      exact Table.pairwise_of_first known ascending

/-- A click orders by a column only if it is the first that is named afterwards, or no row is ever
shown. -/
theorem first_of_clickSorts (member : name ∈ heads.map (·.name))
    (sorts : ClickSorts env heads control name)
    (shows : ∃ texts, texts.length = heads.length ∧ control.Shows env heads texts) :
    (control.toggleSort name true).rowSorting.findSome? (Table.firstNamed? heads) =
      some (name, .ascending) := by
  by_contra elsewhere
  obtain ⟨texts, fits, shows⟩ := shows
  obtain ⟨reverse, unsorted⟩ := Table.exists_opposed fits.symm elsewhere
  have same : Column.heads (Table.opposed heads texts name reverse) = heads :=
    Table.heads_opposed fits.symm
  have agrees : (make (Table.opposed heads texts name reverse) [true, false] control
    Table.keyByPlace).Agrees env _ := .make ..
  have shows' : (control.toggleSort name true).Shows env heads texts := by
    rwa [Control.Shows, (Control.toggleSort_showsAs name control true).verdict_eq]
  -- The rows are shown before the click, and the click leaves them as they are.
  obtain ⟨_, _, evaluates, -⟩ := Table.exists_evaluates_opposed name reverse fits.symm shows
  have answer := Table.apply_of_evaluates MatchCache.empty_sound (Table.hasKeys_keyByPlace _)
    evaluates
  obtain ⟨first, second, high, low, answer'⟩ := Table.apply_opposed fits.symm shows' unsorted
  obtain ⟨shown, known, -, ascending⟩ := sorts Nat Bool _ _ _ agrees same rfl
    (fun _ => Table.ordersAmong_opposed) (agrees.readRows.1.trans answer)
  rw [(agrees.toggleSort name).readRows.1, answer'] at known
  cases known
  -- Yet the column puts them the other way round.
  obtain ⟨head, inside, called⟩ := List.mem_map.mp member
  rw [← same] at inside
  obtain ⟨column, placed, rfl⟩ := List.mem_map.mp inside
  have before := List.pairwise_pair.mp (ascending column placed called)
  rw [high, low, Table.order_opposed placed, if_pos called] at before
  exact before rfl

/-- A click on an ordinary name, which begins no name in front of it, orders by the column. -/
theorem clickSorts_of_ordinary {before after : List ColumnHead} {head : ColumnHead}
    (distinct : ((before ++ head :: after).map (·.name)).Nodup)
    (ordinary : ColumnName.IsOrdinary head.name)
    (free : ∀ other ∈ before,
      ColumnName.isNamedBy (ColumnName.sortToken head.name) other.name = false)
    (unsorted : ∀ token ∈ control.rowSorting, ColumnName.isNamedBy token head.name = false)
    (first : control.ahead = []) :
    ClickSorts env (before ++ head :: after) control head.name := by
  refine clickSorts_of_first distinct fun _ => ?_
  rw [Table.findSome?_toggleSort_iff unsorted, first]
  exact ⟨List.forall_mem_nil _, Table.firstNamed?_sortToken ordinary free⟩

/-- **Clicks.** A click on a column by which a control does not order the rows yet puts the rows in
ascending order by the column, unless no row is ever shown, if and only if no token in front of the
one for the column names a column, and the one for the column names it first and without a
sign. -/
theorem clickSorts_iff (env : Environment) (heads : List ColumnHead) (control : Control)
    (name : Text) (distinct : (heads.map (·.name)).Nodup) (member : name ∈ heads.map (·.name))
    (unsorted : ∀ token ∈ control.rowSorting, ColumnName.isNamedBy token name = false) :
    ClickSorts env heads control name ↔
      ((∃ texts, texts.length = heads.length ∧ control.Shows env heads texts) →
        (∀ token ∈ control.ahead, Table.firstNamed? heads token = none) ∧
          Table.firstNamed? heads (ColumnName.sortToken name) = some (name, .ascending)) := by
  rw [← Table.findSome?_toggleSort_iff unsorted]
  exact ⟨first_of_clickSorts member, clickSorts_of_first distinct⟩

/-- A click on `Name` behind `Name Long` orders by the wrong column. -/
theorem not_clickSorts_of_prefix :
    let env : Environment := ⟨fun _ => none, fun _ _ => false⟩
    let heads : List ColumnHead := [⟨"Name Long".toList, true⟩, ⟨"Name".toList, true⟩]
    let name : Text := "Name".toList
    (heads.map (·.name)).Nodup ∧ name ∈ heads.map (·.name) ∧
      (∀ token ∈ Control.unfiltered.rowSorting, ColumnName.isNamedBy token name = false) ∧
      ¬ClickSorts env heads .unfiltered name := by
  intro env heads name
  have distinct : (heads.map (·.name)).Nodup := by decide
  have member : name ∈ heads.map (·.name) := by decide
  have unsorted : ∀ token ∈ Control.unfiltered.rowSorting,
      ColumnName.isNamedBy token name = false := List.forall_mem_nil _
  refine ⟨distinct, member, unsorted, ?_⟩
  rw [clickSorts_iff env heads .unfiltered name distinct member unsorted]
  intro sorts
  have named := (sorts ⟨[[], []], rfl, Control.shows_of_order rfl⟩).2
  revert named
  decide +kernel

end Controller

end TableSearch
