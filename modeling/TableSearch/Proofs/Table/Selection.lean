import TableSearch.Proofs.Answers
import TableSearch.Proofs.Search.Completion
import TableSearch.Proofs.Search.Order
import TableSearch.Proofs.Table.Criteria
import TableSearch.Proofs.Table.Transparency

/-! # What a filtering shows

If the rows of a table have different keys and its columns put them in an order, a filtering is to show
the rows that pass, in their stable order by the criteria of the control, each with what was found in
it (`TableSearch.Table.Selects`).  `TableSearch.Table.apply_selects_iff`: what it shows is that and
nothing else, but it shows something only if every row has an answer
(`TableSearch.Table.Answerable`).  One row in which the search fails, and none of the others is shown.

What becomes of one row is said by a relation (`TableSearch.Table.Evaluates`), and of all rows by one
traversal without keys and without a cache (`TableSearch.Table.apply_eq_mapM`).
-/

namespace TableSearch

variable {κ ρ : Type} {env : Environment}

/-! ## Where spans start -/

/-- Spans that were found in a row start somewhere. -/
theorem FilteredRow.firstStart?_ne_none {row : FilteredRow ρ} (hit : row.found.isHit = true) :
    row.firstStart? ≠ none := by
  obtain ⟨found, member, some⟩ := List.any_eq_true.mp hit
  rw [CellMatch.isHit, Option.any_eq_true] at some
  obtain ⟨⟨spans⟩, rfl, filled⟩ := some
  rcases spans with _ | ⟨span, rest⟩
  · cases filled
  · have start : span.start ∈ row.found.filterMap fun found => found.bind SpanSet.firstStart? :=
      List.mem_filterMap.mpr ⟨_, member, rfl⟩
    rw [firstStart?, ne_eq, List.min?_eq_none_iff]
    exact List.ne_nil_of_mem start

namespace Table

variable {columns : List (Column ρ)} {control : Control} {value : ρ} {row : FilteredRow ρ}

/-! ## One row -/

/-- What a control makes of a row of a table. -/
inductive Evaluates (env : Environment) (columns : List (Column ρ)) (control : Control) (value : ρ) :
    FilteredRow ρ → Prop where
  /-- A search looks for spans in the texts of the row, which passes if there are some. -/
  | searched {texts : List Text} {answer : Option RowMatch} {found : RowMatch}
      (search : control.isSearch = true) (rendered : Column.renderAll columns value = .ok texts)
      (answered : control.findRow env (Column.heads columns) texts = .ok answer)
      (same : found = answer.getD (.none columns.length)) :
      Evaluates env columns control value
        ⟨value, found, found.isHit, true, some (texts, control.plain)⟩
  /-- Without a search every row passes, with nothing found in it. -/
  | passed {texts : List Text} (free : control.isSearch = false)
      (rendered : Column.renderAll columns value = .ok texts) :
      Evaluates env columns control value
        ⟨value, .none columns.length, true, false, some (texts, control.plain)⟩

/-- A row whose cells have texts is evaluated by them. -/
theorem evaluateFresh_of_rendered {texts : List Text}
    (rendered : Column.renderAll columns value = .ok texts) :
    evaluateFresh env columns control value =
      (FilteredRow.evaluate env value (Column.heads columns) texts control).mapError .search := by
  have fits : ¬texts.length ≠ (FilteredRow.fresh value columns.length).found.length := by
    rw [length_renderAll rendered]
    exact not_not_intro List.length_replicate.symm
  rw [evaluateFresh, rendered]
  exact if_neg fits

/-- A row is evaluated to what the control makes of it. -/
theorem evaluateFresh_eq_ok_iff :
    evaluateFresh env columns control value = .ok row ↔ Evaluates env columns control value row := by
  constructor
  · intro answer
    obtain ⟨texts, rendered, -⟩ := bind_eq_ok.mp answer
    rw [evaluateFresh_of_rendered rendered, mapError_eq_ok, FilteredRow.evaluate,
      length_renderAll rendered] at answer
    by_cases search : control.isSearch = true
    · rw [if_pos search] at answer
      obtain ⟨found, answered, ⟨⟩⟩ := bind_eq_ok.mp answer
      exact .searched search rendered answered rfl
    · rw [if_neg search] at answer
      cases answer
      exact .passed ((Bool.not_eq_true _).mp search) rendered
  · rintro (⟨search, rendered, answered, rfl⟩ | ⟨free, rendered⟩)
    · rw [evaluateFresh_of_rendered rendered, mapError_eq_ok, FilteredRow.evaluate, if_pos search,
        length_renderAll rendered]
      exact bind_eq_ok.mpr ⟨_, answered, rfl⟩
    · rw [evaluateFresh_of_rendered rendered, mapError_eq_ok, FilteredRow.evaluate,
        if_neg (by rw [free]; exact Bool.false_ne_true), length_renderAll rendered]

/-- Whether a row has an answer: its cells have texts, and if the control is a search, no part of it that
the search of the row has to look at fails in one of them. -/
def Answerable (env : Environment) (columns : List (Column ρ)) (control : Control) (value : ρ) :
    Prop :=
  ∃ texts, Column.renderAll columns value = .ok texts ∧ (control.isSearch = true →
    control.fails env (List.zipWith Cell.mk (Column.heads columns) texts) = false)

/-- A row with cells in which a search fails has no answer. -/
theorem not_answerable_of_fails {texts : List Text}
    (rendered : Column.renderAll columns value = .ok texts) (search : control.isSearch = true)
    (fails : control.fails env (List.zipWith Cell.mk (Column.heads columns) texts) = true) :
    ¬Answerable env columns control value := by
  rintro ⟨texts', rendered', calm⟩
  cases rendered.symm.trans rendered'
  exact Bool.false_ne_true ((calm search).symm.trans fails)

/-- The texts of the cells are as many as the columns, so that the search of a row goes through all
of them. -/
theorem findRow_of_rendered {texts : List Text}
    (rendered : Column.renderAll columns value = .ok texts) :
    control.findRow env (Column.heads columns) texts =
      control.findIn env (List.zipWith Cell.mk (Column.heads columns) texts) := by
  have fits : (Column.heads columns).length = texts.length := by
    rw [Column.heads, List.length_map, length_renderAll rendered]
  exact if_neg (not_not_intro fits)

/-- The rows that a control makes something of are those that have an answer. -/
theorem exists_evaluates_iff :
    (∃ row, Evaluates env columns control value row) ↔ Answerable env columns control value := by
  constructor
  · rintro ⟨_, ⟨search, rendered, answered, -⟩ | ⟨free, rendered⟩⟩
    · rw [findRow_of_rendered rendered] at answered
      exact ⟨_, rendered, Control.findIn_answers_iff.mp ⟨_, answered⟩⟩
    · refine ⟨_, rendered, fun search => ?_⟩
      rw [free] at search
      cases search
  · rintro ⟨texts, rendered, calm⟩
    cases search : control.isSearch with
    | false => exact ⟨_, .passed search rendered⟩
    | true =>
        obtain ⟨answer, answered⟩ := Control.findIn_answers_iff.mpr calm
        rw [← findRow_of_rendered rendered] at answered
        exact ⟨_, .searched search rendered answered rfl⟩

namespace Evaluates

theorem value_eq (evaluates : Evaluates env columns control value row) : row.value = value := by
  cases evaluates <;> rfl

/-- A control that does not filter lets every row pass. -/
theorem hasMatch_of_free (evaluates : Evaluates env columns control value row)
    (free : control.isSearch = false) : row.hasMatch = true := by
  cases evaluates with
  | searched search =>
      rw [free] at search
      cases search
  | passed => rfl

/-- The rows that a search shows have spans. -/
theorem firstStart?_ne_none (evaluates : Evaluates env columns control value row)
    (search : control.isSearch = true) (passes : row.hasMatch = true) :
    row.firstStart? ≠ none := by
  cases evaluates with
  | searched => exact FilteredRow.firstStart?_ne_none passes
  | passed free =>
      rw [free] at search
      cases search

end Evaluates

/-! ## All rows -/

/-- Whether every row of a table has a key, and no two rows have the same. -/
structure HasKeys (key : KeyReader κ ρ) (rows : List ρ) : Prop where
  answers : ∀ {place row}, rows[place]? = some row → ∃ rowKey, key place row = .ok rowKey
  distinct : ∀ {place row place' row' rowKey rowKey'},
    rows[place]? = some row → key place row = .ok rowKey →
    rows[place']? = some row' → key place' row' = .ok rowKey' →
    rowKey.identity = rowKey'.identity → place = place'

/-- Rows that are told apart by their places alone. -/
def keyByPlace : KeyReader Nat ρ :=
  fun place _ => .ok ⟨place, Text.ofNat place⟩

theorem hasKeys_keyByPlace (rows : List ρ) : HasKeys keyByPlace rows where
  answers _ := ⟨_, rfl⟩
  distinct := by
    rintro place _ place' _ _ _ - ⟨⟩ - ⟨⟩ same
    exact same

variable [DecidableEq κ] {key : KeyReader κ ρ} {keys : List κ} {place : Nat} {rows rest : List ρ}
  {cache : MatchCache κ ρ} {result : List (FilteredRow ρ)}

/-- Keys that are all there and different take no part in the selection of rows. -/
theorem select_eq_mapM (hasKeys : HasKeys key rows) (behind : rows.drop place = rest)
    (earlier : ∀ identity ∈ keys, ∃ before row rowKey, before < place ∧ rows[before]? = some row ∧
      key before row = .ok rowKey ∧ rowKey.identity = identity) :
    (select env columns control key keys place rest).map Prod.fst =
      (rest.mapM (evaluateFresh env columns control)).map (List.filter (·.hasMatch)) := by
  induction rest generalizing place keys with
  | nil => rfl
  | cons value rest ih =>
      have present : rows[place]? = some value := by
        rw [← List.head?_drop, behind, List.head?_cons]
      have onward : rows.drop (place + 1) = rest := by
        rw [← List.tail_drop, behind, List.tail_cons]
      obtain ⟨rowKey, known⟩ := hasKeys.answers present
      have new : rowKey.identity ∉ keys := by
        intro member
        obtain ⟨before, row, rowKey', ahead, there, known', same⟩ := earlier _ member
        have := hasKeys.distinct there known' present known same
        omega
      have seen : ∀ identity ∈ rowKey.identity :: keys, ∃ before row rowKey, before < place + 1 ∧
          rows[before]? = some row ∧ key before row = .ok rowKey ∧ rowKey.identity = identity := by
        rw [List.forall_mem_cons]
        refine ⟨⟨place, value, rowKey, Nat.lt_succ_self place, present, known, rfl⟩, ?_⟩
        intro identity member
        obtain ⟨before, row, rowKey', ahead, there⟩ := earlier identity member
        exact ⟨before, row, rowKey', Nat.lt_succ_of_lt ahead, there⟩
      have later := ih onward seen
      rw [select, known, List.mapM_cons]
      simp only [if_neg new]
      cases evaluateFresh env columns control value with
      | error problem => rfl
      | ok row =>
          let keep (kept : List (FilteredRow ρ)) := if row.hasMatch then row :: kept else kept
          trans ((rest.mapM (evaluateFresh env columns control)).map
            (List.filter (·.hasMatch))).map keep
          · rw [← later]
            cases select env columns control key (rowKey.identity :: keys) (place + 1) rest <;> rfl
          · cases rest.mapM (evaluateFresh env columns control) with
            | error problem => rfl
            | ok evaluated => exact congrArg Except.ok List.filter_cons.symm

/-- **All rows.** If the rows have different keys, a filtering evaluates each by itself and puts
those that pass in order. -/
theorem apply_eq_mapM (sound : cache.Sound env) (hasKeys : HasKeys key rows) :
    (apply env columns control key cache rows).1 =
      (rows.mapM (evaluateFresh env columns control)).map fun evaluated =>
        orderRows columns control (evaluated.filter (·.hasMatch)) := by
  have chosen : (select env columns control key [] 0 rows).map Prod.fst = _ :=
    select_eq_mapM hasKeys List.drop_zero fun _ member => (List.not_mem_nil member).elim
  calc (apply env columns control key cache rows).1
    _ = ((select env columns control key [] 0 rows).map Prod.fst).map (orderRows columns control) :=
      (apply_eq_select sound).trans map_map.symm
    _ = _ := by rw [chosen, map_map]

/-- If every row can be evaluated, the answer is known. -/
theorem apply_of_evaluates {evaluated : List (FilteredRow ρ)} (sound : cache.Sound env)
    (hasKeys : HasKeys key rows)
    (evaluates : List.Forall₂ (Evaluates env columns control) rows evaluated) :
    (apply env columns control key cache rows).1 =
      .ok (orderRows columns control (evaluated.filter (·.hasMatch))) := by
  rw [apply_eq_mapM sound hasKeys, map_eq_ok]
  refine ⟨evaluated, ?_, rfl⟩
  simpa only [mapM_eq_ok, evaluateFresh_eq_ok_iff] using evaluates

/-- The rows of a table in turn, each with what a control makes of it. -/
theorem values_of_evaluates {evaluated : List (FilteredRow ρ)}
    (evaluates : List.Forall₂ (Evaluates env columns control) rows evaluated) :
    evaluated.map (·.value) = rows := by
  induction evaluates with
  | nil => rfl
  | cons first _ ih => rw [List.map_cons, first.value_eq, ih]

/-- Every row that was evaluated is one of the table. -/
theorem exists_evaluates {evaluated : List (FilteredRow ρ)}
    (evaluates : List.Forall₂ (Evaluates env columns control) rows evaluated)
    (member : row ∈ evaluated) : ∃ value ∈ rows, Evaluates env columns control value row :=
  exists_of_forall₂ evaluates.flip member

/-! ## The order of the rows that pass -/

section Order

variable {kept evaluated : List (FilteredRow ρ)}

/-- Rows are put in their stable order by the criteria of the control. -/
theorem orderRows_isStableOrder
    (ordered : Sorting.OrdersAmong (Sorting.inTurn (criteria columns control)) kept)
    (starts : control.isSearch = true → ∀ row ∈ kept, row.firstStart? ≠ none) :
    Sorting.IsStableOrder (Sorting.inTurn (criteria columns control)) kept
      (orderRows columns control kept) := by
  have same : ∀ row ∈ kept, ∀ other ∈ kept, rowOrder columns control row other =
      Sorting.inTurn (criteria columns control) row other := by
    intro row member other member'
    exact rowOrder_eq_inTurn fun search => ⟨starts search row member, starts search other member'⟩
  rw [orderRows]
  split
  · rename_i free
    rw [Bool.and_eq_true, List.isEmpty_iff, Bool.not_eq_true'] at free
    refine .of_tied ?_
    intro row _ other _
    rw [criteria, columnOrders, free.1, free.2]
    rfl
  · exact (Sorting.sort_isStableOrder (ordered.congr same)).congr same

/-- The rows that pass a search start somewhere, so that they can be compared by it. -/
theorem starts_of_evaluates
    (evaluates : List.Forall₂ (Evaluates env columns control) rows evaluated)
    (search : control.isSearch = true) :
    ∀ row ∈ evaluated.filter (·.hasMatch), row.firstStart? ≠ none := by
  intro row member
  obtain ⟨inside, passes⟩ := List.mem_filter.mp member
  obtain ⟨value, -, becomes⟩ := exists_evaluates evaluates inside
  exact becomes.firstStart?_ne_none search passes

/-- The stable order of the rows that pass, if the columns put the rows in an order. -/
theorem orderRows_of_evaluates
    (ordered : ∀ column ∈ columns, ∀ reverse, Sorting.OrdersAmong (column.order reverse) rows)
    (evaluates : List.Forall₂ (Evaluates env columns control) rows evaluated) :
    Sorting.OrdersAmong (Sorting.inTurn (criteria columns control))
        (evaluated.filter (·.hasMatch)) ∧
      Sorting.IsStableOrder (Sorting.inTurn (criteria columns control))
        (evaluated.filter (·.hasMatch))
        (orderRows columns control (evaluated.filter (·.hasMatch))) := by
  have among : ∀ row ∈ evaluated.filter (·.hasMatch), row.value ∈ rows := by
    intro row member
    rw [← values_of_evaluates evaluates]
    exact List.mem_map_of_mem (List.mem_filter.mp member).1
  have orders : Sorting.OrdersAmong (Sorting.inTurn (criteria columns control)) _ :=
    ordersAmong_criteria ordered among
  exact ⟨orders, orderRows_isStableOrder orders (starts_of_evaluates evaluates)⟩

/-- Without an order and without a search all rows are shown as they came. -/
theorem values_of_free
    (evaluates : List.Forall₂ (Evaluates env columns control) rows evaluated)
    (unsorted : control.rowSorting = []) (free : control.isSearch = false) :
    (orderRows columns control (evaluated.filter (·.hasMatch))).map (·.value) = rows := by
  have all : evaluated.filter (·.hasMatch) = evaluated := by
    rw [List.filter_eq_self]
    intro row member
    obtain ⟨value, -, becomes⟩ := exists_evaluates evaluates member
    exact becomes.hasMatch_of_free free
  rw [all, orderRows, unsorted, free]
  exact values_of_evaluates evaluates

end Order

/-- What a filtering of rows is to show: the rows that pass, each once and with what was found in it, in
their stable order by the criteria of the control. -/
structure Selects (env : Environment) (columns : List (Column ρ)) (control : Control) (rows : List ρ)
    (shown : List (FilteredRow ρ)) : Prop where
  stable : ∃ evaluated, List.Forall₂ (Evaluates env columns control) rows evaluated ∧
    Sorting.IsStableOrder (Sorting.inTurn (criteria columns control))
      (evaluated.filter (·.hasMatch)) shown
  /-- The rows that a search shows all have a first start to be compared by. -/
  starts : control.isSearch = true → ∀ row ∈ shown, row.firstStart? ≠ none
  /-- Without an order and without a search all rows are shown as they came. -/
  unsorted : control.rowSorting = [] → control.isSearch = false → shown.map (·.value) = rows

/-- A filtering shows something exactly if every row has an answer. -/
theorem exists_apply_iff (sound : cache.Sound env) (hasKeys : HasKeys key rows) :
    (∃ shown, (apply env columns control key cache rows).1 = .ok shown) ↔
      ∀ value ∈ rows, Answerable env columns control value := by
  rw [apply_eq_mapM sound hasKeys, exists_map_eq_ok, exists_mapM_eq_ok]
  simp only [evaluateFresh_eq_ok_iff, exists_evaluates_iff]

/-- **Filtering.** What a filtering shows are the rows that pass, each once and with what was found in
it, in their only stable order by the criteria of the control.  It shows something exactly if every row
has an answer; otherwise it fails, and the rows that do have one are lost with the others. -/
theorem apply_selects_iff (sound : cache.Sound env) (hasKeys : HasKeys key rows)
    (ordered : ∀ column ∈ columns, ∀ reverse, Sorting.OrdersAmong (column.order reverse) rows) :
    (∀ shown, (apply env columns control key cache rows).1 = .ok shown ↔
        Selects env columns control rows shown) ∧
      ((∃ shown, (apply env columns control key cache rows).1 = .ok shown) ↔
        ∀ value ∈ rows, Answerable env columns control value) := by
  refine ⟨fun shown => ?_, exists_apply_iff sound hasKeys⟩
  rw [apply_eq_mapM sound hasKeys, map_eq_ok]
  simp only [mapM_eq_ok, evaluateFresh_eq_ok_iff]
  constructor
  · rintro ⟨evaluated, evaluates, rfl⟩
    obtain ⟨-, stable⟩ := orderRows_of_evaluates ordered evaluates
    refine ⟨⟨evaluated, evaluates, stable⟩, ?_, values_of_free evaluates⟩
    intro search row member
    exact starts_of_evaluates evaluates search row (stable.perm.mem_iff.mp member)
  · rintro ⟨⟨evaluated, evaluates, stable⟩, -, -⟩
    obtain ⟨orders, stable'⟩ := orderRows_of_evaluates ordered evaluates
    exact ⟨evaluated, evaluates, stable'.unique orders stable⟩

/-- The rows with an `x` by number, the greater first, and those with the same number by their
spans: two spans come before one, and rows with the same spans stay as they came. -/
example :
    let env : Environment := ⟨fun _ => none, fun _ _ => false⟩
    let columns : List (Column (Text × Text)) :=
      [⟨⟨['n'], true⟩, fun row => .ok row.1, none⟩, ⟨⟨['t'], true⟩, fun row => .ok row.2, none⟩]
    let control := Control.allOf [.rowSort [['-', 'n']], .term (.literal ['x'])]
    let rows : List (Text × Text) := [(['2'], ['a', 'x']), (['1', '0'], ['a', 'x']),
      (['2'], ['y']), (['1', '0'], ['x', 'b', 'x']), (['2'], ['b', 'x'])]
    (apply env columns control keyByPlace .empty rows).1.map (List.map (·.value)) =
      .ok [(['1', '0'], ['x', 'b', 'x']), (['1', '0'], ['a', 'x']), (['2'], ['a', 'x']),
        (['2'], ['b', 'x'])] := by
  decide +kernel

/-- The row with the long s for a unit has no answer to `5s`, so the row that says `5s` itself, which
would be shown without it, is not shown with it. -/
theorem not_applied_of_long_s :
    let env : Environment := ⟨fun _ => none, fun _ _ => false⟩
    let columns : List (Column Text) := [⟨⟨['x'], true⟩, .ok, none⟩]
    let cache : MatchCache Nat Text := .empty
    let rows : List Text := [['5', 's'], ['5', 'ſ']]
    ∃ control, Control.parse env.readDate ['5', 's'] = .ok control ∧ cache.Sound env ∧
      HasKeys keyByPlace rows ∧
      (∀ column ∈ columns, ∀ reverse, Sorting.OrdersAmong (column.order reverse) rows) ∧
      (apply env columns control keyByPlace cache [['5', 's']]).1.map (List.map (·.value)) =
        .ok [['5', 's']] ∧
      ¬∃ shown, (apply env columns control keyByPlace cache rows).1 = .ok shown := by
  intro env columns cache rows
  let seconds : Control := .anyOf
    [.term (.literal ['5', 's']), .term (.duration ⟨['5', 's'], .ofNat 5⟩)]
  have accepted : Control.parse env.readDate ['5', 's'] = .ok seconds := by decide +kernel
  have sound : cache.Sound env := MatchCache.empty_sound
  have ordered : ∀ column ∈ columns, ∀ reverse,
      Sorting.OrdersAmong (column.order reverse) rows := by
    decide +kernel
  have alone : (apply env columns seconds keyByPlace cache [['5', 's']]).1.map
      (List.map (·.value)) = .ok [['5', 's']] := by
    decide +kernel
  refine ⟨seconds, accepted, sound, hasKeys_keyByPlace rows, ordered, alone, ?_⟩
  rw [(apply_selects_iff sound (hasKeys_keyByPlace rows) ordered).2]
  intro all
  exact not_answerable_of_fails rfl rfl (by decide +kernel) (all ['5', 'ſ'] (by decide))

end Table

end TableSearch
