import TableSearch.Proofs.Table.Transparency
import TableSearch.Control.Parser
import TableSearch.Table.Controller

/-! # A controller computes what it is asked for

`TableSearch.Controller.answers_make_eq`: whatever steps are taken on a controller, and however
reads come in between, every read of the rows is the filtering of the present rows by the present
columns and the present control without a cache, and every read of the columns is their order under
the present control.

The reference (`TableSearch.TableView`) keeps nothing but what it was given.  The invariant
(`TableSearch.Controller.Agrees`) says of each kept result that it is the one the reference would
compute, and of the control that it is the present one up to the signs of zeros.
-/

namespace TableSearch

variable {κ ρ : Type} [DecidableEq κ] {env : Environment}

/-! ## The signs of zeros in a filtering -/

namespace Table

variable {columns : List (Column ρ)} {control other : Control} {key : KeyReader κ ρ}
  {keys : List κ} {place : Nat} {rows : List ρ}

omit [DecidableEq κ] in
theorem evaluateFresh_plain {value : ρ} :
    evaluateFresh env columns control.plain value = evaluateFresh env columns control value := by
  simp only [evaluateFresh, FilteredRow.update, FilteredRow.evaluate_plain]

theorem select_plain :
    select env columns control.plain key keys place rows =
      select env columns control key keys place rows := by
  induction rows generalizing keys place with
  | nil => rfl
  | cons value rest ih => simp only [select, evaluateFresh_plain, ih]

theorem orderRows_plain {kept : List (FilteredRow ρ)} :
    orderRows columns control.plain kept = orderRows columns control kept := by
  simp only [orderRows, rowOrder, Control.rowSorting_plain, Control.isSearch_plain]

/-- Controls that differ in the signs of zeros only filter alike. -/
theorem apply_congr (like : control.plain = other.plain) :
    (apply env columns control key .empty rows).1 = (apply env columns other key .empty rows).1 := by
  rw [apply_eq_select MatchCache.empty_sound, apply_eq_select MatchCache.empty_sound,
    ← select_plain, like, select_plain]
  have order : orderRows columns control = orderRows columns other := by
    funext kept
    rw [← orderRows_plain, like, orderRows_plain]
  rw [order]

omit [DecidableEq κ] in
/-- Controls that differ in the signs of zeros only order columns alike. -/
theorem orderColumns_congr {name : Column ρ → Text} (like : control.plain = other.plain) :
    orderColumns name control columns = orderColumns name other columns := by
  have same : control.columnSorting = other.columnSorting := by
    rw [← Control.columnSorting_plain, like, Control.columnSorting_plain]
  simp only [orderColumns, same]

end Table

/-! ## The signs of zeros in a change of the order -/

namespace Control

variable {column : Text}

theorem plainAll_eq_map {children : List Control} : plainAll children = children.map plain := by
  induction children with
  | nil => rfl
  | cons child rest ih => rw [plainAll, ih, List.map_cons]

theorem conjuncts_plain {control : Control} :
    control.plain.conjuncts = control.conjuncts.map plain := by
  cases control with
  | allOf children => exact plainAll_eq_map
  | _ => rfl

/-- Leaving out the signs of zeros may come before or after putting controls together. -/
theorem plain_conjoin {controls : List Control} :
    (conjoin controls).plain = conjoin (controls.map plain) := by
  have parts : (controls.map plain).flatMap conjuncts =
      (controls.flatMap conjuncts).map plain := by
    rw [List.flatMap_map, List.map_flatMap]
    simp only [conjuncts_plain]
  rw [conjoin, conjoin, parts]
  rcases controls.flatMap conjuncts with _ | ⟨first, _ | ⟨second, rest⟩⟩
  · rfl
  · rfl
  · rw [List.map_cons, List.map_cons]
    exact congrArg _ plainAll_eq_map

/-- An order put in front of a control that has none for the column. -/
theorem plain_orderFirst {root : Bool} {control toggled toggled' : Control}
    (changed : toggled = if root then conjoin [.rowSort [ColumnName.sortToken column], control]
      else control)
    (changed' : toggled' = if root then
        conjoin [.rowSort [ColumnName.sortToken column], control.plain]
      else control.plain) :
    toggled.plain = toggled' := by
  rw [changed, changed']
  cases root with
  | true => exact plain_conjoin
  | false => rfl

section Combinations

variable {combine : List Control → Control} {children : List Control} {root : Bool}

/-- The change of the order of a combination. -/
theorem toggleSort_combined (either : combine = anyOf ∨ combine = allOf) :
    toggleSort column root (combine children) =
      if toggleSorts column children ≠ children then combine (toggleSorts column children)
      else if root then conjoin [.rowSort [ColumnName.sortToken column], combine children]
      else combine children := by
  rcases either with rfl | rfl
  · rw [toggleSort]
  · rw [toggleSort]

theorem plain_combined (either : combine = anyOf ∨ combine = allOf) :
    (combine children).plain = combine (plainAll children) := by
  rcases either with rfl | rfl
  · rw [plain]
  · rw [plain]

/-- Combinations of one kind are equal exactly if their parts are. -/
theorem combined_inj {children' : List Control} (either : combine = anyOf ∨ combine = allOf) :
    combine children = combine children' ↔ children = children' := by
  rcases either with rfl | rfl
  · rw [anyOf.injEq]
  · rw [allOf.injEq]

/-- A combination whose order is turned around differs in more than the signs of zeros, if its parts
do. -/
theorem toggleSort_combined_eq (either : combine = anyOf ∨ combine = allOf)
    (differs : plainAll (toggleSorts column children) = plainAll children →
      toggleSorts column children = children)
    (like : (toggleSort column false (combine children)).plain = (combine children).plain) :
    toggleSort column false (combine children) = combine children := by
  rw [toggleSort_combined either] at like ⊢
  by_cases turned : toggleSorts column children ≠ children
  · rw [if_pos turned, plain_combined either, plain_combined either, combined_inj either] at like
    exact (turned (differs like)).elim
  · rw [if_neg turned, if_neg Bool.false_ne_true]

/-- The change of the order of a combination does not depend on the signs of zeros, if that of its
parts does not. What remains to be seen is that both combinations take the same way, which they do
since a part that is turned around differs in more than these signs. -/
theorem plain_toggleSort_combined (either : combine = anyOf ∨ combine = allOf)
    (differs : plainAll (toggleSorts column children) = plainAll children →
      toggleSorts column children = children)
    (parts : plainAll (toggleSorts column children) = toggleSorts column (plainAll children)) :
    (toggleSort column root (combine children)).plain =
      toggleSort column root (combine children).plain := by
  rw [plain_combined either, toggleSort_combined either, toggleSort_combined either, ← parts]
  by_cases turned : toggleSorts column children = children
  · simp only [turned, ne_eq, not_true, if_false]
    rw [← plain_combined either]
    exact plain_orderFirst rfl rfl
  · rw [if_pos turned, if_pos (mt differs turned), plain_combined either]

end Combinations

/-- Parts whose orders are turned around differ in more than the signs of zeros if each part does. -/
theorem toggleSorts_eq_of_plainAll_eq {children : List Control}
    (parts : ∀ child ∈ children, (toggleSort column false child).plain = child.plain →
      toggleSort column false child = child)
    (like : plainAll (toggleSorts column children) = plainAll children) :
    toggleSorts column children = children := by
  induction children with
  | nil => rfl
  | cons child rest ih =>
      rw [toggleSorts, plainAll, plainAll, List.cons.injEq] at like
      rw [toggleSorts, parts child List.mem_cons_self like.1,
        ih (fun other member => parts other (List.mem_cons_of_mem child member)) like.2]

/-- A part whose order is turned around differs in more than the signs of zeros. -/
theorem toggleSort_eq_of_plain_eq : (control : Control) →
    (toggleSort column false control).plain = control.plain →
    toggleSort column false control = control
  | anyOf _, like => toggleSort_combined_eq (.inl rfl)
      (toggleSorts_eq_of_plainAll_eq fun child _ => toggleSort_eq_of_plain_eq child) like
  | allOf _, like => toggleSort_combined_eq (.inr rfl)
      (toggleSorts_eq_of_plainAll_eq fun child _ => toggleSort_eq_of_plain_eq child) like
  | rowSort tokens, like => by
      rw [toggleSort] at like ⊢
      by_cases named : tokens.any (ColumnName.isNamedBy · column) = true
      · rw [if_pos named] at like ⊢
        exact like
      · rw [if_neg named]
        rfl
  | unfiltered, like => by
      rw [toggleSort] at like
      cases like
  | term _, _ | category _ _, _ | emptyCell, _ | predicate _ _, _ | columnSort _, _ => rfl

mutual

/-- The change of the order does not depend on the signs of zeros. -/
theorem plain_toggleSort : (control : Control) → {root : Bool} →
    (toggleSort column root control).plain = toggleSort column root control.plain
  | anyOf children, _ => plain_toggleSort_combined (.inl rfl)
      (toggleSorts_eq_of_plainAll_eq fun child _ => toggleSort_eq_of_plain_eq child)
      (plainAll_toggleSorts children)
  | allOf children, _ => plain_toggleSort_combined (.inr rfl)
      (toggleSorts_eq_of_plainAll_eq fun child _ => toggleSort_eq_of_plain_eq child)
      (plainAll_toggleSorts children)
  | rowSort tokens, root => by
      change (toggleSort column root (rowSort tokens)).plain =
        toggleSort column root (rowSort tokens)
      rw [toggleSort]
      split
      · rfl
      · split <;> rfl
  | unfiltered, _ => rfl
  | term _, root | category _ _, root | emptyCell, root | predicate _ _, root
  | columnSort _, root => by exact plain_orderFirst rfl rfl

/-- The change of the order of several controls does not depend on the signs of zeros. -/
theorem plainAll_toggleSorts : (children : List Control) →
    plainAll (toggleSorts column children) = toggleSorts column (plainAll children)
  | [] => rfl
  | child :: rest => by
      rw [toggleSorts, plainAll, plain_toggleSort child, plainAll_toggleSorts rest, plainAll,
        toggleSorts]

end

end Control

/-! ## Steps on a controller -/

/-- A step on a controller with rows of type `ρ`. -/
inductive TableStep (ρ : Type) where
  | setControl (control : Control)
  /-- The control is replaced by the one that a directive writes. -/
  | setDirective (directive : Text)
  | setRows (rows : List ρ)
  /-- One row is replaced; a negative place counts from the end. -/
  | updateRow (place : Int) (row : ρ)
  | setColumns (columns : List (Column ρ))
  | toggleSort (column : Text)
  | readRows
  | readColumns

/-- What a step answers. -/
inductive TableAnswer (ρ : Type) where
  | done
  /-- A directive could not be read. -/
  | unread (problem : DirectiveError)
  /-- There is no row at a place. -/
  | misplaced (problem : TableError)
  | rows (answer : Except TableError (List (FilteredRow ρ)))
  | columns (answer : List (Column ρ))

/-- What a controller has been given, without anything that it keeps. -/
structure TableView (κ ρ : Type) where
  columns : List (Column ρ)
  rows : List ρ
  control : Control
  key : KeyReader κ ρ

namespace TableView

/-- Rows with one of them replaced, counted from the start or, if the place is negative, from the
end. -/
def replaceRow (rows : List ρ) (place : Int) (row : ρ) : Except TableError (List ρ) :=
  if 0 ≤ place ∧ place < rows.length then .ok (rows.set place.toNat row)
  else if place < 0 ∧ -(rows.length : Int) ≤ place then
    .ok (rows.set (rows.length - place.natAbs) row)
  else .error .rowPlace

/-- The answer to a step, computed from what was given, and what is given afterwards.  A step that
fails changes nothing. -/
def perform (env : Environment) (view : TableView κ ρ) :
    TableStep ρ → TableAnswer ρ × TableView κ ρ
  | .setControl control => (.done, { view with control })
  | .setDirective directive =>
    match Control.parse env.readDate directive with
    | .ok control => (.done, { view with control })
    | .error problem => (.unread problem, view)
  | .setRows rows => (.done, { view with rows })
  | .updateRow place row =>
    match replaceRow view.rows place row with
    | .ok rows => (.done, { view with rows })
    | .error problem => (.misplaced problem, view)
  | .setColumns columns => (.done, { view with columns })
  | .toggleSort column => (.done, { view with control := view.control.toggleSort column true })
  | .readRows =>
    (.rows (Table.apply env view.columns view.control view.key .empty view.rows).1, view)
  | .readColumns => (.columns (Table.orderColumns (·.head.name) view.control view.columns), view)

/-- The answers to several steps. -/
def answers (env : Environment) (view : TableView κ ρ) : List (TableStep ρ) → List (TableAnswer ρ)
  | [] => []
  | step :: rest => (view.perform env step).1 :: answers env (view.perform env step).2 rest

end TableView

namespace Controller

/-- The answer of a controller to a step, and the controller afterwards. -/
def perform (env : Environment) (table : Controller κ ρ) :
    TableStep ρ → TableAnswer ρ × Controller κ ρ
  | .setControl control => (.done, table.setControl control)
  | .setDirective directive =>
    match Control.parse env.readDate directive with
    | .ok control => (.done, table.setControl control)
    | .error problem => (.unread problem, table)
  | .setRows rows => (.done, table.setRows rows)
  | .updateRow place row =>
    match table.updateRow place row with
    | .ok table => (.done, table)
    | .error problem => (.misplaced problem, table)
  | .setColumns columns => (.done, table.setColumns columns)
  | .toggleSort column => (.done, table.toggleSort column)
  | .readRows => (.rows (table.readRows env).1, (table.readRows env).2)
  | .readColumns => (.columns table.readColumns.1, table.readColumns.2)

/-- The answers of a controller to several steps. -/
def answers (env : Environment) (table : Controller κ ρ) :
    List (TableStep ρ) → List (TableAnswer ρ)
  | [] => []
  | step :: rest => (table.perform env step).1 :: answers env (table.perform env step).2 rest

/-! ## The invariant -/

/-- Whether a controller has been given what a reference has, and keeps only results that are those
of the reference. -/
structure Agrees (env : Environment) (table : Controller κ ρ) (view : TableView κ ρ) : Prop where
  columns_eq : table.columns = view.columns
  rows_eq : table.rows = view.rows
  key_eq : table.key = view.key
  control_like : table.control.plain = view.control.plain
  sound : table.cache.Sound env
  filtered : ∀ kept, table.filtered = some kept →
    (Table.apply env view.columns view.control view.key .empty view.rows).1 = .ok kept
  ordered : ∀ columns, table.ordered = some columns →
    Table.orderColumns (·.head.name) view.control view.columns = columns

namespace Agrees

variable {table : Controller κ ρ} {view : TableView κ ρ}

/-- A new controller agrees with what it was given: it has kept nothing yet. -/
theorem make (columns : List (Column ρ)) (rows : List ρ) (control : Control)
    (key : KeyReader κ ρ) :
    (Controller.make columns rows control key).Agrees env ⟨columns, rows, control, key⟩ where
  columns_eq := rfl
  rows_eq := rfl
  key_eq := rfl
  control_like := rfl
  sound := MatchCache.empty_sound
  filtered := by
    intro kept known
    cases known
  ordered := by
    intro columns known
    cases known

/-- A control that is skipped because the controller has an equal one gives the same results. -/
theorem setControl (agrees : table.Agrees env view) {control control' : Control}
    (like : control.plain = control'.plain) :
    (table.setControl control).Agrees env { view with control := control' } := by
  rw [Controller.setControl]
  by_cases equal : control.isLike table.control = true
  · rw [if_pos equal]
    have same : table.control.plain = control'.plain := by
      rw [← of_decide_eq_true equal, like]
    have alike : view.control.plain = control'.plain := agrees.control_like.symm.trans same
    refine { agrees with control_like := same, filtered := ?_, ordered := ?_ }
    · intro kept known
      rw [← Table.apply_congr alike]
      exact agrees.filtered kept known
    · intro columns known
      rw [← Table.orderColumns_congr alike]
      exact agrees.ordered columns known
  · rw [if_neg equal]
    refine { agrees with control_like := like, filtered := ?_, ordered := ?_ }
    · intro kept known
      cases known
    · intro columns known
      cases known

theorem setRows (agrees : table.Agrees env view) (rows : List ρ) :
    (table.setRows rows).Agrees env { view with rows } := by
  refine { agrees with rows_eq := rfl, filtered := ?_ }
  intro kept known
  cases known

/-- New columns are given to both, and the results that were kept are dropped. -/
theorem setColumns (agrees : table.Agrees env view) (columns : List (Column ρ)) :
    (table.setColumns columns).Agrees env { view with columns } := by
  refine { agrees with columns_eq := rfl, filtered := ?_, ordered := ?_ }
  · intro kept known
    cases known
  · intro columns known
    cases known

/-- The order of both controls is changed in the same way. -/
theorem toggleSort (agrees : table.Agrees env view) (column : Text) :
    (table.toggleSort column).Agrees env
      { view with control := view.control.toggleSort column true } := by
  refine agrees.setControl ?_
  rw [Control.plain_toggleSort, agrees.control_like, ← Control.plain_toggleSort]

omit [DecidableEq κ] in
/-- A row is replaced in the place that was meant, or refused, as in the reference. -/
theorem updateRow_eq (place : Int) (row : ρ) :
    table.updateRow place row =
      (TableView.replaceRow table.rows place row).map fun rows => table.setRows rows := by
  rw [Controller.updateRow, TableView.replaceRow]
  simp only [Bool.or_eq_true, decide_eq_true_eq]
  by_cases negative : place < 0
  · have forward : ¬(0 ≤ place ∧ place < table.rows.length) := by omega
    rw [if_pos negative, if_neg forward]
    by_cases inside : -(table.rows.length : Int) ≤ place
    · have same : (place + table.rows.length).toNat = table.rows.length - place.natAbs := by omega
      rw [if_neg (by omega), if_pos ⟨negative, inside⟩, same]
      rfl
    · rw [if_pos (by omega), if_neg fun both => inside both.2]
      rfl
  · rw [if_neg negative]
    by_cases inside : place < table.rows.length
    · rw [if_neg (by omega), if_pos ⟨by omega, inside⟩]
      rfl
    · rw [if_pos (by omega), if_neg fun both => inside both.2, if_neg fun both => negative both.1]
      rfl

/-- A read of the rows answers as the reference does, and keeps the answer or the cache alone. -/
theorem readRows (agrees : table.Agrees env view) :
    (table.readRows env).1 =
        (Table.apply env view.columns view.control view.key .empty view.rows).1 ∧
      (table.readRows env).2.Agrees env view := by
  rw [Controller.readRows]
  cases known : table.filtered with
  | some kept => exact ⟨(agrees.filtered kept known).symm, agrees⟩
  | none =>
      have same : (Table.apply env table.columns table.control table.key table.cache
            table.rows).1 =
          (Table.apply env view.columns view.control view.key .empty view.rows).1 := by
        rw [Table.apply_eq_fresh agrees.sound, agrees.columns_eq, agrees.rows_eq, agrees.key_eq]
        exact Table.apply_congr agrees.control_like
      have renewed : (Table.apply env table.columns table.control table.key table.cache
            table.rows).2.Sound env := Table.apply_sound agrees.sound
      rcases computed : Table.apply env table.columns table.control table.key table.cache
        table.rows with ⟨answer, cache⟩
      rw [computed] at same renewed
      rw [← same]
      cases answer with
      | error problem =>
          refine ⟨rfl, { agrees with sound := renewed, filtered := ?_ }⟩
          intro kept present
          cases present
      | ok rows =>
          refine ⟨rfl, { agrees with sound := renewed, filtered := ?_ }⟩
          intro kept present
          cases present
          exact same.symm

/-- A read of the columns answers as the reference does, and keeps the answer. -/
theorem readColumns (agrees : table.Agrees env view) :
    table.readColumns.1 = Table.orderColumns (·.head.name) view.control view.columns ∧
      table.readColumns.2.Agrees env view := by
  rw [Controller.readColumns]
  cases known : table.ordered with
  | some columns => exact ⟨(agrees.ordered columns known).symm, agrees⟩
  | none =>
      have same : Table.orderColumns (·.head.name) table.control table.columns =
          Table.orderColumns (·.head.name) view.control view.columns := by
        rw [agrees.columns_eq]
        exact Table.orderColumns_congr agrees.control_like
      refine ⟨same, { agrees with ordered := ?_ }⟩
      intro columns present
      cases present
      exact same.symm

/-- **One step.** A controller answers as the reference does, and agrees with it afterwards. -/
theorem perform (agrees : table.Agrees env view) (step : TableStep ρ) :
    (table.perform env step).1 = (view.perform env step).1 ∧
      (table.perform env step).2.Agrees env (view.perform env step).2 := by
  cases step with
  | setControl control => exact ⟨rfl, agrees.setControl rfl⟩
  | setDirective directive =>
      rw [Controller.perform, TableView.perform]
      cases Control.parse env.readDate directive with
      | error problem => exact ⟨rfl, agrees⟩
      | ok control => exact ⟨rfl, agrees.setControl rfl⟩
  | setRows rows => exact ⟨rfl, agrees.setRows rows⟩
  | updateRow place row =>
      rw [Controller.perform, TableView.perform, updateRow_eq, agrees.rows_eq]
      cases TableView.replaceRow view.rows place row with
      | error problem => exact ⟨rfl, agrees⟩
      | ok rows => exact ⟨rfl, agrees.setRows rows⟩
  | setColumns columns => exact ⟨rfl, agrees.setColumns columns⟩
  | toggleSort column => exact ⟨rfl, agrees.toggleSort column⟩
  | readRows =>
      obtain ⟨same, onward⟩ := agrees.readRows
      exact ⟨congrArg TableAnswer.rows same, onward⟩
  | readColumns =>
      obtain ⟨same, onward⟩ := agrees.readColumns
      exact ⟨congrArg TableAnswer.columns same, onward⟩

/-- A controller that agrees with a reference answers like it, whatever steps are taken. -/
theorem answers_eq (agrees : table.Agrees env view) (steps : List (TableStep ρ)) :
    table.answers env steps = view.answers env steps := by
  induction steps generalizing table view with
  | nil => rfl
  | cons step rest ih =>
      obtain ⟨same, onward⟩ := agrees.perform step
      rw [Controller.answers, TableView.answers, same, ih onward]

end Agrees

/-- **Refinement.** Whatever steps are taken on a new controller, in whatever order, every answer is
the one that is computed afresh from the present rows, columns and control. -/
theorem answers_make_eq (env : Environment) (columns : List (Column ρ)) (rows : List ρ)
    (control : Control) (key : KeyReader κ ρ) (steps : List (TableStep ρ)) :
    (make columns rows control key).answers env steps =
      TableView.answers env ⟨columns, rows, control, key⟩ steps :=
  (Agrees.make columns rows control key).answers_eq steps

end Controller

end TableSearch
