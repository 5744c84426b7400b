import TableSearch.Proofs.Search.Combination
import TableSearch.Proofs.Table.Refinement

/-! # A change of the order leaves the filter alone

`TableSearch.Control.toggleSort_frame`: with the order by a column turned around, or the column put in
front of what a control orders by, the control makes of every row what it made of it before, and
keeps its order of the columns.

There are two steps.  Inside a control, parts that filter nothing are replaced by others that filter
nothing; searches pass over both (`TableSearch.Control.toggleSort_filtersAs`).  In front of a
control, an order adds one more part to a conjunction, to which the search of the conjunction pays no
attention (`TableSearch.Control.orderFirst_showsAs`).
-/

namespace TableSearch

namespace Control

variable {env : Environment} {heads : List ColumnHead} {texts : List Text} {cells : List Cell}
  {control other : Control} {children others : List Control} {column : Text}

/-! ## Parts exchanged for others that filter alike -/

/-- Whether two controls search alike and order columns alike.  They may order rows differently. -/
structure FiltersAs (control other : Control) : Prop where
  isSearch_eq : control.isSearch = other.isSearch
  columnSorting_eq : control.columnSorting = other.columnSorting
  findIn_eq : ∀ env cells, control.findIn env cells = other.findIn env cells

namespace FiltersAs

theorem refl (control : Control) : control.FiltersAs control :=
  ⟨rfl, rfl, fun _ _ => rfl⟩

theorem verdict_eq (alike : control.FiltersAs other) :
    control.verdict env heads texts = other.verdict env heads texts := by
  simp only [verdict, findRow, alike.isSearch_eq, alike.findIn_eq]

end FiltersAs

theorem allSearch_congr (alike : List.Forall₂ FiltersAs children others) :
    allSearch children = allSearch others := by
  induction alike with
  | nil => rfl
  | cons first _ ih => rw [allSearch, allSearch, first.isSearch_eq, ih]

theorem anySearch_congr (alike : List.Forall₂ FiltersAs children others) :
    anySearch children = anySearch others := by
  induction alike with
  | nil => rfl
  | cons first _ ih => rw [anySearch, anySearch, first.isSearch_eq, ih]

theorem columnSortings_congr (alike : List.Forall₂ FiltersAs children others) :
    columnSortings children = columnSortings others := by
  induction alike with
  | nil => rfl
  | cons first _ ih => rw [columnSortings, columnSortings, first.columnSorting_eq, ih]

/-- Disjunctions of parts that search alike find the same in a row. -/
theorem findInAny_congr (alike : List.Forall₂ FiltersAs children others) (found : RowMatch) :
    findInAny env cells found children = findInAny env cells found others := by
  induction alike generalizing found with
  | nil => rfl
  | cons first _ ih => simp only [findInAny, first.findIn_eq, ih]

/-- Conjunctions of parts that search alike find the same in a row. -/
theorem findInAll_congr (alike : List.Forall₂ FiltersAs children others) (found : RowMatch) :
    findInAll env cells found children = findInAll env cells found others := by
  induction alike generalizing found with
  | nil => rfl
  | cons first _ ih => simp only [findInAll, first.isSearch_eq, first.findIn_eq, ih]

/-- Disjunctions of parts that search alike search alike. -/
theorem anyOf_filtersAs (alike : List.Forall₂ FiltersAs children others) :
    (anyOf children).FiltersAs (anyOf others) where
  isSearch_eq := allSearch_congr alike
  columnSorting_eq := columnSortings_congr alike
  findIn_eq _ _ := by rw [findIn, findIn, allSearch_congr alike, findInAny_congr alike]

/-- Conjunctions of parts that search alike search alike. -/
theorem allOf_filtersAs (alike : List.Forall₂ FiltersAs children others) :
    (allOf children).FiltersAs (allOf others) where
  isSearch_eq := anySearch_congr alike
  columnSorting_eq := columnSortings_congr alike
  findIn_eq _ _ := by rw [findIn, findIn, anySearch_congr alike, findInAll_congr alike]

/-- Orders of rows search alike, since they do not search at all. -/
theorem rowSort_filtersAs (tokens tokens' : List Text) :
    (rowSort tokens).FiltersAs (rowSort tokens') :=
  ⟨rfl, rfl, fun _ _ => rfl⟩

mutual

/-- A part whose order is turned around filters as it did. -/
theorem toggleSort_filtersAs : (control : Control) →
    (toggleSort column false control).FiltersAs control
  | unfiltered => ⟨rfl, rfl, fun _ _ => rfl⟩
  | rowSort tokens => by
      rw [toggleSort]
      split
      · exact rowSort_filtersAs _ _
      · exact .refl _
  | anyOf children => by
      rw [toggleSort_combined (.inl rfl)]
      split
      · exact anyOf_filtersAs (toggleSorts_filtersAs children)
      · exact .refl _
  | allOf children => by
      rw [toggleSort_combined (.inr rfl)]
      split
      · exact allOf_filtersAs (toggleSorts_filtersAs children)
      · exact .refl _
  | term _ | category _ _ | emptyCell | predicate _ _ | columnSort _ => .refl _

theorem toggleSorts_filtersAs : (children : List Control) →
    List.Forall₂ FiltersAs (toggleSorts column children) children
  | [] => .nil
  | child :: rest => .cons (toggleSort_filtersAs child) (toggleSorts_filtersAs rest)

end

/-! ## An order in front of a control -/

/-- The search of a conjunction passes over an order in it. -/
theorem allOf_cons_rowSort_filtersAs (tokens : List Text) (children : List Control) :
    (allOf (rowSort tokens :: children)).FiltersAs (allOf children) where
  isSearch_eq := Bool.false_or _
  columnSorting_eq := List.nil_append _
  findIn_eq env cells := by
    have order : ¬(rowSort tokens).isSearch = true := Bool.false_ne_true
    have search : anySearch (rowSort tokens :: children) = anySearch children := Bool.false_or _
    rw [findIn, findIn, search, findInAll, if_neg order]

/-- A conjunction of one control makes of a row what the control makes of it. -/
theorem verdict_allOf_singleton :
    (allOf [control]).verdict env heads texts = control.verdict env heads texts := by
  have single : (allOf [control]).isSearch = control.isSearch := Bool.or_false _
  cases search : control.isSearch with
  | false => rw [verdict_of_order (single.trans search), verdict_of_order search]
  | true =>
      have whole : (allOf [control]).isSearch = true := single.trans search
      by_cases fits : heads.length = texts.length
      · rw [verdict_of_search whole fits, verdict_of_search search fits, findIn,
          show anySearch [control] = true from whole, if_pos rfl, findInAll, if_pos search]
        have missed (length : Nat) : ¬(RowMatch.none length).isHit = true := by
          rw [RowMatch.isHit_none]
          exact Bool.false_ne_true
        match answer : control.findIn env (List.zipWith Cell.mk heads texts) with
        | .error problem => rfl
        | .ok none => exact congrArg Except.ok (if_neg (missed _))
        | .ok (some found) =>
            by_cases hit : found.isHit = true
            · obtain ⟨ordered, same⟩ := findIn_ordered search answer
              have kept : Option.filter RowMatch.isHit (some found) = some found := if_pos hit
              simp only [bind, Except.bind, kept, findInAll, ← same, RowMatch.none_merge ordered]
              rfl
            · have dropped : Option.filter RowMatch.isHit (some found) = none := if_neg hit
              simp only [bind, Except.bind, dropped]
              exact congrArg Except.ok ((if_neg (missed _)).trans dropped.symm)
      · rw [verdict_of_misfit whole fits, verdict_of_misfit search fits]

theorem verdict_together :
    (together children).verdict env heads texts = (allOf children).verdict env heads texts := by
  match children with
  | [] => rfl
  | [single] => exact verdict_allOf_singleton.symm
  | first :: second :: rest => rfl

theorem verdict_conjuncts :
    (allOf control.conjuncts).verdict env heads texts = control.verdict env heads texts := by
  cases control with
  | allOf children => rfl
  | unfiltered => rfl
  | _ => exact verdict_allOf_singleton

/-- One of the conjuncts of a control filters exactly if the control does. -/
theorem anySearch_conjuncts : anySearch control.conjuncts = control.isSearch := by
  cases control with
  | allOf children => rfl
  | unfiltered => rfl
  | _ => exact Bool.or_false _

/-- Whether two controls make the same of every row and order columns alike. -/
structure ShowsAs (control other : Control) : Prop where
  isSearch_eq : control.isSearch = other.isSearch
  columnSorting_eq : control.columnSorting = other.columnSorting
  verdict_eq : ∀ env heads texts, control.verdict env heads texts = other.verdict env heads texts

theorem FiltersAs.showsAs (alike : control.FiltersAs other) : control.ShowsAs other :=
  ⟨alike.isSearch_eq, alike.columnSorting_eq, fun _ _ _ => alike.verdict_eq⟩

/-- An order put in front of a control only changes the order of rows. -/
theorem orderFirst_showsAs (tokens : List Text) (control : Control) :
    (conjoin [rowSort tokens, control]).ShowsAs control where
  columnSorting_eq := by
    rw [columnSorting_conjoin, List.flatMap_cons, List.flatMap_singleton]
    rfl
  isSearch_eq := by
    rw [conjoin_eq_together, isSearch_together, List.flatMap_cons, List.flatMap_singleton]
    exact anySearch_conjuncts
  verdict_eq env heads texts := by
    have parts : [rowSort tokens, control].flatMap conjuncts =
        rowSort tokens :: control.conjuncts := by
      rw [List.flatMap_cons, List.flatMap_singleton]
      rfl
    rw [conjoin_eq_together, parts, verdict_together,
      (allOf_cons_rowSort_filtersAs tokens control.conjuncts).verdict_eq, verdict_conjuncts]

/-! ## A change of the order -/

/-- A combination makes the same of every row whether its parts are turned around or an order is put
in front of it. -/
theorem toggleSort_combined_showsAs {combine : List Control → Control} {root : Bool}
    (either : combine = anyOf ∨ combine = allOf)
    (parts : (combine (toggleSorts column children)).FiltersAs (combine children)) :
    (toggleSort column root (combine children)).ShowsAs (combine children) := by
  rw [toggleSort_combined either]
  split
  · exact parts.showsAs
  · split
    · exact orderFirst_showsAs _ _
    · exact (FiltersAs.refl _).showsAs

/-- A control makes the same of every row and orders columns alike after a change of the order. -/
theorem toggleSort_showsAs (column : Text) (control : Control) (root : Bool) :
    (control.toggleSort column root).ShowsAs control := by
  cases root with
  | false => exact (toggleSort_filtersAs control).showsAs
  | true =>
      cases control with
      | anyOf children =>
          exact toggleSort_combined_showsAs (.inl rfl)
            (anyOf_filtersAs (toggleSorts_filtersAs children))
      | allOf children =>
          exact toggleSort_combined_showsAs (.inr rfl)
            (allOf_filtersAs (toggleSorts_filtersAs children))
      | unfiltered => exact (toggleSort_filtersAs .unfiltered).showsAs
      | rowSort tokens =>
          rw [toggleSort]
          split <;> exact (rowSort_filtersAs _ _).showsAs
      | _ =>
          simp only [toggleSort, if_true]
          exact orderFirst_showsAs _ _

/-- **Frame.** A control whose order is changed, at the root or inside, filters if it did, orders
columns as it did, and keeps the same rows with the same spans. -/
theorem toggleSort_frame (control : Control) (column : Text) (root : Bool) :
    (control.toggleSort column root).isSearch = control.isSearch ∧
      (control.toggleSort column root).columnSorting = control.columnSorting ∧
      ∀ (env : Environment) (heads : List ColumnHead) (texts : List Text),
        (control.toggleSort column root).verdict env heads texts =
          control.verdict env heads texts := by
  obtain ⟨search, columns, verdicts⟩ := toggleSort_showsAs column control root
  exact ⟨search, columns, verdicts⟩

end Control

end TableSearch
