import TableSearch.Control.Combine
import TableSearch.Proofs.Search.Verdict

/-! # Combined controls

Conjunctions and disjunctions are made flat when they are built, and parts that filter nothing are
absorbed.  `TableSearch.Control.combinations_agree_iff`: a conjunction of controls shows the rows
that all of them show and orders by what they order by; a disjunction shows the rows that one of
them shows, unless the search for another one breaks off.

A disjunction filters if all of its controls do (`TableSearch.Control.isSearch_disjoin`), and then it
searches for all of them (`TableSearch.Control.shows_disjoin_iff`).
-/

namespace TableSearch

namespace Control

variable {env : Environment} {heads : List ColumnHead} {texts : List Text} {control : Control}
  {controls children : List Control}

/-! ## Conjunctions -/

theorem conjoin_eq_together : conjoin controls = together (controls.flatMap conjuncts) := by
  rw [conjoin]
  rcases controls.flatMap conjuncts with _ | ⟨first, _ | ⟨second, rest⟩⟩ <;> rfl

/-- A control shows the rows that all of its conjuncts show. -/
theorem shows_conjuncts_iff :
    (∀ part ∈ control.conjuncts, part.Shows env heads texts) ↔ control.Shows env heads texts := by
  cases control with
  | allOf children => exact shows_allOf_iff.symm
  | unfiltered =>
      refine iff_of_true ?_ (shows_of_order rfl)
      intro part absent
      cases absent
  | _ => exact List.forall_mem_singleton

theorem shows_conjoin_iff :
    (conjoin controls).Shows env heads texts ↔
      ∀ control ∈ controls, control.Shows env heads texts := by
  rw [conjoin_eq_together, shows_together_iff, List.forall_mem_flatMap]
  exact forall₂_congr fun _ _ => shows_conjuncts_iff

/-- A conjunction orders by what its controls order by, one after another, in whichever of the two
ways it is read off. -/
theorem sorting_conjoin {sorting : Control → List Text} (nothing : sorting unfiltered = [])
    (parts : ∀ children, sorting (allOf children) = children.flatMap sorting) :
    sorting (conjoin controls) = controls.flatMap sorting := by
  rw [conjoin_eq_together, flatMap_together nothing parts, List.flatMap_assoc]
  apply List.flatMap_congr
  intro control _
  cases control with
  | allOf children => exact (parts children).symm
  | unfiltered => exact nothing.symm
  | _ => exact List.flatMap_singleton ..

theorem rowSorting_conjoin : (conjoin controls).rowSorting = controls.flatMap rowSorting :=
  sorting_conjoin rfl fun _ => rowSortings_eq_flatMap

theorem columnSorting_conjoin : (conjoin controls).columnSorting = controls.flatMap columnSorting :=
  sorting_conjoin rfl fun _ => columnSortings_eq_flatMap

/-! ## Disjunctions -/

/-- One of several controls, which need not filter. -/
def either : List Control → Control
  | [] => .unfiltered
  | [single] => single
  | several => .anyOf several

/-- A disjunction is put together from the disjuncts of its controls, unless one of them filters
nothing and another one is a search, which makes the whole filter nothing. -/
theorem disjoin_eq_either :
    disjoin controls =
      if controls.contains .unfiltered && (controls.flatMap disjuncts).any isSearch then .unfiltered
      else either (controls.flatMap disjuncts) := by
  rw [disjoin]
  rcases controls.flatMap disjuncts with _ | ⟨first, _ | ⟨second, rest⟩⟩ <;> rfl

theorem isSearch_either (filled : children ≠ []) : (either children).isSearch = allSearch children := by
  match children with
  | [] => exact absurd rfl filled
  | [single] => exact (Bool.and_true _).symm
  | first :: second :: rest => rfl

/-- A control by itself shows what a disjunction with this only part shows. -/
theorem shows_iff_singleton :
    control.Shows env heads texts ↔
      (∃ part ∈ [control], part.Shows env heads texts) ∧
        ∀ part ∈ [control], ¬part.Aborts env heads texts := by
  simp only [List.mem_singleton, exists_eq_left, forall_eq]
  exact (and_iff_left_of_imp Shows.not_aborts).symm

/-- A disjunction of searches shows the rows that one of them shows, unless the search for another
one breaks off. -/
theorem shows_either_iff (filled : children ≠ []) (search : allSearch children = true) :
    (either children).Shows env heads texts ↔
      (∃ child ∈ children, child.Shows env heads texts) ∧
        ∀ child ∈ children, ¬child.Aborts env heads texts := by
  match children with
  | [] => exact absurd rfl filled
  | [single] => exact shows_iff_singleton
  | first :: second :: rest => exact shows_anyOf_iff search

theorem isSearch_disjuncts (filters : control ≠ .unfiltered) :
    control.isSearch = allSearch control.disjuncts := by
  cases control with
  | anyOf children => rfl
  | unfiltered => exact absurd rfl filters
  | _ => exact (Bool.and_true _).symm

/-- A control that filters shows the rows that one of its disjuncts shows, unless the search for
another one breaks off. -/
theorem shows_disjuncts_iff (search : control.isSearch = true) :
    control.Shows env heads texts ↔
      (∃ part ∈ control.disjuncts, part.Shows env heads texts) ∧
        ∀ part ∈ control.disjuncts, ¬part.Aborts env heads texts := by
  cases control with
  | anyOf children => exact shows_anyOf_iff search
  | unfiltered => cases search
  | _ => exact shows_iff_singleton

/-- The search for a control breaks off exactly when it does for one of its disjuncts. -/
theorem aborts_disjuncts_iff (search : control.isSearch = true)
    (fits : heads.length = texts.length) :
    control.Aborts env heads texts ↔ ∃ part ∈ control.disjuncts, part.Aborts env heads texts := by
  cases control with
  | anyOf children => exact aborts_anyOf_iff search fits
  | unfiltered => cases search
  | _ => simp only [disjuncts, List.mem_singleton, exists_eq_left]

theorem disjuncts_eq_nil (empty : control.disjuncts = []) :
    control = .anyOf [] ∨ control = .unfiltered := by
  cases control with
  | anyOf children => exact .inl (congrArg anyOf empty)
  | unfiltered => exact .inr rfl
  | _ => cases empty

/-! ## Controls in a disjunction -/

theorem disjoin_of_filters (filters : .unfiltered ∉ controls) :
    disjoin controls = either (controls.flatMap disjuncts) := by
  rw [disjoin_eq_either, List.contains_eq_mem, decide_eq_false filters, Bool.false_and,
    if_neg Bool.false_ne_true]

/-- Controls that filter have a disjunct between them, if one of them is not the empty
disjunction. -/
theorem flatMap_disjuncts_ne_nil (filled : ∃ control ∈ controls, control ≠ .anyOf [])
    (filters : .unfiltered ∉ controls) : controls.flatMap disjuncts ≠ [] := by
  intro empty
  obtain ⟨control, member, other⟩ := filled
  rcases disjuncts_eq_nil (List.flatMap_eq_nil_iff.mp empty control member) with same | same
  · exact other same
  · exact filters (same ▸ member)

/-- The disjuncts of controls are all searches exactly when the controls are. -/
theorem allSearch_flatMap_disjuncts (filters : .unfiltered ∉ controls) :
    allSearch (controls.flatMap disjuncts) = controls.all isSearch := by
  rw [Bool.eq_iff_iff, allSearch_iff, List.all_eq_true, List.forall_mem_flatMap]
  refine forall₂_congr fun control member => ?_
  rw [isSearch_disjuncts (ne_of_mem_of_not_mem member filters), allSearch_iff]

/-- A disjunction with a control that filters nothing does not filter: the other controls are
dropped if one of their parts filters, and otherwise do not filter either. -/
theorem isSearch_disjoin_of_absorbs (absorbs : .unfiltered ∈ controls) :
    (disjoin controls).isSearch = false := by
  rw [disjoin_eq_either, List.contains_eq_mem, decide_eq_true absorbs, Bool.true_and]
  cases mixed : (controls.flatMap disjuncts).any isSearch with
  | true => rfl
  | false =>
      rw [if_neg Bool.false_ne_true]
      match parts : controls.flatMap disjuncts with
      | [] => rfl
      | part :: rest =>
          rw [parts, List.any_eq_false] at mixed
          have order : ¬part.isSearch = true := mixed part List.mem_cons_self
          rw [isSearch_either (List.cons_ne_nil part rest), allSearch, Bool.not_eq_true _ |>.mp order,
            Bool.false_and]

/-- A disjunction filters if all of its controls do. -/
theorem isSearch_disjoin (filled : ∃ control ∈ controls, control ≠ .anyOf []) :
    (disjoin controls).isSearch = controls.all isSearch := by
  by_cases absorbs : .unfiltered ∈ controls
  · have order : controls.all isSearch = false :=
      List.all_eq_false.mpr ⟨.unfiltered, absorbs, Bool.false_ne_true⟩
    rw [isSearch_disjoin_of_absorbs absorbs, order]
  · rw [disjoin_of_filters absorbs, isSearch_either (flatMap_disjuncts_ne_nil filled absorbs),
      allSearch_flatMap_disjuncts absorbs]

/-- A disjunction that filters shows the rows that one of its controls shows, if the search for none
of them breaks off. -/
theorem shows_disjoin_iff (filled : ∃ control ∈ controls, control ≠ .anyOf [])
    (search : controls.all isSearch = true) :
    (disjoin controls).Shows env heads texts ↔
      (∃ control ∈ controls, control.Shows env heads texts) ∧
        ∀ control ∈ controls, ¬control.Aborts env heads texts := by
  have each : ∀ control ∈ controls, control.isSearch = true := List.all_eq_true.mp search
  have filters : .unfiltered ∉ controls := fun absorbs => nomatch each .unfiltered absorbs
  by_cases fits : heads.length = texts.length
  · rw [disjoin_of_filters filters, shows_either_iff (flatMap_disjuncts_ne_nil filled filters)
      ((allSearch_flatMap_disjuncts filters).trans search), List.forall_mem_flatMap]
    have calm : (∀ control ∈ controls, ∀ part ∈ control.disjuncts, ¬part.Aborts env heads texts) ↔
        ∀ control ∈ controls, ¬control.Aborts env heads texts := by
      refine forall₂_congr fun control member => ?_
      rw [aborts_disjuncts_iff (each control member) fits, not_exists]
      simp only [not_and]
    rw [← calm]
    refine and_congr_left fun still => ?_
    constructor
    · rintro ⟨part, member, shows⟩
      obtain ⟨control, present, inside⟩ := List.mem_flatMap.mp member
      exact ⟨control, present, (shows_disjuncts_iff (each control present)).mpr
        ⟨⟨part, inside, shows⟩, still control present⟩⟩
    · rintro ⟨control, present, shows⟩
      obtain ⟨⟨part, inside, found⟩, -⟩ := (shows_disjuncts_iff (each control present)).mp shows
      exact ⟨part, List.mem_flatMap.mpr ⟨control, present, inside⟩, found⟩
  · refine iff_of_false (fun shows => fits (shows.fits ?_)) ?_
    · rw [isSearch_disjoin filled, search]
    · rintro ⟨⟨control, member, shows⟩, -⟩
      exact fits (shows.fits (each control member))

/-! ## Combinations as conjunctions and disjunctions of their controls -/

/-- **Combinations.** A conjunction of controls shows the rows that all of them show, and orders by
what they order by, one after another.  A disjunction shows the rows that one of them shows, unless
all of them filter and the search for one breaks off on a row that another one shows. -/
theorem combinations_agree_iff (env : Environment) (heads : List ColumnHead) (texts : List Text)
    (controls : List Control) (filled : ∃ control ∈ controls, control ≠ .anyOf []) :
    ((conjoin controls).Shows env heads texts ↔
        ∀ control ∈ controls, control.Shows env heads texts) ∧
      (((disjoin controls).Shows env heads texts ↔
          ∃ control ∈ controls, control.Shows env heads texts) ↔
        ((∀ control ∈ controls, control.isSearch = true) →
          (∃ control ∈ controls, control.Shows env heads texts) →
            ∀ control ∈ controls, ¬control.Aborts env heads texts)) ∧
      (conjoin controls).rowSorting = controls.flatMap rowSorting ∧
      (conjoin controls).columnSorting = controls.flatMap columnSorting := by
  refine ⟨shows_conjoin_iff, ?_, rowSorting_conjoin, columnSorting_conjoin⟩
  by_cases search : ∀ control ∈ controls, control.isSearch = true
  · rw [shows_disjoin_iff filled (List.all_eq_true.mpr search), and_iff_left_iff_imp]
    exact ⟨fun calm _ => calm, fun calm => calm search⟩
  · have order : (disjoin controls).isSearch = false := by
      rw [isSearch_disjoin filled, ← Bool.not_eq_true, List.all_eq_true]
      exact search
    obtain ⟨control, member, sorts⟩ : ∃ control ∈ controls, ¬control.isSearch = true := by
      simpa only [not_forall, exists_prop] using search
    refine iff_of_true (iff_of_true (shows_of_order order) ⟨control, member, ?_⟩) (absurd · search)
    exact shows_of_order (Bool.not_eq_true _ |>.mp sorts)

/-- The disjunction of `a` and `9s` does not show a row with `a` in one column and `5ſ` in the other,
although `a` alone shows it. -/
theorem not_shown_by_disjunction_of_long_s :
    let env : Environment := ⟨fun _ => none, fun _ _ => false⟩
    let heads : List ColumnHead := [⟨['x'], true⟩, ⟨['y'], true⟩]
    let texts : List Text := [['a'], ['5', 'ſ']]
    let controls : List Control := [term (.literal ['a']), term (.duration ⟨['9', 's'], .ofNat 9⟩)]
    (∃ control ∈ controls, control ≠ anyOf []) ∧
      ¬((disjoin controls).Shows env heads texts ↔
        ∃ control ∈ controls, control.Shows env heads texts) := by
  intro env heads texts controls
  have filled : ∃ control ∈ controls, control ≠ anyOf [] := ⟨_, List.mem_cons_self, by decide⟩
  have shown : (term (.literal ['a'])).Shows env heads texts :=
    ⟨[some ⟨[⟨0, 1⟩]⟩, some .empty], by decide +kernel⟩
  have broken : (term (.duration ⟨['9', 's'], .ofNat 9⟩)).Aborts env heads texts :=
    ⟨.unit ⟨['ſ']⟩, by decide +kernel⟩
  refine ⟨filled, ?_⟩
  rw [(combinations_agree_iff env heads texts controls filled).2.1]
  intro calm
  exact calm (by decide) ⟨_, List.mem_cons_self, shown⟩ _
    (List.mem_cons_of_mem _ List.mem_cons_self) broken

end Control

end TableSearch
