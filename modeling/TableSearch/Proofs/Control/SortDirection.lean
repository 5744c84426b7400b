import TableSearch.Proofs.Control.SortKey

/-! # The direction of an order

A control orders the rows by a column in the direction of its first token that names the column.  A
click on the head of the column turns every such token around, however deep it stands in the control,
or puts the column first if there is none.

`TableSearch.Control.sortDirection?_toggleSort`: a click makes the direction ascending, unless it is
ascending already; two clicks bring an existing direction back.
-/

namespace TableSearch

/-- The other direction. -/
def Direction.opposite : Direction → Direction
  | ascending => descending
  | descending => ascending

namespace ColumnName

variable {token column : Text} {direction : Direction}

/-- Whether a column name begins, behind blanks, with a character that is no sign. -/
def IsUnsigned (column : Text) : Prop :=
  ∃ c, column.find? (!CharClass.isBlank ·) = some c ∧ c ≠ '-' ∧ c ≠ '+'

/-- No token with a sign is a part of a name without one. -/
theorem IsUnsigned.startsWith_eq_false (unsigned : IsUnsigned column) {sign : Char}
    (known : sign = '-' ∨ sign = '+') (rest : Text) : startsWith (sign :: rest) column = false := by
  obtain ⟨c, first, undashed, unplussed⟩ := unsigned
  rcases known with rfl | rfl
  · apply startsWith_sign_eq_false (by decide) (by decide)
    rw [first, ne_eq, Option.some.injEq]
    exact undashed
  · apply startsWith_sign_eq_false (by decide) (by decide)
    rw [first, ne_eq, Option.some.injEq]
    exact unplussed

/-- A token that names a column without a sign names it in the other direction once it is turned
around. -/
theorem direction?_flip (unsigned : IsUnsigned column)
    (named : direction? token column = some direction) :
    direction? (flip token) column = some direction.opposite := by
  cases direction with
  | ascending =>
      obtain ⟨nonempty, starts | ⟨rest, rfl, filled, starts⟩⟩ := direction?_eq_ascending_iff.mp named
      · obtain ⟨c, rest, rfl⟩ := List.exists_cons_of_ne_nil nonempty
        have undashed : c ≠ '-' := by
          rintro rfl
          rw [unsigned.startsWith_eq_false (.inl rfl)] at starts
          cases starts
        have unplussed : c ≠ '+' := by
          rintro rfl
          rw [unsigned.startsWith_eq_false (.inr rfl)] at starts
          cases starts
        rw [flip_of_unsigned undashed unplussed]
        exact direction?_eq_descending_iff.mpr
          ⟨unsigned.startsWith_eq_false (.inl rfl) _, _, rfl, nonempty, starts⟩
      · exact direction?_eq_descending_iff.mpr
          ⟨unsigned.startsWith_eq_false (.inl rfl) _, _, rfl, filled, starts⟩
  | descending =>
      obtain ⟨-, rest, rfl, filled, starts⟩ := direction?_eq_descending_iff.mp named
      exact direction?_eq_ascending_iff.mpr ⟨filled, .inl starts⟩

end ColumnName

namespace Control

variable {column : Text} {control : Control}

/-- The direction in which a control orders the rows by a column, if it does. -/
def sortDirection? (control : Control) (column : Text) : Option Direction :=
  control.rowSorting.findSome? (ColumnName.direction? · column)

/-- A token after a change of the order names the column in the other direction, if at all. -/
theorem direction?_turn (unsigned : ColumnName.IsUnsigned column) (token : Text) :
    ColumnName.direction? (turn column (some token)) column =
      (ColumnName.direction? token column).map Direction.opposite := by
  cases named : ColumnName.direction? token column with
  | none =>
      have kept : ColumnName.isNamedBy token column = false := by rw [ColumnName.isNamedBy, named]; rfl
      rw [turn_eq kept, named]
      rfl
  | some direction =>
      have turned : ColumnName.isNamedBy token column = true := by
        rw [ColumnName.isNamedBy, named]
        rfl
      have flipped : turn column (some token) = ColumnName.flip token := if_pos turned
      rw [flipped]
      exact ColumnName.direction?_flip unsigned named

/-- A list without empty slots has one for each of its tokens. -/
theorem map_some_reduceOption {slots : List (Option Text)} (full : none ∉ slots) :
    slots.reduceOption.map some = slots := by
  induction slots with
  | nil => rfl
  | cons slot rest ih =>
      rw [List.mem_cons, not_or] at full
      cases slot with
      | none => exact (full.1 rfl).elim
      | some token => rw [List.reduceOption_cons_of_some, List.map_cons, ih full.2]

/-- A control in which a slot is changed is changed as it would be inside another one. -/
theorem toggleSort_root_eq_part (turned : control.slots.any (turns column) = true) :
    toggleSort column true control = toggleSort column false control := by
  cases control with
  | unfiltered => rfl
  | rowSort tokens =>
      rw [slots, List.any_map] at turned
      have named : tokens.any (ColumnName.isNamedBy · column) = true := turned
      rw [toggleSort, toggleSort, if_pos named, if_pos named]
  | anyOf children =>
      have changed := toggleSorts_ne_iff.mpr turned
      rw [toggleSort_combined (.inl rfl), toggleSort_combined (.inl rfl), if_pos changed,
        if_pos changed]
  | allOf children =>
      have changed := toggleSorts_ne_iff.mpr turned
      rw [toggleSort_combined (.inr rfl), toggleSort_combined (.inr rfl), if_pos changed,
        if_pos changed]
  | _ => cases turned

/-- A control that orders by a column has a token that a click turns around. -/
theorem turns_of_sortDirection? {direction : Direction}
    (sorted : control.sortDirection? column = some direction) :
    control.slots.any (turns column) = true := by
  obtain ⟨token, member, named⟩ := List.exists_of_findSome?_eq_some sorted
  rw [rowSorting_eq_slots, List.reduceOption_mem_iff] at member
  refine List.any_eq_true.mpr ⟨some token, member, ?_⟩
  rw [turns, ColumnName.isNamedBy, named]
  rfl

/-- An existing order by a column is turned around. -/
theorem sortDirection?_toggleSort_of_sorted {direction : Direction} (full : none ∉ control.slots)
    (unsigned : ColumnName.IsUnsigned column)
    (sorted : control.sortDirection? column = some direction) :
    (toggleSort column true control).sortDirection? column = some direction.opposite := by
  have tokens : control.slots.map (turn column) =
      control.rowSorting.map fun token => turn column (some token) := by
    rw [← map_some_reduceOption full, ← rowSorting_eq_slots, List.map_map]
    rfl
  rw [sortDirection?, rowSorting_toggleSort, if_pos (turns_of_sortDirection? sorted), tokens,
    List.findSome?_map]
  have turned : ((ColumnName.direction? · column) ∘ fun token => turn column (some token)) =
      Option.map Direction.opposite ∘ (ColumnName.direction? · column) :=
    funext (direction?_turn unsigned)
  rw [turned, ← List.map_findSome?]
  exact congrArg _ sorted

/-- Without an order by a column, the column becomes the first to order by. -/
theorem sortDirection?_toggleSort_of_unsorted (full : none ∉ control.slots)
    (own : ColumnName.direction? (ColumnName.sortToken column) column = some .ascending)
    (unsorted : control.sortDirection? column = none) :
    (toggleSort column true control).sortDirection? column = some .ascending := by
  have kept : ¬control.slots.any (turns column) = true := by
    rw [List.any_eq_true]
    rintro ⟨_ | token, member, turned⟩
    · exact full member
    · rw [← List.reduceOption_mem_iff, ← rowSorting_eq_slots] at member
      rw [turns, ColumnName.isNamedBy, List.findSome?_eq_none_iff.mp unsorted token member] at turned
      cases turned
  rw [sortDirection?, rowSorting_toggleSort, if_neg kept, List.findSome?_cons, own]

/-- **Directions.** A click on a column whose name begins with no sign and which its own token names
makes the order by it ascending, unless it is ascending already; two clicks bring an existing direction
back.  A part that neither filters nor orders may only be the whole control. -/
theorem sortDirection?_toggleSort (control : Control) (column : Text)
    (idle : none ∈ control.slots → control = .unfiltered) (unsigned : ColumnName.IsUnsigned column)
    (own : ColumnName.direction? (ColumnName.sortToken column) column = some .ascending) :
    (toggleSort column true control).sortDirection? column =
        some (if control.sortDirection? column = some .ascending then .descending else .ascending) ∧
      (control.sortDirection? column ≠ none →
        (toggleSort column true (toggleSort column true control)).sortDirection? column =
          control.sortDirection? column) := by
  by_cases empty : none ∈ control.slots
  · rw [idle empty]
    refine ⟨?_, fun sorted => (sorted rfl).elim⟩
    rw [sortDirection?, toggleSort, rowSorting, List.findSome?_cons, own]
    rfl
  · cases sorted : control.sortDirection? column with
    | none =>
        exact ⟨sortDirection?_toggleSort_of_unsorted empty own sorted, fun absurd => (absurd rfl).elim⟩
    | some direction =>
        have once := sortDirection?_toggleSort_of_sorted empty unsigned sorted
        have full : none ∉ (toggleSort column true control).slots := by
          rw [toggleSort_root_eq_part (turns_of_sortDirection? sorted), slots_toggleSort]
          simp
        have twice := sortDirection?_toggleSort_of_sorted full unsigned once
        rw [once, twice]
        cases direction with
        | ascending => exact ⟨rfl, fun _ => rfl⟩
        | descending => exact ⟨rfl, fun _ => rfl⟩

/-- The column is named by two tokens at different depths, in different directions. -/
theorem sortDirection?_toggleSort_of_mixed :
    let column : Text := "Name".toList
    let control := allOf [.rowSort [['+', 'n', 'a']], .anyOf [.rowSort [['-', 'n'], ['d']]]]
    (none ∈ control.slots → control = .unfiltered) ∧ ColumnName.IsUnsigned column ∧
      ColumnName.direction? (ColumnName.sortToken column) column = some .ascending ∧
      (toggleSort column true control).sortDirection? column = some .descending ∧
      (toggleSort column true (toggleSort column true control)).sortDirection? column =
        some .ascending := by
  intro column control
  have idle : none ∈ control.slots → control = .unfiltered := by
    intro empty
    simp [control, slots, slotsOfAll] at empty
  have unsigned : ColumnName.IsUnsigned column := ⟨'N', by decide, by decide, by decide⟩
  have own : ColumnName.direction? (ColumnName.sortToken column) column = some .ascending := by
    decide +kernel
  have sorted : control.sortDirection? column = some .ascending := by decide +kernel
  obtain ⟨once, twice⟩ := sortDirection?_toggleSort control column idle unsigned own
  rw [sorted] at once twice
  exact ⟨idle, unsigned, own, once, twice (Option.some_ne_none _)⟩

end Control

end TableSearch
