import TableSearch.Proofs.Table.Order

/-! # The order of the columns

`TableSearch.Table.orderColumns_spec`: a control puts the columns of a table in the order of the
first tokens that name them, those that no token names behind the others, and leaves columns of the
same token as they were.  Doing so a second time changes nothing.

The columns are sorted by a number, the place of their first token; what is said of the result is
said in terms of the token itself, which a column may not have.
-/

namespace TableSearch

namespace Table

variable {α : Type} {tokens : List Text} {first second : Text} {name : α → Text} {control : Control}
  {columns : List α}

/-- The place of the first token that names a column, if one does. -/
def firstToken? (tokens : List Text) (name : Text) : Option Nat :=
  tokens.findIdx? fun token => ColumnName.isNamedBy token name

/-! ## Ranks -/

theorem columnRank_eq : columnRank tokens first = (firstToken? tokens first).getD tokens.length :=
  List.findIdx_eq_getD_findIdx?

theorem lt_length_of_firstToken? {place : Nat} (known : firstToken? tokens first = some place) :
    place < tokens.length :=
  (List.findIdx?_eq_some_iff_findIdx_eq.mp known).1

/-- A column may come before another one if that one has no token, or a later one. -/
theorem columnRank_le_iff : columnRank tokens first ≤ columnRank tokens second ↔
    ∀ place ∈ firstToken? tokens second, ∃ before ∈ firstToken? tokens first, before ≤ place := by
  rw [columnRank_eq, columnRank_eq]
  simp only [Option.mem_def]
  cases later : firstToken? tokens second with
  | none =>
      refine iff_of_true ?_ fun place absent => nomatch absent
      cases earlier : firstToken? tokens first with
      | none => exact Nat.le_refl _
      | some before => exact Nat.le_of_lt (lt_length_of_firstToken? earlier)
  | some place =>
      have within := lt_length_of_firstToken? later
      cases firstToken? tokens first with
      | none => simpa using within
      | some before => simp

/-! ## The order -/

section Rank

variable (rank : α → Nat)

theorem rank_trans (a b c : α) (before : decide (rank a ≤ rank b) = true)
    (after : decide (rank b ≤ rank c) = true) : decide (rank a ≤ rank c) = true :=
  decide_eq_true (Nat.le_trans (of_decide_eq_true before) (of_decide_eq_true after))

theorem rank_total (a b : α) : (decide (rank a ≤ rank b) || decide (rank b ≤ rank a)) = true := by
  rw [Bool.or_eq_true, decide_eq_true_eq, decide_eq_true_eq]
  exact Nat.le_total _ _

end Rank

/-- Columns that have been ordered stand in the order of their ranks. -/
theorem orderColumns_pairwise : (orderColumns name control columns).Pairwise fun a b =>
    columnRank control.columnSorting (name a) ≤ columnRank control.columnSorting (name b) :=
  (List.pairwise_mergeSort (rank_trans _) (rank_total _) columns).imp of_decide_eq_true

/-- Columns that come in order are left as they are. -/
theorem orderColumns_of_pairwise (ordered : columns.Pairwise fun a b =>
    columnRank control.columnSorting (name a) ≤ columnRank control.columnSorting (name b)) :
    orderColumns name control columns = columns :=
  List.mergeSort_of_pairwise (ordered.imp decide_eq_true)

/-- Columns with the same first token stay as they were, and so do those without one. -/
theorem filter_orderColumns (place : Option Nat) :
    ((orderColumns name control columns).filter fun column =>
        firstToken? control.columnSorting (name column) = place) =
      columns.filter fun column => firstToken? control.columnSorting (name column) = place := by
  let chosen := columns.filter fun column =>
    firstToken? control.columnSorting (name column) = place
  have level : ∀ column ∈ chosen, columnRank control.columnSorting (name column) =
      place.getD control.columnSorting.length := by
    intro column member
    rw [columnRank_eq, of_decide_eq_true (List.mem_filter.mp member).2]
  have ordered : chosen.Pairwise fun a b => decide (columnRank control.columnSorting (name a) ≤
      columnRank control.columnSorting (name b)) = true := by
    refine List.pairwise_of_forall_mem_list fun a member b member' => ?_
    rw [level a member, level b member']
    exact decide_eq_true (Nat.le_refl _)
  -- The sorting is stable, so what comes in order stays together as a sublist.
  have within : chosen.Sublist (orderColumns name control columns) :=
    List.sublist_mergeSort (rank_trans _) (rank_total _) ordered List.filter_sublist
  have kept := within.filter fun column =>
    decide (firstToken? control.columnSorting (name column) = place)
  simp only [chosen, List.filter_filter, Bool.and_self] at kept
  exact (kept.eq_of_length ((List.mergeSort_perm _ _).filter _).length_eq.symm).symm

/-- **Ordering columns.** A control rearranges the columns so that one whose first token comes
earlier stands before one whose first token comes later, and those without a token come last;
columns of the same token, or without one, stay as they were.  Ordering them again changes
nothing. -/
theorem orderColumns_spec (name : α → Text) (control : Control) (columns : List α) :
    let tokenOf (column : α) := firstToken? control.columnSorting (name column)
    let ordered := orderColumns name control columns
    ordered.Perm columns ∧
      ordered.Pairwise (fun a b => ∀ place ∈ tokenOf b, ∃ before ∈ tokenOf a, before ≤ place) ∧
      (∀ place, ordered.filter (tokenOf · = place) = columns.filter (tokenOf · = place)) ∧
      orderColumns name control ordered = ordered := by
  intro tokenOf ordered
  have ascending : ordered.Pairwise fun a b =>
      columnRank control.columnSorting (name a) ≤ columnRank control.columnSorting (name b) :=
    orderColumns_pairwise
  refine ⟨List.mergeSort_perm _ _, ?_, filter_orderColumns, orderColumns_of_pairwise ascending⟩
  exact ascending.imp fun before => columnRank_le_iff.mp before

end Table

end TableSearch
