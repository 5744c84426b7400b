import TableSearch.Proofs.Number.Digits

/-! # The natural order by numbers and letters

A text is read as a list of items: its digit runs, each by the number that it writes, and its other
characters, each by its lower-case form (`TableSearch.Text.items`).  Texts that are read differently are
in natural order as these lists are, so that the case of letters and zeros in front of a number count
only between texts that are read alike.  With this, and because the order is linear whether case counts
or not, `TableSearch.Text.naturalOrder_linear` says all about the natural order.
-/

namespace TableSearch

namespace Text

/-- What the natural order sees in a text: the number of a digit run, or the lower-case form of another
character. -/
inductive Item where
  | number (value : Nat)
  | letter (form : Text)
deriving DecidableEq, Repr

/-- The order of items.  Numbers are ordered by value and letters by code points; against a letter every
number counts as the digit zero. -/
def Item.order : Item → Item → Ordering
  | number value, number value' => compare value value'
  | letter form, letter form' => Text.order form form'
  | number _, letter form => Text.order ['0'] form
  | letter form, number _ => Text.order form ['0']

instance : Ord Item :=
  ⟨Item.order⟩

/-- What the natural order sees in a digit run or another character. -/
def item (piece : Text) : Item :=
  if piece.all isDigit then .number (natOfDigits piece)
  else .letter (piece.flatMap CharCase.lowerForm)

/-- A text as the list of its numbers and letters. -/
def items (text : Text) : List Item :=
  (pieces text).map item

variable {c d : Char} {run run' text text' : Text} {list list' : List Text}

/-! ## Items and ranks -/

theorem item_of_run (digits : run.all isDigit = true) : item run = .number (natOfDigits run) :=
  if_pos digits

theorem item_of_other (other : isDigit c = false) : item [c] = .letter (CharCase.lowerForm c) := by
  rw [item, if_neg, List.flatMap_singleton]
  rw [List.all_cons, other]
  exact Bool.false_ne_true

theorem rank_of_run (digits : run.all isDigit = true) :
    rank run = 48 :: (run.dropWhile (· == '0')).length :: codes (run.dropWhile (· == '0')) := by
  change rankIn true run = _
  exact rankIn_of_run digits

theorem rank_of_other (other : isDigit c = false) : rank [c] = codes (CharCase.lowerForm c) := by
  change rankIn true [c] = _
  exact rankIn_of_other other

/-- The lower-case form of a character that is no digit stands to the digit zero as to every digit
run. -/
theorem order_zero_lowerForm (digits : run.all isDigit = true) (other : isDigit c = false) :
    Text.order ['0'] (CharCase.lowerForm c) = compare (rank run) (rank [c]) := by
  obtain ⟨d, rest, becomes, same⟩ := CharCase.exists_lowerForm c
  rw [order_eq_compare, rank_of_run digits, rank_of_other other, becomes]
  exact compare_digit (by decide) (same.trans other) _ _ _

theorem order_swap (text text' : Text) : Text.order text' text = (Text.order text text').swap := by
  rw [order_eq_compare, order_eq_compare]
  exact Std.OrientedOrd.eq_swap

/-- Items are ordered like the ranks of their pieces. -/
theorem compare_item (piece : IsPiece run) (piece' : IsPiece run') :
    compare (item run) (item run') = compare (rank run) (rank run') := by
  cases piece with
  | run digits =>
      cases piece' with
      | run digits' =>
          rw [item_of_run digits, item_of_run digits']
          change compare _ _ = compare (rankIn true _) (rankIn true _)
          rw [← digitOrder_eq true digits digits', digitOrder_digits
            (List.all_eq_true.mp digits) (List.all_eq_true.mp digits')]
          rfl
      | other other =>
          rw [item_of_run digits, item_of_other other, ← order_zero_lowerForm digits other]
          rfl
  | other other =>
      cases piece' with
      | run digits =>
          rw [item_of_run digits, item_of_other other, Std.OrientedOrd.eq_swap (a := rank _),
            ← order_zero_lowerForm digits other, ← order_swap]
          rfl
      | other other' =>
          rw [item_of_other other, item_of_other other', rank_of_other other, rank_of_other other',
            ← order_eq_compare]
          rfl

/-- Pieces with one rank are read alike. -/
theorem item_eq_of_rank_eq (piece : IsPiece run) (piece' : IsPiece run') (same : rank run = rank run') :
    item run = item run' := by
  cases piece with
  | run digits =>
      cases piece' with
      | run digits' =>
          rw [rank_of_run digits, rank_of_run digits', List.cons.injEq, List.cons.injEq,
            codes_inj] at same
          rw [item_of_run digits, item_of_run digits', ← natOfDigits_dropWhile, same.2.2,
            natOfDigits_dropWhile]
      | other other => exact (rankIn_run_ne_other true digits other same).elim
  | other other =>
      cases piece' with
      | run digits => exact (rankIn_run_ne_other true digits other same.symm).elim
      | other other' =>
          rw [rank_of_other other, rank_of_other other', codes_inj] at same
          rw [item_of_other other, item_of_other other', same]

/-- Pieces are ordered by their items as they are by their ranks. -/
theorem compare_map_item (all : ∀ piece ∈ list, IsPiece piece) (all' : ∀ piece ∈ list', IsPiece piece) :
    compare (list.map item) (list'.map item) = compare (list.map rank) (list'.map rank) := by
  induction list generalizing list' with
  | nil => cases list' <;> rfl
  | cons piece list ih =>
      cases list' with
      | nil => rfl
      | cons piece' list' =>
          rw [List.forall_mem_cons] at all all'
          simp only [List.map_cons, List.compare_cons_cons]
          rw [compare_item all.1 all'.1, ih all.2 all'.2]

/-- Pieces of the same ranks are the same items. -/
theorem map_item_eq (all : ∀ piece ∈ list, IsPiece piece) (all' : ∀ piece ∈ list', IsPiece piece)
    (same : list.map rank = list'.map rank) : list.map item = list'.map item := by
  induction list generalizing list' with
  | nil => rw [List.map_eq_nil_iff.mp same.symm]
  | cons piece list ih =>
      cases list' with
      | nil => cases same
      | cons piece' list' =>
          rw [List.forall_mem_cons] at all all'
          simp only [List.map_cons, List.cons.injEq] at same ⊢
          exact ⟨item_eq_of_rank_eq all.1 all'.1 same.1, ih all.2 all'.2 same.2⟩

/-! ## The natural order -/

theorem compare_items (text text' : Text) :
    compare (items text) (items text') = compare (ranks text) (ranks text') :=
  compare_map_item (fun _ => isPiece_of_mem) (fun _ => isPiece_of_mem)

/-- Only texts that are read alike are tied by their items. -/
theorem items_eq (tied : compare (items text) (items text') = .eq) : items text = items text' := by
  rw [compare_items] at tied
  exact map_item_eq (fun _ => isPiece_of_mem) (fun _ => isPiece_of_mem)
    (Std.LawfulEqOrd.eq_of_compare tied)

/-- **The natural order** is linear, with the case of letters ignored or not: it ties no two texts, is
the same from both sides, and is transitive.  With the case ignored it is the order of the numbers and
letters of texts wherever these differ. -/
theorem naturalOrder_linear :
    (∀ ignoreCase : Bool,
      (∀ a b : Text, naturalOrder a b ignoreCase = .eq ↔ a = b) ∧
      (∀ a b : Text, naturalOrder b a ignoreCase = (naturalOrder a b ignoreCase).swap) ∧
      ∀ a b c : Text, (naturalOrder a b ignoreCase).isLE → (naturalOrder b c ignoreCase).isLE →
        (naturalOrder a c ignoreCase).isLE) ∧
      ∀ a b : Text, items a ≠ items b → naturalOrder a b = compare (items a) (items b) := by
  refine ⟨fun ignoreCase => ⟨?_, naturalOrder_swap, fun _ _ _ => naturalOrder_isLE_trans⟩, ?_⟩
  · intro a b
    refine ⟨eq_of_naturalOrder, ?_⟩
    rintro rfl
    exact naturalOrder_self a
  · intro a b differs
    rw [naturalOrder_eq, compareLex]
    change (compare (ranks a) (ranks b)).then _ = _
    rw [← compare_items]
    cases between : compare (items a) (items b) with
    | lt => rfl
    | gt => rfl
    | eq => exact (differs (items_eq between)).elim

/-- `item2` stands before `ITEM10`, and `item02` before `ITEM2`. -/
theorem naturalOrder_linear_of_cases :
    let two : Text := "item2".toList
    let padded : Text := "item02".toList
    let ten : Text := "ITEM10".toList
    items padded = items two ∧ items padded ≠ items ten ∧ naturalOrder padded ten = .lt ∧
      (naturalOrder two padded).isLE ∧ (naturalOrder padded ten).isLE ∧ (naturalOrder two ten).isLE := by
  intro two padded ten
  have differs : items padded ≠ items ten := by decide +kernel
  have first : (naturalOrder two padded).isLE := by decide +kernel
  have second : (naturalOrder padded ten).isLE := by decide +kernel
  refine ⟨by decide +kernel, differs, ?_, first, second, ?_⟩
  · rw [naturalOrder_linear.2 padded ten differs]
    decide +kernel
  · exact (naturalOrder_linear.1 true).2.2 two padded ten first second

end Text

end TableSearch
