import TableSearch.Proofs.Number.PlainDecimal
import TableSearch.Proofs.Table.CellOrder

/-! # Cells that are numbers

`TableSearch.PlainDecimal.orderCells_iff`: two cells that are decimal numbers with different values
are ordered by these values exactly if they have different signs, or neither sinks below the other.

Numbers are ordered by the least values that they may stand for, half a unit of the last digit below
what is typed.  A number with few decimals loses more by this than one with many, and sinks below it
if it is larger by less than the difference (`TableSearch.PlainDecimal.Sinks`): `1` stands before
`0.6`.
-/

namespace TableSearch

namespace PlainDecimal

open CellOrder

variable {a b : PlainDecimal}

/-- Whether a decimal is larger than another one, by less than half of the difference of their
units, so that its lower end is below that of the other one. -/
def Sinks (a b : PlainDecimal) : Prop :=
  b.value < a.value ∧ a.value - b.value < (a.unit - b.unit) / 2

/-- A decimal has a dash in front exactly if it is negative. -/
theorem isDashed_text (a : PlainDecimal) : isDashed a.text = a.negative := by
  rw [text]
  cases a.negative with
  | false => exact beq_eq_false_iff_ne.mpr a.isDashed_body
  | true => rfl

theorem text_ne_nil (a : PlainDecimal) : a.text ≠ [] := by
  obtain ⟨c, rest, known, -⟩ := a.body_eq_cons
  rw [text, known]
  split
  · exact List.cons_ne_nil _ _
  · exact List.cons_ne_nil _ _

/-- A number with a minus sign stands before one without. -/
theorem order_of_signs (minus : a.negative = true) (plus : b.negative = false) :
    order false a.text b.text = .lt := by
  have differs : isDashed a.text ≠ isDashed b.text := by
    rw [isDashed_text, isDashed_text, minus, plus]
    exact Bool.noConfusion
  refine (orderFrom_of_dashes a.text_ne_nil b.text_ne_nil differs).trans ?_
  rw [isDashed_text, isDashed_text, minus, plus]
  rfl

/-- Of two decimals with different values a negative one is smaller than one that is not. -/
theorem value_lt_of_signs (minus : a.negative = true) (plus : b.negative = false)
    (apart : a.value ≠ b.value) : a.value < b.value := by
  apply lt_of_le_of_ne _ apart
  rw [value, value, minus, plus]
  exact (neg_nonpos.mpr a.magnitude_nonneg).trans b.magnitude_nonneg

/-- Numbers of one sign are ordered by their lower ends. -/
theorem order_eq_compare_low (same : a.negative = b.negative) (apart : a.value ≠ b.value) :
    a.low ≠ b.low ∧ order false a.text b.text = compare a.low b.low := by
  obtain ⟨number, number', found, -, found', -, differs, lows⟩ := order_low same apart
  refine ⟨differs, ?_⟩
  have alike : Alike a.text b.text := by
    refine ⟨?_, by rw [isDashed_text, isDashed_text, same]⟩
    rw [List.isEmpty_eq_false_iff.mpr a.text_ne_nil, List.isEmpty_eq_false_iff.mpr b.text_ne_nil]
  have decided : Double.order number.low number'.low ≠ .eq := by
    rw [lows, ne_eq, compare_eq_iff_eq]
    exact differs
  rw [order_of_alike alike, orderAlike_of_numbers found found', directed_then decided, ← lows]
  rfl

/-- Of two decimals, the lower ends are ordered like the values unless one sinks below the other. -/
theorem compare_low_iff (apart : a.value ≠ b.value) (differs : a.low ≠ b.low) :
    compare a.low b.low = compare a.value b.value ↔ ¬(a.Sinks b ∨ b.Sinks a) := by
  rw [low, low, not_or, Sinks, Sinks, not_and, not_and, not_lt, not_lt]
  rw [low, low] at differs
  rcases lt_or_gt_of_ne apart with less | more
  · rw [compare_lt_iff_lt.mpr less, compare_lt_iff_lt]
    constructor
    · intro before
      exact ⟨fun above => absurd above less.le.not_gt, fun _ => by linarith⟩
    · rintro ⟨-, apart⟩
      apply lt_of_le_of_ne _ differs
      linarith [apart less]
  · rw [compare_gt_iff_gt.mpr more, compare_gt_iff_gt]
    constructor
    · intro behind
      exact ⟨fun _ => by linarith, fun above => absurd above more.le.not_gt⟩
    · rintro ⟨apart, -⟩
      apply lt_of_le_of_ne _ differs.symm
      linarith [apart more]

/-- **Numeric cells.** Two cells that are decimal numbers of different values are ordered by them
exactly if the numbers have different signs or neither sinks below the other. -/
theorem orderCells_iff (a b : PlainDecimal) (apart : a.value ≠ b.value) :
    orderCells false (some a.text) (some b.text) = compare a.value b.value ↔
      ¬(a.negative = b.negative ∧ (a.Sinks b ∨ b.Sinks a)) := by
  change order false a.text b.text = compare a.value b.value ↔ _
  by_cases same : a.negative = b.negative
  · obtain ⟨differs, lows⟩ := order_eq_compare_low same apart
    rw [lows, compare_low_iff apart differs]
    exact not_congr (and_iff_right same).symm
  · refine iff_of_true ?_ fun sinks => same sinks.1
    cases sign : a.negative with
    | true =>
        have plus : b.negative = false := by
          rw [← Bool.not_eq_true]
          exact fun minus => same (sign.trans minus.symm)
        rw [order_of_signs sign plus, compare_lt_iff_lt.mpr (value_lt_of_signs sign plus apart)]
    | false =>
        have minus : b.negative = true := by
          rw [← Bool.not_eq_false]
          exact fun plus => same (sign.trans plus.symm)
        rw [order_swap, order_of_signs minus sign,
          compare_gt_iff_gt.mpr (value_lt_of_signs minus sign apart.symm)]
        rfl

/-- `1` stands before `0.6`. -/
theorem not_by_value_of_one :
    let a : PlainDecimal :=
      ⟨false, ['1'], false, [], List.all_eq_true.mp rfl, by decide, by decide, fun _ => rfl⟩
    let b : PlainDecimal :=
      ⟨false, ['0'], true, ['6'], List.all_eq_true.mp rfl, by decide, by decide, nofun⟩
    a.value ≠ b.value ∧ b.value < a.value ∧
      orderCells false (some ['1']) (some ['0', '.', '6']) = .lt ∧
      orderCells false (some ['1']) (some ['0', '.', '6']) ≠ compare a.value b.value := by
  intro a b
  have less : b.value < a.value := by decide +kernel
  refine ⟨less.ne', less, by decide +kernel, ?_⟩
  change orderCells false (some a.text) (some b.text) ≠ _
  rw [ne_eq, orderCells_iff a b less.ne', not_not]
  exact ⟨rfl, .inl ⟨less, by decide +kernel⟩⟩

end PlainDecimal

end TableSearch
