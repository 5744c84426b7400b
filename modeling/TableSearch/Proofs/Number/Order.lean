import Mathlib.Algebra.Order.Field.Power
import Mathlib.Algebra.Order.Ring.Rat
import Mathlib.Data.Prod.Lex
import Mathlib.Order.Compare
import Mathlib.Tactic.Ring
import TableSearch.Number.Double

/-! # The order of doubles

`TableSearch.Double.order_eq`: doubles are ordered by their kind, and finite ones by the number they
denote.  So the order is the same from both sides and transitive; it ties the two zeros.  Kind and
number together are the key of a double (`TableSearch.Double.key`).
-/

namespace TableSearch

namespace Double

/-- The kind of a double in the order of the kinds. -/
def kind : Double → Nat
  | infinite true => 0
  | finite _ _ _ => 1
  | infinite false => 2
  | nan => 3

/-- The number that a finite double denotes. -/
def value : Double → ℚ
  | finite negative significand exponent =>
    (if negative then -(significand : ℚ) else significand) * 2 ^ exponent
  | _ => 0

variable {negative negative' : Bool} {significand significand' : Nat}
  {exponent exponent' place : Int} {x y : Double}

/-- A finite double is a whole number of units of every place up to its own. -/
theorem unitsAt_mul (below : place ≤ exponent) :
    (unitsAt negative significand exponent place : ℚ) * 2 ^ place =
      value (.finite negative significand exponent) := by
  have power : (2 : ℚ) ^ (exponent - place).toNat * 2 ^ place = 2 ^ exponent := by
    rw [← zpow_natCast, Int.toNat_of_nonneg (Int.sub_nonneg.mpr below),
      ← zpow_add₀ two_ne_zero, Int.sub_add_cancel]
  rw [unitsAt, value, ← power, Nat.pow_eq]
  cases negative with
  | false =>
      simp only [Bool.false_eq_true, if_false]
      push_cast
      ring
  | true =>
      simp only [if_true]
      push_cast
      ring

/-- Finite doubles are ordered by their units of a place that is not above either of theirs. -/
theorem compare_unitsAt (below : place ≤ exponent) (below' : place ≤ exponent') :
    compare (unitsAt negative significand exponent place)
        (unitsAt negative' significand' exponent' place) =
      compare (value (.finite negative significand exponent))
        (value (.finite negative' significand' exponent')) := by
  have grows : StrictMono fun units : Int => (units : ℚ) * 2 ^ place := by
    intro units units' less
    exact mul_lt_mul_of_pos_right (Int.cast_lt.mpr less) (zpow_pos two_pos place)
  rw [← unitsAt_mul below, ← unitsAt_mul below', ← cmp_eq_compare, ← cmp_eq_compare]
  exact (grows.cmp_map_eq _ _).symm

/-- Doubles are ordered by their kind, and then by the number they denote. -/
theorem order_eq : order x y = compareLex (compareOn kind) (compareOn value) x y := by
  change _ = (compare x.kind y.kind).then (compare x.value y.value)
  cases x with
  | nan =>
      cases y with
      | nan => exact Std.ReflOrd.compare_self.symm
      | infinite negative => cases negative <;> rfl
      | finite => rfl
  | infinite negative =>
      cases y with
      | nan => cases negative <;> rfl
      | infinite negative' =>
          cases negative <;> cases negative' <;> rfl
      | finite => cases negative <;> rfl
  | finite negative significand exponent =>
      cases y with
      | nan => rfl
      | infinite negative' => cases negative' <;> rfl
      | finite negative' significand' exponent' =>
          exact compare_unitsAt (min_le_left exponent exponent') (min_le_right exponent exponent')

instance : Std.TransCmp order := by
  have same : order = compareLex (compareOn kind) (compareOn value) := by
    funext x y
    exact order_eq
  rw [same]
  infer_instance

theorem order_self (x : Double) : order x x = .eq :=
  Std.ReflCmp.compare_self

theorem order_swap (x y : Double) : order y x = (order x y).swap :=
  Std.OrientedCmp.eq_swap

/-! ## Places in the order -/

/-- The place of a double in the order of doubles. -/
def key (x : Double) : ℕ ×ₗ ℚ :=
  toLex (x.kind, x.value)

theorem order_eq_compare_key : order x y = compare x.key y.key :=
  order_eq

/-- Doubles have the same place exactly if they are tied. -/
theorem key_eq_iff : x.key = y.key ↔ order x y = .eq := by
  rw [order_eq_compare_key, compare_eq_iff_eq]

/-- A double has a lower place exactly if it is the smaller one. -/
theorem key_lt_iff : x.key < y.key ↔ order x y = .lt := by
  rw [order_eq_compare_key, compare_lt_iff_lt]

theorem key_lt_of_kind_lt (less : x.kind < y.kind) : x.key < y.key :=
  Prod.Lex.toLex_lt_toLex.mpr (.inl less)

/-- Doubles that are both numbers can be compared. -/
theorem order?_eq_some (number : x.isNaN = false) (number' : y.isNaN = false) :
    order? x y = some (order x y) := by
  cases x with
  | nan => cases number
  | infinite negative =>
      cases y with
      | nan => cases number'
      | infinite _ | finite _ _ _ => rfl
  | finite negative significand exponent =>
      cases y with
      | nan => cases number'
      | infinite _ | finite _ _ _ => rfl

/-- One number stands above another exactly if its place does. -/
theorem isAbove_iff (number : x.isNaN = false) (number' : y.isNaN = false) :
    isAbove x y = true ↔ y.key < x.key := by
  rw [isAbove, order?_eq_some number number', beq_iff_eq, Option.some.injEq, order_eq_compare_key,
    compare_gt_iff_gt]

end Double

end TableSearch
