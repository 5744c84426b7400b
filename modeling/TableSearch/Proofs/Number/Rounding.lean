import Mathlib.Algebra.Order.Field.Basic
import Mathlib.Tactic.FieldSimp
import Mathlib.Tactic.Linarith
import Mathlib.Tactic.NormNum
import Mathlib.Tactic.Positivity
import TableSearch.Proofs.Number.Order

/-! # The error of one rounding

Every operation on doubles rounds an exact result once.  `TableSearch.Double.Rounds` says that a
double is finite and no further from a rational number than one rounding takes it; this holds of a
rounded quotient (`TableSearch.Double.ofRatio_rounds`) and so of decimals, sums and halves.  Two
doubles are ordered like the numbers that they round if these lie further apart than both errors
together (`TableSearch.Double.order_of_near`).
-/

namespace TableSearch

namespace Double

/-! ## Quotients -/

variable {numerator denominator : Nat} {exponent : Int}

/-- A rounded quotient, times the divisor, differs from the dividend by at most half of the
divisor. -/
theorem two_mul_roundDiv (numerator : Nat) (positive : 0 < denominator) :
    2 * (roundDiv numerator denominator * denominator) ≤ 2 * numerator + denominator ∧
      2 * numerator ≤ 2 * (roundDiv numerator denominator * denominator) + denominator := by
  have split := Nat.div_add_mod' numerator denominator
  have small := Nat.mod_lt numerator positive
  unfold roundDiv
  generalize numerator / denominator = quotient at *
  generalize numerator % denominator = remainder at *
  dsimp only
  split_ifs with low high
  · omega
  · rw [Nat.add_mul]
    omega
  · rcases Nat.mod_two_eq_zero_or_one quotient with even | odd
    · rw [even, Nat.add_zero]
      omega
    · rw [odd, Nat.add_mul]
      omega

/-- A quotient is rounded by at most one half. -/
theorem roundDiv_near (numerator : Nat) (positive : 0 < denominator) :
    |(roundDiv numerator denominator : ℚ) - numerator / denominator| ≤ 1 / 2 := by
  obtain ⟨above, below⟩ := two_mul_roundDiv numerator positive
  have scale : (0 : ℚ) < denominator := Nat.cast_pos.mpr positive
  have above' : (2 : ℚ) * (roundDiv numerator denominator * denominator) ≤
      2 * numerator + denominator := by exact_mod_cast above
  have below' : (2 : ℚ) * numerator ≤
      2 * (roundDiv numerator denominator * denominator) + denominator := by exact_mod_cast below
  have same : (numerator : ℚ) = numerator / denominator * denominator := by field_simp
  generalize (roundDiv numerator denominator : ℚ) = rounded at *
  generalize (numerator : ℚ) / denominator = quotient at *
  rw [same] at above' below'
  rw [abs_sub_le_iff]
  constructor
  · apply le_of_mul_le_mul_right _ scale
    linarith
  · apply le_of_mul_le_mul_right _ scale
    linarith

/-- A ratio is rounded to units of a place by at most half a unit. -/
theorem unitsOf_near (numerator : Nat) (exponent : Int) (positive : 0 < denominator) :
    |(unitsOf numerator denominator exponent : ℚ) * 2 ^ exponent - numerator / denominator| ≤
      2 ^ exponent / 2 := by
  have scaled : ∀ {rounded quotient unit : ℚ}, 0 < unit → |rounded - quotient| ≤ 1 / 2 →
      |rounded * unit - quotient * unit| ≤ unit / 2 := by
    intro rounded quotient unit filled near
    rw [← sub_mul, abs_mul, abs_of_pos filled]
    linarith [mul_le_mul_of_nonneg_right near filled.le]
  cases exponent with
  | ofNat power =>
      have unit : (0 : ℚ) < 2 ^ power := by positivity
      have near := scaled unit (roundDiv_near numerator
        (Nat.mul_pos positive (Nat.two_pow_pos power)))
      rw [unitsOf, Nat.pow_eq, Int.ofNat_eq_natCast, zpow_natCast]
      convert near using 3
      push_cast
      field_simp
  | negSucc power =>
      have unit : (0 : ℚ) < (2 ^ (power + 1))⁻¹ := by positivity
      have near := scaled unit (roundDiv_near (numerator * 2 ^ (power + 1)) positive)
      rw [unitsOf, Nat.pow_eq, zpow_negSucc]
      convert near using 3
      push_cast
      field_simp

/-- Whether a ratio lies below a power of two is decided without dividing. -/
theorem belowPower_iff (positive : 0 < denominator) :
    belowPower numerator denominator exponent = true ↔
      (numerator : ℚ) / denominator < 2 ^ exponent := by
  have scale : (0 : ℚ) < denominator := Nat.cast_pos.mpr positive
  cases exponent with
  | ofNat power =>
      rw [belowPower, decide_eq_true_eq, Nat.pow_eq, Int.ofNat_eq_natCast, zpow_natCast,
        div_lt_iff₀ scale, mul_comm]
      norm_cast
  | negSucc power =>
      have unit : (0 : ℚ) < 2 ^ (power + 1) := by positivity
      rw [belowPower, decide_eq_true_eq, Nat.pow_eq, zpow_negSucc, div_lt_iff₀ scale,
        ← div_eq_inv_mul, lt_div_iff₀ unit]
      norm_cast

/-- The leading places of its two numbers bound a ratio. -/
theorem ratio_bounds (positive : 0 < numerator) (positive' : 0 < denominator) :
    2 ^ ((Nat.log2 numerator : Int) - (Nat.log2 denominator : Int) - 1) ≤
        (numerator : ℚ) / denominator ∧
      (numerator : ℚ) / denominator <
        2 ^ ((Nat.log2 numerator : Int) - (Nat.log2 denominator : Int) + 1) := by
  have scale : (0 : ℚ) < denominator := Nat.cast_pos.mpr positive'
  have low : (2 : ℚ) ^ Nat.log2 numerator ≤ numerator := by
    exact_mod_cast Nat.log2_self_le positive.ne'
  have high : (numerator : ℚ) < 2 ^ (Nat.log2 numerator + 1) := by
    exact_mod_cast Nat.lt_log2_self
  have low' : (2 : ℚ) ^ Nat.log2 denominator ≤ denominator := by
    exact_mod_cast Nat.log2_self_le positive'.ne'
  have high' : (denominator : ℚ) < 2 ^ (Nat.log2 denominator + 1) := by
    exact_mod_cast Nat.lt_log2_self
  have power : ∀ {a b : Nat}, (2 : ℚ) ^ ((a : Int) - b) * 2 ^ b = 2 ^ a := by
    intro a b
    rw [← zpow_natCast, ← zpow_add₀ two_ne_zero, sub_add_cancel, zpow_natCast]
  constructor
  · rw [le_div_iff₀ scale]
    have shift : (Nat.log2 numerator : Int) - (Nat.log2 denominator : Int) - 1 =
        (Nat.log2 numerator : Int) - ((Nat.log2 denominator + 1 : Nat) : Int) := by
      push_cast
      ring
    calc
      (2 : ℚ) ^ ((Nat.log2 numerator : Int) - (Nat.log2 denominator : Int) - 1) * denominator ≤
          2 ^ ((Nat.log2 numerator : Int) - (Nat.log2 denominator : Int) - 1) *
            2 ^ (Nat.log2 denominator + 1) := mul_le_mul_of_nonneg_left high'.le (by positivity)
      _ = 2 ^ Nat.log2 numerator := by rw [shift, power]
      _ ≤ numerator := low
  · rw [div_lt_iff₀ scale]
    have shift : (Nat.log2 numerator : Int) - (Nat.log2 denominator : Int) + 1 =
        ((Nat.log2 numerator + 1 : Nat) : Int) - (Nat.log2 denominator : Int) := by
      push_cast
      ring
    calc
      (numerator : ℚ) < 2 ^ (Nat.log2 numerator + 1) := high
      _ = 2 ^ ((Nat.log2 numerator : Int) - (Nat.log2 denominator : Int) + 1) *
          2 ^ Nat.log2 denominator := by rw [shift, power]
      _ ≤ 2 ^ ((Nat.log2 numerator : Int) - (Nat.log2 denominator : Int) + 1) * denominator :=
        mul_le_mul_of_nonneg_left low' (by positivity)

/-- The last place of the doubles near a positive ratio lies 52 places below its leading one, or is
the last place of all. -/
theorem exists_leading (positive : 0 < numerator) (positive' : 0 < denominator) :
    ∃ leading : Int, lastPlace numerator denominator = max (leading - 52) leastExponent ∧
      2 ^ leading ≤ (numerator : ℚ) / denominator ∧
      (numerator : ℚ) / denominator < 2 ^ (leading + 1) := by
  obtain ⟨low, high⟩ := ratio_bounds positive positive'
  rw [lastPlace]
  by_cases below : belowPower numerator denominator
      ((Nat.log2 numerator : Int) - (Nat.log2 denominator : Int)) = true
  · refine ⟨(Nat.log2 numerator : Int) - (Nat.log2 denominator : Int) - 1, ?_, low, ?_⟩
    · rw [if_pos below]
    · rw [sub_add_cancel]
      exact (belowPower_iff positive').mp below
  · refine ⟨(Nat.log2 numerator : Int) - (Nat.log2 denominator : Int), ?_, ?_, high⟩
    · rw [if_neg below]
    · exact le_of_not_gt fun less => below ((belowPower_iff positive').mpr less)

/-! ## Rounded numbers -/

/-- A number with a sign. -/
def signed (negative : Bool) (x : ℚ) : ℚ :=
  if negative then -x else x

/-- Half of the least positive double. -/
def leastError : ℚ := 2 ^ (leastExponent - 1)

/-- Whether a double is what one rounding makes of a number: finite, and no further away than half a
unit of its last place. -/
structure Rounds (x : Double) (q : ℚ) : Prop where
  finite : x.kind = 1
  near : |x.value - q| ≤ |q| / 2 ^ 53 + leastError

variable {negative : Bool} {significand : Nat} {x y : Double} {q r : ℚ}

theorem leastError_pos : 0 < leastError :=
  zpow_pos two_pos _

/-- Half a unit of the last place is what one rounding may take from a number. -/
theorem half_unit_le {leading : Int} (above : 2 ^ leading ≤ q) :
    (2 : ℚ) ^ max (leading - 52) leastExponent / 2 ≤ q / 2 ^ 53 + leastError := by
  have small : (0 : ℚ) ≤ 2 ^ 53 := pow_nonneg zero_le_two 53
  rcases max_choice (leading - 52) leastExponent with known | known
  · have lowered : (2 : ℚ) ^ (leading - 52) / 2 = 2 ^ leading / 2 ^ 53 := by
      rw [zpow_sub₀ two_ne_zero]
      norm_num
      ring
    rw [known, lowered]
    exact (div_le_div_of_nonneg_right above small).trans (le_add_of_nonneg_right leastError_pos.le)
  · have lowest : (2 : ℚ) ^ leastExponent / 2 = leastError := by
      rw [leastError, zpow_sub_one₀ two_ne_zero, div_eq_mul_inv]
    have filled : 0 ≤ q := (zpow_pos two_pos leading).le.trans above
    rw [known, lowest]
    exact le_add_of_nonneg_left (div_nonneg filled small)

theorem value_finite :
    value (.finite negative significand exponent) =
      signed negative (significand * 2 ^ exponent) := by
  cases negative with
  | false => rfl
  | true => exact neg_mul _ _

theorem abs_signed : |signed negative q| = |q| := by
  cases negative with
  | false => rfl
  | true => exact abs_neg q

theorem abs_signed_sub : |signed negative q - signed negative r| = |q - r| := by
  cases negative with
  | false => rfl
  | true => rw [signed, signed, if_pos rfl, if_pos rfl, neg_sub_neg, abs_sub_comm]

theorem zero_rounds : Rounds (zero negative) 0 where
  finite := rfl
  near := by
    rw [zero, value_finite, Nat.cast_zero, zero_mul, ← sub_zero (signed negative 0), sub_sub,
      add_zero]
    cases negative <;> simp [signed, leastError_pos.le]

/-- Packing units of a place inside the range makes a finite double of their number. -/
theorem pack_value (negative : Bool) (significand : Nat) (low : exponent ≤ 970) :
    (pack negative significand exponent).kind = 1 ∧
      (pack negative significand exponent).value =
        signed negative (significand * 2 ^ exponent) := by
  rw [pack, Nat.pow_eq, Nat.pow_eq]
  split_ifs with carried high high
  · omega
  · refine ⟨rfl, ?_⟩
    rw [value_finite, carried, zpow_add_one₀ two_ne_zero]
    congr 1
    push_cast
    ring
  · omega
  · exact ⟨rfl, value_finite⟩

/-- **Quotients.** A quotient in the range of the doubles is rounded once. -/
theorem ofRatio_rounds (negative : Bool) (positive : 0 < denominator)
    (bounded : (numerator : ℚ) / denominator < 2 ^ 1023) :
    Rounds (ofRatio negative numerator denominator)
      (signed negative (numerator / denominator)) := by
  by_cases none : numerator = 0
  · rw [ofRatio, if_pos none, none, Nat.cast_zero, zero_div]
    have nothing : signed negative 0 = 0 := by cases negative <;> simp [signed]
    rw [nothing]
    exact zero_rounds
  · obtain ⟨leading, place, above, below⟩ :=
      exists_leading (Nat.pos_of_ne_zero none) positive
    have error := unitsOf_near numerator (lastPlace numerator denominator) positive
    rw [ofRatio, if_neg none]
    dsimp only
    generalize lastPlace numerator denominator = last at *
    generalize unitsOf numerator denominator last = units at *
    generalize (numerator : ℚ) / denominator = quotient at *
    have filled : 0 < quotient := (zpow_pos two_pos leading).trans_le above
    have low : last ≤ 970 := by
      have less : leading < 1023 := by
        have := above.trans_lt bounded
        rw [← zpow_natCast] at this
        exact (zpow_lt_zpow_iff_right₀ one_lt_two).mp this
      rw [place, max_le_iff]
      exact ⟨by omega, by decide⟩
    obtain ⟨finite, same⟩ := pack_value negative units low
    refine ⟨finite, ?_⟩
    rw [same, abs_signed_sub, abs_signed, abs_of_pos filled]
    exact error.trans (place ▸ half_unit_le above)

/-- Whole units are their number with their sign. -/
theorem signed_natAbs {units : Int} :
    signed (decide (units < 0)) (units.natAbs * q) = units * q := by
  rw [Nat.cast_natAbs]
  by_cases below : units < 0
  · rw [signed, decide_eq_true below, if_pos rfl, abs_of_neg below]
    push_cast
    ring
  · rw [signed, decide_eq_false below, if_neg Bool.false_ne_true, abs_of_nonneg (not_lt.mp below)]

/-- Units of a place inside the range are rounded once. -/
theorem ofScaled_rounds (bounded : (significand : ℚ) * 2 ^ exponent < 2 ^ 1023) :
    Rounds (ofScaled negative significand exponent)
      (signed negative (significand * 2 ^ exponent)) := by
  cases exponent with
  | ofNat power =>
      rw [Int.ofNat_eq_natCast, zpow_natCast] at bounded ⊢
      have rounds := ofRatio_rounds negative one_pos
        (show ((significand * 2 ^ power : Nat) : ℚ) / ((1 : Nat) : ℚ) < 2 ^ 1023 by
          push_cast; rwa [div_one])
      push_cast at rounds
      rwa [div_one] at rounds
  | negSucc power =>
      rw [zpow_negSucc, ← div_eq_mul_inv] at bounded ⊢
      have rounds := ofRatio_rounds negative (Nat.two_pow_pos (power + 1))
        (show (significand : ℚ) / ((2 ^ (power + 1) : Nat) : ℚ) < 2 ^ 1023 by
          push_cast; exact bounded)
      push_cast at rounds
      exact rounds

/-- **Decimals.** A decimal number with up to 400 places is rounded once. -/
theorem ofDecimal_rounds (negative : Bool) {digits place : Nat} (near : place ≤ 400)
    (bounded : (digits : ℚ) < 2 ^ 1023) :
    Rounds (ofDecimal negative digits (-place)) (signed negative (digits / 10 ^ place)) := by
  unfold ofDecimal
  split_ifs with none above below
  · rw [none, Nat.cast_zero, zero_div]
    have nothing : signed negative 0 = 0 := by cases negative <;> simp [signed]
    rw [nothing]
    exact zero_rounds
  · omega
  · omega
  · cases place with
    | zero =>
        have same : ((digits * 10 ^ 0 : Nat) : ℚ) / ((1 : Nat) : ℚ) = digits / 10 ^ 0 := by
          rw [pow_zero, pow_zero, Nat.mul_one, Nat.cast_one]
        have rounds := ofRatio_rounds negative one_pos
          (show ((digits * 10 ^ 0 : Nat) : ℚ) / ((1 : Nat) : ℚ) < 2 ^ 1023 by
            rwa [same, pow_zero, div_one])
        rw [same] at rounds
        exact rounds
    | succ place =>
        have unit : (1 : ℚ) ≤ 10 ^ (place + 1) := one_le_pow₀ (by norm_num)
        have smaller : (digits : ℚ) / ((10 ^ (place + 1) : Nat) : ℚ) < 2 ^ 1023 := by
          push_cast
          exact (div_le_self (Nat.cast_nonneg digits) unit).trans_lt bounded
        have rounds := ofRatio_rounds negative (Nat.pow_pos (by decide)) smaller
        push_cast at rounds
        exact rounds

/-- **Sums.** The sum of finite doubles is rounded once. -/
theorem add_rounds (finite : x.kind = 1) (finite' : y.kind = 1)
    (bounded : |x.value + y.value| < 2 ^ 1023) : Rounds (add x y) (x.value + y.value) := by
  cases x with
  | nan => cases finite
  | infinite sign => cases sign <;> cases finite
  | finite sign units power =>
      cases y with
      | nan => cases finite'
      | infinite sign' => cases sign' <;> cases finite'
      | finite sign' units' power' =>
          have total : ((unitsAt sign units power (min power power') +
              unitsAt sign' units' power' (min power power') : Int) : ℚ) * 2 ^ min power power' =
              value (.finite sign units power) + value (.finite sign' units' power') := by
            rw [Int.cast_add, add_mul, unitsAt_mul (min_le_left power power'),
              unitsAt_mul (min_le_right power power')]
          rw [add]
          generalize unitsAt sign units power (min power power') +
            unitsAt sign' units' power' (min power power') = sum at *
          rw [← total] at bounded ⊢
          split_ifs with none
          · rw [none, Int.cast_zero, zero_mul]
            exact zero_rounds
          · rw [← signed_natAbs]
            apply ofScaled_rounds
            rwa [Nat.cast_natAbs, Int.cast_abs,
              ← abs_of_pos (zpow_pos (two_pos : (0 : ℚ) < 2) (min power power')), ← abs_mul]

theorem kind_neg (finite : x.kind = 1) : (neg x).kind = 1 := by
  cases x with
  | nan => cases finite
  | infinite sign => cases sign <;> cases finite
  | finite => rfl

/-- Negating a double negates the number it denotes. -/
theorem value_neg : (neg x).value = -x.value := by
  cases x with
  | nan => exact neg_zero.symm
  | infinite => exact neg_zero.symm
  | finite sign units power =>
      rw [neg, value_finite, value_finite]
      cases sign with
      | false => rfl
      | true => exact (neg_neg _).symm

/-- **Differences.** The difference of finite doubles is rounded once. -/
theorem sub_rounds (finite : x.kind = 1) (finite' : y.kind = 1)
    (bounded : |x.value - y.value| < 2 ^ 1023) : Rounds (sub x y) (x.value - y.value) := by
  rw [sub_eq_add_neg, ← value_neg] at bounded ⊢
  exact add_rounds finite (kind_neg finite') bounded

/-- Doubles that are nearer to two numbers than these are to each other are ordered like them. -/
theorem order_of_near (finite : x.kind = 1) (finite' : y.kind = 1)
    (near : |x.value - q| + |y.value - r| < |q - r|) : order x y = compare q r := by
  rw [order_eq]
  change (compare x.kind y.kind).then (compare x.value y.value) = _
  rw [finite, finite', Std.ReflOrd.compare_self, Ordering.eq_then]
  have first := abs_le.mp (le_refl |x.value - q|)
  have second := abs_le.mp (le_refl |y.value - r|)
  rcases lt_trichotomy q r with less | same | more
  · rw [abs_of_neg (sub_neg.mpr less)] at near
    rw [compare_lt_iff_lt.mpr less, compare_lt_iff_lt]
    linarith
  · rw [same, sub_self, abs_zero] at near
    linarith [abs_nonneg (x.value - r), abs_nonneg (y.value - r), same ▸ near]
  · rw [abs_of_pos (sub_pos.mpr more)] at near
    rw [compare_gt_iff_gt.mpr more, compare_gt_iff_gt]
    linarith

end Double

end TableSearch
