import Mathlib.Data.Prod.Lex
import TableSearch.Proofs.Number.Rounding

/-! # Rounding keeps the order

A larger number is never rounded to a smaller double (`TableSearch.Double.ofRatio_mono`).  The rounded
number without a bound, `TableSearch.Double.rounded`, grows with the ratio, and what lies beyond the
range of the doubles becomes infinite (`TableSearch.Double.key_ofRatio`).

So a double less something stands nowhere above the same double with it added
(`TableSearch.Double.sub_le_add`), and ratios that are the same number round to the same double
(`TableSearch.Double.ofRatio_congr`).
-/

namespace TableSearch

namespace Double

variable {numerator numerator' denominator denominator' : Nat} {exponent : Int}

/-! ## Quotients -/

/-- A quotient halfway between two numbers goes to the even one. -/
theorem roundDiv_of_half {quotient : Nat} (positive : 0 < denominator)
    (half : 2 * numerator = (2 * quotient + 1) * denominator) :
    roundDiv numerator denominator = quotient + quotient % 2 := by
  have split : 2 * numerator = 2 * (quotient * denominator) + denominator := by
    rw [half]
    ring
  have whole : numerator / denominator = quotient := by
    apply Nat.div_eq_of_lt_le
    · omega
    · rw [Nat.succ_mul]
      omega
  have rest := Nat.div_add_mod' numerator denominator
  rw [whole] at rest
  unfold roundDiv
  dsimp only
  rw [whole, if_neg (by omega), if_neg (by omega)]

/-- A larger ratio is not rounded to a smaller whole number. -/
theorem roundDiv_mono (positive : 0 < denominator) (positive' : 0 < denominator')
    (le : (numerator : ℚ) / denominator ≤ numerator' / denominator') :
    roundDiv numerator denominator ≤ roundDiv numerator' denominator' := by
  have near := abs_le.mp (roundDiv_near numerator positive)
  have near' := abs_le.mp (roundDiv_near numerator' positive')
  by_contra above
  -- Only a quotient halfway between both results is near enough to each of them.
  have step : (roundDiv numerator' denominator' : ℚ) + 1 ≤ roundDiv numerator denominator := by
    exact_mod_cast not_le.mp above
  have half : (numerator : ℚ) / denominator = roundDiv numerator' denominator' + 1 / 2 := by
    linarith
  have half' : (numerator' : ℚ) / denominator' = roundDiv numerator' denominator' + 1 / 2 := by
    linarith
  have even : ∀ {numerator denominator quotient : Nat}, 0 < denominator →
      (numerator : ℚ) / denominator = quotient + 1 / 2 →
      roundDiv numerator denominator = quotient + quotient % 2 := by
    intro numerator denominator quotient positive half
    have scale : (denominator : ℚ) ≠ 0 := Nat.cast_ne_zero.mpr positive.ne'
    apply roundDiv_of_half positive
    rw [div_eq_iff scale] at half
    have doubled : (2 : ℚ) * numerator = (2 * quotient + 1) * denominator := by
      rw [half]
      ring
    exact_mod_cast doubled
  exact above (((even positive half).trans (even positive' half').symm).le)

/-- A ratio in units of a power of two, as a ratio. -/
theorem exists_unitsOf (numerator : Nat) (exponent : Int) (positive : 0 < denominator) :
    ∃ above below : Nat, 0 < below ∧ unitsOf numerator denominator exponent = roundDiv above below ∧
      (above : ℚ) / below = numerator / denominator / 2 ^ exponent := by
  cases exponent with
  | ofNat power =>
      refine ⟨numerator, denominator * 2 ^ power, Nat.mul_pos positive (Nat.two_pow_pos power), rfl, ?_⟩
      rw [Int.ofNat_eq_natCast, zpow_natCast, div_div]
      push_cast
      rfl
  | negSucc power =>
      refine ⟨numerator * 2 ^ (power + 1), denominator, positive, rfl, ?_⟩
      rw [zpow_negSucc, div_inv_eq_mul, div_mul_eq_mul_div]
      push_cast
      rfl

/-- A larger ratio is not rounded to fewer units of a place. -/
theorem unitsOf_mono (exponent : Int) (positive : 0 < denominator) (positive' : 0 < denominator')
    (le : (numerator : ℚ) / denominator ≤ numerator' / denominator') :
    unitsOf numerator denominator exponent ≤ unitsOf numerator' denominator' exponent := by
  obtain ⟨above, below, filled, same, ratio⟩ := exists_unitsOf numerator exponent positive
  obtain ⟨above', below', filled', same', ratio'⟩ := exists_unitsOf numerator' exponent positive'
  rw [same, same']
  apply roundDiv_mono filled filled'
  rw [ratio, ratio']
  exact div_le_div_of_nonneg_right le (zpow_pos two_pos exponent).le

theorem roundDiv_one (quotient : Nat) : roundDiv quotient 1 = quotient := by
  simp [roundDiv, Nat.mod_one]

/-- A ratio of at most so many units is rounded to at most so many. -/
theorem unitsOf_le {bound : Nat} (positive : 0 < denominator)
    (le : (numerator : ℚ) / denominator ≤ bound * 2 ^ exponent) :
    unitsOf numerator denominator exponent ≤ bound := by
  obtain ⟨above, below, filled, same, ratio⟩ := exists_unitsOf numerator exponent positive
  rw [same, ← roundDiv_one bound]
  apply roundDiv_mono filled one_pos
  rw [ratio, div_le_iff₀ (zpow_pos two_pos exponent), Nat.cast_one, div_one]
  exact le

/-- A ratio of at least so many units of a place is not rounded to fewer. -/
theorem le_unitsOf {bound : Nat} (positive : 0 < denominator)
    (le : bound * 2 ^ exponent ≤ (numerator : ℚ) / denominator) :
    bound ≤ unitsOf numerator denominator exponent := by
  obtain ⟨above, below, filled, same, ratio⟩ := exists_unitsOf numerator exponent positive
  rw [same, ← roundDiv_one bound]
  apply roundDiv_mono one_pos filled
  rw [ratio, le_div_iff₀ (zpow_pos two_pos exponent), Nat.cast_one, div_one]
  exact le

/-! ## The last place -/

theorem least_le_lastPlace (numerator denominator : Nat) :
    leastExponent ≤ lastPlace numerator denominator :=
  le_max_right _ _

/-- A ratio has at most 53 binary digits down to its last place, and no fewer unless this is the last
place of all. -/
theorem ratio_lt_last (positive : 0 < numerator) (positive' : 0 < denominator) :
    (numerator : ℚ) / denominator < 2 ^ (lastPlace numerator denominator + 53) ∧
      (lastPlace numerator denominator ≠ leastExponent →
        2 ^ (lastPlace numerator denominator + 52) ≤ (numerator : ℚ) / denominator) := by
  obtain ⟨leading, place, above, below⟩ := exists_leading positive positive'
  have reach : leading - 52 ≤ lastPlace numerator denominator := place ▸ le_max_left _ _
  constructor
  · exact below.trans_le (zpow_le_zpow_right₀ one_le_two (by omega))
  · intro other
    have same : lastPlace numerator denominator + 52 = leading := by
      rcases max_choice (leading - 52) leastExponent with known | known
      · omega
      · exact (other (place.trans known)).elim
    rwa [same]

/-- A larger ratio is not rounded at a lower place. -/
theorem lastPlace_mono (positive : 0 < numerator) (positive' : 0 < denominator)
    (positive'' : 0 < denominator')
    (le : (numerator : ℚ) / denominator ≤ numerator' / denominator') :
    lastPlace numerator denominator ≤ lastPlace numerator' denominator' := by
  have ratio : (0 : ℚ) < numerator' / denominator' :=
    (div_pos (Nat.cast_pos.mpr positive) (Nat.cast_pos.mpr positive')).trans_le le
  have filled : 0 < numerator' := by
    rw [Nat.pos_iff_ne_zero]
    rintro rfl
    simp at ratio
  by_cases least : lastPlace numerator denominator = leastExponent
  · rw [least]
    exact least_le_lastPlace _ _
  · have reached := (ratio_lt_last positive positive').2 least
    have within := (ratio_lt_last filled positive'').1
    have less := (zpow_lt_zpow_iff_right₀ (one_lt_two (α := ℚ))).mp ((reached.trans le).trans_lt within)
    omega

/-! ## Rounded ratios -/

/-- A ratio rounded to its last place, however large. -/
def rounded (numerator denominator : Nat) : ℚ :=
  unitsOf numerator denominator (lastPlace numerator denominator) *
    2 ^ lastPlace numerator denominator

theorem rounded_nonneg : 0 ≤ rounded numerator denominator :=
  mul_nonneg (Nat.cast_nonneg _) (zpow_pos two_pos _).le

theorem rounded_zero : rounded 0 denominator = 0 := by
  have none : ∀ exponent, unitsOf 0 denominator exponent = 0 := by
    intro exponent
    cases exponent <;> simp [unitsOf, roundDiv]
  rw [rounded, none, Nat.cast_zero, zero_mul]

/-- At its last place a ratio has no more units than a significand can hold, or one more. -/
theorem units_le (positive : 0 < numerator) (positive' : 0 < denominator) :
    unitsOf numerator denominator (lastPlace numerator denominator) ≤ 2 ^ 53 := by
  apply unitsOf_le positive'
  have within := (ratio_lt_last positive positive').1
  rw [zpow_add₀ two_ne_zero, mul_comm] at within
  exact_mod_cast within.le

/-- At its last place a ratio fills the significand, unless that is the last place there is. -/
theorem le_units (positive : 0 < numerator) (positive' : 0 < denominator)
    (other : lastPlace numerator denominator ≠ leastExponent) :
    2 ^ 52 ≤ unitsOf numerator denominator (lastPlace numerator denominator) := by
  apply le_unitsOf positive'
  have reached := (ratio_lt_last positive positive').2 other
  rw [zpow_add₀ two_ne_zero, mul_comm] at reached
  exact_mod_cast reached

/-- A larger ratio is not rounded to a smaller number. -/
theorem rounded_mono (positive : 0 < denominator) (positive' : 0 < denominator')
    (le : (numerator : ℚ) / denominator ≤ numerator' / denominator') :
    rounded numerator denominator ≤ rounded numerator' denominator' := by
  rcases Nat.eq_zero_or_pos numerator with rfl | filled
  · rw [rounded_zero]
    exact rounded_nonneg
  have filled' : 0 < numerator' := by
    rw [Nat.pos_iff_ne_zero]
    rintro rfl
    rw [Nat.cast_zero, zero_div] at le
    exact absurd le (not_le.mpr (div_pos (Nat.cast_pos.mpr filled) (Nat.cast_pos.mpr positive)))
  rcases (lastPlace_mono filled positive positive' le).eq_or_lt with same | less
  · rw [rounded, rounded, same]
    exact mul_le_mul_of_nonneg_right (Nat.cast_le.mpr (unitsOf_mono _ positive positive' le))
      (zpow_pos two_pos _).le
  · -- The last place is higher, so that the other ratio fills all 53 digits above the first one.
    have other : lastPlace numerator' denominator' ≠ leastExponent := by
      have least := least_le_lastPlace numerator denominator
      omega
    calc
      rounded numerator denominator ≤ 2 ^ 53 * 2 ^ lastPlace numerator denominator :=
        mul_le_mul_of_nonneg_right (by exact_mod_cast units_le filled positive)
          (zpow_pos two_pos _).le
      _ = 2 ^ (lastPlace numerator denominator + 53) := by
        rw [zpow_add₀ two_ne_zero, mul_comm]
        norm_cast
      _ ≤ 2 ^ (lastPlace numerator' denominator' + 52) :=
        zpow_le_zpow_right₀ one_le_two (by omega)
      _ = 2 ^ 52 * 2 ^ lastPlace numerator' denominator' := by
        rw [zpow_add₀ two_ne_zero, mul_comm]
        norm_cast
      _ ≤ rounded numerator' denominator' :=
        mul_le_mul_of_nonneg_right (by exact_mod_cast le_units filled' positive' other)
          (zpow_pos two_pos _).le

/-! ## The range of the doubles -/

/-- Where a number that is not negative stands among the doubles: with infinity from the end of their
range. -/
def capped (q : ℚ) : ℕ ×ₗ ℚ :=
  if q < 2 ^ 1024 then toLex (1, q) else toLex (2, 0)

/-- A larger number does not stand further down among the doubles. -/
theorem capped_mono : Monotone capped := by
  intro q r le
  rw [capped, capped]
  split_ifs with small small' small'
  · exact Prod.Lex.toLex_le_toLex.mpr (.inr ⟨rfl, le⟩)
  · exact Prod.Lex.toLex_le_toLex.mpr (.inl Nat.one_lt_two)
  · exact (small (le.trans_lt small')).elim
  · exact le_refl _

/-- A number of at most 53 binary digits above a low place is in the range. -/
theorem in_range {q : ℚ} (few : q < 2 ^ 53) (low : exponent ≤ 971) : q * 2 ^ exponent < 2 ^ 1024 := by
  have place : (2 : ℚ) ^ exponent ≤ 2 ^ (971 : Int) := zpow_le_zpow_right₀ one_le_two low
  calc
    q * 2 ^ exponent < 2 ^ 53 * 2 ^ exponent :=
      mul_lt_mul_of_pos_right few (zpow_pos two_pos exponent)
    _ ≤ 2 ^ 53 * 2 ^ (971 : Int) := mul_le_mul_of_nonneg_left place (pow_nonneg zero_le_two 53)
    _ = 2 ^ 1024 := by
      rw [← zpow_natCast, ← zpow_natCast, ← zpow_add₀ two_ne_zero]
      norm_num only

/-- A number that fills its digits above a high place is beyond the range. -/
theorem beyond_range {q : ℚ} (digits : Nat) (full : 2 ^ digits ≤ q) (high : 1024 ≤ digits + exponent) :
    ¬q * 2 ^ exponent < 2 ^ 1024 := by
  rw [not_lt, ← zpow_natCast]
  calc
    (2 : ℚ) ^ ((1024 : Nat) : Int) ≤ 2 ^ (digits + exponent : Int) :=
      zpow_le_zpow_right₀ one_le_two high
    _ = 2 ^ digits * 2 ^ exponent := by rw [zpow_add₀ two_ne_zero, zpow_natCast]
    _ ≤ q * 2 ^ exponent := mul_le_mul_of_nonneg_right full (zpow_pos two_pos exponent).le

theorem key_finite {significand : Nat} :
    (finite false significand exponent).key = toLex (1, (significand : ℚ) * 2 ^ exponent) := by
  rw [key, value_finite]
  rfl

/-- Packing units of a place makes the double of their number, or infinity from the end of the
range. -/
theorem key_pack {significand : Nat} (le : significand ≤ 2 ^ 53)
    (full : exponent ≠ leastExponent → 2 ^ 52 ≤ significand) :
    (pack false significand exponent).key = capped (significand * 2 ^ exponent) := by
  rw [pack, Nat.pow_eq, Nat.pow_eq]
  split_ifs with carried far far
  · rw [capped, if_neg (beyond_range 53 (by exact_mod_cast carried.ge) (by omega))]
    rfl
  · have same : (significand : ℚ) * 2 ^ exponent = (2 ^ 52 : Nat) * 2 ^ (exponent + 1) := by
      rw [carried, zpow_add_one₀ two_ne_zero]
      push_cast
      ring
    rw [key_finite, same, capped, if_pos]
    exact in_range (by norm_num) (by omega)
  · have other : exponent ≠ leastExponent := by
      rw [leastExponent]
      omega
    rw [capped, if_neg (beyond_range 52 (by exact_mod_cast full other) (by omega))]
    rfl
  · rw [key_finite, capped, if_pos]
    exact in_range (by exact_mod_cast lt_of_le_of_ne le carried) (by omega)

theorem ofRatio_zero (negative : Bool) : ofRatio negative 0 denominator = zero negative :=
  if_pos rfl

theorem ofRatio_pos (negative : Bool) (filled : 0 < numerator) :
    ofRatio negative numerator denominator =
      pack negative (unitsOf numerator denominator (lastPlace numerator denominator))
        (lastPlace numerator denominator) :=
  if_neg filled.ne'

theorem key_zero (negative : Bool) : (zero negative).key = toLex (1, 0) := by
  rw [zero, key, value_finite, Nat.cast_zero, zero_mul]
  cases negative with
  | false => rfl
  | true => rw [signed, if_pos rfl, neg_zero]; rfl

/-- A ratio is rounded to the double that stands where its rounded number does. -/
theorem key_ofRatio (numerator : Nat) (positive : 0 < denominator) :
    (ofRatio false numerator denominator).key = capped (rounded numerator denominator) := by
  rcases Nat.eq_zero_or_pos numerator with rfl | filled
  · rw [ofRatio_zero, key_zero, rounded_zero, capped, if_pos (by positivity)]
  · rw [ofRatio_pos false filled]
    exact key_pack (units_le filled positive) (le_units filled positive)

/-- **Rounding keeps the order.** A larger ratio is rounded to no smaller double. -/
theorem ofRatio_mono (positive : 0 < denominator) (positive' : 0 < denominator')
    (le : (numerator : ℚ) / denominator ≤ numerator' / denominator') :
    (ofRatio false numerator denominator).key ≤ (ofRatio false numerator' denominator').key := by
  rw [key_ofRatio _ positive, key_ofRatio _ positive']
  exact capped_mono (rounded_mono positive positive' le)

/-- Ratios that are the same number are rounded to the same double. -/
theorem ofRatio_congr (negative : Bool) (positive : 0 < denominator) (positive' : 0 < denominator')
    (same : (numerator : ℚ) / denominator = numerator' / denominator') :
    ofRatio negative numerator denominator = ofRatio negative numerator' denominator' := by
  rcases Nat.eq_zero_or_pos numerator with rfl | filled
  · have none : numerator' = 0 := by
      rw [Nat.cast_zero, zero_div, eq_comm, div_eq_zero_iff, Nat.cast_eq_zero, Nat.cast_eq_zero]
        at same
      exact same.resolve_right positive'.ne'
    rw [none, ofRatio_zero, ofRatio_zero]
  · have filled' : 0 < numerator' := by
      rw [Nat.pos_iff_ne_zero]
      rintro rfl
      rw [Nat.cast_zero, zero_div] at same
      exact (div_pos (Nat.cast_pos.mpr filled) (Nat.cast_pos.mpr positive)).ne' same
    have place : lastPlace numerator denominator = lastPlace numerator' denominator' :=
      le_antisymm (lastPlace_mono filled positive positive' same.le)
        (lastPlace_mono filled' positive' positive same.ge)
    have units : ∀ exponent, unitsOf numerator denominator exponent =
        unitsOf numerator' denominator' exponent := fun exponent =>
      le_antisymm (unitsOf_mono exponent positive positive' same.le)
        (unitsOf_mono exponent positive' positive same.ge)
    rw [ofRatio_pos negative filled, ofRatio_pos negative filled', place, units]

/-! ## Signs -/

variable {x y : Double}

theorem pack_true (significand : Nat) (exponent : Int) :
    pack true significand exponent = neg (pack false significand exponent) := by
  unfold pack
  split_ifs <;> rfl

/-- A negative ratio is rounded like a positive one. -/
theorem ofRatio_true : ofRatio true numerator denominator = neg (ofRatio false numerator denominator) := by
  rcases Nat.eq_zero_or_pos numerator with rfl | filled
  · rw [ofRatio_zero, ofRatio_zero]
    rfl
  · rw [ofRatio_pos true filled, ofRatio_pos false filled, pack_true]

theorem kind_neg_add (number : x.isNaN = false) : (neg x).kind + x.kind = 2 := by
  cases x with
  | nan => cases number
  | infinite negative => cases negative <;> rfl
  | finite => rfl

/-- The opposite doubles have the opposite order. -/
theorem key_neg_le (number : x.isNaN = false) (number' : y.isNaN = false) (le : x.key ≤ y.key) :
    (neg y).key ≤ (neg x).key := by
  have kinds := kind_neg_add number
  have kinds' := kind_neg_add number'
  rw [key, key, Prod.Lex.toLex_le_toLex] at le ⊢
  rw [value_neg, value_neg]
  rcases le with less | ⟨same, le⟩
  · exact .inl (by dsimp only at less ⊢; omega)
  · exact .inr ⟨by dsimp only at same ⊢; omega, neg_le_neg le⟩

/-- Whether a double is neither negative nor undefined. -/
inductive IsMagnitude : Double → Prop where
  | infinite : IsMagnitude (.infinite false)
  | finite (significand : Nat) (exponent : Int) : IsMagnitude (.finite false significand exponent)

theorem IsMagnitude.isNaN (magnitude : IsMagnitude x) : x.isNaN = false := by
  cases magnitude <;> rfl

/-- A double that is not negative does not stand below zero. -/
theorem IsMagnitude.zero_le (magnitude : IsMagnitude x) : (zero false).key ≤ x.key := by
  cases magnitude with
  | infinite =>
      have less : (zero false).kind < (Double.infinite false).kind := Nat.one_lt_two
      exact (key_lt_of_kind_lt less).le
  | finite significand exponent =>
      rw [key_zero, key_finite]
      exact Prod.Lex.toLex_le_toLex.mpr
        (.inr ⟨rfl, mul_nonneg (Nat.cast_nonneg _) (zpow_pos two_pos _).le⟩)

theorem pack_isMagnitude (significand : Nat) (exponent : Int) :
    IsMagnitude (pack false significand exponent) := by
  rw [pack]
  split_ifs <;> constructor

theorem ofRatio_isMagnitude (numerator denominator : Nat) :
    IsMagnitude (ofRatio false numerator denominator) := by
  rw [ofRatio]
  split
  · exact .finite 0 leastExponent
  · exact pack_isMagnitude _ _

/-! ## Sums -/

/-- A number of units of a place, as a ratio. -/
theorem exists_ofScaled (significand : Nat) (exponent : Int) :
    ∃ above below : Nat, 0 < below ∧ (above : ℚ) / below = significand * 2 ^ exponent ∧
      ∀ negative, ofScaled negative significand exponent = ofRatio negative above below := by
  cases exponent with
  | ofNat power =>
      refine ⟨significand * 2 ^ power, 1, one_pos, ?_, fun _ => rfl⟩
      rw [Int.ofNat_eq_natCast, zpow_natCast]
      push_cast
      exact div_one _
  | negSucc power =>
      refine ⟨significand, 2 ^ (power + 1), Nat.two_pow_pos _, ?_, fun _ => rfl⟩
      rw [zpow_negSucc, ← div_eq_mul_inv]
      push_cast
      rfl

theorem ofScaled_isMagnitude (significand : Nat) (exponent : Int) :
    IsMagnitude (ofScaled false significand exponent) := by
  obtain ⟨above, below, -, -, same⟩ := exists_ofScaled significand exponent
  rw [same]
  exact ofRatio_isMagnitude above below

/-- More units of a place are not rounded to a smaller double. -/
theorem ofScaled_mono {significand significand' : Nat} (exponent : Int)
    (le : significand ≤ significand') :
    (ofScaled false significand exponent).key ≤ (ofScaled false significand' exponent).key := by
  obtain ⟨above, below, positive, ratio, same⟩ := exists_ofScaled significand exponent
  obtain ⟨above', below', positive', ratio', same'⟩ := exists_ofScaled significand' exponent
  rw [same, same']
  apply ofRatio_mono positive positive'
  rw [ratio, ratio']
  exact mul_le_mul_of_nonneg_right (Nat.cast_le.mpr le) (zpow_pos two_pos exponent).le

theorem ofScaled_true (significand : Nat) (exponent : Int) :
    ofScaled true significand exponent = neg (ofScaled false significand exponent) := by
  obtain ⟨above, below, -, -, same⟩ := exists_ofScaled significand exponent
  rw [same, same, ofRatio_true]

/-- A signed number of units of a place, rounded. -/
def ofUnits (units place : Int) : Double :=
  ofScaled (decide (units < 0)) units.natAbs place

variable {units units' : Int}

theorem ofUnits_of_neg (place : Int) (less : units < 0) :
    ofUnits units place = neg (ofScaled false units.natAbs place) := by
  rw [ofUnits, decide_eq_true less, ofScaled_true]

theorem ofUnits_of_nonneg (place : Int) (nonnegative : 0 ≤ units) :
    ofUnits units place = ofScaled false units.natAbs place := by
  rw [ofUnits, decide_eq_false (not_lt.mpr nonnegative)]

/-- More units of a place, with their sign, are not rounded to a smaller double. -/
theorem ofUnits_mono (place : Int) (le : units ≤ units') :
    (ofUnits units place).key ≤ (ofUnits units' place).key := by
  rcases lt_or_ge units' 0 with less' | nonnegative'
  · rw [ofUnits_of_neg place (le.trans_lt less'), ofUnits_of_neg place less']
    exact key_neg_le (ofScaled_isMagnitude _ _).isNaN (ofScaled_isMagnitude _ _).isNaN
      (ofScaled_mono place (by omega))
  · rcases lt_or_ge units 0 with less | nonnegative
    · rw [ofUnits_of_neg place less, ofUnits_of_nonneg place nonnegative']
      have lowered := key_neg_le (x := zero false) rfl (ofScaled_isMagnitude _ _).isNaN
        (ofScaled_isMagnitude units.natAbs place).zero_le
      rw [show neg (zero false) = zero true from rfl, key_zero, ← key_zero false] at lowered
      exact lowered.trans (ofScaled_isMagnitude _ _).zero_le
    · rw [ofUnits_of_nonneg place nonnegative, ofUnits_of_nonneg place nonnegative']
      exact ofScaled_mono place (by omega)

/-- No units of a place are zero. -/
theorem ofUnits_zero (place : Int) : ofUnits 0 place = zero false := by
  cases place with
  | ofNat power =>
      change ofRatio false (0 * 2 ^ power) 1 = zero false
      rw [Nat.zero_mul, ofRatio_zero]
  | negSucc power =>
      change ofRatio false 0 (2 ^ (power + 1)) = zero false
      exact ofRatio_zero false

/-- The sum of two finite doubles stands where their units of the lower place, added up and rounded,
do. -/
theorem key_add {negative negative' : Bool} {significand significand' : Nat}
    {exponent exponent' : Int} :
    (add (.finite negative significand exponent) (.finite negative' significand' exponent')).key =
      (ofUnits (unitsAt negative significand exponent (min exponent exponent') +
        unitsAt negative' significand' exponent' (min exponent exponent'))
          (min exponent exponent')).key := by
  rw [add]
  generalize unitsAt negative significand exponent (min exponent exponent') +
    unitsAt negative' significand' exponent' (min exponent exponent') = sum
  split_ifs with none
  · rw [none, ofUnits_zero, key_zero, key_zero]
  · rfl

/-- **Intervals.** A double less a finite magnitude stands nowhere above the double with it added. -/
theorem sub_le_add (x : Double) (significand : Nat) (exponent : Int) :
    (x.sub (.finite false significand exponent)).key ≤
      (x.add (.finite false significand exponent)).key := by
  cases x with
  | nan => exact le_refl _
  | infinite negative => exact le_refl _
  | finite negative significand' exponent' =>
      rw [sub, neg, key_add, key_add]
      apply ofUnits_mono
      simp only [unitsAt, Bool.not_false, Bool.false_eq_true, if_true, if_false]
      omega

/-! ## Powers of ten -/

theorem key_lt_infinite (finite : x.kind = 1) : x.key < (infinite false).key :=
  key_lt_of_kind_lt (finite.trans_lt Nat.one_lt_two)

/-- A double that is not negative and does not stand below infinity is infinite. -/
theorem IsMagnitude.eq_infinite (magnitude : IsMagnitude x)
    (above : (Double.infinite false).key ≤ x.key) : x = .infinite false := by
  cases magnitude with
  | infinite => rfl
  | finite significand exponent => exact absurd above (not_le.mpr (key_lt_infinite rfl))

/-- A ratio beyond the range of the doubles is infinite. -/
theorem ofRatio_eq_infinite (negative : Bool) (positive : 0 < denominator)
    (beyond : 2 ^ 1024 ≤ (numerator : ℚ) / denominator) :
    ofRatio negative numerator denominator = .infinite negative := by
  have least : ofRatio false (2 ^ 1024) 1 = .infinite false := by decide +kernel
  have le : ((2 ^ 1024 : Nat) : ℚ) / (1 : Nat) ≤ numerator / denominator := by
    rw [Nat.cast_one, div_one]
    exact_mod_cast beyond
  have above := ofRatio_mono one_pos positive le
  rw [least] at above
  have same := (ofRatio_isMagnitude numerator denominator).eq_infinite above
  cases negative with
  | false => exact same
  | true => rw [ofRatio_true, same]; rfl

/-- A decimal with more than 309 places in front of the point is infinite. -/
theorem ofDecimal_eq_infinite {digits : Nat} {place : Int} (negative : Bool) (filled : digits ≠ 0)
    (high : 309 ≤ place) : ofDecimal negative digits place = .infinite negative := by
  unfold ofDecimal
  rw [if_neg filled]
  split_ifs with far near
  · rfl
  · omega
  · cases place with
    | negSucc power => omega
    | ofNat power =>
        apply ofRatio_eq_infinite negative one_pos
        have least : (2 : ℚ) ^ 1024 ≤ 10 ^ 309 := by
          exact_mod_cast (show 2 ^ 1024 ≤ 10 ^ 309 by decide +kernel)
        have power_le : (10 : ℚ) ^ 309 ≤ 10 ^ power :=
          pow_le_pow_right₀ (by norm_num) (Int.ofNat_le.mp high)
        have one_le : (1 : ℚ) ≤ digits := by exact_mod_cast Nat.one_le_iff_ne_zero.mpr filled
        rw [Nat.pow_eq, Nat.cast_one, div_one]
        push_cast
        exact (least.trans power_le).trans (le_mul_of_one_le_left (by positivity) one_le)

/-- A ratio up to the highest power of ten in the range is finite. -/
theorem exists_finite_of_le (positive : 0 < denominator)
    (le : (numerator : ℚ) / denominator ≤ 10 ^ 308) :
    ∃ significand exponent, ofRatio false numerator denominator = .finite false significand exponent ∧
      (significand : ℚ) * 2 ^ exponent < 2 ^ 1024 := by
  have most : (ofRatio false (10 ^ 308) 1).kind = 1 := by decide +kernel
  have le' : (numerator : ℚ) / denominator ≤ (10 ^ 308 : Nat) / (1 : Nat) := by
    rw [Nat.cast_one, div_one]
    exact_mod_cast le
  have below := ofRatio_mono positive one_pos le'
  have known := key_ofRatio numerator positive
  have magnitude := ofRatio_isMagnitude numerator denominator
  generalize ofRatio false numerator denominator = x at *
  cases magnitude with
  | infinite => exact absurd below (not_le.mpr (key_lt_infinite most))
  | finite significand exponent =>
      refine ⟨significand, exponent, rfl, ?_⟩
      rw [key_finite, capped] at known
      split at known
      · rename_i small
        rwa [(Prod.mk.inj (toLex.injective known)).2]
      · cases (Prod.mk.inj (toLex.injective known)).1

/-- The unit of a place up to the 309th in front of the point is a finite double. -/
theorem exists_finite_power {place : Int} (low : place ≤ 308) :
    ∃ significand exponent, ofDecimal false 1 place = .finite false significand exponent ∧
      (significand : ℚ) * 2 ^ exponent < 2 ^ 1024 := by
  unfold ofDecimal
  rw [if_neg one_ne_zero, if_neg (by omega)]
  split
  · refine ⟨0, leastExponent, rfl, ?_⟩
    rw [Nat.cast_zero, zero_mul]
    positivity
  · cases place with
    | ofNat power =>
        apply exists_finite_of_le one_pos
        rw [Nat.one_mul, Nat.pow_eq, Nat.cast_one, div_one]
        push_cast
        exact pow_le_pow_right₀ (by norm_num) (Int.ofNat_le.mp low)
    | negSucc power =>
        apply exists_finite_of_le (Nat.pow_pos (by decide))
        rw [Nat.cast_one]
        have one_le : (1 : ℚ) ≤ (Nat.pow 10 (power + 1) : Nat) := by
          exact_mod_cast Nat.one_le_pow (power + 1) 10 (by decide)
        exact (div_le_self zero_le_one one_le).trans (one_le_pow₀ (by norm_num))

theorem IsMagnitude.half (magnitude : IsMagnitude x) : IsMagnitude x.half := by
  cases magnitude with
  | infinite => exact .infinite
  | finite significand exponent => exact ofScaled_isMagnitude significand _

/-- A finite double that is not negative has a significand and an exponent without a sign. -/
theorem IsMagnitude.exists_finite (magnitude : IsMagnitude x) (finite : x.kind = 1) :
    ∃ significand exponent, x = .finite false significand exponent := by
  cases magnitude with
  | infinite => cases finite
  | finite significand exponent => exact ⟨significand, exponent, rfl⟩

/-- Half a power of ten in the range of the doubles is a finite number. -/
theorem exists_finite_half {place : Int} (low : place ≤ 308) :
    ∃ significand exponent, (powerOfTen place).half = .finite false significand exponent := by
  obtain ⟨significand, exponent, same, bounded⟩ := exists_finite_power low
  rw [powerOfTen]
  split
  · rename_i special
    have magnitude : IsMagnitude (ofDecimal false 1 place).next.half := by
      rw [same]
      exact (pack_isMagnitude (significand + 1) exponent).half
    apply magnitude.exists_finite
    rw [Bool.or_eq_true, decide_eq_true_eq, decide_eq_true_eq] at special
    rcases special with rfl | rfl
    · decide +kernel
    · decide +kernel
  · rw [same, half]
    apply (ofScaled_isMagnitude significand (exponent - 1)).exists_finite
    have halved : (significand : ℚ) * 2 ^ (exponent - 1) < 2 ^ 1023 := by
      rw [zpow_sub_one₀ two_ne_zero, ← mul_assoc, ← div_eq_mul_inv, div_lt_iff₀ two_pos]
      exact bounded.trans_eq (pow_succ 2 1023)
    exact (ofScaled_rounds halved).finite

/-- Half a power of ten beyond the range is infinite. -/
theorem half_powerOfTen {place : Int} (high : 309 ≤ place) :
    (powerOfTen place).half = .infinite false := by
  have usual : ¬(decide (place = 23) || decide (place = 210)) = true := by
    rw [Bool.or_eq_true, decide_eq_true_eq, decide_eq_true_eq]
    omega
  rw [powerOfTen, if_neg usual, ofDecimal_eq_infinite false one_ne_zero high]
  rfl

end Double

end TableSearch
