import TableSearch.Proofs.Number.Digits
import TableSearch.Proofs.Number.Rounding
import TableSearch.Proofs.Number.Scan

/-! # Plain decimals

A plain decimal is a sign, at most fifteen digits and a point among them.  The number at the start
of its text is the whole text (`TableSearch.PlainDecimal.scan_text`), and the values that this
number may stand for begin half a unit of the last digit below the value of the decimal, up to an
error that is small against both (`TableSearch.PlainDecimal.scan_near`).

Two decimals have lower ends that lie apart by half a unit of the finer one or more, if they lie
apart at all.  That is more than both errors, so that the doubles are ordered like the lower ends
(`TableSearch.PlainDecimal.order_low`).
-/

namespace TableSearch

/-- A decimal number of at most fifteen digits, as it is typed. -/
structure PlainDecimal where
  negative : Bool
  whole : Text
  pointed : Bool
  fraction : Text
  digits : ∀ c ∈ whole ++ fraction, isDigit c = true
  filled : whole ++ fraction ≠ []
  short : (whole ++ fraction).length ≤ 15
  unpointed : pointed = false → fraction = []

namespace PlainDecimal

/-- The text of a decimal without its sign. -/
def body (a : PlainDecimal) : Text :=
  a.whole ++ if a.pointed then '.' :: a.fraction else []

/-- The text of a decimal. -/
def text (a : PlainDecimal) : Text :=
  if a.negative then '-' :: a.body else a.body

/-- All digits of a decimal as a number. -/
def significand (a : PlainDecimal) : Nat :=
  natOfDigits (a.whole ++ a.fraction)

/-- The unit of the last digit. -/
def unit (a : PlainDecimal) : ℚ :=
  1 / 10 ^ a.fraction.length

/-- The value of a decimal without its sign. -/
def magnitude (a : PlainDecimal) : ℚ :=
  a.significand / 10 ^ a.fraction.length

/-- The value of a decimal. -/
def value (a : PlainDecimal) : ℚ :=
  Double.signed a.negative a.magnitude

/-- The least number that a decimal may stand for: half a unit of its last digit below its value. -/
def low (a : PlainDecimal) : ℚ :=
  a.value - a.unit / 2

variable {a b : PlainDecimal}

/-! ## The number that a decimal is -/

theorem significand_lt (a : PlainDecimal) : a.significand < 10 ^ 15 :=
  (natOfDigits_lt a.digits).trans_le (Nat.pow_le_pow_right (by decide) a.short)

/-- The digits of a plain decimal, as a number, are far inside the range of the doubles. -/
theorem significand_bounded (a : PlainDecimal) : (a.significand : ℚ) < 2 ^ 1023 := by
  have small : (a.significand : ℚ) < 10 ^ 15 := by exact_mod_cast a.significand_lt
  calc
    (a.significand : ℚ) < 10 ^ 15 := small
    _ ≤ 2 ^ 50 := by norm_num
    _ ≤ 2 ^ 1023 := pow_le_pow_right₀ one_le_two (by decide)

theorem length_fraction_le (a : PlainDecimal) : a.fraction.length ≤ 15 := by
  have short := a.short
  rw [List.length_append] at short
  omega

/-- A plain decimal begins, behind its sign, with a digit or with its point. -/
theorem body_eq_cons (a : PlainDecimal) :
    ∃ c rest, a.body = c :: rest ∧ (isDigit c = true ∨ c = '.') := by
  cases begun : a.whole with
  | nil =>
      cases pointed : a.pointed with
      | false =>
          have filled := a.filled
          rw [begun, a.unpointed pointed] at filled
          exact (filled rfl).elim
      | true =>
          refine ⟨'.', a.fraction, ?_, .inr rfl⟩
          rw [body, begun, pointed]
          rfl
  | cons c rest =>
      refine ⟨c, rest ++ if a.pointed then '.' :: a.fraction else [], ?_, .inl (a.digits c ?_)⟩
      · rw [body, begun]
        rfl
      · rw [begun]
        exact List.mem_cons_self

/-- A plain decimal has only one sign. -/
theorem isDashed_body (a : PlainDecimal) : a.body.head? ≠ some '-' := by
  obtain ⟨c, rest, known, kind⟩ := a.body_eq_cons
  rw [known]
  rintro ⟨⟩
  rcases kind with digit | point
  · exact absurd digit (by decide)
  · exact absurd point (by decide)

/-- The parts of a decimal. -/
def numeral (a : PlainDecimal) : FoundNumber.Numeral :=
  ⟨a.whole, a.pointed, a.fraction, none⟩

/-- The whole of a plain decimal behind its sign is a mantissa. -/
theorem scanMantissa_body (a : PlainDecimal) :
    FoundNumber.scanMantissa a.body = some (a.numeral, []) := by
  obtain ⟨all, all'⟩ := List.forall_mem_append.mp a.digits
  have filled := a.filled
  cases pointed : a.pointed with
  | false =>
      have none := a.unpointed pointed
      have typed : a.body = a.whole := by
        rw [body, pointed, if_neg Bool.false_ne_true, List.append_nil]
      have ends : a.whole.dropWhile isDigit = [] := List.dropWhile_eq_nil_iff.mpr all
      rw [none, List.append_nil] at filled
      rw [typed, FoundNumber.scanMantissa_of_plain (by rw [ends]; exact nofun), ends,
        List.takeWhile_eq_self_iff.mpr all, if_neg (by rwa [List.isEmpty_iff]), numeral, pointed, none]
  | true =>
      have typed : a.body = a.whole ++ '.' :: a.fraction := by
        rw [body, pointed, if_pos rfl]
      have point : ∀ c ∈ ('.' :: a.fraction).head?, isDigit c = false := by
        rintro c ⟨⟩
        decide
      rw [typed, FoundNumber.scanMantissa_of_pointed (dropWhile_append_of_ends all point),
        takeWhile_append_of_ends all point, List.takeWhile_eq_self_iff.mpr all',
        List.dropWhile_eq_nil_iff.mpr all', if_neg, numeral, pointed]
      rw [Bool.and_eq_true, List.isEmpty_iff, List.isEmpty_iff, ← List.append_eq_nil_iff]
      exact filled

/-- The whole of a plain decimal behind its sign is the number of its parts. -/
theorem scanUnsigned_body (a : PlainDecimal) (negative : Bool) (sign : Nat) :
    FoundNumber.scanUnsigned negative sign a.body =
      some (.ofNumeral negative a.numeral (sign + a.body.length)) := by
  have length : a.numeral.length = a.body.length := by
    rw [FoundNumber.Numeral.length, numeral, body]
    cases pointed : a.pointed with
    | false =>
        rw [a.unpointed pointed]
        simp only [Bool.false_eq_true, if_false, List.append_nil, List.length_nil, Nat.add_zero]
    | true =>
        simp only [if_true, List.length_append, List.length_cons]
        omega
  have scanned : FoundNumber.scanNumeral a.body = some a.numeral := by
    rw [FoundNumber.scanNumeral, a.scanMantissa_body]
  rw [FoundNumber.scanUnsigned_of_numeral negative sign scanned, length]

/-- The number at the start of a decimal is all of it. -/
theorem scan_text (a : PlainDecimal) :
    FoundNumber.scan a.text = some (.ofNumeral a.negative a.numeral a.text.length) := by
  rw [text]
  cases sign : a.negative with
  | false =>
      rw [if_neg Bool.false_ne_true, FoundNumber.scan_of_undashed a.isDashed_body, scanUnsigned_body,
        Nat.zero_add]
  | true =>
      rw [if_pos rfl]
      change FoundNumber.scanUnsigned true 1 a.body = _
      rw [scanUnsigned_body, List.length_cons, Nat.add_comm]

/-! ## The error of its lower end -/

/-- How far the parts of the lower end of a decimal reach: its value and half a unit, together if
they have the same sign. -/
def reach (a : PlainDecimal) : ℚ :=
  if a.negative then a.magnitude + a.unit / 2 else max a.magnitude (a.unit / 2)

theorem unit_pos (a : PlainDecimal) : 0 < a.unit :=
  one_div_pos.mpr (pow_pos (by norm_num) _)

theorem magnitude_nonneg (a : PlainDecimal) : 0 ≤ a.magnitude :=
  div_nonneg (Nat.cast_nonneg _) (pow_nonneg (by norm_num) _)

theorem unit_le (a : PlainDecimal) : a.unit ≤ 1 :=
  (div_le_one (pow_pos (by norm_num) _)).mpr (one_le_pow₀ (by norm_num))

theorem magnitude_lt (a : PlainDecimal) : a.magnitude < 10 ^ 15 := by
  have small : (a.significand : ℚ) < 10 ^ 15 := by exact_mod_cast a.significand_lt
  exact (div_le_self (Nat.cast_nonneg _) (one_le_pow₀ (by norm_num))).trans_lt small

theorem half_unit_le_reach (a : PlainDecimal) : a.unit / 2 ≤ a.reach := by
  rw [reach]
  split
  · linarith [a.magnitude_nonneg]
  · exact le_max_right _ _

/-- The lower end and its parts together reach twice as far as the longer of them. -/
theorem abs_low_add (a : PlainDecimal) :
    |a.low| + a.magnitude + a.unit / 2 = 2 * a.reach := by
  have positive := a.unit_pos
  have filled := a.magnitude_nonneg
  rw [low, value, Double.signed, reach]
  cases a.negative with
  | false =>
      simp only [Bool.false_eq_true, if_false]
      rcases le_total a.magnitude (a.unit / 2) with less | more
      · rw [max_eq_right less, abs_of_nonpos (by linarith)]
        linarith
      · rw [max_eq_left more, abs_of_nonneg (by linarith)]
        linarith
  | true =>
      simp only [if_true]
      rw [abs_of_nonpos (by linarith)]
      linarith

/-- Half a unit of the last of up to fifteen digits is rounded once. -/
theorem tolerance_checked : ∀ place : Nat, place < 16 →
    (Double.powerOfTen (-(place : Int))).half.kind = 1 ∧
      |(Double.powerOfTen (-(place : Int))).half.value - 1 / 10 ^ place / 2| ≤
        1 / 10 ^ place / 2 / 2 ^ 53 := by
  decide +kernel

/-- What the smallest doubles are rounded by is next to nothing against half a unit. -/
theorem leastError_le (a : PlainDecimal) : Double.leastError ≤ a.unit / 2 / 2 ^ 100 := by
  have least : Double.leastError ≤ 1 / 10 ^ 15 / 2 / 2 ^ 100 := by
    calc
      Double.leastError ≤ 2 ^ (-200 : Int) := zpow_le_zpow_right₀ one_le_two (by decide)
      _ ≤ 1 / 10 ^ 15 / 2 / 2 ^ 100 := by norm_num
  have unit : (1 : ℚ) / 10 ^ 15 ≤ a.unit :=
    one_div_pow_le_one_div_pow_of_le (by norm_num) a.length_fraction_le
  refine least.trans ?_
  gcongr

variable {x y z : ℚ}

/-- A difference near the lower end is not much longer than it. -/
theorem abs_sub_le_of_near (a : PlainDecimal) :
    |x - y| ≤ |a.low| + |x - a.value| + |y - a.unit / 2| := by
  have split : x - y = a.low + (x - a.value) - (y - a.unit / 2) := by
    rw [low]
    ring
  rw [split]
  exact (abs_sub _ _).trans (add_le_add_left (abs_add_le _ _) _)

theorem abs_value (a : PlainDecimal) : |a.value| = a.magnitude :=
  Double.abs_signed.trans (abs_of_nonneg a.magnitude_nonneg)

/-- The lower end of a decimal, with the errors of both of its parts, is far inside the range of the
doubles. -/
theorem bounded_of_errors (a : PlainDecimal)
    (first : |x - a.value| ≤ |a.value| / 2 ^ 53 + Double.leastError)
    (second : |y - a.unit / 2| ≤ a.unit / 2 / 2 ^ 53) : |x - y| < 2 ^ 1023 := by
  have range : (2 : ℚ) ^ 60 ≤ 2 ^ 1023 := pow_le_pow_right₀ one_le_two (by decide)
  have lowered := a.abs_sub_le_of_near (x := x) (y := y)
  have ends : |a.low| ≤ a.magnitude + a.unit / 2 := by
    rw [← abs_value, low]
    exact (abs_sub _ _).trans (add_le_add_right (abs_of_pos (half_pos a.unit_pos)).le _)
  have small := a.magnitude_lt
  have unit := a.unit_le
  have least := a.leastError_le
  rw [abs_value] at first
  refine lt_of_lt_of_le ?_ range
  norm_num at first second small least ⊢
  linarith

/-- The errors of the value, of half a unit and of their difference are small against their reach.
-/
theorem near_of_errors (a : PlainDecimal)
    (first : |x - a.value| ≤ |a.value| / 2 ^ 53 + Double.leastError)
    (second : |y - a.unit / 2| ≤ a.unit / 2 / 2 ^ 53)
    (third : |z - (x - y)| ≤ |x - y| / 2 ^ 53 + Double.leastError) :
    |z - a.low| ≤ 9 / (4 * 10 ^ 16) * a.reach := by
  have whole := a.abs_low_add
  have half := a.half_unit_le_reach
  have least := a.leastError_le
  have lowered := a.abs_sub_le_of_near (x := x) (y := y)
  have total : |z - a.low| ≤ |z - (x - y)| + |x - a.value| + |y - a.unit / 2| := by
    have split : z - a.low = z - (x - y) + (x - a.value) - (y - a.unit / 2) := by
      rw [low]
      ring
    rw [split]
    exact (abs_sub _ _).trans (add_le_add_left (abs_add_le _ _) _)
  have filled := a.magnitude_nonneg
  have positive := a.unit_pos
  have above := abs_nonneg a.low
  rw [abs_value] at first
  norm_num at first second third least ⊢
  linarith

/-- **The lower end.** The lower end of the number that a decimal is differs from the lower end of
the decimal by nine in forty quadrillions of what its parts reach, or less. -/
theorem scan_near (a : PlainDecimal) : ∃ number, FoundNumber.scan a.text = some number ∧
    number.length = a.text.length ∧ number.low.kind = 1 ∧
    |number.low.value - a.low| ≤ 9 / (4 * 10 ^ 16) * a.reach := by
  refine ⟨_, a.scan_text, rfl, ?_⟩
  have typed := Double.ofDecimal_rounds a.negative
    (a.length_fraction_le.trans (by decide)) a.significand_bounded
  obtain ⟨finite, near⟩ := tolerance_checked a.fraction.length
    (Nat.lt_succ_of_le a.length_fraction_le)
  have place : a.numeral.lastPlace = -(a.fraction.length : Int) := Int.zero_sub _
  rw [FoundNumber.ofNumeral, FoundNumber.Numeral.value, place]
  change Double.Rounds _ a.value at typed
  change |_ - a.unit / 2| ≤ a.unit / 2 / 2 ^ 53 at near
  change (Double.sub (.ofDecimal a.negative a.significand _) _).kind = 1 ∧
    |(Double.sub (.ofDecimal a.negative a.significand _) _).value - _| ≤ _
  generalize Double.ofDecimal a.negative a.significand (-(a.fraction.length : Int)) = x at *
  generalize (Double.powerOfTen (-(a.fraction.length : Int))).half = y at *
  have rounds := Double.sub_rounds typed.finite finite (a.bounded_of_errors typed.near near)
  exact ⟨rounds.finite, a.near_of_errors typed.near near rounds.near⟩

/-! ## Two decimals -/

section Grid

variable {first second step : Nat}

/-- Two places on a grid of halves that are not the same lie half a unit apart or more. -/
theorem half_le_abs {place : Int} (apart : place ≠ 0) : (1 : ℚ) / 2 ≤ |(place : ℚ) / 2| := by
  have whole : (1 : ℚ) ≤ |(place : ℚ)| := by exact_mod_cast Int.one_le_abs apart
  rw [abs_div, abs_of_pos (two_pos : (0 : ℚ) < 2)]
  linarith

/-- A multiple of a unit above ten to the fifteenth lies a whole unit above it. -/
theorem above_of_dvd (divides : step ∣ 10 ^ 15) (divides' : step ∣ first)
    (above : 10 ^ 15 < first) :
    10 ^ 15 + step ≤ first := by
  have gap := Nat.le_of_dvd (Nat.sub_pos_of_lt above) (Nat.dvd_sub divides' divides)
  omega

/-- The lower ends of two positive decimals, in units of the finer one. -/
theorem apart_of_positive (small : second < 10 ^ 15) (divides : step ∣ 10 ^ 15)
    (divides' : step ∣ first) (differs : 2 * (first : Int) - step - (2 * second - 1) ≠ 0) :
    9 / (4 * 10 ^ 16) * (max (first : ℚ) (step / 2) + max (second : ℚ) (1 / 2)) <
      |(first : ℚ) - step / 2 - (second - 1 / 2)| := by
  have gap : (1 : ℚ) / 2 ≤ |(first : ℚ) - step / 2 - (second - 1 / 2)| := by
    have halves := half_le_abs differs
    push_cast at halves
    convert halves using 2
    ring
  have step_le : (step : ℚ) ≤ 10 ^ 15 := by
    exact_mod_cast Nat.le_of_dvd (by positivity) divides
  have second_le : (second : ℚ) + 1 ≤ 10 ^ 15 := by exact_mod_cast small
  have second_max : max (second : ℚ) (1 / 2) ≤ 10 ^ 15 := max_le (by linarith) (by norm_num)
  by_cases above : 10 ^ 15 < first
  · -- The coarser decimal is beyond all finer ones, and its lower end with it.
    have beyond : (10 : ℚ) ^ 15 + step ≤ first := by
      exact_mod_cast above_of_dvd divides divides' above
    have filled : (0 : ℚ) ≤ step := Nat.cast_nonneg step
    rw [max_eq_left (show (step : ℚ) / 2 ≤ first by linarith)]
    refine lt_of_lt_of_le ?_ (le_abs_self _)
    generalize max (second : ℚ) (1 / 2) = second_reach at *
    norm_num at beyond second_le second_max ⊢
    linarith
  · have first_le : (first : ℚ) ≤ 10 ^ 15 := by exact_mod_cast not_lt.mp above
    have first_max : max (first : ℚ) (step / 2) ≤ 10 ^ 15 := max_le first_le (by linarith)
    refine lt_of_lt_of_le ?_ gap
    generalize max (second : ℚ) (1 / 2) = second_reach at *
    generalize max (first : ℚ) (step / 2) = first_reach at *
    norm_num at first_max second_max ⊢
    linarith

/-- The lower ends of two negative decimals, in units of the finer one. -/
theorem apart_of_negative (small : second < 10 ^ 15)
    (differs : 2 * (first : Int) + step - (2 * second + 1) ≠ 0) :
    9 / (4 * 10 ^ 16) * ((first : ℚ) + step / 2 + (second + 1 / 2)) <
      |(first : ℚ) + step / 2 - (second + 1 / 2)| := by
  have gap : (1 : ℚ) / 2 ≤ |(first : ℚ) + step / 2 - (second + 1 / 2)| := by
    have halves := half_le_abs differs
    push_cast at halves
    convert halves using 2
    ring
  have second_le : (second : ℚ) + 1 ≤ 10 ^ 15 := by exact_mod_cast small
  by_cases above : (10 : ℚ) ^ 15 + 1 < first + step / 2
  · refine lt_of_lt_of_le ?_ (le_abs_self _)
    norm_num at above second_le ⊢
    linarith
  · refine lt_of_lt_of_le ?_ gap
    norm_num at above second_le ⊢
    linarith

end Grid

/-- How many units of a finer decimal are one of a coarser decimal. -/
def stepTo (a b : PlainDecimal) : Nat :=
  10 ^ (b.fraction.length - a.fraction.length)

theorem magnitude_eq (a : PlainDecimal) : a.magnitude = a.significand * a.unit := by
  rw [magnitude, unit, mul_one_div]

/-- The unit of a coarser decimal is a number of units of the finer one. -/
theorem unit_eq_step (coarser : a.fraction.length ≤ b.fraction.length) :
    a.unit = a.stepTo b * b.unit := by
  have split : (10 : ℚ) ^ b.fraction.length = a.stepTo b * 10 ^ a.fraction.length := by
    rw [stepTo]
    push_cast
    rw [← pow_add, Nat.sub_add_cancel coarser]
  have filled : (a.stepTo b : ℚ) ≠ 0 := by
    rw [stepTo]
    positivity
  rw [unit, unit, split]
  field_simp

theorem magnitude_eq_step (coarser : a.fraction.length ≤ b.fraction.length) :
    a.magnitude = (a.significand * a.stepTo b : Nat) * b.unit := by
  rw [magnitude_eq, unit_eq_step coarser]
  push_cast
  ring

/-- Decimals of the same sign and of different values have different numbers of units of the finer
one. -/
theorem significand_ne (coarser : a.fraction.length ≤ b.fraction.length)
    (same : a.negative = b.negative) (apart : a.value ≠ b.value) :
    a.significand * a.stepTo b ≠ b.significand := by
  intro equal
  apply apart
  rw [value, value, same, magnitude_eq_step coarser, equal, ← magnitude_eq]

/-- The lower ends stand on different places of a grid of halves: on the same one only if the units
are the same, and then so are the digits. -/
theorem places_ne (coarser : a.fraction.length ≤ b.fraction.length)
    (differs : a.significand * a.stepTo b ≠ b.significand) :
    2 * ((a.significand * a.stepTo b : Nat) : Int) - a.stepTo b - (2 * b.significand - 1) ≠ 0 ∧
      2 * ((a.significand * a.stepTo b : Nat) : Int) + a.stepTo b -
        (2 * b.significand + 1) ≠ 0 := by
  rcases Nat.eq_or_lt_of_le coarser with level | finer
  · have single : a.stepTo b = 1 := by rw [stepTo, level, Nat.sub_self, Nat.pow_zero]
    rw [single] at differs ⊢
    generalize a.significand * 1 = first at *
    omega
  · obtain ⟨half, even⟩ : 2 ∣ a.stepTo b :=
      (by decide : 2 ∣ 10).trans (dvd_pow_self 10 (Nat.sub_pos_of_lt finer).ne')
    generalize a.significand * a.stepTo b = first at *
    omega

/-- The lower ends of two decimals of one sign lie further apart than both errors. -/
theorem low_apart_of_le (coarser : a.fraction.length ≤ b.fraction.length)
    (same : a.negative = b.negative) (apart : a.value ≠ b.value) :
    9 / (4 * 10 ^ 16) * (a.reach + b.reach) < |a.low - b.low| := by
  obtain ⟨below, above⟩ := places_ne coarser (significand_ne coarser same apart)
  have divides : a.stepTo b ∣ 10 ^ 15 :=
    pow_dvd_pow 10 ((Nat.sub_le _ _).trans b.length_fraction_le)
  have divides' : a.stepTo b ∣ a.significand * a.stepTo b := Dvd.intro_left _ rfl
  have unit := b.unit_pos
  rw [low, low, value, value, reach, reach, same, magnitude_eq_step coarser, unit_eq_step coarser,
    magnitude_eq b]
  generalize a.significand * a.stepTo b = first at *
  generalize a.stepTo b = step at *
  generalize b.unit = grid at *
  cases b.negative with
  | false =>
      have far := mul_lt_mul_of_pos_right
        (apart_of_positive b.significand_lt divides divides' below) unit
      have reaches : 9 / (4 * 10 ^ 16) * (max (first * grid) (step * grid / 2) +
          max (b.significand * grid) (grid / 2)) = 9 / (4 * 10 ^ 16) *
            (max (first : ℚ) (step / 2) + max (b.significand : ℚ) (1 / 2)) * grid := by
        rw [mul_assoc, add_mul, max_mul_of_nonneg _ _ unit.le, max_mul_of_nonneg _ _ unit.le,
          div_mul_eq_mul_div (step : ℚ), div_mul_eq_mul_div 1 2 grid, one_mul]
      have lows : first * grid - step * grid / 2 - (b.significand * grid - grid / 2) =
          (first - step / 2 - (b.significand - 1 / 2)) * grid := by ring
      simp only [Double.signed, Bool.false_eq_true, if_false]
      rw [reaches, lows, abs_mul, abs_of_pos unit]
      exact far
  | true =>
      have far := mul_lt_mul_of_pos_right (apart_of_negative b.significand_lt above) unit
      have reaches : 9 / (4 * 10 ^ 16) * (first * grid + step * grid / 2 +
          (b.significand * grid + grid / 2)) = 9 / (4 * 10 ^ 16) *
            ((first : ℚ) + step / 2 + (b.significand + 1 / 2)) * grid := by ring
      have lows : -(first * grid) - step * grid / 2 - (-(b.significand * grid) - grid / 2) =
          -((first + step / 2 - (b.significand + 1 / 2)) * grid) := by ring
      simp only [Double.signed, if_true]
      rw [reaches, lows, abs_neg, abs_mul, abs_of_pos unit]
      exact far

/-- **Lower ends.** The doubles that two decimals of one sign begin with are ordered like their
exact lower ends, which are not the same. -/
theorem order_low (same : a.negative = b.negative) (apart : a.value ≠ b.value) :
    ∃ number number', FoundNumber.scan a.text = some number ∧ number.length = a.text.length ∧
      FoundNumber.scan b.text = some number' ∧ number'.length = b.text.length ∧
      a.low ≠ b.low ∧ Double.order number.low number'.low = compare a.low b.low := by
  obtain ⟨number, found, whole, finite, near⟩ := a.scan_near
  obtain ⟨number', found', whole', finite', near'⟩ := b.scan_near
  have far : 9 / (4 * 10 ^ 16) * (a.reach + b.reach) < |a.low - b.low| := by
    rcases le_total a.fraction.length b.fraction.length with coarser | coarser
    · exact low_apart_of_le coarser same apart
    · rw [abs_sub_comm, add_comm]
      exact low_apart_of_le coarser same.symm apart.symm
  refine ⟨number, number', found, whole, found', whole', ?_, ?_⟩
  · intro equal
    rw [equal, sub_self, abs_zero] at far
    have reach := add_pos ((half_pos a.unit_pos).trans_le a.half_unit_le_reach)
      ((half_pos b.unit_pos).trans_le b.half_unit_le_reach)
    exact absurd far (not_lt.mpr (by positivity))
  · apply Double.order_of_near finite finite'
    rw [mul_add] at far
    exact (add_le_add near near').trans_lt far

end PlainDecimal

end TableSearch
