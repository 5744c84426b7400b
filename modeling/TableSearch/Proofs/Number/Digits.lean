import Mathlib.Data.List.Induction
import Mathlib.Data.List.TakeWhile
import Mathlib.Order.Compare
import Mathlib.Order.Nat
import Mathlib.Tactic.Ring
import TableSearch.Proofs.Number.NaturalOrder
import TableSearch.Proofs.Text.Words

/-! # The value of a digit run

Digit runs are ordered in several ways: by code points, by length, and in the natural order.  Each of
them is an order by value where zeros in front play no part.

* Runs of one length are ordered by code points as by value (`TableSearch.Text.order_digits`).
* A run that does not begin with a zero is larger than every shorter one
  (`TableSearch.natOfDigits_lt_of_length_lt`).
* The natural order of two runs is that of their values, and of two runs with one value that of their
  lengths (`TableSearch.Text.naturalOrder_digits`).
-/

namespace TableSearch

variable {c d : Char} {digits digits' : Text} {n : Nat}

/-! ## One digit after another -/

theorem natOfDigits_append_singleton (digits : Text) (c : Char) :
    natOfDigits (digits ++ [c]) = 10 * natOfDigits digits + digitValue c := by
  rw [natOfDigits, natOfDigits, List.foldl_append]
  rfl

theorem digitValue_lt (digit : isDigit c = true) : digitValue c < 10 := by
  rw [CharCase.isDigit_iff] at digit
  change c.toNat - 48 < 10
  omega

/-- The value of a run has no more digits than the run. -/
theorem natOfDigits_lt (all : ∀ c ∈ digits, isDigit c = true) :
    natOfDigits digits < 10 ^ digits.length := by
  induction digits using List.reverseRecOn with
  | nil => exact Nat.one_pos
  | append_singleton digits c ih =>
      rw [List.forall_mem_append] at all
      have before := ih all.1
      have last := digitValue_lt (all.2 c (List.mem_singleton_self c))
      rw [natOfDigits_append_singleton, List.length_append, List.length_singleton, Nat.pow_succ]
      omega

/-- A digit in front of a run counts as often as its place says. -/
theorem natOfDigits_cons (c : Char) (digits : Text) :
    natOfDigits (c :: digits) = digitValue c * 10 ^ digits.length + natOfDigits digits := by
  induction digits using List.reverseRecOn with
  | nil =>
      rw [← List.nil_append [c], natOfDigits_append_singleton, List.length_nil, Nat.pow_zero,
        Nat.mul_one]
      exact Nat.zero_add _
  | append_singleton digits d ih =>
      rw [← List.cons_append, natOfDigits_append_singleton, natOfDigits_append_singleton, ih,
        List.length_append, List.length_singleton, Nat.pow_succ]
      ring

theorem digitValue_pos (digit : isDigit c = true) (other : c ≠ '0') : 0 < digitValue c := by
  rw [CharCase.isDigit_iff] at digit
  have apart : c.toNat ≠ 48 := fun same => other (Char.toNat_inj.mp same)
  change 0 < c.toNat - 48
  omega

/-- Digits have the order of their values. -/
theorem compare_digitValue (digit : isDigit c = true) (digit' : isDigit d = true) :
    compare (digitValue c) (digitValue d) = compare c d := by
  rw [CharCase.isDigit_iff] at digit digit'
  rw [← Text.compare_toNat]
  change compare (c.toNat - 48) (d.toNat - 48) = _
  rcases lt_trichotomy c.toNat d.toNat with less | same | more
  · rw [compare_lt_iff_lt.mpr less, compare_lt_iff_lt]
    omega
  · rw [same, Std.ReflOrd.compare_self, Std.ReflOrd.compare_self]
  · rw [compare_gt_iff_gt.mpr more, compare_gt_iff_gt]
    omega

/-! ## Zeros in front -/

theorem natOfDigits_cons_zero (digits : Text) : natOfDigits ('0' :: digits) = natOfDigits digits := by
  rw [natOfDigits_cons]
  change 0 * 10 ^ digits.length + _ = _
  rw [Nat.zero_mul, Nat.zero_add]

/-- Leaving out the zeros in front does not change the value of a run. -/
theorem natOfDigits_dropWhile (digits : Text) :
    natOfDigits (digits.dropWhile (· == '0')) = natOfDigits digits := by
  induction digits with
  | nil => rfl
  | cons c digits ih =>
      rw [List.dropWhile_cons]
      split
      · rename_i zero
        rw [beq_iff_eq.mp zero, natOfDigits_cons_zero, ih]
      · rfl

/-- A run that does not begin with a zero is larger than every shorter one. -/
theorem natOfDigits_lt_of_length_lt (all : ∀ c ∈ digits, isDigit c = true)
    (all' : ∀ c ∈ digits', isDigit c = true) (leads : digits'.head? ≠ some '0')
    (shorter : digits.length < digits'.length) : natOfDigits digits < natOfDigits digits' := by
  cases digits' with
  | nil => exact absurd shorter (Nat.not_lt_zero _)
  | cons d digits' =>
      rw [List.forall_mem_cons] at all'
      have leading : 0 < digitValue d :=
        digitValue_pos all'.1 fun zero => leads (congrArg some zero)
      calc
        natOfDigits digits < 10 ^ digits.length := natOfDigits_lt all
        _ ≤ 10 ^ digits'.length := Nat.pow_le_pow_right (by decide) (Nat.le_of_lt_succ shorter)
        _ ≤ digitValue d * 10 ^ digits'.length := Nat.le_mul_of_pos_left _ leading
        _ ≤ natOfDigits (d :: digits') := natOfDigits_cons d digits' ▸ Nat.le_add_right _ _

/-- Whether a digit run has no zero in front that could be left out. -/
def IsUnpadded (digits : Text) : Prop :=
  digits.head? = some '0' → digits = ['0']

/-- A run without zeros to leave out begins with no zero, unless it is one digit. -/
theorem IsUnpadded.head?_ne (unpadded : IsUnpadded digits) (long : 1 < digits.length) :
    digits.head? ≠ some '0' := by
  intro begun
  rw [unpadded begun] at long
  exact Nat.lt_irrefl 1 long

/-- A run with a zero in front that could be left out. -/
theorem exists_of_not_isUnpadded (padded : ¬IsUnpadded digits) :
    ∃ rest, digits = '0' :: rest ∧ rest ≠ [] := by
  rw [IsUnpadded, Classical.not_imp] at padded
  obtain ⟨rest, rfl⟩ := List.head?_eq_some_iff.mp padded.1
  refine ⟨rest, rfl, ?_⟩
  rintro rfl
  exact padded.2 rfl

/-- Nines are the largest number of their length. -/
theorem natOfDigits_nines (count : Nat) :
    natOfDigits (List.replicate count '9') + 1 = 10 ^ count := by
  induction count with
  | zero => rfl
  | succ count ih =>
      rw [List.replicate_succ, natOfDigits_cons, List.length_replicate, Nat.pow_succ, ← ih]
      change 9 * _ + _ + 1 = _
      ring

/-! ## Written numbers -/

/-- A number is written in digits. -/
theorem isDigit_of_mem_ofNat (member : c ∈ Text.ofNat n) : isDigit c = true := by
  have digit := Nat.isDigit_of_mem_toDigits (by decide) (by decide) member
  simp only [Char.isDigit, ge_iff_le, Bool.and_eq_true, decide_eq_true_eq] at digit
  simp only [isDigit, Bool.and_eq_true, decide_eq_true_eq]
  exact digit

theorem natOfDigits_ofNat : natOfDigits (Text.ofNat n) = n :=
  Nat.ofDigitChars_eq_foldl.symm.trans Nat.ofDigitChars_ten_toDigits

/-- A positive number is not written with a zero in front. -/
theorem head_ofNat_ne_zero (positive : 0 < n) : (Text.ofNat n).head? ≠ some '0' := by
  induction n using Nat.strongRecOn with
  | ind n ih =>
      by_cases small : n < 10
      · rw [Text.ofNat, Nat.toDigits_of_lt_base small, List.head?_cons, ne_eq, Option.some_inj,
          Nat.digitChar_eq_zero]
        omega
      · have shorter : Text.ofNat n = Text.ofNat (n / 10) ++ [(n % 10).digitChar] :=
          Nat.toDigits_of_base_le (by decide) (Nat.le_of_not_lt small)
        obtain ⟨first, more, whole⟩ : ∃ first more, Text.ofNat (n / 10) = first :: more :=
          List.exists_cons_of_ne_nil Nat.toDigits_ne_nil
        have earlier := ih (n / 10) (by omega) (by omega)
        rw [whole] at earlier
        rw [shorter, whole]
        exact earlier

theorem isUnpadded_ofNat : IsUnpadded (Text.ofNat n) := by
  intro begun
  rcases Nat.eq_zero_or_pos n with zero | positive
  · rw [zero]
    rfl
  · exact absurd begun (head_ofNat_ne_zero positive)

/-! ## The orders of digit runs -/

/-- Numbers with two digits in a base are ordered by the first digit, then by the second. -/
theorem compare_mul_add {first first' second second' base : Nat} (small : second < base)
    (small' : second' < base) :
    compare (first * base + second) (first' * base + second') =
      (compare first first').then (compare second second') := by
  have step : ∀ {low high rest : Nat} (more : Nat), low < high → rest < base →
      low * base + rest < high * base + more := by
    intro low high rest more less within
    have carried : (low + 1) * base ≤ high * base := Nat.mul_le_mul_right base less
    rw [Nat.succ_mul] at carried
    omega
  rcases lt_trichotomy first first' with less | same | more
  · rw [compare_lt_iff_lt.mpr less, compare_lt_iff_lt.mpr (step second' less small)]
    rfl
  · have shifted : StrictMono fun rest => first' * base + rest :=
      fun _ _ less => Nat.add_lt_add_left less _
    rw [same, Std.ReflOrd.compare_self, ← cmp_eq_compare, shifted.cmp_map_eq, cmp_eq_compare]
    rfl
  · rw [compare_gt_iff_gt.mpr more, compare_gt_iff_gt.mpr (step second more small')]
    rfl

namespace Text

/-- Runs of one length have the order of their values. -/
theorem order_digits (all : ∀ c ∈ digits, isDigit c = true)
    (all' : ∀ c ∈ digits', isDigit c = true) (fits : digits.length = digits'.length) :
    order digits digits' = compare (natOfDigits digits) (natOfDigits digits') := by
  induction digits generalizing digits' with
  | nil =>
      rw [List.eq_nil_of_length_eq_zero fits.symm]
      exact Std.ReflOrd.compare_self.symm
  | cons c digits ih =>
      cases digits' with
      | nil => cases fits
      | cons d digits' =>
          rw [List.forall_mem_cons] at all all'
          have fits' : digits.length = digits'.length := Nat.succ.inj fits
          rw [order, natOfDigits_cons, natOfDigits_cons, fits',
            compare_mul_add (fits' ▸ natOfDigits_lt all.2) (natOfDigits_lt all'.2),
            compare_digitValue all.1 all'.1, ← ih all.2 all'.2 fits']
          split
          · rename_i same
            rw [same, Std.ReflOrd.compare_self]
            rfl
          · rename_i differs
            cases between : compare c d with
            | lt | gt => rfl
            | eq => exact (differs (Std.LawfulEqOrd.eq_of_compare between)).elim

/-- Runs of one length with one value are the same. -/
theorem eq_of_natOfDigits_eq (all : ∀ c ∈ digits, isDigit c = true)
    (all' : ∀ c ∈ digits', isDigit c = true) (fits : digits.length = digits'.length)
    (same : natOfDigits digits = natOfDigits digits') : digits = digits' := by
  have tied := order_digits all all' fits
  rw [same, Std.ReflOrd.compare_self, order_eq_compare] at tied
  exact codes_inj.mp (Std.LawfulEqOrd.eq_of_compare tied)

/-- Runs are ordered by value, whatever zeros stand in front. -/
theorem digitOrder_digits (all : ∀ c ∈ digits, isDigit c = true)
    (all' : ∀ c ∈ digits', isDigit c = true) :
    digitOrder digits digits' = compare (natOfDigits digits) (natOfDigits digits') := by
  have kept : ∀ {run : Text}, (∀ c ∈ run, isDigit c = true) →
      ∀ c ∈ run.dropWhile (· == '0'), isDigit c = true :=
    fun known c member => known c ((List.dropWhile_sublist _).subset member)
  have leads : ∀ run : Text, (run.dropWhile (· == '0')).head? ≠ some '0' := by
    intro run begun
    have other := List.head?_dropWhile_not (· == '0') run
    rw [begun] at other
    exact absurd other (by decide)
  rw [digitOrder, ← natOfDigits_dropWhile digits, ← natOfDigits_dropWhile digits']
  rcases lt_trichotomy (digits.dropWhile (· == '0')).length (digits'.dropWhile (· == '0')).length
    with shorter | fits | longer
  · rw [compare_lt_iff_lt.mpr shorter, compare_lt_iff_lt.mpr
      (natOfDigits_lt_of_length_lt (kept all) (kept all') (leads digits') shorter)]
    rfl
  · rw [← order_digits (kept all) (kept all') fits, fits, Std.ReflOrd.compare_self]
    rfl
  · rw [compare_gt_iff_gt.mpr longer, compare_gt_iff_gt.mpr
      (natOfDigits_lt_of_length_lt (kept all') (kept all) (leads digits) longer)]
    rfl

/-- The natural order of two runs is that of their values; of two runs with one value the shorter
stands first. -/
theorem naturalOrder_digits (filled : digits ≠ []) (filled' : digits' ≠ [])
    (all : ∀ c ∈ digits, isDigit c = true) (all' : ∀ c ∈ digits', isDigit c = true) :
    naturalOrder digits digits' =
      (compare (natOfDigits digits) (natOfDigits digits')).then
        (compare digits.length digits'.length) := by
  have single : ∀ {run : Text}, run ≠ [] → (∀ c ∈ run, isDigit c = true) → pieces run = [run] := by
    intro run filled known
    obtain ⟨c, rest, rfl⟩ := List.exists_cons_of_ne_nil filled
    rw [List.forall_mem_cons] at known
    rw [pieces_cons_digit known.1, List.takeWhile_eq_self_iff.mpr known.2,
      List.dropWhile_eq_nil_iff.mpr known.2, pieces]
  have whole := List.all_eq_true.mpr all
  have whole' := List.all_eq_true.mpr all'
  change naturalOrderFrom true .eq digits digits' = _
  rw [naturalOrderFrom_eq, ranksIn, ranksIn, tieRanks, tieRanks, single filled all, single filled' all',
    List.map_singleton, List.map_singleton, List.map_singleton, List.map_singleton,
    tieRank_of_run whole, tieRank_of_run whole', ← digitOrder_digits all all',
    digitOrder_eq true whole whole']
  simp only [List.compare_cons_cons, Std.ReflOrd.compare_self, Ordering.then_eq, Ordering.eq_then]

end Text

end TableSearch
