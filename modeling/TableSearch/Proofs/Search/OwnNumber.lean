import TableSearch.Proofs.Control.NumberRange
import TableSearch.Proofs.Number.Grammar

/-! # A number finds its own text

A text that is a number as a whole is a range of numbers, from the lower end of the number to its upper
end.  The range overlaps the number itself as long as the lower end does not stand above the upper one
(`TableSearch.Term.overlaps_own_iff`).

Rounding never puts the ends the wrong way round, however long the numeral and however small its last
place (`TableSearch.FoundNumber.ofNumeral_le`).  Where the value and the unit of the last digit are
both infinite, however, the value less half a unit is no number, and what is no number stands above all
others.  `TableSearch.Term.finds_own_iff`: the range finds the whole text, unless it is a positive
numeral that overflows in this way.
-/

namespace TableSearch

/-- Whether a text is a numeral without a sign, not zero, whose last digit stands for more than every
double. -/
def Overflows (text : Text) : Prop :=
  ∃ (n : TypedNumeral) (power : Int), n.text = text ∧ n.Ends [] ∧
    natOfDigits (n.whole ++ n.fraction) ≠ 0 ∧ Double.exponent? n.exponent = some power ∧
    309 ≤ power - n.fraction.length

variable {text : Text} {x : FoundNumber} {low high : Double}

/-! ## The ends of a number -/

namespace FoundNumber

/-- A text overflows exactly if it is a numeral as a whole that is not zero and whose last digit
stands beyond the range of doubles. -/
theorem overflows_iff :
    Overflows text ↔ ∃ numeral, scanNumeral text = some numeral ∧ numeral.length = text.length ∧
      natOfDigits (numeral.whole ++ numeral.fraction) ≠ 0 ∧ 309 ≤ numeral.lastPlace := by
  constructor
  · rintro ⟨n, power, rfl, ends, filled, typed, high⟩
    obtain ⟨numeral, scanned, whole, fraction, length, typed'⟩ := exists_scanNumeral ends
    rw [List.append_nil] at scanned
    obtain rfl := Option.some.inj (typed.symm.trans typed')
    refine ⟨numeral, scanned, length, ?_, ?_⟩
    · rwa [whole, fraction]
    · rwa [Numeral.lastPlace, fraction]
  · rintro ⟨numeral, scanned, length, filled, high⟩
    obtain ⟨n, rest, rfl, ends⟩ := exists_ends scanned
    obtain ⟨numeral', scanned', whole, fraction, length', typed⟩ := exists_scanNumeral ends
    obtain rfl := Option.some.inj (scanned.symm.trans scanned')
    have ended : rest = [] := by
      rw [length', List.length_append] at length
      exact List.eq_nil_of_length_eq_zero (by omega)
    rw [ended] at ends ⊢
    refine ⟨n, numeral.exponentValue, (List.append_nil _).symm, ends, ?_, typed, ?_⟩
    · rwa [← whole, ← fraction]
    · rwa [← fraction]

variable {negative : Bool} {numeral : Numeral} {length : Nat}

/-- The ends of a numeral are in order, unless its value and its last place overflow and it is
positive. -/
theorem ofNumeral_le (usual : ¬(negative = false ∧
    natOfDigits (numeral.whole ++ numeral.fraction) ≠ 0 ∧ 309 ≤ numeral.lastPlace)) :
    (ofNumeral negative numeral length).low.key ≤ (ofNumeral negative numeral length).high.key := by
  rw [ofNumeral, Numeral.value]
  dsimp only
  rcases lt_or_ge numeral.lastPlace 309 with low | high
  · obtain ⟨significand, exponent, half⟩ := Double.exists_finite_half (Int.le_of_lt_add_one low)
    rw [half]
    exact Double.sub_le_add _ significand exponent
  · -- half a unit is infinite, so that the lower end is infinite below where it is a number
    rw [Double.half_powerOfTen high]
    by_cases zero : natOfDigits (numeral.whole ++ numeral.fraction) = 0
    · rw [zero]
      exact le_of_lt (Double.key_lt_of_kind_lt Nat.two_pos)
    · cases negative with
      | true =>
          rw [Double.ofDecimal_eq_infinite true zero high]
          exact le_of_lt (Double.key_lt_of_kind_lt (Nat.succ_pos 2))
      | false => exact (usual ⟨rfl, zero, high⟩).elim

/-- An infinite value less an infinite unit is no number. -/
theorem ofNumeral_eq_of_overflow (filled : natOfDigits (numeral.whole ++ numeral.fraction) ≠ 0)
    (high : 309 ≤ numeral.lastPlace) :
    ofNumeral false numeral length = ⟨.nan, .infinite false, length⟩ := by
  rw [ofNumeral, Numeral.value, Double.half_powerOfTen high,
    Double.ofDecimal_eq_infinite false filled high]
  rfl

/-- The ends of a number that a text is are in order, unless it overflows. -/
theorem low_le_high (whole : scanWhole text = some x) (usual : ¬Overflows text) :
    x.low.key ≤ x.high.key := by
  obtain ⟨scanned, length⟩ := scanWhole_eq_some_iff.mp whole
  obtain ⟨negative, body, rfl, undashed⟩ := exists_dash text
  rw [scan_signed undashed] at scanned
  unfold scanUnsigned at scanned
  dsimp only at scanned
  split at scanned
  · cases scanned
    exact le_refl _
  · split at scanned
    · cases scanned
      exact le_refl _
    · obtain ⟨numeral, found, rfl⟩ := Option.map_eq_some_iff.mp scanned
      apply ofNumeral_le
      rintro ⟨rfl, filled, high⟩
      exact usual (overflows_iff.mpr
        ⟨numeral, found, (Nat.zero_add numeral.length).symm.trans length, filled, high⟩)

/-- A text that overflows is read as a number whose lower end is no number and whose upper end is
infinite. -/
theorem eq_of_overflows (whole : scanWhole text = some x) (overflows : Overflows text) :
    x = ⟨.nan, .infinite false, text.length⟩ := by
  obtain ⟨numeral, found, length, filled, high⟩ := overflows_iff.mp overflows
  have typed := scanUnsigned_of_numeral false 0 found
  have scanned := (scanWhole_eq_some_iff.mp whole).1
  rw [scan_of_undashed (undashed_of_scanUnsigned typed), typed] at scanned
  rw [← Option.some.inj scanned, ofNumeral_eq_of_overflow filled high, length, Nat.zero_add]

end FoundNumber

namespace Term

/-! ## The range of a number -/

/-- No number stands above one that is at least as large. -/
theorem not_isAbove_of_le (le : low.key ≤ high.key) : ¬low.isAbove high = true := by
  cases number : low.isNaN with
  | true =>
      cases low with
      | nan => exact Bool.false_ne_true
      | infinite | finite => cases number
  | false =>
      cases number' : high.isNaN with
      | true =>
          cases high with
          | nan => cases low <;> exact Bool.false_ne_true
          | infinite | finite => cases number'
      | false =>
          rw [Double.isAbove_iff number number', not_lt]
          exact le

/-- A text that is a number as a whole is read as the range between the ends of that number. -/
theorem readNumberRange?_whole (whole : FoundNumber.scanWhole text = some x) :
    readNumberRange? text = some (ofNumbers text x.low x.high) := by
  obtain ⟨scanned, length⟩ := FoundNumber.scanWhole_eq_some_iff.mp whole
  rw [readNumberRange?, scanned]
  simp only [length, List.drop_length]

/-- The range between the ends of a number overlaps the number exactly if its ends are the right way
round. -/
theorem overlaps_own_iff : overlaps x.low x.high x = true ↔ x.low.key ≤ x.high.key := by
  rw [overlaps_iff, and_self_iff, and_self_iff, le_iff_lt_or_eq]

/-- **Numbers.** A text that is a number is read as a range, and this range finds the whole text unless
it overflows; then it finds nothing. -/
theorem finds_own_iff (whole : FoundNumber.scanWhole text = some x) :
    ∃ low high, readNumberRange? text = some (.numberRange text low high) ∧
      ∀ read, ((numberRange text low high).find read text = .ok ⟨[⟨0, text.length⟩]⟩ ↔
          ¬Overflows text) ∧
        (Overflows text → (numberRange text low high).find read text = .ok .empty) := by
  by_cases overflows : Overflows text
  · obtain rfl := FoundNumber.eq_of_overflows whole overflows
    refine ⟨.nan, .infinite false, readNumberRange?_whole whole, fun read => ?_⟩
    have missed : ¬overlaps .nan (.infinite false) ⟨.nan, .infinite false, text.length⟩ = true :=
      Bool.false_ne_true
    have apart : SpanSet.empty ≠ ⟨[⟨0, text.length⟩]⟩ := by
      intro same
      cases same
    rw [find, findNumbers_whole whole, if_neg missed]
    exact ⟨iff_of_false (fun found => apart (Except.ok.inj found)) fun usual => usual overflows,
      fun _ => rfl⟩
  · have le := FoundNumber.low_le_high whole overflows
    have built : ofNumbers text x.low x.high = .numberRange text x.low x.high :=
      if_neg (not_isAbove_of_le le)
    refine ⟨x.low, x.high, (readNumberRange?_whole whole).trans (congrArg some built), fun read => ?_⟩
    rw [find, findNumbers_whole whole, if_pos (overlaps_own_iff.mpr le)]
    exact ⟨iff_of_true rfl overflows, fun bad => (overflows bad).elim⟩

/-- The range of `1e999` does not find it. -/
theorem not_found_of_overflow :
    let text : Text := ['1', 'e', '9', '9', '9']
    FoundNumber.scanWhole text = some ⟨.nan, .infinite false, 5⟩ ∧
      ∃ low high, readNumberRange? text = some (.numberRange text low high) ∧
        ∀ read, (numberRange text low high).find read text ≠ .ok ⟨[⟨0, 5⟩]⟩ := by
  have whole : FoundNumber.scanWhole ['1', 'e', '9', '9', '9'] =
      some ⟨.nan, .infinite false, 5⟩ := by
    decide +kernel
  have overflows : Overflows ['1', 'e', '9', '9', '9'] := by
    refine FoundNumber.overflows_iff.mpr
      ⟨⟨['1'], false, [], some (false, ['9', '9', '9'])⟩, ?_, rfl, ?_, ?_⟩
    · decide +kernel
    · decide
    · decide
  obtain ⟨low, high, built, finds⟩ := finds_own_iff whole
  exact ⟨whole, low, high, built, fun read found => (finds read).1.mp found overflows⟩

end Term

end TableSearch
