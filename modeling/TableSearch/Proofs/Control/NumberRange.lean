import Mathlib.Data.Sym.Sym2.Order
import TableSearch.Control.Parser
import TableSearch.Proofs.Number.Order
import TableSearch.Proofs.Number.Scan
import TableSearch.Proofs.Search.Plain

/-! # Number ranges typed in both orders

A number stands for an interval, and a dash ends it, so that two numbers around a dash are read as a range
(`TableSearch.Term.readNumberRange?_dash`).  The range goes from the lower end of the number typed first
to the upper end of the other one, and these two are put in order.

Typed from the smaller number to the larger one, the range takes in both of their intervals
(`TableSearch.Term.findNumbers_ascending`).  Typed the other way round it is what lies between them, and
reports neither number (`TableSearch.Term.findNumbers_descending`).
`TableSearch.Term.readNumberRange?_either_order_iff` says when both ways come to the same range.
-/

namespace TableSearch

/-! ## A number in front of a dash -/

namespace FoundNumber

variable {text rest : Text}

theorem takeWhile_dash :
    (text ++ '-' :: rest).takeWhile isDigit = text.takeWhile isDigit := by
  induction text with
  | nil => rfl
  | cons c text ih => rw [List.cons_append, List.takeWhile_cons, List.takeWhile_cons, ih]

/-- What follows the digits of a text still ends with the dash and what is behind it. -/
theorem dropWhile_dash :
    (text ++ '-' :: rest).dropWhile isDigit = text.dropWhile isDigit ++ '-' :: rest := by
  induction text with
  | nil => rfl
  | cons c text ih =>
      rw [List.cons_append, List.dropWhile_cons, List.dropWhile_cons, ih]
      split <;> rfl

/-- A word without a dash is found in front of a dash as it is at the end of a text. -/
theorem matchedLength_dash {word : Text} (other : '-' ∉ word) :
    matchedLength word (text ++ '-' :: rest) = matchedLength word text := by
  induction word generalizing text with
  | nil => rfl
  | cons w word ih =>
      rw [List.mem_cons, not_or] at other
      cases text with
      | nil =>
          have apart : CharCase.lowerForm '-' ≠ [w] := by
            rw [show CharCase.lowerForm '-' = ['-'] by decide, ne_eq, List.cons.injEq]
            exact fun same => other.1 same.1
          exact if_neg apart
      | cons c text => rw [List.cons_append, matchedLength, matchedLength, ih other.2]

/-- A mantissa is read in front of a dash as it is at the end of a text. -/
theorem scanMantissa_dash :
    scanMantissa (text ++ '-' :: rest) =
      (scanMantissa text).map fun found => (found.1, found.2 ++ '-' :: rest) := by
  by_cases pointed : (text.dropWhile isDigit).head? = some '.'
  · obtain ⟨after, split⟩ := List.head?_eq_some_iff.mp pointed
    have split' : (text ++ '-' :: rest).dropWhile isDigit = '.' :: (after ++ '-' :: rest) := by
      rw [dropWhile_dash, split, List.cons_append]
    rw [scanMantissa_of_pointed split, scanMantissa_of_pointed split', takeWhile_dash, takeWhile_dash,
      dropWhile_dash, apply_ite (Option.map _)]
    rfl
  · have plain : ((text ++ '-' :: rest).dropWhile isDigit).head? ≠ some '.' := by
      rw [dropWhile_dash, List.head?_append]
      intro same
      rcases Option.or_eq_some_iff.mp same with pointed' | ⟨-, dash⟩
      · exact pointed pointed'
      · cases dash
    rw [scanMantissa_of_plain pointed, scanMantissa_of_plain plain, takeWhile_dash, dropWhile_dash,
      apply_ite (Option.map _)]
    rfl

/-- An exponent ends at a dash, unless the dash is its sign. -/
theorem scanExponent_dash (filled : text ≠ []) :
    scanExponent (text ++ '-' :: rest) = scanExponent text := by
  obtain ⟨negative, body, rfl, undashed⟩ := exists_dash text
  have undashed' : negative = false → (body ++ '-' :: rest).head? ≠ some '-' := by
    rintro rfl
    obtain ⟨c, body, rfl⟩ := List.exists_cons_of_ne_nil filled
    exact undashed rfl
  rw [List.append_assoc, scanExponent_signed undashed', scanExponent_signed undashed, takeWhile_dash]

/-- Where a numeral fills a text, it ends at a dash. -/
theorem scanNumeral_dash {numeral : Numeral} (found : scanNumeral text = some numeral)
    (whole : numeral.length = text.length) : scanNumeral (text ++ '-' :: rest) = some numeral := by
  unfold scanNumeral at found ⊢
  rw [scanMantissa_dash]
  cases scanned : scanMantissa text with
  | none =>
      rw [scanned] at found
      cases found
  | some split =>
      obtain ⟨mantissa, behind⟩ := split
      rw [scanned] at found
      cases behind with
      | nil => exact found
      | cons e after =>
          simp only [Option.map_some, List.cons_append] at found ⊢
          by_cases letter : (decide (e = 'e') || decide (e = 'E')) = true
          · rw [if_pos letter] at found ⊢
            split at found
            · cases found
            · rename_i untrivial
              rw [if_neg untrivial, scanExponent_dash ?_]
              · exact found
              · -- with nothing behind the letter the numeral would end in front of it
                rintro rfl
                obtain rfl := Option.some.inj found
                obtain ⟨plain, taken, rfl, length, -⟩ := scanMantissa_takes scanned
                have bare : scanExponent [] = mantissa.exponent := plain.symm
                rw [bare, List.length_append, length] at whole
                exact absurd whole (Nat.lt_succ_self mantissa.length).ne
          · rw [if_neg letter] at found ⊢
            exact found

/-- A number that is a whole text is read in front of a dash as well. -/
theorem scanUnsigned_dash {negative : Bool} {sign : Nat} {number : FoundNumber}
    (found : scanUnsigned negative sign text = some number)
    (whole : number.length = sign + text.length) :
    scanUnsigned negative sign (text ++ '-' :: rest) = some number := by
  unfold scanUnsigned at found ⊢
  rw [matchedLength_dash (by decide), matchedLength_dash (by decide)]
  simp only at found ⊢
  by_cases undefined : matchedLength nanWord text = 3
  · rw [if_pos undefined] at found ⊢
    exact found
  by_cases infinite : 3 ≤ matchedLength infinityWord text
  · rw [if_neg undefined, if_pos infinite] at found ⊢
    exact found
  rw [if_neg undefined, if_neg infinite] at found ⊢
  obtain ⟨numeral, scanned, rfl⟩ := Option.map_eq_some_iff.mp found
  rw [scanNumeral_dash scanned (Nat.add_left_cancel whole), Option.map_some]

/-- **Dashes.** A text that is a number is the number in front of a dash. -/
theorem scan_dash {number : FoundNumber} (found : scanWhole text = some number) :
    scan (text ++ '-' :: rest) = some number := by
  obtain ⟨scanned, whole⟩ := scanWhole_eq_some_iff.mp found
  obtain ⟨negative, body, rfl, undashed⟩ := exists_dash text
  rw [scan_signed undashed] at scanned
  rw [List.length_append] at whole
  have scanned' : scanUnsigned negative (dash negative).length (body ++ '-' :: rest) = some number :=
    scanUnsigned_dash scanned whole
  rw [List.append_assoc, scan_signed fun _ => undashed_of_scanUnsigned scanned', scanned']

end FoundNumber

/-! ## The ends of a range -/

/-- Whether the ends of an interval are numbers. -/
def FoundNumber.IsNumber (x : FoundNumber) : Prop :=
  x.low.isNaN = false ∧ x.high.isNaN = false

namespace Term

variable {text a b : Text} {x y : FoundNumber}

/-- The range between two doubles goes from the smaller one to the larger one. -/
theorem exists_ofNumbers (text : Text) {low high : Double} (number : low.isNaN = false)
    (number' : high.isNaN = false) :
    ∃ least most, ofNumbers text low high = .numberRange text least most ∧
      least.key = min low.key high.key ∧ most.key = max low.key high.key := by
  rw [ofNumbers]
  split
  · rename_i above
    have less := (Double.isAbove_iff number number').mp above
    exact ⟨high, low, rfl, (min_eq_right less.le).symm, (max_eq_left less.le).symm⟩
  · rename_i below
    rw [Double.isAbove_iff number number', not_lt] at below
    exact ⟨low, high, rfl, (min_eq_left below).symm, (max_eq_right below).symm⟩

/-- Two numbers around a dash are a range from the lower end of the first to the upper end of the
second. -/
theorem readNumberRange?_dash (first : FoundNumber.scanWhole a = some x)
    (second : FoundNumber.scanWhole b = some y) :
    readNumberRange? (a ++ '-' :: b) = some (ofNumbers (a ++ '-' :: b) x.low y.high) := by
  have length : x.length = a.length := (FoundNumber.scanWhole_eq_some_iff.mp first).2
  rw [readNumberRange?, FoundNumber.scan_dash first]
  simp only [length, List.drop_left, second, Option.map_some]

/-! ## What a range reports -/

variable {low high low' high' : Double}

/-- A range overlaps a number that reaches past both of its ends, or up to them where the range is one
value. -/
theorem overlaps_iff :
    overlaps low high x = true ↔
      (low.key < x.high.key ∨ low.key = x.high.key ∧ low.key = high.key) ∧
        (x.low.key < high.key ∨ x.low.key = high.key ∧ low.key = high.key) := by
  simp only [overlaps, Bool.and_eq_true, Bool.or_eq_true, beq_iff_eq, Double.order_eq_compare_key,
    compare_gt_iff_gt, compare_lt_iff_lt, compare_eq_iff_eq, eq_comm (a := x.high.key)]

theorem overlaps_congr (least : low.key = low'.key) (most : high.key = high'.key) :
    overlaps low high = overlaps low' high' := by
  funext found
  rw [Bool.eq_iff_iff, overlaps_iff, overlaps_iff, least, most]

/-- A range in a text that is a number. -/
theorem findNumbers_whole (whole : FoundNumber.scanWhole text = some x) :
    findNumbers low high text = if overlaps low high x then ⟨[⟨0, text.length⟩]⟩ else .empty := by
  obtain ⟨c, rest, rfl⟩ := FoundNumber.exists_cons_of_scanWhole whole
  obtain ⟨scanned, length⟩ := FoundNumber.scanWhole_eq_some_iff.mp whole
  rw [findNumbers, numberRuns, scanned]
  simp only [length, List.drop_length, Nat.zero_add]
  have behind : numberRuns low high (c :: rest).length [] (c :: rest).length = [] := rfl
  rw [behind]
  split <;> rfl

/-- **Ascending ranges.** Typed from the smaller to the larger of two numbers that stand apart, a range
reports both of them. -/
theorem findNumbers_ascending (first : FoundNumber.scanWhole a = some x)
    (second : FoundNumber.scanWhole b = some y) (numbers : x.IsNumber) (numbers' : y.IsNumber)
    (wide : Double.order x.low x.high = .lt) (wide' : Double.order y.low y.high = .lt)
    (apart : Double.order x.high y.low = .lt) :
    ∃ low high, readNumberRange? (a ++ '-' :: b) = some (.numberRange (a ++ '-' :: b) low high) ∧
      findNumbers low high a = ⟨[⟨0, a.length⟩]⟩ ∧ findNumbers low high b = ⟨[⟨0, b.length⟩]⟩ := by
  obtain ⟨low, high, built, least, most⟩ :=
    exists_ofNumbers (a ++ '-' :: b) numbers.1 numbers'.2
  rw [← Double.key_lt_iff] at wide wide' apart
  have far : x.low.key < y.low.key := wide.trans apart
  have spread : x.low.key < y.high.key := far.trans wide'
  rw [min_eq_left spread.le] at least
  rw [max_eq_right spread.le] at most
  have reached : overlaps low high x = true := by
    rw [overlaps_iff, least, most]
    exact ⟨.inl wide, .inl spread⟩
  have reached' : overlaps low high y = true := by
    rw [overlaps_iff, least, most]
    exact ⟨.inl spread, .inl wide'⟩
  refine ⟨low, high, (readNumberRange?_dash first second).trans (congrArg some built), ?_, ?_⟩
  · rw [findNumbers_whole first, if_pos reached]
  · rw [findNumbers_whole second, if_pos reached']

/-- **Descending ranges.** Typed from the larger to the smaller of two numbers that stand apart, a range
reports neither of them. -/
theorem findNumbers_descending (first : FoundNumber.scanWhole a = some x)
    (second : FoundNumber.scanWhole b = some y) (numbers : x.IsNumber) (numbers' : y.IsNumber)
    (apart : Double.order x.high y.low = .lt) :
    ∃ low high, readNumberRange? (b ++ '-' :: a) = some (.numberRange (b ++ '-' :: a) low high) ∧
      findNumbers low high a = .empty ∧ findNumbers low high b = .empty := by
  obtain ⟨low, high, built, least, most⟩ :=
    exists_ofNumbers (b ++ '-' :: a) numbers'.1 numbers.2
  rw [← Double.key_lt_iff] at apart
  rw [min_eq_right apart.le] at least
  rw [max_eq_left apart.le] at most
  have missed : ¬overlaps low high x = true := by
    rw [overlaps_iff, least, most]
    exact fun reaches => reaches.1.elim (lt_irrefl _) fun same => apart.ne same.2
  have missed' : ¬overlaps low high y = true := by
    rw [overlaps_iff, least, most]
    exact fun reaches => reaches.2.elim (lt_irrefl _) fun same => apart.ne same.2
  refine ⟨low, high, (readNumberRange?_dash second first).trans (congrArg some built), ?_, ?_⟩
  · rw [findNumbers_whole first, if_neg missed]
  · rw [findNumbers_whole second, if_neg missed']

/-- **Both orders.** Two numbers come to the same range in both orders exactly if they stand for the same
interval or for one value each. -/
theorem readNumberRange?_either_order_iff (first : FoundNumber.scanWhole a = some x)
    (second : FoundNumber.scanWhole b = some y) (numbers : x.IsNumber) (numbers' : y.IsNumber) :
    ∃ low high low' high',
      readNumberRange? (a ++ '-' :: b) = some (.numberRange (a ++ '-' :: b) low high) ∧
      readNumberRange? (b ++ '-' :: a) = some (.numberRange (b ++ '-' :: a) low' high') ∧
      ((Double.order low low' = .eq ∧ Double.order high high' = .eq) ↔
        Double.order x.low y.low = .eq ∧ Double.order x.high y.high = .eq ∨
          Double.order x.low x.high = .eq ∧ Double.order y.low y.high = .eq) ∧
      (Double.order low low' = .eq ∧ Double.order high high' = .eq →
        ∀ read text, (numberRange (a ++ '-' :: b) low high).find read text =
          (numberRange (b ++ '-' :: a) low' high').find read text) := by
  obtain ⟨low, high, built, least, most⟩ :=
    exists_ofNumbers (a ++ '-' :: b) numbers.1 numbers'.2
  obtain ⟨low', high', built', least', most'⟩ :=
    exists_ofNumbers (b ++ '-' :: a) numbers'.1 numbers.2
  refine ⟨low, high, low', high', (readNumberRange?_dash first second).trans (congrArg some built),
    (readNumberRange?_dash second first).trans (congrArg some built'), ?_, ?_⟩
  · -- two pairs with one minimum and one maximum are the same pair
    have ends := Sym2.inf_eq_inf_and_sup_eq_sup (s := s(x.low.key, y.high.key))
      (t := s(y.low.key, x.high.key))
    simp only [Sym2.inf_mk, Sym2.sup_mk, Sym2.eq_iff] at ends
    simp only [← Double.key_eq_iff, least, most, least', most']
    rw [ends, eq_comm (a := y.high.key), eq_comm (a := y.high.key)]
  · rintro ⟨same, same'⟩ read text
    rw [← Double.key_eq_iff] at same same'
    rw [find, find, findNumbers_congr (overlaps_congr same same')]

/-- The range typed as `1.5-2.5` reports `1.5`, and the one typed as `2.5-1.5` does not. -/
theorem not_either_order_of_decimals :
    let small : Text := ['1', '.', '5']
    let large : Text := ['2', '.', '5']
    ∃ low high low' high',
      readNumberRange? (small ++ '-' :: large) =
        some (.numberRange (small ++ '-' :: large) low high) ∧
      readNumberRange? (large ++ '-' :: small) =
        some (.numberRange (large ++ '-' :: small) low' high') ∧
      ¬(Double.order low low' = .eq ∧ Double.order high high' = .eq) ∧
      findNumbers low high small = ⟨[⟨0, 3⟩]⟩ ∧ findNumbers low' high' small = ⟨[]⟩ := by
  intro small large
  let x : FoundNumber :=
    ⟨.finite false 6530219459687219 (-52), .finite false 6980579422424269 (-52), 3⟩
  let y : FoundNumber :=
    ⟨.finite false 5516909543528858 (-51), .finite false 5742089524897382 (-51), 3⟩
  have first : FoundNumber.scanWhole small = some x := by decide +kernel
  have second : FoundNumber.scanWhole large = some y := by decide +kernel
  have apart : Double.order x.high y.low = .lt := by decide +kernel
  obtain ⟨low, high, low', high', typed, typed', ends, -⟩ :=
    readNumberRange?_either_order_iff first second ⟨rfl, rfl⟩ ⟨rfl, rfl⟩
  obtain ⟨least, most, ascending, reported, -⟩ :=
    findNumbers_ascending first second ⟨rfl, rfl⟩ ⟨rfl, rfl⟩ (by decide +kernel) (by decide +kernel) apart
  obtain ⟨least', most', descending, missed, -⟩ :=
    findNumbers_descending first second ⟨rfl, rfl⟩ ⟨rfl, rfl⟩ apart
  obtain ⟨-, rfl, rfl⟩ := Term.numberRange.inj (Option.some.inj (typed.symm.trans ascending))
  obtain ⟨-, rfl, rfl⟩ := Term.numberRange.inj (Option.some.inj (typed'.symm.trans descending))
  refine ⟨low, high, low', high', typed, typed', ?_, reported, missed⟩
  rw [ends]
  decide +kernel

end Term

end TableSearch
