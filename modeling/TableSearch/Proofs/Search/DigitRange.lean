import TableSearch.Control.Parser
import TableSearch.Proofs.Number.Digits
import TableSearch.Proofs.Span.Union
import TableSearch.Proofs.Text.DigitRun
import TableSearch.Search.Cell

/-! # Which digit runs a range reports

A range of integers reports maximal runs of digits (`TableSearch.DigitRun.mem_findDigits_iff`).  Its
bounds are put in order by value, and a run is compared with them by length and then by code points.
Without zeros in front this is the order of the values (`TableSearch.Term.reaches_iff`), so that the
range reports the numbers between its bounds (`TableSearch.Term.find_ofDigits_between`).

A bound with zeros in front is longer than its value needs, and runs that are shorter than the bound are
taken for smaller ones.  `TableSearch.Term.find_ofDigits_between_iff` says for which bounds the range
reports the numbers between them all the same.
-/

namespace TableSearch

/-! ## The runs that are reported -/

namespace DigitRun

variable {text low high : Text} {offset : Nat} {s : Span}

/-- The span of digits at a place of a text that begins at an offset. -/
def spanAt (offset : Nat) (digits : Text) (place : Nat) : Span :=
  ⟨offset + place, offset + place + digits.length⟩

theorem spanAt_add (digits : Text) (place more : Nat) :
    spanAt offset digits (place + more) = spanAt (offset + more) digits place := by
  rw [spanAt, spanAt, Nat.add_comm place more, ← Nat.add_assoc]

/-- The scan reports the runs between the bounds. -/
theorem mem_digitRuns_iff :
    s ∈ Term.digitRuns low high offset text ↔
      ∃ run : DigitRun text, Term.digitsWithin low high run.digits = true ∧
        spanAt offset run.digits run.front.length = s := by
  fun_induction Term.digitRuns low high offset text with
  | case1 offset => exact iff_of_false List.not_mem_nil fun ⟨run, _⟩ => run.not_of_nil
  | case2 offset c rest digit run later within ih =>
      rw [exists_digit_iff digit (p := fun digits place =>
        Term.digitsWithin low high digits = true ∧ spanAt offset digits place = s)]
      simp only [spanAt_add]
      rw [List.mem_cons, ih, and_iff_right within]
      exact or_congr_left eq_comm
  | case3 offset c rest digit run later apart ih =>
      rw [exists_digit_iff digit (p := fun digits place =>
        Term.digitsWithin low high digits = true ∧ spanAt offset digits place = s)]
      simp only [spanAt_add]
      rw [ih, or_iff_right fun first => apart first.1]
  | case4 offset c rest other ih =>
      rw [exists_cons_iff ((Bool.not_eq_true _).mp other) (p := fun digits place =>
        Term.digitsWithin low high digits = true ∧ spanAt offset digits place = s)]
      simp only [spanAt_add]
      exact ih

/-- The runs of digits that a range reports lie apart from left to right. -/
theorem digitRuns_apart : Span.Apart (Term.digitRuns low high offset text) := by
  fun_induction Term.digitRuns low high offset text with
  | case1 => exact .nil
  | case2 offset c rest digit run later within ih =>
      refine ih.cons (Nat.le_add_right _ _) fun s member => ?_
      obtain ⟨behind, -, rfl⟩ := mem_digitRuns_iff.mp member
      have filled : 0 < run.length := Nat.succ_pos _
      refine ⟨Nat.le_add_right _ _, fun same => ?_⟩
      have start : offset = offset + run.length + behind.front.length := congrArg Span.start same
      omega
  | case3 offset c rest digit run later apart ih => exact ih
  | case4 offset c rest other ih => exact ih

/-- What a range reports is kept as it is found: no two of the runs touch. -/
theorem spans_findDigits :
    (Term.findDigits low high text).spans = Term.digitRuns low high 0 text :=
  SpanSet.spans_ofList_of_apart digitRuns_apart

/-- What is reported are runs of digits. -/
theorem exists_of_mem_findDigits (member : s ∈ (Term.findDigits low high text).spans) :
    ∃ run : DigitRun text, run.span = s := by
  rw [spans_findDigits, mem_digitRuns_iff] at member
  obtain ⟨run, -, rfl⟩ := member
  refine ⟨run, ?_⟩
  rw [span, spanAt, Nat.zero_add]

/-- A run of digits is reported exactly if it lies between the bounds. -/
theorem mem_findDigits_iff (run : DigitRun text) :
    run.span ∈ (Term.findDigits low high text).spans ↔
      Term.digitsWithin low high run.digits = true := by
  rw [spans_findDigits, mem_digitRuns_iff]
  simp only [spanAt, Nat.zero_add]
  constructor
  · rintro ⟨other, within, same⟩
    rwa [← digits_eq_of_span same]
  · exact fun within => ⟨run, within, rfl⟩

end DigitRun

/-! ## Bounds -/

namespace Term

variable {shown low high digits : Text} {n : Nat}

/-- Whether a text is a run of digits. -/
structure IsDigits (digits : Text) : Prop where
  filled : digits ≠ []
  all : ∀ c ∈ digits, isDigit c = true

/-- Whether one run of digits reaches up to another as a range compares them: it is shorter, or as long
and not larger. -/
def Reaches (digits limit : Text) : Prop :=
  digits.length ≤ limit.length ∧
    (digits.length = limit.length → natOfDigits digits ≤ natOfDigits limit)

/-- A run lies within a range as the range compares them exactly if the lower bound reaches up to
the run, and the run to the upper bound. -/
theorem digitsWithin_iff (low_digits : IsDigits low) (high_digits : IsDigits high)
    (run : IsDigits digits) :
    digitsWithin low high digits = true ↔ Reaches low digits ∧ Reaches digits high := by
  have below : digits.length = low.length →
      (Text.order digits low ≠ .lt ↔ natOfDigits low ≤ natOfDigits digits) := by
    intro fits
    rw [Text.order_digits run.all low_digits.all fits, ne_eq, compare_lt_iff_lt, not_lt]
  have above : digits.length = high.length →
      (Text.order digits high ≠ .gt ↔ natOfDigits digits ≤ natOfDigits high) := by
    intro fits
    rw [Text.order_digits run.all high_digits.all fits, ne_eq, compare_gt_iff_gt, not_lt]
  simp only [digitsWithin, Reaches, Bool.and_eq_true, Bool.not_eq_true', Bool.and_eq_false_imp,
    decide_eq_true_eq, beq_iff_eq, beq_eq_false_iff_ne]
  rw [imp_congr_right below, imp_congr_right above, and_assoc, and_and_and_comm,
    eq_comm (a := low.length)]

/-- Of runs without zeros to leave out, one reaches up to the other exactly if it is not larger. -/
theorem reaches_iff (run : IsDigits digits) (limit : IsDigits high) (unpadded : IsUnpadded digits)
    (unpadded' : IsUnpadded high) :
    Reaches digits high ↔ natOfDigits digits ≤ natOfDigits high := by
  have larger : ∀ {short long : Text}, IsDigits short → IsDigits long → IsUnpadded long →
      short.length < long.length → natOfDigits short < natOfDigits long := by
    intro short long left right plain shorter
    have filled := List.length_pos_of_ne_nil left.filled
    exact natOfDigits_lt_of_length_lt left.all right.all (plain.head?_ne (by omega)) shorter
  rcases lt_trichotomy digits.length high.length with shorter | fits | longer
  · have less := larger run limit unpadded' shorter
    exact iff_of_true ⟨shorter.le, fun fits => absurd fits shorter.ne⟩ less.le
  · exact ⟨fun reaches => reaches.2 fits, fun le => ⟨fits.le, fun _ => le⟩⟩
  · have less := larger limit run unpadded longer
    exact iff_of_false (fun reaches => reaches.1.not_gt longer) less.not_ge

/-- Whether the first of two bounds of a range is taken for the lower one: by value, and by length if
both have one value. -/
def InOrder (low high : Text) : Prop :=
  natOfDigits low < natOfDigits high ∨
    natOfDigits low = natOfDigits high ∧ low.length ≤ high.length

theorem InOrder.le (order : InOrder low high) : natOfDigits low ≤ natOfDigits high := by
  rcases order with less | ⟨same, -⟩
  · exact less.le
  · exact same.le

/-- A range is built with its bounds in order. -/
theorem ofDigits_eq (first : IsDigits low) (second : IsDigits high) :
    InOrder low high ∧ ofDigits shown low high = .digitRange shown low high ∨
      InOrder high low ∧ ofDigits shown low high = .digitRange shown high low := by
  have decided : Text.naturalOrder low high = .gt ↔ natOfDigits high < natOfDigits low ∨
      natOfDigits low = natOfDigits high ∧ high.length < low.length := by
    rw [Text.naturalOrder_digits first.filled second.filled first.all second.all,
      Ordering.then_eq_gt, compare_gt_iff_gt, compare_gt_iff_gt, compare_eq_iff_eq]
  rw [ofDigits, InOrder, InOrder]
  split
  · rename_i behind
    refine .inr ⟨?_, rfl⟩
    rcases decided.mp behind with less | ⟨same, shorter⟩
    · exact .inl less
    · exact .inr ⟨same.symm, shorter.le⟩
  · rename_i before
    rw [decided, not_or, not_lt, not_and, not_lt] at before
    refine .inl ⟨?_, rfl⟩
    rcases before.1.lt_or_eq with less | same
    · exact .inl less
    · exact .inr ⟨same, before.2 same⟩

/-! ## Ranges without zeros in front -/

variable {text : Text} {s : Span}

/-- **Integer ranges.** A range between two runs of digits, typed in either order and without zeros to
leave out, reports runs of digits only; of those without zeros to leave out it reports the ones whose
value lies between the values of its bounds. -/
theorem find_ofDigits_between (env : Environment) (column shown text : Text)
    (first : IsDigits low) (second : IsDigits high) (unpadded : IsUnpadded low)
    (unpadded' : IsUnpadded high) :
    ∃ found, (Control.term (ofDigits shown low high)).find env column text true =
        .ok (some found) ∧
      (∀ s ∈ found.spans, ∃ run : DigitRun text, run.span = s) ∧
      ∀ run : DigitRun text, IsUnpadded run.digits →
        (run.span ∈ found.spans ↔
          min (natOfDigits low) (natOfDigits high) ≤ natOfDigits run.digits ∧
            natOfDigits run.digits ≤ max (natOfDigits low) (natOfDigits high)) := by
  have between : ∀ {low high : Text}, IsDigits low → IsDigits high → IsUnpadded low →
      IsUnpadded high → ∀ run : DigitRun text, IsUnpadded run.digits →
        (run.span ∈ (findDigits low high text).spans ↔
          natOfDigits low ≤ natOfDigits run.digits ∧ natOfDigits run.digits ≤ natOfDigits high) := by
    intro low high left right plain plain' run kept
    have digits : IsDigits run.digits := ⟨run.filled, run.all⟩
    rw [run.mem_findDigits_iff, digitsWithin_iff left right digits,
      reaches_iff left digits plain kept, reaches_iff digits right kept plain']
  rcases ofDigits_eq first second with ⟨order, built⟩ | ⟨order, built⟩
  · refine ⟨findDigits low high text, by rw [built]; rfl,
      fun s => DigitRun.exists_of_mem_findDigits, ?_⟩
    rw [min_eq_left order.le, max_eq_right order.le]
    exact between first second unpadded unpadded'
  · refine ⟨findDigits high low text, by rw [built]; rfl,
      fun s => DigitRun.exists_of_mem_findDigits, ?_⟩
    rw [min_eq_right order.le, max_eq_left order.le]
    exact between second first unpadded' unpadded

/-- The range typed as `12-7` reports the `12` of `7a12b99`, and not the `99`. -/
theorem find_ofDigits_between_of_reversed :
    let env : Environment := ⟨fun _ => none, fun _ _ => false⟩
    let text : Text := ['7', 'a', '1', '2', 'b', '9', '9']
    let shown : Text := ['1', '2', '-', '7']
    IsDigits ['1', '2'] ∧ IsDigits ['7'] ∧ IsUnpadded ['1', '2'] ∧ IsUnpadded ['7'] ∧
      ∃ found, (Control.term (ofDigits shown ['1', '2'] ['7'])).find env ['x'] text true =
          .ok (some found) ∧
        ⟨2, 4⟩ ∈ found.spans ∧ ⟨5, 7⟩ ∉ found.spans := by
  intro env text shown
  have first : IsDigits ['1', '2'] := ⟨List.cons_ne_nil _ _, List.all_eq_true.mp rfl⟩
  have second : IsDigits ['7'] := ⟨List.cons_ne_nil _ _, List.all_eq_true.mp rfl⟩
  have unpadded : IsUnpadded ['1', '2'] := nofun
  have unpadded' : IsUnpadded ['7'] := nofun
  obtain ⟨found, answer, -, between⟩ :=
    find_ofDigits_between env ['x'] shown text first second unpadded unpadded'
  let twelve : DigitRun text := ⟨['7', 'a'], ['1', '2'], ['b', '9', '9'], rfl,
    List.cons_ne_nil _ _, List.all_eq_true.mp rfl, by rintro c ⟨⟩; rfl, by rintro c ⟨⟩; rfl⟩
  let last : DigitRun text := ⟨['7', 'a', '1', '2', 'b'], ['9', '9'], [], rfl,
    List.cons_ne_nil _ _, List.all_eq_true.mp rfl, by rintro c ⟨⟩; rfl, nofun⟩
  refine ⟨first, second, unpadded, unpadded', found, answer, ?_, ?_⟩
  · exact (between twelve nofun).mpr (by decide)
  · exact fun reported => absurd ((between last nofun).mp reported) (by decide)

/-! ## Ranges with zeros in front -/

/-- Whether a run of digits is a zero in front of nines. -/
def IsZeroNines (digits : Text) : Prop :=
  ∃ count, digits = '0' :: List.replicate (count + 1) '9'

/-- Whether two bounds take in the numbers between their values: the lower one has no zero to leave out,
and the upper one has none, or is a zero in front of nines. -/
structure IsExact (low high : Text) : Prop where
  le : natOfDigits low ≤ natOfDigits high
  low : IsUnpadded low
  high : IsUnpadded high ∨ IsZeroNines high

/-- Up to a zero in front of nines reach all runs that have no more digits than there are nines. -/
theorem reaches_zeroNines_iff (run : IsDigits digits) (unpadded : IsUnpadded digits)
    (limit : IsZeroNines high) :
    Reaches digits high ↔ natOfDigits digits ≤ natOfDigits high := by
  obtain ⟨count, rfl⟩ := limit
  have nines := natOfDigits_nines (count + 1)
  have bounded := natOfDigits_lt run.all
  rw [Reaches, natOfDigits_cons_zero, List.length_cons, List.length_replicate]
  constructor
  · rintro ⟨fits, same⟩
    rcases fits.lt_or_eq with shorter | fits
    · have power : 10 ^ digits.length ≤ 10 ^ (count + 1) :=
        Nat.pow_le_pow_right (by decide) (Nat.le_of_lt_succ shorter)
      omega
    · exact same fits
  · intro le
    have short : digits.length ≤ count + 1 := by
      by_contra long
      have leads := unpadded.head?_ne (by omega)
      have all : ∀ c ∈ List.replicate (count + 1) '9', isDigit c = true := by
        intro c member
        rw [List.eq_of_mem_replicate member]
        rfl
      have less := natOfDigits_lt_of_length_lt all run.all leads
        (by rw [List.length_replicate]; omega)
      omega
    exact ⟨by omega, fun fits => by omega⟩

theorem isDigits_ofNat (n : Nat) : IsDigits (Text.ofNat n) :=
  ⟨Nat.toDigits_ne_nil, fun _ => isDigit_of_mem_ofNat⟩

theorem isDigits_nines (filled : 0 < n) : IsDigits (List.replicate n '9') := by
  refine ⟨List.ne_nil_of_length_pos (by rwa [List.length_replicate]), fun c member => ?_⟩
  rw [List.eq_of_mem_replicate member]
  rfl

/-- Whether the range between two bounds takes in, of the runs without zeros to leave out, those whose
value lies between the values of the bounds. -/
def TakesBetween (low high : Text) : Prop :=
  ∀ digits, IsDigits digits → IsUnpadded digits → (digitsWithin low high digits = true ↔
    natOfDigits low ≤ natOfDigits digits ∧ natOfDigits digits ≤ natOfDigits high)

/-- The value of the lower bound, written without zeros in front, has to be taken in. -/
theorem TakesBetween.isUnpadded_low (between : TakesBetween low high) (first : IsDigits low)
    (second : IsDigits high) (le : natOfDigits low ≤ natOfDigits high) : IsUnpadded low := by
  by_contra padded
  obtain ⟨rest, rfl, filled⟩ := exists_of_not_isUnpadded padded
  rw [natOfDigits_cons_zero] at le
  have digits := isDigits_ofNat (natOfDigits rest)
  have within := (between _ digits isUnpadded_ofNat).mpr
    (by rw [natOfDigits_ofNat, natOfDigits_cons_zero]; exact ⟨Nat.le_refl _, le⟩)
  have fits := ((digitsWithin_iff first second digits).mp within).1.1
  rw [List.length_cons] at fits
  have long := List.length_pos_of_ne_nil filled
  have less := natOfDigits_lt_of_length_lt (List.forall_mem_cons.mp first.all).2 digits.all
    (isUnpadded_ofNat.head?_ne (by omega)) fits
  exact absurd natOfDigits_ofNat less.ne'

/-- The largest number that is shorter than an upper bound with a zero in front is taken in. -/
theorem TakesBetween.isZeroNines_high (between : TakesBetween low high) (first : IsDigits low)
    (second : IsDigits high) (le : natOfDigits low ≤ natOfDigits high) (padded : ¬IsUnpadded high) :
    IsZeroNines high := by
  have low_unpadded := between.isUnpadded_low first second le
  obtain ⟨rest, rfl, filled⟩ := exists_of_not_isUnpadded padded
  obtain ⟨count, length⟩ := Nat.exists_eq_add_one_of_ne_zero (List.length_pos_of_ne_nil filled).ne'
  have all := (List.forall_mem_cons.mp second.all).2
  have bounded := natOfDigits_lt all
  have nines := natOfDigits_nines (count + 1)
  have digits : IsDigits (List.replicate (count + 1) '9') := isDigits_nines (Nat.succ_pos count)
  have unpadded : IsUnpadded (List.replicate (count + 1) '9') := nofun
  rw [natOfDigits_cons_zero] at le
  rw [length] at bounded
  have within : digitsWithin low ('0' :: rest) (List.replicate (count + 1) '9') = true := by
    rw [digitsWithin_iff first second digits, reaches_iff first digits low_unpadded unpadded]
    refine ⟨by omega, ?_⟩
    rw [Reaches, List.length_replicate, List.length_cons, length]
    exact ⟨Nat.le_succ _, fun same => absurd same (Nat.succ_ne_self _).symm⟩
  have least := ((between _ digits unpadded).mp within).2
  rw [natOfDigits_cons_zero] at least
  refine ⟨count, congrArg ('0' :: ·) (Text.eq_of_natOfDigits_eq all digits.all ?_ ?_)⟩
  · rw [length, List.length_replicate]
  · omega

/-- A range whose bounds are in order takes in the numbers between their values exactly if its
bounds are exact. -/
theorem takesBetween_iff (first : IsDigits low) (second : IsDigits high)
    (le : natOfDigits low ≤ natOfDigits high) : TakesBetween low high ↔ IsExact low high := by
  constructor
  · intro between
    exact ⟨le, between.isUnpadded_low first second le,
      Classical.or_iff_not_imp_left.mpr (between.isZeroNines_high first second le)⟩
  · rintro ⟨-, unpadded, limit⟩ digits run kept
    rw [digitsWithin_iff first second run, reaches_iff first run unpadded kept]
    rcases limit with unpadded' | nines
    · rw [reaches_iff run second kept unpadded']
    · rw [reaches_zeroNines_iff run kept nines]

/-- Two bounds are exact in one of both orders exactly if they are so in the order in which a range takes
them. -/
theorem isExact_or_iff (order : InOrder low high) (first : IsDigits low) (second : IsDigits high) :
    IsExact low high ∨ IsExact high low ↔ IsExact low high := by
  refine ⟨?_, .inl⟩
  rintro (exact' | ⟨le, unpadded, limit⟩)
  · exact exact'
  · rcases order with less | ⟨same, shorter⟩
    · exact absurd le less.not_ge
    · refine ⟨same.le, ?_, .inl unpadded⟩
      rcases limit with unpadded' | nines
      · exact unpadded'
      · have fits := ((reaches_zeroNines_iff second unpadded nines).mpr le).1
        have equal := Text.eq_of_natOfDigits_eq first.all second.all (shorter.antisymm fits) same
        rwa [equal]

section Reported

variable (env : Environment) (column shown : Text)

/-- A range whose bounds are in order reports, in every text, exactly the runs without zeros to
leave out whose value lies between those of its bounds, if and only if its bounds are exact. -/
theorem find_digitRange_between_iff (first : IsDigits low) (second : IsDigits high)
    (le : natOfDigits low ≤ natOfDigits high) :
    (∀ text : Text, ∃ found,
      (Control.term (.digitRange shown low high)).find env column text true = .ok (some found) ∧
      ∀ run : DigitRun text, IsUnpadded run.digits →
        (run.span ∈ found.spans ↔ natOfDigits low ≤ natOfDigits run.digits ∧
          natOfDigits run.digits ≤ natOfDigits high)) ↔
      IsExact low high := by
  rw [← takesBetween_iff first second le]
  constructor
  · intro between digits run unpadded
    let whole : DigitRun digits :=
      ⟨[], digits, [], List.append_nil digits, run.filled, run.all, nofun, nofun⟩
    obtain ⟨found, answer, reported⟩ := between digits
    obtain rfl : findDigits low high digits = found := Option.some.inj (Except.ok.inj answer)
    rw [← whole.mem_findDigits_iff]
    exact reported whole unpadded
  · intro between text
    refine ⟨findDigits low high text, rfl, fun run unpadded => ?_⟩
    rw [run.mem_findDigits_iff]
    exact between run.digits ⟨run.filled, run.all⟩ unpadded

/-- **Leading zeros.** The range between two runs of digits reports, of the runs without zeros to leave
out, the ones whose value lies between the values of its bounds, exactly if the lower bound has no zero
to leave out, and the upper one has none either or is a zero in front of nines. -/
theorem find_ofDigits_between_iff (first : IsDigits low) (second : IsDigits high) :
    (∀ text : Text, ∃ found,
      (Control.term (ofDigits shown low high)).find env column text true = .ok (some found) ∧
      ∀ run : DigitRun text, IsUnpadded run.digits →
        (run.span ∈ found.spans ↔
          min (natOfDigits low) (natOfDigits high) ≤ natOfDigits run.digits ∧
            natOfDigits run.digits ≤ max (natOfDigits low) (natOfDigits high))) ↔
      IsExact low high ∨ IsExact high low := by
  rcases ofDigits_eq first second with ⟨order, built⟩ | ⟨order, built⟩
  · rw [isExact_or_iff order first second, built, min_eq_left order.le, max_eq_right order.le]
    exact find_digitRange_between_iff env column shown first second order.le
  · rw [or_comm, isExact_or_iff order second first, built, min_eq_right order.le,
      max_eq_left order.le]
    exact find_digitRange_between_iff env column shown second first order.le

end Reported

/-- The range typed as `5-09` reports the numbers from five to nine. -/
theorem find_ofDigits_between_iff_of_nine :
    let env : Environment := ⟨fun _ => none, fun _ _ => false⟩
    let shown : Text := ['5', '-', '0', '9']
    IsDigits ['5'] ∧ IsDigits ['0', '9'] ∧
      ∀ text : Text, ∃ found,
        (Control.term (ofDigits shown ['5'] ['0', '9'])).find env ['x'] text true =
          .ok (some found) ∧
        ∀ run : DigitRun text, IsUnpadded run.digits →
          (run.span ∈ found.spans ↔
            min (natOfDigits ['5']) (natOfDigits ['0', '9']) ≤ natOfDigits run.digits ∧
              natOfDigits run.digits ≤ max (natOfDigits ['5']) (natOfDigits ['0', '9'])) := by
  intro env shown
  have first : IsDigits ['5'] := ⟨List.cons_ne_nil _ _, List.all_eq_true.mp rfl⟩
  have second : IsDigits ['0', '9'] := ⟨List.cons_ne_nil _ _, List.all_eq_true.mp rfl⟩
  have exact' : IsExact ['5'] ['0', '9'] := ⟨by decide, nofun, .inr ⟨0, rfl⟩⟩
  exact ⟨first, second, (find_ofDigits_between_iff env ['x'] shown first second).mpr (.inl exact')⟩

/-- The range typed as `5-007` reports `55`, and the one typed as `007-10` does not report `8`. -/
theorem not_between_of_zeros :
    let env : Environment := ⟨fun _ => none, fun _ _ => false⟩
    let range (low high : Text) : Control := .term (ofDigits (low ++ '-' :: high) low high)
    (range ['5'] ['0', '0', '7']).find env ['x'] ['5', '5'] true = .ok (some ⟨[⟨0, 2⟩]⟩) ∧
      (range ['0', '0', '7'] ['1', '0']).find env ['x'] ['8'] true = .ok (some ⟨[]⟩) ∧
      ¬∀ low high text : Text, IsDigits low → IsDigits high →
        ∃ found, (range low high).find env ['x'] text true = .ok (some found) ∧
          ∀ run : DigitRun text, IsUnpadded run.digits →
            (run.span ∈ found.spans ↔
              min (natOfDigits low) (natOfDigits high) ≤ natOfDigits run.digits ∧
                natOfDigits run.digits ≤ max (natOfDigits low) (natOfDigits high)) := by
  intro env range
  have reported : (range ['5'] ['0', '0', '7']).find env ['x'] ['5', '5'] true =
      .ok (some ⟨[⟨0, 2⟩]⟩) := by decide +kernel
  refine ⟨reported, by decide +kernel, fun between => ?_⟩
  have first : IsDigits ['5'] := ⟨List.cons_ne_nil _ _, List.all_eq_true.mp rfl⟩
  have second : IsDigits ['0', '0', '7'] := ⟨List.cons_ne_nil _ _, List.all_eq_true.mp rfl⟩
  obtain ⟨found, answer, runs⟩ := between _ _ ['5', '5'] first second
  obtain rfl : ⟨[⟨0, 2⟩]⟩ = found := Option.some.inj (Except.ok.inj (reported.symm.trans answer))
  let whole : DigitRun ['5', '5'] := ⟨[], ['5', '5'], [], rfl, List.cons_ne_nil _ _,
    List.all_eq_true.mp rfl, nofun, nofun⟩
  exact absurd ((runs whole nofun).mp List.mem_cons_self).2 (by decide)

end Term

end TableSearch
