import TableSearch.Proofs.Number.Digits
import TableSearch.Span.Basic

/-! # The digit runs of a text

A maximal run of digits is a part of a text with no digit directly in front of it or behind it
(`TableSearch.DigitRun`).  A text that begins with a digit begins with its first run, and its other runs
are those of what stands behind it (`TableSearch.DigitRun.exists_digit_iff`); any other first character
can be left out (`TableSearch.DigitRun.exists_cons_iff`).
-/

namespace TableSearch

/-- A maximal run of digits in a text: no digit stands directly in front of it or behind it. -/
structure DigitRun (text : Text) where
  front : Text
  digits : Text
  back : Text
  split : front ++ (digits ++ back) = text
  filled : digits ≠ []
  all : ∀ c ∈ digits, isDigit c = true
  opens : ∀ c ∈ front.getLast?, isDigit c = false
  closes : ∀ c ∈ back.head?, isDigit c = false

namespace DigitRun

variable {text lead rest : Text} {c : Char}

/-- Where a run stands. -/
def span (run : DigitRun text) : Span :=
  ⟨run.front.length, run.front.length + run.digits.length⟩

/-- A text has one run at a place. -/
theorem digits_eq_of_span {run run' : DigitRun text} (same : run.span = run'.span) :
    run.digits = run'.digits := by
  have cut : ∀ run : DigitRun text,
      run.digits = (text.drop run.span.start).take (run.span.stop - run.span.start) := by
    rintro ⟨front, digits, back, rfl, -, -, -, -⟩
    simp only [span, Nat.add_sub_cancel_left]
    rw [List.drop_left, List.take_left]
  rw [cut run, cut run', same]

/-- A text without characters has no runs. -/
theorem not_of_nil (run : DigitRun []) : False :=
  run.filled (List.append_eq_nil_iff.mp (List.append_eq_nil_iff.mp run.split).2).1

/-- A run of the later part of a text, unless digits meet where the part begins. -/
theorem exists_of_later (cut : lead ++ rest = text)
    (parted : ∀ c ∈ lead.getLast?, isDigit c = true → ∀ d ∈ rest.head?, isDigit d = false)
    (later : DigitRun rest) :
    ∃ run : DigitRun text, run.digits = later.digits ∧ run.front = lead ++ later.front := by
  obtain ⟨front, digits, back, split, filled, all, opens, closes⟩ := later
  refine ⟨⟨lead ++ front, digits, back, ?_, filled, all, ?_, closes⟩, rfl, rfl⟩
  · rw [List.append_assoc, split, cut]
  · intro c last
    cases front with
    | nil =>
        rw [List.append_nil] at last
        obtain ⟨d, digits, rfl⟩ := List.exists_cons_of_ne_nil filled
        rw [← Bool.not_eq_true]
        intro digit
        have other := parted c last digit d (by rw [← split]; rfl)
        exact absurd (other.symm.trans (all d List.mem_cons_self)) Bool.false_ne_true
    | cons d front =>
        apply opens c
        rw [List.getLast?_append_of_ne_nil _ (List.cons_ne_nil d front)] at last
        exact last

/-- A run that begins behind a part of a text is one of the rest. -/
theorem exists_later (cut : lead ++ rest = text) (run : DigitRun text) {front : Text}
    (past : run.front = lead ++ front) :
    ∃ later : DigitRun rest, later.digits = run.digits ∧ later.front = front := by
  refine ⟨⟨front, run.digits, run.back, ?_, run.filled, run.all, ?_, run.closes⟩, rfl, rfl⟩
  · have split := run.split
    rw [past, List.append_assoc] at split
    exact List.append_cancel_left (split.trans cut.symm)
  · intro c last
    apply run.opens c
    rw [past, List.getLast?_append, last]
    rfl

section Recursion

variable {p : Text → Nat → Prop}

/-- The runs of a text behind a character that is no digit. -/
theorem exists_cons_iff (other : isDigit c = false) :
    (∃ run : DigitRun (c :: rest), p run.digits run.front.length) ↔
      ∃ run : DigitRun rest, p run.digits (run.front.length + 1) := by
  have cut : [c] ++ rest = c :: rest := rfl
  constructor
  · rintro ⟨run, known⟩
    cases begun : run.front with
    | nil =>
        obtain ⟨d, digits, same⟩ := List.exists_cons_of_ne_nil run.filled
        have split := run.split
        rw [begun, same] at split
        obtain ⟨rfl, -⟩ := List.cons.inj split
        have digit := run.all _ (same ▸ List.mem_cons_self)
        exact absurd (other.symm.trans digit) Bool.false_ne_true
    | cons d front =>
        have split := run.split
        rw [begun] at split
        obtain ⟨rfl, -⟩ := List.cons.inj split
        obtain ⟨later, digits, place⟩ := run.exists_later cut begun
        rw [begun, ← digits, ← place] at known
        exact ⟨later, known⟩
  · rintro ⟨later, known⟩
    have parted : ∀ d ∈ [c].getLast?, isDigit d = true → ∀ e ∈ rest.head?, isDigit e = false := by
      rintro _ ⟨⟩ digit
      exact absurd (other.symm.trans digit) Bool.false_ne_true
    obtain ⟨run, digits, place⟩ := exists_of_later cut parted later
    rw [← digits, ← List.length_singleton (a := c), Nat.add_comm, ← List.length_append,
      ← place] at known
    exact ⟨run, known⟩

/-- The runs of a text that begins with a digit: the digits in front, and the runs behind them. -/
theorem exists_digit_iff (digit : isDigit c = true) :
    (∃ run : DigitRun (c :: rest), p run.digits run.front.length) ↔
      p (c :: rest.takeWhile isDigit) 0 ∨
        ∃ run : DigitRun (rest.dropWhile isDigit),
          p run.digits (run.front.length + (c :: rest.takeWhile isDigit).length) := by
  have cut : (c :: rest.takeWhile isDigit) ++ rest.dropWhile isDigit = c :: rest := by
    rw [List.cons_append, List.takeWhile_append_dropWhile]
  have all : ∀ d ∈ c :: rest.takeWhile isDigit, isDigit d = true := by
    rw [List.forall_mem_cons]
    exact ⟨digit, fun d member => List.all_eq_true.mp List.all_takeWhile d member⟩
  have stops := ends_dropWhile isDigit rest
  constructor
  · rintro ⟨run, known⟩
    rcases List.append_eq_append_iff.mp (run.split.trans cut.symm) with
      ⟨more, front, tail⟩ | ⟨more, front, tail⟩
    · -- A run that begins among these digits begins with the first of them.
      have begun : run.front = [] := by
        rw [← List.getLast?_eq_none_iff, Option.eq_none_iff_forall_ne_some]
        intro d last
        have inside : d ∈ c :: rest.takeWhile isDigit :=
          front ▸ List.mem_append_left _ (List.mem_of_getLast? last)
        exact absurd ((run.opens d last).symm.trans (all d inside)) Bool.false_ne_true
      rw [begun, List.nil_append] at front
      have whole : run.digits = c :: rest.takeWhile isDigit := by
        rw [← takeWhile_append_of_ends run.all run.closes, tail, ← front,
          takeWhile_append_of_ends all stops]
      rw [begun, whole] at known
      exact .inl known
    · obtain ⟨later, digits, place⟩ := run.exists_later cut front
      rw [front, List.length_append, Nat.add_comm, ← digits, ← place] at known
      exact .inr ⟨later, known⟩
  · rintro (first | ⟨later, known⟩)
    · exact ⟨⟨[], _, _, cut, List.cons_ne_nil _ _, all, nofun, stops⟩, first⟩
    · obtain ⟨run, digits, place⟩ := exists_of_later cut (fun _ _ _ => stops) later
      rw [← digits, Nat.add_comm, ← List.length_append, ← place] at known
      exact ⟨run, known⟩

end Recursion

end DigitRun

end TableSearch
