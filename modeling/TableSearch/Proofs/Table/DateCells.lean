import TableSearch.Proofs.Control.NumberRange
import TableSearch.Proofs.Table.NumberCells

/-! # Cells that are dates

A date such as `2021-03-02` is read as a number, then a dash, then what follows.  A dash behind a
number separates two fields and is no minus sign, so that texts of digit fields with dashes between
them are ordered by the numbers in their fields, the first field first
(`TableSearch.CellOrder.order_join_fields`).  For dates with a year, a month and a day this is the
order of time (`TableSearch.IsoDate.orderCells_chronological`).
-/

namespace TableSearch

/-- Whether a text is a field of digits, few enough for the order of doubles to be the order of
numbers. -/
structure IsField (digits : Text) : Prop where
  filled : digits ≠ []
  short : digits.length ≤ 15
  all : ∀ c ∈ digits, isDigit c = true

namespace IsField

variable {digits digits' rest : Text}

/-- The number that a field is. -/
def decimal (field : IsField digits) : PlainDecimal where
  negative := false
  whole := digits
  pointed := false
  fraction := []
  digits := by simpa only [List.append_nil] using field.all
  filled := by simpa only [List.append_nil] using field.filled
  short := by simpa only [List.append_nil] using field.short
  unpointed := fun _ => rfl

variable (field : IsField digits) (field' : IsField digits')

include field

theorem text_decimal : field.decimal.text = digits := by
  simp [decimal, PlainDecimal.text, PlainDecimal.body]

theorem value_decimal : field.decimal.value = natOfDigits digits := by
  simp [decimal, PlainDecimal.value, PlainDecimal.magnitude, PlainDecimal.significand, Double.signed]

theorem low_decimal : field.decimal.low = natOfDigits digits - 1 / 2 := by
  rw [PlainDecimal.low, value_decimal]
  simp [decimal, PlainDecimal.unit]

/-- A text that begins with a field has no dash in front. -/
theorem isDashed_append : CellOrder.isDashed (digits ++ rest) = false := by
  obtain ⟨c, more, rfl⟩ := List.exists_cons_of_ne_nil field.filled
  have digit := field.all c List.mem_cons_self
  rw [CellOrder.isDashed, List.cons_append, List.head?_cons, beq_eq_false_iff_ne]
  rintro ⟨⟩
  cases digit

theorem isEmpty_append : (digits ++ rest).isEmpty = false :=
  List.isEmpty_eq_false_iff.mpr (List.append_ne_nil_of_left_ne_nil field.filled rest)

include field' in
/-- Two texts that begin with fields are told apart by these. -/
theorem alike {rest' : Text} : CellOrder.Alike (digits ++ rest) (digits' ++ rest') :=
  ⟨field.isEmpty_append.trans field'.isEmpty_append.symm,
    field.isDashed_append.trans field'.isDashed_append.symm⟩

include field' in
/-- The numbers that two fields are read as are ordered like the numbers that they write. -/
theorem exists_numbers : ∃ number number', FoundNumber.scanWhole digits = some number ∧
    FoundNumber.scanWhole digits' = some number' ∧
    Double.order number.low number'.low = compare (natOfDigits digits) (natOfDigits digits') := by
  have grows : StrictMono fun n : Nat => (n : ℚ) - 1 / 2 :=
    fun _ _ less => sub_lt_sub_right (Nat.cast_lt.mpr less) _
  simp only [FoundNumber.scanWhole_eq_some_iff]
  by_cases same : natOfDigits digits = natOfDigits digits'
  · -- the ends of both numbers are made from the same value
    have scanned := field.decimal.scan_text
    have scanned' := field'.decimal.scan_text
    rw [text_decimal] at scanned scanned'
    refine ⟨_, _, ⟨scanned, rfl⟩, ⟨scanned', rfl⟩, ?_⟩
    have numeral : field.decimal.numeral.value false = field'.decimal.numeral.value false := by
      simp [FoundNumber.Numeral.value, PlainDecimal.numeral, decimal, same,
        FoundNumber.Numeral.lastPlace, FoundNumber.Numeral.exponentValue]
    rw [same, Std.ReflOrd.compare_self]
    change Double.order ((field.decimal.numeral.value false).sub _)
      ((field'.decimal.numeral.value false).sub _) = .eq
    rw [numeral]
    exact Double.order_self _
  · have apart : field.decimal.value ≠ field'.decimal.value := by
      rwa [value_decimal, value_decimal, ne_eq, Nat.cast_inj]
    have signs : field.decimal.negative = field'.decimal.negative := rfl
    obtain ⟨number, number', found, whole, found', whole', -, lows⟩ :=
      PlainDecimal.order_low signs apart
    rw [text_decimal] at found found' whole whole'
    refine ⟨number, number', ⟨found, whole⟩, ⟨found', whole'⟩, ?_⟩
    rw [lows, low_decimal, low_decimal, ← cmp_eq_compare, ← cmp_eq_compare]
    exact grows.cmp_map_eq _ _

end IsField

namespace CellOrder

variable {reverse : Bool} {digits digits' rest rest' : Text} {fields fields' : List Text}

/-- Fields are ordered by their numbers. -/
theorem order_field (field : IsField digits) (field' : IsField digits') :
    order reverse digits digits' =
      directed reverse (compare (natOfDigits digits) (natOfDigits digits')) := by
  obtain ⟨number, number', whole, whole', lows⟩ := field.exists_numbers field'
  obtain ⟨found, ends⟩ := FoundNumber.scanWhole_eq_some_iff.mp whole
  obtain ⟨found', ends'⟩ := FoundNumber.scanWhole_eq_some_iff.mp whole'
  have alike : Alike digits digits' := by
    rw [← List.append_nil digits, ← List.append_nil digits']
    exact field.alike field'
  rw [order_of_alike alike, orderAlike_of_numbers found found', ends, ends', List.drop_length,
    List.drop_length, orderRest_self order_self, Ordering.then_eq, lows]

/-- A dash behind two fields is passed, and what follows decides between fields with one number. -/
theorem order_field_dash (field : IsField digits) (field' : IsField digits') :
    order reverse (digits ++ '-' :: rest) (digits' ++ '-' :: rest') =
      (directed reverse (compare (natOfDigits digits) (natOfDigits digits'))).then
        (order reverse rest rest') := by
  obtain ⟨number, number', whole, whole', lows⟩ := field.exists_numbers field'
  have ends := (FoundNumber.scanWhole_eq_some_iff.mp whole).2
  have ends' := (FoundNumber.scanWhole_eq_some_iff.mp whole').2
  rw [order_of_alike (field.alike field'),
    orderAlike_of_numbers (FoundNumber.scan_dash whole) (FoundNumber.scan_dash whole'), ends, ends',
    List.drop_left, List.drop_left, lows, orderRest]
  have filled : compare ('-' :: rest').isEmpty ('-' :: rest).isEmpty = .eq := rfl
  have dashed : compare (isDashed ('-' :: rest')) (isDashed ('-' :: rest)) = .eq := rfl
  rw [filled, dashed, directed_eq]
  rfl

/-- Lists of numbers are compared by their first numbers and then by the rest, in either
direction. -/
theorem directed_compare_cons {m n : Nat} {list list' : List Nat} :
    directed reverse (compare (m :: list) (n :: list')) =
      (directed reverse (compare m n)).then (directed reverse (compare list list')) := by
  rw [List.compare_cons_cons]
  cases reverse with
  | false => rfl
  | true => exact Ordering.swap_then _ _

/-- **Fields.** Texts of digit fields with dashes between them are ordered by the numbers in the
fields, the first field first. -/
theorem order_join_fields (all : ∀ digits ∈ fields, IsField digits)
    (all' : ∀ digits ∈ fields', IsField digits) (fits : fields.length = fields'.length) :
    order reverse (Text.join ['-'] fields) (Text.join ['-'] fields') =
      directed reverse (compare (fields.map natOfDigits) (fields'.map natOfDigits)) := by
  induction fields generalizing fields' with
  | nil =>
      rw [List.eq_nil_of_length_eq_zero fits.symm]
      exact (order_self _).trans directed_eq.symm
  | cons digits fields ih =>
      cases fields' with
      | nil => cases fits
      | cons digits' fields' =>
          rw [List.forall_mem_cons] at all all'
          rw [List.map_cons, List.map_cons, directed_compare_cons]
          have later := ih all.2 all'.2 (Nat.succ.inj fits)
          cases fields with
          | nil =>
              have last : fields' = [] := List.eq_nil_of_length_eq_zero (Nat.succ.inj fits).symm
              subst last
              rw [← later, order_self, Ordering.then_eq]
              exact order_field all.1 all'.1
          | cons next fields =>
              cases fields' with
              | nil => cases fits
              | cons next' fields' =>
                  rw [← later, ← order_field_dash all.1 all'.1]
                  simp only [Text.join, List.append_assoc, List.cons_append, List.nil_append]

end CellOrder

/-! ## Dates -/

/-- A date as four digits of a year, two of a month and two of a day. -/
structure IsoDate where
  year : Text
  month : Text
  day : Text
  year_length : year.length = 4
  month_length : month.length = 2
  day_length : day.length = 2
  digits : ∀ c ∈ year ++ month ++ day, isDigit c = true

namespace IsoDate

open CellOrder

/-- The text of a date, with dashes between its fields. -/
def text (date : IsoDate) : Text :=
  date.year ++ '-' :: date.month ++ '-' :: date.day

theorem text_eq_join (date : IsoDate) :
    date.text = Text.join ['-'] [date.year, date.month, date.day] := by
  simp [text, Text.join]

/-- Year, month and day are fields of few digits. -/
theorem isField (date : IsoDate) : ∀ digits ∈ [date.year, date.month, date.day], IsField digits := by
  have all := date.digits
  simp only [List.forall_mem_append] at all
  have filled : ∀ {digits : Text}, 0 < digits.length → digits ≠ [] :=
    fun long => List.length_pos_iff.mp long
  simp only [List.forall_mem_cons]
  refine ⟨⟨filled ?_, ?_, all.1.1⟩, ⟨filled ?_, ?_, all.1.2⟩, ⟨filled ?_, ?_, all.2⟩, nofun⟩
  all_goals simp only [date.year_length, date.month_length, date.day_length]; decide

/-- **Dates.** Two cells that are dates are ordered by year, then by month, then by day, and the other
way round if the order is reversed. -/
theorem orderCells_chronological (reverse : Bool) (date date' : IsoDate) :
    orderCells reverse (some date.text) (some date'.text) =
      directed reverse
        ((compare (natOfDigits date.year) (natOfDigits date'.year)).then
          ((compare (natOfDigits date.month) (natOfDigits date'.month)).then
            (compare (natOfDigits date.day) (natOfDigits date'.day)))) := by
  change order reverse date.text date'.text = _
  rw [text_eq_join, text_eq_join, order_join_fields date.isField date'.isField rfl]
  simp only [List.map_cons, List.map_nil, List.compare_cons_cons, List.compare_nil_nil,
    Ordering.then_eq]

/-- The fifteenth of January stands before the second of March, and behind it in reverse. -/
theorem orderCells_chronological_of_march :
    orderCells false (some "2021-01-15".toList) (some "2021-03-02".toList) = .lt ∧
      orderCells true (some "2021-01-15".toList) (some "2021-03-02".toList) = .gt := by
  let january : IsoDate :=
    ⟨"2021".toList, "01".toList, "15".toList, rfl, rfl, rfl, List.all_eq_true.mp rfl⟩
  let march : IsoDate :=
    ⟨"2021".toList, "03".toList, "02".toList, rfl, rfl, rfl, List.all_eq_true.mp rfl⟩
  exact ⟨orderCells_chronological false january march, orderCells_chronological true january march⟩

end IsoDate

end TableSearch
