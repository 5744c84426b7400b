import TableSearch.Proofs.Number.Digits
import TableSearch.Proofs.Toml.Text

/-! # Values that were written

The reader takes every value back from the text that is written for it
(`TableSearch.Toml.readValue_writeSetting`), integers as long as they have no more digits than it
converts (`TableSearch.Toml.Setting.IsShort`), if there is room for a list.
-/

namespace TableSearch

namespace Toml

namespace Setting

/-- The value that is read where a setting was written. -/
def value : Setting → Value
  | text value => .text value
  | int value => .int value
  | bool value => .bool value
  | texts items => .list (items.map .text)

/-- Whether an integer has no more digits than the reader converts. -/
def IsShort : Setting → Prop
  | int value => (Text.ofNat value.natAbs).length ≤ PatternError.digitLimit
  | _ => True

instance : DecidablePred IsShort
  | int value => Nat.decLe (Text.ofNat value.natAbs).length PatternError.digitLimit
  | text _ | bool _ | texts _ => .isTrue trivial

end Setting

variable {room offset rounds n place : Nat} {number : Int} {c stop : Char}
  {digits gap rest text : Text}

/-! ## Digits -/

theorem digitRun_stop (stops : isDigit stop = false) : digitRun isDigit (stop :: rest) = [] := by
  rw [digitRun.eq_def]
  exact if_neg (by rw [stops]; exact Bool.false_ne_true)

/-- A digit begins a run that goes on with what follows, unless that is an underscore. -/
theorem digitRun_digit (digit : isDigit c = true) (other : rest.head? ≠ some '_') :
    digitRun isDigit (c :: rest) = c :: digitRun isDigit rest := by
  rw [digitRun.eq_def]
  refine (if_pos digit).trans (congrArg (c :: ·) ?_)
  split
  · exact absurd rfl other
  · rfl

/-- A line of digits is one run. -/
theorem digitRun_digits (all : ∀ c ∈ digits, isDigit c = true) :
    digitRun isDigit (digits ++ '\n' :: rest) = digits := by
  induction digits with
  | nil => exact digitRun_stop rfl
  | cons c digits ih =>
      rw [List.forall_mem_cons] at all
      have other : (digits ++ '\n' :: rest).head? ≠ some '_' := by
        cases digits with
        | nil => exact fun same => absurd (Option.some.inj same) (by decide)
        | cons d digits =>
            rintro ⟨⟩
            exact absurd (all.2 '_' List.mem_cons_self) (by decide)
      rw [List.cons_append, digitRun_digit all.1 other, ih all.2]

theorem digitsOf_digits (all : ∀ c ∈ digits, isDigit c = true) : digitsOf digits = digits := by
  refine List.filter_eq_self.mpr fun c member => ?_
  rw [bne_iff_ne]
  rintro rfl
  exact absurd (all '_' member) (by decide)

/-- A written number begins with a digit. -/
theorem ofNat_ne_cons {other : Char} {more : Text} (apart : isDigit other = false)
    (same : Text.ofNat n ++ '\n' :: rest = other :: more) : False := by
  obtain ⟨first, tail, whole⟩ : ∃ first tail, Text.ofNat n = first :: tail :=
    List.exists_cons_of_ne_nil Nat.toDigits_ne_nil
  have digit : isDigit first = true := isDigit_of_mem_ofNat (whole ▸ List.mem_cons_self)
  rw [whole] at same
  obtain ⟨rfl, -⟩ := List.cons.inj same
  exact Bool.false_ne_true (apart.symm.trans digit)

/-- The reader takes all digits of a written number: only the number zero begins with a zero. -/
theorem whole_ofNat : (if (Text.ofNat n ++ '\n' :: rest).head? = some '0' then ['0']
    else digitRun isDigit (Text.ofNat n ++ '\n' :: rest)) = Text.ofNat n := by
  rcases Nat.eq_zero_or_pos n with zero | positive
  · rw [zero]
    rfl
  · obtain ⟨first, more, whole⟩ : ∃ first more, Text.ofNat n = first :: more :=
      List.exists_cons_of_ne_nil Nat.toDigits_ne_nil
    have leading := head_ofNat_ne_zero positive
    rw [if_neg, digitRun_digits fun _ => isDigit_of_mem_ofNat]
    rw [whole] at leading ⊢
    exact leading

theorem ofInt_eq : Text.ofInt number =
    (if number < 0 then ['-'] else []) ++ Text.ofNat number.natAbs := by
  cases number with
  | ofNat n => rw [if_neg (by simp)]; rfl
  | negSucc n => rw [if_pos (Int.negSucc_lt_zero n)]; rfl

/-! ## Numbers -/

/-- In a line of digits, what follows a number of digits is another digit or the end of the line. -/
theorem next_digits (digit : ∀ c ∈ digits, isDigit c = true)
    (all : ((digits ++ '\n' :: rest).take place).all isDigit = true)
    (next : (digits ++ '\n' :: rest)[place]? = some c) : isDigit c = true ∨ c = '\n' := by
  induction digits generalizing place with
  | nil =>
      cases place with
      | zero => exact .inr (Option.some.inj next).symm
      | succ place =>
          rw [List.nil_append, List.take_succ_cons, List.all_cons] at all
          exact absurd all Bool.false_ne_true
  | cons d digits ih =>
      rw [List.forall_mem_cons] at digit
      cases place with
      | zero => exact .inl (Option.some.inj next ▸ digit.1)
      | succ place =>
          rw [List.cons_append, List.take_succ_cons, List.all_cons, digit.1, Bool.true_and] at all
          exact ih digit.2 all next

/-- Behind characters of a written integer that are all digits stands a digit or the line break. -/
theorem next_ofInt (all : ((Text.ofInt number ++ '\n' :: rest).take (place + 1)).all isDigit = true)
    (next : (Text.ofInt number ++ '\n' :: rest)[place + 1]? = some c) :
    isDigit c = true ∨ c = '\n' := by
  rw [ofInt_eq] at all next
  split_ifs at all next with negative
  · rw [List.append_assoc, List.singleton_append, List.take_succ_cons, List.all_cons] at all
    exact absurd all Bool.false_ne_true
  · exact next_digits (fun _ => isDigit_of_mem_ofNat) all next

/-- In a written integer no separator of a date or of a time follows the first digits. -/
theorem next_ofInt_ne (other : isDigit c = false) (apart : c ≠ '\n')
    (all : ((Text.ofInt number ++ '\n' :: rest).take (place + 1)).all isDigit = true) :
    (Text.ofInt number ++ '\n' :: rest)[place + 1]? ≠ some c := by
  intro next
  rcases next_ofInt all next with digit | feed
  · rw [other] at digit
    exact Bool.false_ne_true digit
  · exact apart feed

/-- What is read as a number of two digits begins with two digits. -/
theorem all_of_twoDigits? {low high value : Nat} (found : twoDigits? low high text = some value) :
    (text.take 2).all isDigit = true := by
  rw [twoDigits?] at found
  split at found
  case isTrue fits =>
    simp only [Bool.and_eq_true] at fits
    exact fits.1.1.2
  case isFalse => cases found

/-- A written integer is no time of day. -/
theorem timeLength?_ofInt : timeLength? (Text.ofInt number ++ '\n' :: rest) = none := by
  cases hour : twoDigits? 0 23 (Text.ofInt number ++ '\n' :: rest) with
  | none => rw [timeLength?, hour]; rfl
  | some value =>
      have other := next_ofInt_ne (c := ':') (by decide) (by decide) (all_of_twoDigits? hour)
      rw [timeLength?, hour]
      cases twoDigits? 0 59 ((Text.ofInt number ++ '\n' :: rest).drop 3) with
      | none => rfl
      | some minute =>
          cases twoDigits? 0 59 ((Text.ofInt number ++ '\n' :: rest).drop 6) with
          | none => rfl
          | some second =>
              refine if_neg fun marked => other ?_
              rw [Bool.and_eq_true] at marked
              exact of_decide_eq_true marked.1

/-- A written integer is neither a date nor a time. -/
theorem readMoment?_ofInt : readMoment? (Text.ofInt number ++ '\n' :: rest) = none := by
  have other (all : ((Text.ofInt number ++ '\n' :: rest).take 4).all isDigit = true) :=
    next_ofInt_ne (c := '-') (by decide) (by decide) all
  have date : ¬((((Text.ofInt number ++ '\n' :: rest).take 4).length = 4 &&
      ((Text.ofInt number ++ '\n' :: rest).take 4).all isDigit &&
      (Text.ofInt number ++ '\n' :: rest)[4]? = some '-' &&
      (Text.ofInt number ++ '\n' :: rest)[7]? = some '-') = true) := by
    simp only [Bool.and_eq_true, decide_eq_true_eq]
    rintro ⟨⟨⟨-, all⟩, dash⟩, -⟩
    exact other all dash
  simp only [readMoment?, if_neg date, timeLength?_ofInt, Option.map_none]

/-- A written integer has no prefix for another base. -/
theorem readBased?_ofInt : readBased? (Text.ofInt number ++ '\n' :: rest) = none := by
  rw [readBased?.eq_def]
  split
  case h_1 letter more written =>
    have all : ((Text.ofInt number ++ '\n' :: rest).take 1).all isDigit = true := by
      rw [written]
      rfl
    have kind : isDigit letter = true ∨ letter = '\n' := next_ofInt all (by rw [written]; rfl)
    have hex : letter ≠ 'x' := by
      rintro rfl
      exact absurd kind (by decide)
    have octal : letter ≠ 'o' := by
      rintro rfl
      exact absurd kind (by decide)
    have binary : letter ≠ 'b' := by
      rintro rfl
      exact absurd kind (by decide)
    simp only [hex, octal, binary, ↓reduceIte, Option.bind_none]
  case h_2 => rfl

/-- A written integer is read as that integer, or refused if it has more digits than the reader
converts. -/
theorem readDecimal?_ofInt : readDecimal? (Text.ofInt number ++ '\n' :: rest) =
    some (if PatternError.digitLimit < (Text.ofNat number.natAbs).length then
        .error (.longInteger (Text.ofNat number.natAbs).length)
      else .ok (.int number), (Text.ofInt number).length) := by
  have filled : (Text.ofNat number.natAbs).isEmpty = false :=
    List.isEmpty_eq_false_iff.mpr Nat.toDigits_ne_nil
  have plain : digitsOf (Text.ofNat number.natAbs) = Text.ofNat number.natAbs :=
    digitsOf_digits fun _ => isDigit_of_mem_ofNat
  have noPoint (more : Text) : '\n' :: rest = '.' :: more → False := by
    rintro ⟨⟩
  rw [ofInt_eq]
  by_cases negative : number < 0
  · have value : -(number.natAbs : Int) = number := by omega
    simp only [*, ↓reduceIte, List.cons_append, List.nil_append, readDecimal?, whole_ofNat,
      List.drop_left, List.drop_zero, List.length_nil, List.length_cons, List.isEmpty_nil,
      Char.reduceEq, decide_false, Bool.or_self, Bool.and_self, Bool.false_eq_true,
      natOfDigits_ofNat, Nat.add_zero, Nat.zero_add, Nat.add_comm 1]
    split_ifs <;> rfl
  · have value : (number.natAbs : Int) = number := by omega
    have minus (more : Text) : Text.ofNat number.natAbs ++ '\n' :: rest = '-' :: more → False :=
      ofNat_ne_cons rfl
    have plus (more : Text) : Text.ofNat number.natAbs ++ '\n' :: rest = '+' :: more → False :=
      ofNat_ne_cons rfl
    have unsigned : ([] : Text) ≠ ['-'] := by decide
    simp only [*, ↓reduceIte, List.nil_append, readDecimal?, whole_ofNat, List.drop_left,
      List.drop_zero, List.length_nil, List.isEmpty_nil, Char.reduceEq, decide_false, Bool.or_self,
      Bool.and_self, Bool.false_eq_true, natOfDigits_ofNat, Nat.add_zero, Nat.zero_add]
    split_ifs <;> rfl

/-- A written integer begins with a dash or a digit. -/
theorem ofInt_eq_cons : ∃ first more, Text.ofInt number = first :: more ∧
    ∀ other, other ≠ '-' → isDigit other = false → first ≠ other := by
  rw [ofInt_eq]
  split_ifs with negative
  · refine ⟨'-', _, rfl, fun other dash _ => dash.symm⟩
  · obtain ⟨first, more, whole⟩ : ∃ first more, Text.ofNat number.natAbs = first :: more :=
      List.exists_cons_of_ne_nil Nat.toDigits_ne_nil
    have digit : isDigit first = true := isDigit_of_mem_ofNat (whole ▸ List.mem_cons_self)
    refine ⟨first, more, whole, ?_⟩
    rintro other - none rfl
    exact Bool.false_ne_true (none.symm.trans digit)

/-- A written integer does not begin with a word, such as the one for true, whose first character is
neither a dash nor a digit. -/
theorem sees_ofInt {word : Text} (dash : c ≠ '-') (other : isDigit c = false) :
    (⟨Text.ofInt number ++ '\n' :: rest, offset⟩ : Cursor).sees (c :: word) = false := by
  obtain ⟨first, more, whole, apart⟩ := @ofInt_eq_cons number
  rw [Cursor.sees, whole, List.cons_append, List.isPrefixOf,
    beq_eq_false_iff_ne.mpr (apart c dash other).symm, Bool.false_and]

/-- An integer is read back exactly if it has no more digits than the reader converts. -/
theorem readPlain_ofInt : readPlain ⟨Text.ofInt number ++ '\n' :: rest, offset⟩ =
    if PatternError.digitLimit < (Text.ofNat number.natAbs).length then
      .error (.longInteger (Text.ofNat number.natAbs).length)
    else .ok (.int number, ⟨'\n' :: rest, offset + (Text.ofInt number).length⟩) := by
  rw [readPlain, sees_ofInt (by decide) rfl, sees_ofInt (by decide) rfl, readMoment?_ofInt,
    readBased?_ofInt, readDecimal?_ofInt]
  by_cases long : PatternError.digitLimit < (Text.ofNat number.natAbs).length
  · rw [if_pos long, if_pos long]
    rfl
  · rw [if_neg long, if_neg long]
    exact congrArg (fun later => Except.ok (Value.int number, later)) Cursor.drop_append

/-! ## Gaps -/

theorem skipComment_none (opens : rest.head? = some stop) (other : stop ≠ '#') :
    skipComment ⟨rest, offset⟩ = .ok ⟨rest, offset⟩ := by
  rw [skipComment, Cursor.next?, opens, if_neg]
  exact fun comment => other (Option.some.inj comment)

theorem skipGaps_none (stops : isGap stop = false) (other : stop ≠ '#') :
    skipGaps ⟨stop :: rest, offset⟩ (rounds + 1) = .ok ⟨stop :: rest, offset⟩ := by
  rw [skipGaps, Cursor.skip_none stops, skipComment_none rfl other]
  exact if_pos rfl

/-- The gaps between the items of a list are skipped as a whole. -/
theorem skipGaps_append (all : ∀ c ∈ gap, isGap c = true) (opens : rest.head? = some stop)
    (stops : isGap stop = false) (other : stop ≠ '#') :
    skipGaps ⟨gap ++ rest, offset⟩ ((gap ++ rest).length + 1) =
      .ok ⟨rest, offset + gap.length⟩ := by
  obtain ⟨more, rfl⟩ := List.head?_eq_some_iff.mp opens
  have rounds : (gap ++ stop :: more).length = gap.length + more.length + 1 := List.length_append
  rw [rounds, skipGaps, Cursor.skip_append all stops, skipComment_none opens other]
  change (if offset + gap.length = offset then _ else _) = _
  by_cases empty : offset + gap.length = offset
  · rw [if_pos empty]
    rfl
  · rw [if_neg empty]
    exact skipGaps_none stops other

/-! ## Values -/

/-- A written string is read back, whatever follows it, as long as that is no further quote. -/
theorem readValue_string (other : stop ≠ '"') :
    readValue room ⟨string text ++ stop :: rest, offset⟩ (rounds + 1) =
      .ok (.text text, ⟨stop :: rest, offset + (string text).length⟩) := by
  have next : (⟨string text ++ stop :: rest, offset⟩ : Cursor).next? = some '"' := by
    rw [string_append]
    rfl
  rw [readValue, next]
  simp only [sees_string other, Bool.false_eq_true, ↓reduceIte, readLineString_string]
  rfl

/-- A value that does not open a string, a list or a table is read as a plain one. -/
theorem readValue_plain {cursor : Cursor} (next : cursor.next? = some c) (quote : c ≠ '"')
    (tick : c ≠ '\'') (bracket : c ≠ '[') (brace : c ≠ '\x7b') :
    readValue room cursor (rounds + 1) = readPlain cursor := by
  rw [readValue, next]
  split
  case h_1 same => exact absurd (Option.some.inj same) quote
  case h_2 same => exact absurd (Option.some.inj same) tick
  case h_3 same => exact absurd (Option.some.inj same) bracket
  case h_4 same => exact absurd (Option.some.inj same) brace
  case h_5 => rfl

/-- A list is read if there is room for it. -/
theorem readValue_list {cursor : Cursor} (roomy : listRoom ≤ room) (next : cursor.next? = some '[') :
    readValue room cursor (rounds + 1) =
      readItems (room - listRoom) [] (cursor.drop 1) rounds := by
  rw [readValue, next]
  exact if_neg (Nat.not_lt.mpr roomy)

/-- An integer at the end of its line is read back, or refused if it has too many digits. -/
theorem readValue_ofInt :
    readValue room ⟨Text.ofInt number ++ '\n' :: rest, offset⟩ (rounds + 1) =
      if PatternError.digitLimit < (Text.ofNat number.natAbs).length then
        .error (.longInteger (Text.ofNat number.natAbs).length)
      else .ok (.int number, ⟨'\n' :: rest, offset + (Text.ofInt number).length⟩) := by
  obtain ⟨first, more, whole, apart⟩ := @ofInt_eq_cons number
  have next : (⟨Text.ofInt number ++ '\n' :: rest, offset⟩ : Cursor).next? = some first := by
    rw [whole]
    rfl
  rw [readValue_plain next (apart '"' (by decide) rfl) (apart '\'' (by decide) rfl)
    (apart '[' (by decide) rfl) (apart '\x7b' (by decide) rfl), readPlain_ofInt]

/-- The line of an item of a list. -/
def itemLine (item : Text) : Text :=
  "    ".toList ++ string item ++ [',', '\n']

/-- The lines of a list are read back as its strings, in order, behind those seen before. -/
theorem readItems_texts {items : List Text} {seen : List Value} (enough : items.length < rounds) :
    readItems room seen ⟨'\n' :: (items.flatMap itemLine ++ ']' :: rest), offset⟩ rounds =
      .ok (.list (seen ++ items.map .text),
        ⟨rest, offset + ((items.flatMap itemLine).length + 2)⟩) := by
  induction items generalizing seen offset rounds with
  | nil =>
      obtain ⟨rounds, rfl⟩ : ∃ more, rounds = more + 1 := ⟨rounds - 1, by omega⟩
      have text : '\n' :: ([].flatMap itemLine ++ ']' :: rest) = ['\n'] ++ ']' :: rest := rfl
      have feed : ∀ c ∈ ['\n'], isGap c = true := List.forall_mem_singleton.mpr rfl
      rw [readItems, text, skipGaps_append feed rfl rfl (by decide), List.map_nil, List.append_nil]
      rfl
  | cons item items ih =>
      rw [List.length_cons] at enough
      obtain ⟨rounds, rfl⟩ : ∃ more, rounds = more + 2 := ⟨rounds - 2, by omega⟩
      have later := @ih (offset + 5 + (string item).length + 1) (rounds + 1)
        (seen ++ [.text item]) (by omega)
      -- A round ends behind the comma, so the line break belongs to the next one.
      generalize tail_eq : '\n' :: (items.flatMap itemLine ++ ']' :: rest) = tail at later
      have text : '\n' :: ((item :: items).flatMap itemLine ++ ']' :: rest) =
          '\n' :: "    ".toList ++ (string item ++ ',' :: tail) := by
        rw [← tail_eq, List.flatMap_cons, itemLine]
        simp only [List.append_assoc, List.cons_append, List.nil_append]
      have length : ((item :: items).flatMap itemLine).length =
          4 + (string item).length + 2 + (items.flatMap itemLine).length := by
        rw [List.flatMap_cons, itemLine, List.length_append, List.length_append,
          List.length_append]
        rfl
      have opens : (string item ++ ',' :: tail).head? = some '"' := by
        rw [string_append]
        rfl
      have closed : ¬(string item ++ ',' :: tail).head? = some ']' := by
        rw [opens]
        decide
      have comma (offset : Nat) : skipGaps ⟨',' :: tail, offset⟩ ((',' :: tail).length + 1) =
          .ok ⟨',' :: tail, offset⟩ := skipGaps_none rfl (by decide)
      have indent : ∀ c ∈ '\n' :: "    ".toList, isGap c = true := List.all_eq_true.mp rfl
      rw [readItems, text, skipGaps_append indent opens rfl (by decide)]
      simp only [bind, Except.bind, Cursor.next?, closed, ↓reduceIte,
        readValue_string (show ',' ≠ '"' by decide), comma]
      refine later.trans ?_
      rw [length, List.map_cons, List.append_assoc, List.singleton_append]
      congr 3
      omega

/-- Every item of a list takes at least one character, so a reader with a round for each character
has enough of them. -/
theorem length_le_items {items : List Text} : items.length ≤ (items.flatMap itemLine).length := by
  induction items with
  | nil => exact Nat.zero_le _
  | cons item items ih =>
      rw [List.flatMap_cons, List.length_append, List.length_cons, itemLine, List.length_append,
        List.length_cons]
      omega

/-- **A value is read back from the text that is written for it.** -/
theorem readValue_writeSetting {value : Setting} (roomy : listRoom ≤ room) (short : value.IsShort)
    (enough : (writeSetting value).length < rounds) :
    readValue room ⟨writeSetting value ++ '\n' :: rest, offset⟩ rounds =
      .ok (value.value, ⟨'\n' :: rest, offset + (writeSetting value).length⟩) := by
  obtain ⟨rounds, rfl⟩ : ∃ more, rounds = more + 1 := ⟨rounds - 1, by omega⟩
  cases value with
  | text value => exact readValue_string (by decide)
  | int value => exact readValue_ofInt.trans (if_neg (Nat.not_lt.mpr short))
  | bool value =>
      cases value with
      | false => exact readValue_plain rfl (by decide) (by decide) (by decide) (by decide)
      | true => exact readValue_plain rfl (by decide) (by decide) (by decide) (by decide)
  | texts items =>
      cases items with
      | nil =>
          obtain ⟨rounds, rfl⟩ : ∃ more, rounds = more + 1 :=
            ⟨rounds - 1, by simp only [writeSetting, List.length_cons] at enough; omega⟩
          rw [readValue_list roomy rfl]
          change readItems _ [] ⟨']' :: '\n' :: rest, offset + 1⟩ (rounds + 1) = _
          rw [readItems, skipGaps_none rfl (by decide)]
          rfl
      | cons item items =>
          have written : writeSetting (.texts (item :: items)) =
              '[' :: '\n' :: ((item :: items).flatMap itemLine ++ [']']) := rfl
          have length : (writeSetting (.texts (item :: items))).length =
              ((item :: items).flatMap itemLine).length + 3 := by
            rw [written, List.length_cons, List.length_cons, List.length_append]
            rfl
          have text : writeSetting (.texts (item :: items)) ++ '\n' :: rest =
              '[' :: '\n' :: ((item :: items).flatMap itemLine ++ ']' :: '\n' :: rest) := by
            rw [written, List.cons_append, List.cons_append, List.append_assoc]
            rfl
          have few := @length_le_items (item :: items)
          rw [text, length, readValue_list roomy rfl]
          change readItems _ [] ⟨'\n' :: _, offset + 1⟩ rounds = _
          rw [readItems_texts (by omega), List.nil_append]
          congr 3
          omega

end Toml

end TableSearch
