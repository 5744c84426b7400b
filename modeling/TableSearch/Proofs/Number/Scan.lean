import TableSearch.Number.Scan
import TableSearch.Proofs.Control.Token

/-! # A number holds no blanks

The number at the start of a text is a run of characters none of which is blank
(`TableSearch.FoundNumber.scan_takes`), so that a text which is a number needs no quotes.
-/

namespace TableSearch

/-! ## Texts without blanks -/

namespace CharClass

variable {c : Char}

/-- No digit is a blank. -/
theorem isBlank_of_isDigit (digit : isDigit c = true) : isBlank c = false := by
  rw [CharCase.isDigit_iff] at digit
  simp only [isBlank]
  rw [if_pos (by omega)]
  simp only [Bool.or_eq_false_iff, beq_eq_false_iff_ne, Bool.and_eq_false_iff,
    decide_eq_false_iff_not]
  omega

/-- The digits of a script lie before, between or behind the blanks. -/
theorem decimalZeros_apart : ∀ base ∈ CharTable.decimalZeros.toList,
    (0xA0 < base ∧ base + 9 < 0x1680) ∨ (0x1680 < base ∧ base + 9 < 0x2000) ∨ 0x3000 < base := by
  decide

/-- No decimal digit of any script is a blank. -/
theorem isBlank_of_isDecimal (decimal : isDecimal c = true) : isBlank c = false := by
  unfold isDecimal decimalValue? at decimal
  by_cases small : c.toNat < 128
  · rw [if_pos small] at decimal
    split at decimal
    · rename_i digit
      exact isBlank_of_isDigit digit
    · cases decimal
  · rw [if_neg small, Option.isSome_map] at decimal
    obtain ⟨base, found⟩ := Option.isSome_iff_exists.mp decimal
    have member := decimalZeros_apart base (Array.mem_toList_iff.mpr (Array.mem_of_find?_eq_some found))
    have inside := Array.find?_some found
    rw [Bool.and_eq_true, decide_eq_true_eq, decide_eq_true_eq] at inside
    simp only [isBlank]
    rw [if_neg small]
    simp only [Bool.or_eq_false_iff, beq_eq_false_iff_ne, Bool.and_eq_false_iff,
      decide_eq_false_iff_not]
    omega

/-- The codes of the blanks. -/
def blankCodes : List Nat :=
  [9, 10, 11, 12, 13, 28, 29, 30, 31, 32, 0x85, 0xA0, 0x1680, 0x2000, 0x2001, 0x2002, 0x2003,
    0x2004, 0x2005, 0x2006, 0x2007, 0x2008, 0x2009, 0x200A, 0x2028, 0x2029, 0x202F, 0x205F, 0x3000]

/-- The code of a blank is one of a short list. -/
theorem mem_blankCodes (blank : isBlank c = true) : c.toNat ∈ blankCodes := by
  simp only [isBlank] at blank
  simp only [blankCodes, List.mem_cons, List.not_mem_nil, or_false]
  split at blank
  · simp only [Bool.or_eq_true, beq_iff_eq, Bool.and_eq_true, decide_eq_true_eq] at blank
    omega
  · simp only [Bool.or_eq_true, beq_iff_eq, Bool.and_eq_true, decide_eq_true_eq] at blank
    omega

/-- No blank has a case. -/
theorem lowerForm_of_isBlank (blank : isBlank c = true) : CharCase.lowerForm c = [c] := by
  have checked : ∀ code ∈ blankCodes,
      CharCase.lowerForm (Char.ofNat code) = [Char.ofNat code] := by
    decide +kernel
  have here := checked c.toNat (mem_blankCodes blank)
  rwa [Char.ofNat_toNat] at here

end CharClass

namespace Text

/-- Whether a text holds no blank. -/
def Solid (text : Text) : Prop :=
  ∀ c ∈ text, CharClass.isBlank c = false

variable {text other : Text} {c : Char}

theorem Solid.nil : Solid [] := by
  intro c member
  cases member

theorem solid_cons : Solid (c :: text) ↔ CharClass.isBlank c = false ∧ Solid text :=
  List.forall_mem_cons

theorem solid_of_all (free : text.all (fun c => !CharClass.isBlank c) = true) : Solid text := by
  intro c member
  have known := List.all_eq_true.mp free c member
  rwa [Bool.not_eq_true'] at known

theorem Solid.append (left : Solid text) (right : Solid other) : Solid (text ++ other) :=
  List.forall_mem_append.mpr ⟨left, right⟩

theorem Solid.takeWhile {p : Char → Bool} (solid : ∀ c, p c = true → CharClass.isBlank c = false) :
    Solid (text.takeWhile p) := by
  intro c member
  exact solid c (List.all_eq_true.mp List.all_takeWhile c member)

theorem Solid.quoteToken_eq (solid : Solid text) : text.quoteToken = text := by
  rw [quoteToken, if_neg]
  rw [Bool.not_eq_true, List.any_eq_false]
  intro c member
  rw [solid c member]
  exact Bool.false_ne_true

end Text

/-! ## Signs -/

/-- The text of a sign. -/
def dash (negative : Bool) : Text :=
  if negative then ['-'] else []

theorem length_dash (negative : Bool) : (dash negative).length = if negative then 1 else 0 := by
  cases negative <;> rfl

/-- A text begins with the dash of a sign or has none. -/
theorem exists_dash (text : Text) : ∃ negative body,
    text = dash negative ++ body ∧ (negative = false → body.head? ≠ some '-') := by
  by_cases dashed : text.head? = some '-'
  · obtain ⟨body, rfl⟩ := List.head?_eq_some_iff.mp dashed
    exact ⟨true, body, rfl, nofun⟩
  · exact ⟨false, text, rfl, fun _ => dashed⟩

/-! ## Numbers -/

namespace FoundNumber

open Text

variable {text rest : Text}

/-- Whether a text begins with a given number of characters that are no blanks, and goes on with
another text. -/
def Takes (text : Text) (length : Nat) (rest : Text) : Prop :=
  ∃ taken, text = taken ++ rest ∧ taken.length = length ∧ Solid taken

variable {c : Char} {length more : Nat} {last : Text}

theorem Takes.zero : Takes text 0 text :=
  ⟨[], rfl, rfl, Solid.nil⟩

/-- A character that is no blank may be taken in front. -/
theorem Takes.cons (solid : CharClass.isBlank c = false) (later : Takes text length rest) :
    Takes (c :: text) (length + 1) rest := by
  obtain ⟨taken, split, filled, solid'⟩ := later
  refine ⟨c :: taken, ?_, ?_, solid_cons.mpr ⟨solid, solid'⟩⟩
  · rw [split, List.cons_append]
  · rw [List.length_cons, filled]

/-- What is taken from what was left is taken behind what was taken first. -/
theorem Takes.trans (first : Takes text length rest) (later : Takes rest more last) :
    Takes text (length + more) last := by
  obtain ⟨taken, rfl, rfl, solid⟩ := first
  obtain ⟨taken', rfl, rfl, solid'⟩ := later
  exact ⟨taken ++ taken', (List.append_assoc _ _ _).symm, List.length_append, solid.append solid'⟩

theorem Takes.digits : Takes text (text.takeWhile isDigit).length (text.dropWhile isDigit) :=
  ⟨text.takeWhile isDigit, List.takeWhile_append_dropWhile.symm, rfl,
    Solid.takeWhile fun _ => CharClass.isBlank_of_isDigit⟩

theorem Takes.drop_eq (takes : Takes text length rest) : text.drop length = rest := by
  obtain ⟨taken, rfl, rfl, -⟩ := takes
  exact List.drop_left

theorem Takes.solid (takes : Takes text length []) : Solid text := by
  obtain ⟨taken, rfl, -, solid⟩ := takes
  rwa [List.append_nil]

/-- The letters of a word are taken. -/
theorem matchedLength_takes {word : Text} (solid : Solid word) (text : Text) :
    ∃ rest, Takes text (matchedLength word text) rest := by
  induction word generalizing text with
  | nil => exact ⟨text, Takes.zero⟩
  | cons w word ih =>
      cases text with
      | nil => exact ⟨[], Takes.zero⟩
      | cons c text =>
          rw [solid_cons] at solid
          rw [matchedLength]
          split
          · rename_i same
            obtain ⟨rest, takes⟩ := ih solid.2 text
            refine ⟨rest, takes.cons ?_⟩
            rw [← Bool.not_eq_true]
            intro blank
            rw [CharClass.lowerForm_of_isBlank blank, List.cons.injEq] at same
            rw [same.1, solid.1] at blank
            cases blank
          · exact ⟨_, Takes.zero⟩

/-- The digits and the point of a mantissa are taken. -/
theorem scanMantissa_takes {numeral : Numeral} (found : scanMantissa text = some (numeral, rest)) :
    numeral.exponent = none ∧ Takes text numeral.length rest := by
  unfold scanMantissa at found
  simp only at found
  split at found
  · rename_i after pointed
    split at found
    · cases found
    · cases found
      have first : Takes text (text.takeWhile isDigit).length ('.' :: after) := by
        rw [← pointed]
        exact Takes.digits
      have later : Takes ('.' :: after) ((after.takeWhile isDigit).length + 1)
          (after.dropWhile isDigit) := Takes.digits.cons (by decide)
      have length_eq : (text.takeWhile isDigit).length + ((after.takeWhile isDigit).length + 1) =
          Numeral.length ⟨text.takeWhile isDigit, true, after.takeWhile isDigit, none⟩ := by
        simp only [Numeral.length, if_true]
        omega
      refine ⟨rfl, ?_⟩
      rw [← length_eq]
      exact first.trans later
  · split at found
    · cases found
    · cases found
      exact ⟨rfl, Takes.digits⟩

/-- The sign and the digits of an exponent are taken. -/
theorem scanExponent_takes {negative : Bool} {digits : Text}
    (found : scanExponent text = some (negative, digits)) :
    ∃ rest, Takes text ((if negative then 1 else 0) + digits.length) rest := by
  unfold scanExponent at found
  split at found
  rename_i signed after known
  rw [Option.ite_none_left_eq_some, Option.some.injEq, Prod.mk.injEq] at found
  obtain ⟨-, rfl, rfl⟩ := found
  split at known
  · cases known
    rw [if_pos rfl, Nat.add_comm]
    exact ⟨_, Takes.digits.cons (by decide)⟩
  · cases known
    rw [if_neg Bool.false_ne_true, Nat.zero_add]
    exact ⟨_, Takes.digits⟩

/-- The characters of a numeral are taken. -/
theorem scanNumeral_takes {numeral : Numeral} (found : scanNumeral text = some numeral) :
    ∃ rest, Takes text numeral.length rest := by
  unfold scanNumeral at found
  split at found
  · cases found
  · rename_i mantissa rest scanned
    obtain ⟨plain, takes⟩ := scanMantissa_takes scanned
    split at found
    · rename_i e after
      split at found
      · rename_i letter
        split at found
        · cases found
        · cases exponent : scanExponent after with
          | none =>
              rw [exponent] at found
              cases found
              refine ⟨e :: after, ?_⟩
              have same : Numeral.length { mantissa with exponent := none } = mantissa.length := by
                rw [← plain]
              rw [same]
              exact takes
          | some typed =>
              obtain ⟨negative, digits⟩ := typed
              rw [exponent] at found
              cases found
              obtain ⟨last, powers⟩ := scanExponent_takes exponent
              have solid : CharClass.isBlank e = false := by
                rw [Bool.or_eq_true, decide_eq_true_eq, decide_eq_true_eq] at letter
                rcases letter with rfl | rfl
                · decide
                · decide
              have same : Numeral.length { mantissa with exponent := some (negative, digits) } =
                  mantissa.length + ((if negative then 1 else 0) + digits.length + 1) := by
                simp only [Numeral.length, plain]
                omega
              rw [same]
              exact ⟨last, takes.trans (powers.cons solid)⟩
      · cases found
        exact ⟨_, takes⟩
    · cases found
      exact ⟨_, takes⟩

theorem nanWord_solid : Solid nanWord :=
  solid_of_all (by decide)

theorem infinityWord_solid : Solid infinityWord :=
  solid_of_all (by decide)

/-- The characters of a number behind its sign are taken. -/
theorem scanUnsigned_takes {negative : Bool} {sign : Nat} {number : FoundNumber}
    (found : scanUnsigned negative sign text = some number) :
    ∃ length rest, number.length = sign + length ∧ Takes text length rest := by
  unfold scanUnsigned at found
  simp only at found
  split at found
  · rename_i whole
    cases found
    obtain ⟨rest, takes⟩ := matchedLength_takes nanWord_solid text
    rw [whole] at takes
    exact ⟨3, rest, rfl, takes⟩
  · split at found
    · cases found
      obtain ⟨rest, takes⟩ := matchedLength_takes infinityWord_solid text
      exact ⟨_, rest, rfl, takes⟩
    · obtain ⟨numeral, scanned, same⟩ := Option.map_eq_some_iff.mp found
      obtain ⟨rest, takes⟩ := scanNumeral_takes scanned
      rw [← same]
      exact ⟨_, rest, rfl, takes⟩

/-- **Numbers.** The number at the start of a text holds no blanks. -/
theorem scan_takes {number : FoundNumber} (found : scan text = some number) :
    ∃ rest, Takes text number.length rest := by
  unfold scan at found
  split at found
  · obtain ⟨length, rest, same, takes⟩ := scanUnsigned_takes found
    rw [same, Nat.add_comm]
    exact ⟨rest, takes.cons (by decide)⟩
  · obtain ⟨length, rest, same, takes⟩ := scanUnsigned_takes found
    rw [same, Nat.zero_add]
    exact ⟨rest, takes⟩

theorem scanWhole_eq_some_iff {number : FoundNumber} :
    scanWhole text = some number ↔ scan text = some number ∧ number.length = text.length := by
  rw [scanWhole, Option.filter_eq_some_iff, beq_iff_eq]

/-- A text that is a number holds no blank. -/
theorem scanWhole_solid {number : FoundNumber} (found : scanWhole text = some number) :
    Solid text := by
  obtain ⟨scanned, whole⟩ := scanWhole_eq_some_iff.mp found
  obtain ⟨rest, takes⟩ := scan_takes scanned
  have ends : rest = [] := by
    rw [← takes.drop_eq, List.drop_eq_nil_iff]
    exact Nat.le_of_eq whole.symm
  rw [ends] at takes
  exact takes.solid

/-! ## The cases of a number -/

/-- Digits in front of a point are a mantissa together with those behind it, if there are any on
either side. -/
theorem scanMantissa_of_pointed {after : Text} (pointed : text.dropWhile isDigit = '.' :: after) :
    scanMantissa text =
      if (text.takeWhile isDigit).isEmpty && (after.takeWhile isDigit).isEmpty then none
      else some (⟨text.takeWhile isDigit, true, after.takeWhile isDigit, none⟩,
        after.dropWhile isDigit) := by
  simp only [scanMantissa, pointed]

/-- Digits without a point behind them are a mantissa, if there are any. -/
theorem scanMantissa_of_plain (plain : (text.dropWhile isDigit).head? ≠ some '.') :
    scanMantissa text =
      if (text.takeWhile isDigit).isEmpty then none
      else some (⟨text.takeWhile isDigit, false, [], none⟩, text.dropWhile isDigit) := by
  unfold scanMantissa
  simp only
  split
  · rename_i after pointed
    rw [pointed] at plain
    exact absurd rfl plain
  · rfl

theorem scan_of_undashed (undashed : text.head? ≠ some '-') :
    scan text = scanUnsigned false 0 text := by
  unfold scan
  split
  · exact absurd rfl undashed
  · rfl

/-- No letter of a number word is a digit or a point. -/
theorem matchedLength_eq_zero {w c : Char} {word rest : Text} (kind : isDigit c = true ∨ c = '.')
    (letter : w = 'n' ∨ w = 'i') : matchedLength (w :: word) (c :: rest) = 0 := by
  have checked : ∀ code ∈ [46, 48, 49, 50, 51, 52, 53, 54, 55, 56, 57],
      CharCase.lowerForm (Char.ofNat code) ≠ ['n'] ∧
        CharCase.lowerForm (Char.ofNat code) ≠ ['i'] := by
    decide +kernel
  have member : c.toNat ∈ [46, 48, 49, 50, 51, 52, 53, 54, 55, 56, 57] := by
    rcases kind with digit | rfl
    · rw [CharCase.isDigit_iff] at digit
      simp only [List.mem_cons, List.not_mem_nil, or_false]
      omega
    · decide
  have here := checked c.toNat member
  rw [Char.ofNat_toNat] at here
  rw [matchedLength, if_neg]
  rcases letter with rfl | rfl
  · exact here.1
  · exact here.2

/-- A mantissa begins with a digit or a point. -/
theorem exists_cons_of_scanMantissa {numeral : Numeral}
    (found : scanMantissa text = some (numeral, rest)) :
    ∃ c tail, text = c :: tail ∧ (isDigit c = true ∨ c = '.') := by
  cases text with
  | nil => cases found
  | cons c tail =>
      refine ⟨c, tail, rfl, ?_⟩
      by_cases digit : isDigit c = true
      · exact .inl digit
      · by_cases point : c = '.'
        · exact .inr point
        · have nothing : (c :: tail).takeWhile isDigit = [] := List.takeWhile_cons_of_neg digit
          have plain : ((c :: tail).dropWhile isDigit).head? ≠ some '.' := by
            rw [List.dropWhile_cons_of_neg digit]
            exact fun same => point (Option.some.inj same)
          rw [scanMantissa_of_plain plain, nothing] at found
          cases found

/-- A text that begins with a numeral begins with no number word. -/
theorem scanUnsigned_of_numeral {numeral : Numeral} (negative : Bool) (sign : Nat)
    (found : scanNumeral text = some numeral) :
    scanUnsigned negative sign text =
      some (.ofNumeral negative numeral (sign + numeral.length)) := by
  cases scanned : scanMantissa text with
  | none =>
      rw [scanNumeral, scanned] at found
      cases found
  | some split =>
      obtain ⟨c, tail, rfl, kind⟩ := exists_cons_of_scanMantissa scanned
      rw [scanUnsigned, found, show nanWord = 'n' :: ['a', 'n'] from rfl,
        show infinityWord = 'i' :: ['n', 'f', 'i', 'n', 'i', 't', 'y'] from rfl,
        matchedLength_eq_zero kind (.inl rfl), matchedLength_eq_zero kind (.inr rfl),
        if_neg (by decide), if_neg (by decide), Option.map_some]

/-- The sign of a number is taken off before the rest is scanned. -/
theorem scan_signed {negative : Bool} (undashed : negative = false → text.head? ≠ some '-') :
    scan (dash negative ++ text) = scanUnsigned negative (dash negative).length text := by
  cases negative with
  | false => exact scan_of_undashed (undashed rfl)
  | true => rfl

/-- An exponent is its sign and its digits, if there are any and they are not too many. -/
theorem scanExponent_signed {negative : Bool}
    (undashed : negative = false → text.head? ≠ some '-') :
    scanExponent (dash negative ++ text) =
      if (text.takeWhile isDigit).isEmpty ||
        exponentLimit < (text.takeWhile isDigit).length + (if negative then 1 else 0) then none
      else some (negative, text.takeWhile isDigit) := by
  cases negative with
  | true => rfl
  | false =>
      change scanExponent text = _
      unfold scanExponent
      split
      rename_i signed after known
      split at known
      · exact absurd rfl (undashed rfl)
      · cases known
        rfl

/-- No number begins with two dashes. -/
theorem undashed_of_scanUnsigned {negative : Bool} {sign : Nat} {number : FoundNumber}
    (found : scanUnsigned negative sign text = some number) : text.head? ≠ some '-' := by
  intro dashed
  obtain ⟨body, rfl⟩ := List.head?_eq_some_iff.mp dashed
  cases found

/-! ## Where a text goes on -/

/-- A mantissa is not empty. -/
theorem scanMantissa_length_pos {numeral : Numeral}
    (found : scanMantissa text = some (numeral, rest)) : 0 < numeral.length := by
  have filled : ∀ {digits : Text}, ¬digits.isEmpty = true → 0 < digits.length := by
    intro digits some
    rwa [List.isEmpty_iff, ← ne_eq, ← List.length_pos_iff] at some
  unfold scanMantissa at found
  simp only at found
  split at found
  · split at found
    · cases found
    · cases found
      simp only [Numeral.length, if_true]
      omega
  · split at found
    · cases found
    · rename_i some
      cases found
      have := filled some
      simp only [Numeral.length]
      omega

/-- A numeral is not empty. -/
theorem scanNumeral_length_pos {numeral : Numeral} (found : scanNumeral text = some numeral) :
    0 < numeral.length := by
  unfold scanNumeral at found
  split at found
  · cases found
  · rename_i mantissa rest scanned
    have filled := scanMantissa_length_pos scanned
    split at found
    · split at found
      · split at found
        · cases found
        · cases found
          have plain := (scanMantissa_takes scanned).1
          simp only [Numeral.length, plain] at filled ⊢
          omega
      · cases found
        exact filled
    · cases found
      exact filled

/-- A number behind its sign is not empty. -/
theorem scanUnsigned_length_pos {negative : Bool} {sign : Nat} {number : FoundNumber}
    (found : scanUnsigned negative sign text = some number) : 0 < number.length := by
  unfold scanUnsigned at found
  simp only at found
  split at found
  · cases found
    exact Nat.lt_add_left sign (by decide)
  · split at found
    · rename_i long
      cases found
      exact Nat.lt_add_left sign (Nat.lt_of_lt_of_le (by decide) long)
    · obtain ⟨numeral, scanned, rfl⟩ := Option.map_eq_some_iff.mp found
      exact Nat.lt_add_left sign (scanNumeral_length_pos scanned)

/-- A number has characters, so that the text behind it is shorter. -/
theorem scan_length_pos {number : FoundNumber} (found : scan text = some number) :
    0 < number.length := by
  unfold scan at found
  split at found
  · exact scanUnsigned_length_pos found
  · exact scanUnsigned_length_pos found

/-- A text that is a number has a first character. -/
theorem exists_cons_of_scanWhole {number : FoundNumber} (found : scanWhole text = some number) :
    ∃ c rest, text = c :: rest := by
  obtain ⟨scanned, whole⟩ := scanWhole_eq_some_iff.mp found
  exact List.exists_cons_of_length_pos (whole ▸ scan_length_pos scanned)

end FoundNumber

end TableSearch
