import TableSearch.Number.Numeral
import TableSearch.Proofs.Number.Digits
import TableSearch.Proofs.Number.Monotone
import TableSearch.Proofs.Number.Scan
import TableSearch.Proofs.Text.Letters

/-! # The grammar of numbers

What a text begins with is a number in three cases: the three letters `nan`, at least three letters of
`infinity`, or a numeral, each behind an optional dash (`TableSearch.NumberText`).  Letters may have
either case, and every part goes on as far as it can: the grammar relates what is taken to the text
that it stands in front of.

The scanner finds a number exactly where the grammar has one, and of the same length
(`TableSearch.FoundNumber.scanAt_grammar`).  The parts of a numeral are then numerals themselves, so
that no conversion of them fails.
-/

namespace TableSearch

/-! ## The grammar -/

/-- Whether a character is a small letter of the ASCII range or its capital. -/
def IsLetter (w c : Char) : Prop :=
  c = w ∨ c = w.toUpper

/-- Whether letters spell the start of a word. -/
def Spells (word letters : Text) : Prop :=
  List.Forall₂ IsLetter (word.take letters.length) letters

/-- Whether a text is all the digits up to the next text. -/
structure IsRun (digits rest : Text) : Prop where
  digits : ∀ c ∈ digits, isDigit c = true
  ends : ∀ c ∈ rest.head?, isDigit c = false

/-- Whether a text is an exponent up to the next text: the letter, a sign and digits, fewer than twenty
characters behind the letter. -/
inductive IsExponent : Text → Text → Prop where
  | intro {e : Char} {negative : Bool} {digits rest : Text} (letter : IsLetter 'e' e)
      (run : IsRun digits rest) (filled : digits ≠ [])
      (short : (dash negative ++ digits).length < 20) :
      IsExponent (e :: (dash negative ++ digits)) rest

/-- The parts of a numeral without its sign, as they are typed. -/
structure TypedNumeral where
  whole : Text
  point : Text
  fraction : Text
  exponent : Text

namespace TypedNumeral

/-- The text of a numeral. -/
def text (n : TypedNumeral) : Text :=
  n.whole ++ (n.point ++ (n.fraction ++ n.exponent))

/-- Whether three parts of a numeral are in order up to the next text: digits, with or without a point
among them. -/
structure IsMantissa (whole point fraction rest : Text) : Prop where
  leading : IsRun whole (point ++ (fraction ++ rest))
  trailing : IsRun fraction rest
  pointed : point = ['.'] ∨ point = [] ∧ fraction = [] ∧ rest.head? ≠ some '.'
  filled : whole ++ fraction ≠ []

/-- Whether a numeral goes up to the next text.  Zeros without a point in front of the letter of an
exponent are no numeral. -/
structure Ends (n : TypedNumeral) (rest : Text) : Prop where
  mantissa : IsMantissa n.whole n.point n.fraction (n.exponent ++ rest)
  exponent : IsExponent n.exponent rest ∨
    n.exponent = [] ∧ ∀ exponent last, rest = exponent ++ last → ¬IsExponent exponent last
  accepted : ¬(n.point = [] ∧ (∀ c ∈ n.whole, c = '0') ∧
    ∃ e ∈ (n.exponent ++ rest).head?, IsLetter 'e' e)

/-- The text of a numeral behind its sign. -/
def signed (n : TypedNumeral) (negative : Bool) : Text :=
  dash negative ++ n.text

/-- The text that is converted: a point at its end has a zero behind it. -/
def converted (n : TypedNumeral) (negative : Bool) : Text :=
  n.signed negative ++ if (n.signed negative).getLast? = some '.' then ['0'] else []

end TypedNumeral

/-- Whether a text without a sign is a number up to the next text. -/
inductive UnsignedText : Text → Text → Prop where
  | nan {letters rest : Text} (spelled : Spells FoundNumber.nanWord letters)
      (three : letters.length = 3) : UnsignedText letters rest
  | infinity {letters rest : Text} (spelled : Spells FoundNumber.infinityWord letters)
      (three : 3 ≤ letters.length)
      (longest : ∀ more last, rest = more ++ last →
        Spells FoundNumber.infinityWord (letters ++ more) → more = []) :
      UnsignedText letters rest
  | numeral {n : TypedNumeral} {rest : Text} (ends : n.Ends rest) : UnsignedText n.text rest

/-- Whether a text is a number up to the next text. -/
def NumberText (taken rest : Text) : Prop :=
  ∃ negative unsigned, taken = dash negative ++ unsigned ∧ UnsignedText unsigned rest

variable {text rest word letters digits : Text} {w c : Char} {negative : Bool}

/-! ## Letters -/

/-- The letters of the number words. -/
theorem letters_checked : ∀ w ∈ FoundNumber.nanWord ++ FoundNumber.infinityWord,
    w.toNat < 128 ∧ w ≠ 'k' ∧ w.toUpper.toNat + 32 = w.toNat ∧ CharCase.lowerForm w = [w] ∧
      CharCase.lowerForm w.toUpper = [w] :=
  List.forall_iff_forall_mem.mp (by decide +kernel)

/-- A letter of the number words has two cases and no other form. -/
theorem lowerForm_eq_iff (member : w ∈ FoundNumber.nanWord ++ FoundNumber.infinityWord) :
    CharCase.lowerForm c = [w] ↔ IsLetter w c := by
  obtain ⟨small, other, capital, lowered, lowered'⟩ := letters_checked w member
  constructor
  · intro same
    have undotted : c ≠ 'İ' := by
      rintro rfl
      cases same
    have unfinal : c ≠ 'Σ' := by
      rintro rfl
      rw [← (List.cons.inj same).1] at small
      exact absurd small (by decide +kernel)
    have becomes : CharCase.Becomes c w := by
      refine ⟨undotted, ?_⟩
      rw [CharCase.lowerForms, if_neg unfinal, same]
      exact List.mem_singleton_self w
    rcases becomes.ascii small with same | ⟨-, -, shifted⟩ | ⟨-, kelvin⟩
    · exact .inl same.symm
    · exact .inr (Char.toNat_inj.mp (by omega))
    · exact (other kelvin).elim
  · rintro (rfl | rfl)
    · exact lowered
    · exact lowered'

theorem spells_cons {letters : Text} :
    Spells (w :: word) (c :: letters) ↔ IsLetter w c ∧ Spells word letters := by
  rw [Spells, List.length_cons, List.take_succ_cons, List.forall₂_cons]
  rfl

theorem Spells.length_le (spelled : Spells word letters) : letters.length ≤ word.length := by
  have same := spelled.length_eq
  rw [List.length_take] at same
  omega

namespace FoundNumber

/-- No more of a text is taken for a word than the word has letters. -/
theorem matchedLength_le (word text : Text) : matchedLength word text ≤ word.length := by
  induction word generalizing text with
  | nil => exact Nat.le_refl 0
  | cons w word ih =>
      cases text with
      | nil => exact Nat.zero_le _
      | cons c text =>
          rw [matchedLength]
          split
          · exact Nat.succ_le_succ (ih text)
          · exact Nat.zero_le _

/-- The letters of a word at the start of a text are the longest that spell its start. -/
theorem spells_iff (rest : Text) (known : word ⊆ nanWord ++ infinityWord) :
    Spells word letters ↔ letters.length ≤ matchedLength word (letters ++ rest) := by
  induction word generalizing letters with
  | nil =>
      constructor
      · exact Spells.length_le
      · intro le
        rw [List.eq_nil_of_length_eq_zero (Nat.le_zero.mp le)]
        exact .nil
  | cons w word ih =>
      cases letters with
      | nil => exact iff_of_true .nil (Nat.zero_le _)
      | cons c letters =>
          rw [spells_cons, List.cons_append, matchedLength,
            ← lowerForm_eq_iff (known List.mem_cons_self)]
          split
          · rename_i same
            rw [and_iff_right same, ih fun w member => known (List.mem_cons_of_mem _ member),
              List.length_cons, Nat.succ_le_succ_iff]
          · rename_i other
            exact iff_of_false (fun both => other both.1) (Nat.not_succ_le_zero _)

theorem nanWord_known : nanWord ⊆ nanWord ++ infinityWord :=
  List.subset_append_left _ _

theorem infinityWord_known : infinityWord ⊆ nanWord ++ infinityWord :=
  List.subset_append_right _ _

/-- What spells the start of one number word spells no start of the other. -/
theorem matchedLength_nanWord (spelled : Spells infinityWord letters) (filled : letters ≠ []) :
    matchedLength nanWord (letters ++ rest) = 0 := by
  obtain ⟨c, letters, rfl⟩ := List.exists_cons_of_ne_nil filled
  have first : CharCase.lowerForm c = ['i'] :=
    (lowerForm_eq_iff (by decide)).mpr (spells_cons.mp spelled).1
  rw [List.cons_append, show nanWord = 'n' :: ['a', 'n'] from rfl, matchedLength, first,
    if_neg (by decide)]

/-! ## The parts of a numeral -/

theorem isLetter_e_iff : (decide (c = 'e') || decide (c = 'E')) = true ↔ IsLetter 'e' c := by
  rw [Bool.or_eq_true, decide_eq_true_eq, decide_eq_true_eq]
  rfl

theorem isRun_takeWhile (text : Text) : IsRun (text.takeWhile isDigit) (text.dropWhile isDigit) where
  digits := fun _ member => List.all_eq_true.mp List.all_takeWhile _ member
  ends := ends_dropWhile isDigit text

theorem takeWhile_run (run : IsRun digits rest) : (digits ++ rest).takeWhile isDigit = digits :=
  takeWhile_append_of_ends run.digits run.ends

theorem dropWhile_run (run : IsRun digits rest) : (digits ++ rest).dropWhile isDigit = rest :=
  dropWhile_append_of_ends run.digits run.ends

/-- A mantissa that the scanner finds stands at the start of the text, and goes as far as it can. -/
theorem exists_mantissa {numeral : Numeral} (found : scanMantissa text = some (numeral, rest)) :
    ∃ whole point fraction, text = whole ++ (point ++ (fraction ++ rest)) ∧
      TypedNumeral.IsMantissa whole point fraction rest ∧
      numeral = ⟨whole, !point.isEmpty, fraction, none⟩ := by
  have run := isRun_takeWhile text
  have split := (List.takeWhile_append_dropWhile (p := isDigit) (l := text)).symm
  by_cases pointed : (text.dropWhile isDigit).head? = some '.'
  · obtain ⟨after, begins⟩ := List.head?_eq_some_iff.mp pointed
    rw [scanMantissa_of_pointed begins] at found
    split at found
    · cases found
    · rename_i filled
      cases found
      have split' := (List.takeWhile_append_dropWhile (p := isDigit) (l := after)).symm
      rw [begins] at split run
      refine ⟨text.takeWhile isDigit, ['.'], after.takeWhile isDigit, ?_, ?_, rfl⟩
      · rwa [← split']
      · refine ⟨?_, isRun_takeWhile after, .inl rfl, ?_⟩
        · rwa [← split']
        · rwa [Bool.and_eq_true, List.isEmpty_iff, List.isEmpty_iff,
            ← List.append_eq_nil_iff] at filled
  · rw [scanMantissa_of_plain pointed] at found
    split at found
    · cases found
    · rename_i filled
      cases found
      rw [List.isEmpty_iff] at filled
      refine ⟨text.takeWhile isDigit, [], [], split, ⟨run, ⟨nofun, run.ends⟩, ?_, ?_⟩, rfl⟩
      · exact .inr ⟨rfl, rfl, pointed⟩
      · rwa [List.append_nil]

/-- The scanner finds a mantissa that a text begins with, if it goes as far as it can. -/
theorem scanMantissa_of_isMantissa {whole point fraction : Text}
    (mantissa : TypedNumeral.IsMantissa whole point fraction rest) :
    scanMantissa (whole ++ (point ++ (fraction ++ rest))) =
      some (⟨whole, !point.isEmpty, fraction, none⟩, rest) := by
  have stops := dropWhile_run mantissa.leading
  have filled := mantissa.filled
  rcases mantissa.pointed with rfl | ⟨rfl, rfl, plain⟩
  · change _ = '.' :: (fraction ++ rest) at stops
    rw [scanMantissa_of_pointed stops, takeWhile_run mantissa.leading,
      takeWhile_run mantissa.trailing, dropWhile_run mantissa.trailing, if_neg]
    · rfl
    · rwa [Bool.and_eq_true, List.isEmpty_iff, List.isEmpty_iff, ← List.append_eq_nil_iff]
  · rw [scanMantissa_of_plain (by rwa [stops]), takeWhile_run mantissa.leading, stops, if_neg]
    · rfl
    · rwa [List.isEmpty_iff, ← List.append_nil whole]

/-- The scanner finds a mantissa exactly where a text begins with one that goes as far as it can,
and returns its digits on both sides of the point and the text behind it. -/
theorem scanMantissa_eq_some_iff {numeral : Numeral} :
    scanMantissa text = some (numeral, rest) ↔ ∃ whole point fraction,
      text = whole ++ (point ++ (fraction ++ rest)) ∧
        TypedNumeral.IsMantissa whole point fraction rest ∧
        numeral = ⟨whole, !point.isEmpty, fraction, none⟩ := by
  refine ⟨exists_mantissa, ?_⟩
  rintro ⟨whole, point, fraction, rfl, mantissa, rfl⟩
  exact scanMantissa_of_isMantissa mantissa

/-- A run of digits begins with no sign. -/
theorem head?_run (run : IsRun digits rest) (filled : digits ≠ []) {sign : Char}
    (other : isDigit sign = false) : (digits ++ rest).head? ≠ some sign := by
  obtain ⟨c, digits, rfl⟩ := List.exists_cons_of_ne_nil filled
  intro same
  have digit := run.digits c List.mem_cons_self
  rw [Option.some.inj same, other] at digit
  cases digit

/-- Behind the letter of an exponent the scanner finds a sign and a run of digits, of fewer than
twenty characters together. -/
theorem scanExponent_eq_some_iff :
    scanExponent text = some (negative, digits) ↔ ∃ rest, text = dash negative ++ (digits ++ rest) ∧
      IsRun digits rest ∧ digits ≠ [] ∧ (dash negative ++ digits).length < 20 := by
  have short : ∀ {negative : Bool} {digits : Text},
      ¬(digits.isEmpty || decide (exponentLimit < digits.length + if negative then 1 else 0)) = true ↔
        digits ≠ [] ∧ (dash negative ++ digits).length < 20 := by
    intro negative digits
    rw [Bool.or_eq_true, not_or, List.isEmpty_iff, decide_eq_true_eq, List.length_append, length_dash,
      exponentLimit]
    exact and_congr_right fun _ => by omega
  constructor
  · intro found
    obtain ⟨sign, body, rfl, undashed⟩ := exists_dash text
    rw [scanExponent_signed undashed, Option.ite_none_left_eq_some, Option.some.injEq,
      Prod.mk.injEq, short] at found
    obtain ⟨bounded, rfl, rfl⟩ := found
    refine ⟨body.dropWhile isDigit, ?_, isRun_takeWhile body, bounded⟩
    rw [List.takeWhile_append_dropWhile]
  · rintro ⟨rest, rfl, run, bounded⟩
    rw [scanExponent_signed fun _ => head?_run run bounded.1 (by decide), takeWhile_run run,
      if_neg (short.mpr bounded)]

/-- The scanner finds no exponent exactly where a text begins with none. -/
theorem scanExponent_eq_none_iff (letter : IsLetter 'e' c) :
    scanExponent text = none ↔
      ∀ exponent rest, c :: text = exponent ++ rest → ¬IsExponent exponent rest := by
  constructor
  · rintro missing _ _ split ⟨-, run, filled, short⟩
    rw [List.cons_append, List.cons.injEq, List.append_assoc] at split
    rw [scanExponent_eq_some_iff.mpr ⟨_, split.2, run, filled, short⟩] at missing
    cases missing
  · intro absent
    rw [Option.eq_none_iff_forall_ne_some]
    rintro ⟨negative, digits⟩ found
    obtain ⟨rest, rfl, run, filled, short⟩ := scanExponent_eq_some_iff.mp found
    refine absent (c :: (dash negative ++ digits)) rest ?_ ⟨letter, run, filled, short⟩
    rw [List.cons_append, List.append_assoc]

end FoundNumber

/-! ## Conversions -/

namespace Double

/-- The sign of a text is a dash or nothing, if the text behind it begins with no sign. -/
theorem takeSign_signed (dashless : text.head? ≠ some '-') (plusless : text.head? ≠ some '+') :
    takeSign (dash negative ++ text) = (negative, text) := by
  cases negative with
  | true => rfl
  | false =>
      change takeSign text = _
      unfold takeSign
      split
      · exact absurd rfl dashless
      · exact absurd rfl plusless
      · rfl

/-- An exponent with digits is converted. -/
theorem exponent?_of_digits (letter : IsLetter 'e' c) (all : ∀ c ∈ digits, isDigit c = true)
    (filled : digits ≠ []) : exponent? (c :: (dash negative ++ digits)) =
      some (if negative then -(natOfDigits digits : Int) else natOfDigits digits) := by
  have run : IsRun digits [] := ⟨all, nofun⟩
  have other : ∀ {sign}, isDigit sign = false → digits.head? ≠ some sign := by
    intro sign plain
    rw [← List.append_nil digits]
    exact FoundNumber.head?_run run filled plain
  rw [exponent?, takeSign_signed (other (by decide)) (other (by decide))]
  dsimp only
  rw [if_pos]
  rw [FoundNumber.isLetter_e_iff.mpr letter, List.all_eq_true.mpr all, Bool.true_and, Bool.and_true,
    Bool.not_eq_true', List.isEmpty_eq_false_iff]
  exact filled

end Double

namespace FoundNumber

/-! ## Numerals -/

theorem isTrivial_iff {whole point fraction : Text} :
    isTrivial ⟨whole, !point.isEmpty, fraction, none⟩ = true ↔
      point = [] ∧ ∀ c ∈ whole, c = '0' := by
  simp [isTrivial]

/-- In front of the letter of an exponent a numeral needs more than zeros, or a point. -/
theorem scanNumeral_of_letter {numeral : Numeral}
    (scanned : scanMantissa text = some (numeral, c :: rest)) (letter : IsLetter 'e' c) :
    scanNumeral text =
      if isTrivial numeral then none else some { numeral with exponent := scanExponent rest } := by
  rw [scanNumeral, scanned]
  exact if_pos (isLetter_e_iff.mpr letter)

/-- Without the letter of an exponent behind it a mantissa is a numeral. -/
theorem scanNumeral_of_other {numeral : Numeral} (scanned : scanMantissa text = some (numeral, rest))
    (other : ∀ c ∈ rest.head?, ¬IsLetter 'e' c) : scanNumeral text = some numeral := by
  rw [scanNumeral, scanned]
  cases rest with
  | nil => rfl
  | cons c rest => exact if_neg fun letter => other c rfl (isLetter_e_iff.mp letter)

/-- The scanner finds the mantissa of a typed numeral, whatever stands behind the numeral. -/
theorem scanMantissa_text {n : TypedNumeral} (ends : n.Ends rest) :
    scanMantissa (n.text ++ rest) =
      some (⟨n.whole, !n.point.isEmpty, n.fraction, none⟩, n.exponent ++ rest) := by
  refine scanMantissa_eq_some_iff.mpr ⟨n.whole, n.point, n.fraction, ?_, ends.mantissa, rfl⟩
  simp only [TypedNumeral.text, List.append_assoc]

/-- The parts of a numeral are together as long as its text. -/
theorem length_mantissa {n : TypedNumeral} (ends : n.Ends rest) :
    n.whole.length + (if (!n.point.isEmpty) = true then 1 else 0) + n.fraction.length +
      n.exponent.length = n.text.length := by
  have point : (if (!n.point.isEmpty) = true then 1 else 0) = n.point.length := by
    rcases ends.mantissa.pointed with same | ⟨same, -, -⟩ <;> rw [same] <;> rfl
  simp only [point, TypedNumeral.text, List.length_append, Nat.add_assoc]

/-- A numeral is found where the grammar has one. -/
theorem exists_scanNumeral {n : TypedNumeral} (ends : n.Ends rest) :
    ∃ numeral, scanNumeral (n.text ++ rest) = some numeral ∧ numeral.whole = n.whole ∧
      numeral.fraction = n.fraction ∧ numeral.length = n.text.length ∧
      Double.exponent? n.exponent = some numeral.exponentValue := by
  have scanned := scanMantissa_text ends
  have untrivial : ∀ c ∈ (n.exponent ++ rest).head?, IsLetter 'e' c →
      ¬isTrivial ⟨n.whole, !n.point.isEmpty, n.fraction, none⟩ = true := by
    intro c first letter trivial
    rw [isTrivial_iff] at trivial
    exact ends.accepted ⟨trivial.1, trivial.2, c, first, letter⟩
  rw [← length_mantissa ends]
  rcases ends.exponent with known | ⟨bare, absent⟩
  · generalize n.exponent = exponent at *
    cases known with
    | @intro e negative digits rest letter run filled short =>
        have power : scanExponent (dash negative ++ digits ++ rest) = some (negative, digits) := by
          rw [List.append_assoc]
          exact scanExponent_eq_some_iff.mpr ⟨rest, rfl, run, filled, short⟩
        refine ⟨⟨n.whole, !n.point.isEmpty, n.fraction, some (negative, digits)⟩, ?_, rfl, rfl, ?_,
          Double.exponent?_of_digits letter run.digits filled⟩
        · rw [List.cons_append] at scanned
          rw [scanNumeral_of_letter scanned letter, power, if_neg (untrivial e rfl letter)]
        · simp only [Numeral.length, List.length_append, List.length_cons, length_dash]
          omega
  · rw [bare, List.nil_append] at scanned untrivial
    rw [bare]
    refine ⟨⟨n.whole, !n.point.isEmpty, n.fraction, none⟩, ?_, rfl, rfl, rfl, rfl⟩
    by_cases letter : ∃ c ∈ rest.head?, IsLetter 'e' c
    · obtain ⟨c, first, letter⟩ := letter
      obtain ⟨tail, rfl⟩ := List.head?_eq_some_iff.mp first
      rw [scanNumeral_of_letter scanned letter, (scanExponent_eq_none_iff letter).mpr absent,
        if_neg (untrivial c rfl letter)]
    · exact scanNumeral_of_other scanned fun c first here => letter ⟨c, first, here⟩

/-- Where a numeral is found, the grammar has one. -/
theorem exists_ends {numeral : Numeral} (found : scanNumeral text = some numeral) :
    ∃ (n : TypedNumeral) (rest : Text), text = n.text ++ rest ∧ n.Ends rest := by
  cases scanned : scanMantissa text with
  | none =>
      rw [scanNumeral, scanned] at found
      cases found
  | some split =>
      obtain ⟨m, after⟩ := split
      obtain ⟨whole, point, fraction, rfl, mantissa, rfl⟩ := scanMantissa_eq_some_iff.mp scanned
      by_cases letter : ∃ c ∈ after.head?, IsLetter 'e' c
      · obtain ⟨c, first, letter⟩ := letter
        obtain ⟨tail, rfl⟩ := List.head?_eq_some_iff.mp first
        rw [scanNumeral_of_letter scanned letter, Option.ite_none_left_eq_some, isTrivial_iff] at found
        have accepted : ¬(point = [] ∧ (∀ c ∈ whole, c = '0') ∧
            ∃ e ∈ (c :: tail).head?, IsLetter 'e' e) :=
          fun trivial => found.1 ⟨trivial.1, trivial.2.1⟩
        cases power : scanExponent tail with
        | none =>
            refine ⟨⟨whole, point, fraction, []⟩, c :: tail, ?_, mantissa, .inr ⟨rfl, ?_⟩, accepted⟩
            · simp only [TypedNumeral.text, List.append_nil, List.append_assoc]
            · exact (scanExponent_eq_none_iff letter).mp power
        | some typed =>
            obtain ⟨negative, digits⟩ := typed
            obtain ⟨rest, rfl, run, filled, short⟩ := scanExponent_eq_some_iff.mp power
            rw [← List.append_assoc, ← List.cons_append] at mantissa accepted
            refine ⟨⟨whole, point, fraction, c :: (dash negative ++ digits)⟩, rest, ?_, mantissa,
              .inl ⟨letter, run, filled, short⟩, accepted⟩
            simp only [TypedNumeral.text, List.append_assoc, List.cons_append]
      · refine ⟨⟨whole, point, fraction, []⟩, after, ?_, mantissa, .inr ⟨rfl, ?_⟩, ?_⟩
        · simp only [TypedNumeral.text, List.append_nil, List.append_assoc]
        · rintro _ _ rfl ⟨here, -, -, -⟩
          exact letter ⟨_, rfl, here⟩
        · exact fun trivial => letter trivial.2.2

end FoundNumber

/-! ## What is converted -/

/-- All digits up to the next text are all digits up to the first part of it. -/
theorem IsRun.of_append {back : Text} (run : IsRun digits (rest ++ back)) : IsRun digits rest where
  digits := run.digits
  ends := by
    intro c first
    apply run.ends
    rw [List.head?_append, Option.mem_def.mp first]
    rfl

namespace TypedNumeral

variable {whole point fraction exponent : Text}

/-- A mantissa up to the next text is one up to the first part of it. -/
theorem IsMantissa.of_append (mantissa : IsMantissa whole point fraction (exponent ++ rest)) :
    IsMantissa whole point fraction exponent where
  leading := by
    have run := mantissa.leading
    rw [← List.append_assoc fraction, ← List.append_assoc point] at run
    exact run.of_append
  trailing := mantissa.trailing.of_append
  pointed := by
    refine mantissa.pointed.imp_right fun plain => ⟨plain.1, plain.2.1, fun first => plain.2.2 ?_⟩
    rw [List.head?_append, first]
    rfl
  filled := mantissa.filled

/-- A mantissa begins with a digit or with the point. -/
theorem IsMantissa.exists_cons (mantissa : IsMantissa whole point fraction rest) :
    ∃ c tail, whole ++ (point ++ (fraction ++ rest)) = c :: tail ∧ (isDigit c = true ∨ c = '.') :=
  FoundNumber.exists_cons_of_scanMantissa
    (FoundNumber.scanMantissa_eq_some_iff.mpr ⟨whole, point, fraction, rfl, mantissa, rfl⟩)

end TypedNumeral

namespace Double

variable {whole point fraction exponent : Text} {power : Int}

/-- A numeral is converted to the decimal with all of its digits, at the place that the point and
the exponent give. -/
theorem ofText?_of_mantissa (negative : Bool)
    (mantissa : TypedNumeral.IsMantissa whole point fraction exponent)
    (typed : exponent? exponent = some power) :
    ofText? (dash negative ++ (whole ++ (point ++ (fraction ++ exponent)))) =
      some (ofDecimal negative (natOfDigits (whole ++ fraction)) (power - fraction.length)) := by
  obtain ⟨c, tail, begins, kind⟩ := mantissa.exists_cons
  have other : ∀ {sign}, isDigit sign = false → sign ≠ '.' →
      (whole ++ (point ++ (fraction ++ exponent))).head? ≠ some sign := by
    intro sign plain unpointed same
    rw [begins] at same
    obtain rfl := Option.some.inj same
    rcases kind with digit | pointed
    · rw [plain] at digit
      cases digit
    · exact unpointed pointed
  have finite : whole ++ (point ++ (fraction ++ exponent)) ≠ "inf".toList :=
    fun same => other (by decide) (by decide) (congrArg List.head? same)
  have defined : whole ++ (point ++ (fraction ++ exponent)) ≠ "nan".toList :=
    fun same => other (by decide) (by decide) (congrArg List.head? same)
  have stops := FoundNumber.dropWhile_run mantissa.leading
  have filled := mantissa.filled
  rw [ofText?, takeSign_signed (other (by decide) (by decide)) (other (by decide) (by decide))]
  simp only [if_neg finite, if_neg defined, FoundNumber.takeWhile_run mantissa.leading, stops]
  rcases mantissa.pointed with rfl | ⟨rfl, rfl, plain⟩
  · simp only [List.cons_append, List.nil_append, FoundNumber.takeWhile_run mantissa.trailing,
      FoundNumber.dropWhile_run mantissa.trailing, typed, Option.map_some]
    rw [if_neg]
    rwa [Bool.and_eq_true, List.isEmpty_iff, List.isEmpty_iff, ← List.append_eq_nil_iff]
  · rw [List.append_nil] at filled
    simp only [List.nil_append]
    split
    · exact absurd rfl plain
    · rw [if_neg (by simpa using filled), typed, Option.map_some]

/-- A zero behind the point changes nothing. -/
theorem ofDecimal_zero_behind (negative : Bool) (digits : Text) :
    ofDecimal negative (natOfDigits (digits ++ ['0'])) (-1) =
      ofDecimal negative (natOfDigits digits) 0 := by
  have tenfold : natOfDigits (digits ++ ['0']) = 10 * natOfDigits digits :=
    natOfDigits_append_singleton digits '0'
  rw [tenfold]
  generalize natOfDigits digits = value
  rcases Nat.eq_zero_or_pos value with rfl | filled
  · rfl
  · unfold ofDecimal
    rw [if_neg (by omega), if_neg (by omega), if_neg (by omega), if_neg (by omega),
      if_neg (by omega), if_neg (by omega)]
    apply ofRatio_congr negative (by decide) one_pos
    rw [Nat.pow_eq, Nat.pow_eq]
    push_cast
    ring

end Double

/-- A text that ends with a digit does not end with a point. -/
theorem getLast?_digits {front : Text} (all : ∀ c ∈ digits, isDigit c = true) (filled : digits ≠ []) :
    (front ++ digits).getLast? ≠ some '.' := by
  rw [List.getLast?_append_of_ne_nil front filled]
  intro last
  have digit := all '.' (List.mem_of_getLast? last)
  cases digit

namespace TypedNumeral

variable {n : TypedNumeral}

/-- A numeral ends with the point exactly if nothing is typed behind it. -/
theorem Ends.getLast?_eq_iff (ends : n.Ends rest) :
    (n.signed negative).getLast? = some '.' ↔ n.point = ['.'] ∧ n.fraction = [] ∧ n.exponent = [] := by
  obtain ⟨mantissa, exponent, -⟩ := ends
  obtain ⟨whole, point, fraction, exponent'⟩ := n
  dsimp only [signed, text] at mantissa exponent ⊢
  constructor
  · intro last
    rcases exponent with known | ⟨rfl, -⟩
    · cases known with
      | @intro e sign digits rest letter run filled short =>
          rw [← List.cons_append, ← List.append_assoc fraction, ← List.append_assoc point,
            ← List.append_assoc whole, ← List.append_assoc (dash negative)] at last
          exact (getLast?_digits run.digits filled last).elim
    · by_cases bare : fraction = []
      · subst bare
        rcases mantissa.pointed with rfl | ⟨rfl, -, -⟩
        · exact ⟨rfl, rfl, rfl⟩
        · have filled := mantissa.filled
          simp only [List.append_nil] at last filled
          exact (getLast?_digits mantissa.leading.digits filled last).elim
      · rw [List.append_nil, ← List.append_assoc whole, ← List.append_assoc (dash negative)] at last
        exact (getLast?_digits mantissa.trailing.digits bare last).elim
  · rintro ⟨rfl, rfl, rfl⟩
    simp

/-- A mantissa that ends with its point may have a zero behind it. -/
theorem IsMantissa.zero_behind {whole : Text} (mantissa : IsMantissa whole ['.'] [] rest) :
    IsMantissa whole ['.'] ['0'] [] where
  leading := ⟨mantissa.leading.digits, mantissa.leading.ends⟩
  trailing := by
    refine ⟨?_, nofun⟩
    rw [List.forall_mem_singleton]
    rfl
  pointed := .inl rfl
  filled := List.append_ne_nil_of_right_ne_nil whole (List.cons_ne_nil '0' [])

/-- **Conversions.** The text of a numeral is converted to the number that its parts write. -/
theorem Ends.ofText?_converted (ends : n.Ends rest) {power : Int}
    (typed : Double.exponent? n.exponent = some power) :
    Double.ofText? (n.converted negative) =
      some (.ofDecimal negative (natOfDigits (n.whole ++ n.fraction)) (power - n.fraction.length)) := by
  rw [converted]
  split
  · rename_i last
    obtain ⟨point, fraction, exponent⟩ := ends.getLast?_eq_iff.mp last
    have mantissa := ends.mantissa
    rw [point, fraction] at mantissa
    rw [exponent] at typed
    obtain rfl := Option.some.inj typed
    have zero := Double.ofText?_of_mantissa negative mantissa.zero_behind rfl
    rw [signed, text, point, fraction, exponent, List.append_assoc, List.append_assoc,
      List.append_assoc]
    refine zero.trans (congrArg some ?_)
    rw [List.append_nil, List.length_nil, Int.natCast_zero, Int.sub_zero]
    exact Double.ofDecimal_zero_behind negative n.whole
  · rw [List.append_nil, signed, text]
    exact Double.ofText?_of_mantissa negative ends.mantissa.of_append typed

end TypedNumeral

/-! ## The number that a text begins with -/

namespace FoundNumber

variable {taken : Text} {sign : Nat} {number : FoundNumber}

/-- A number is found where the grammar has one, and goes as far. -/
theorem exists_scanUnsigned (negative : Bool) (sign : Nat) (typed : UnsignedText taken rest) :
    ∃ number, scanUnsigned negative sign (taken ++ rest) = some number ∧
      number.length = sign + taken.length := by
  cases typed with
  | nan spelled three =>
      have matched : matchedLength nanWord (taken ++ rest) = 3 := by
        have reached := (spells_iff rest nanWord_known).mp spelled
        have bounded : matchedLength nanWord (taken ++ rest) ≤ 3 := matchedLength_le nanWord _
        omega
      refine ⟨⟨.nan, .nan, sign + 3⟩, ?_, by rw [three]⟩
      rw [scanUnsigned]
      exact if_pos matched
  | infinity spelled three longest =>
      have filled : taken ≠ [] := by
        rintro rfl
        exact absurd three (by decide)
      have matched : matchedLength infinityWord (taken ++ rest) = taken.length := by
        obtain ⟨last, ⟨letters, split, length, -⟩⟩ :=
          matchedLength_takes infinityWord_solid (taken ++ rest)
        have reached := (spells_iff rest infinityWord_known).mp spelled
        obtain ⟨more, rfl⟩ : taken <+: letters :=
          List.prefix_of_prefix_length_le ⟨rest, rfl⟩ ⟨last, split.symm⟩ (by omega)
        rw [List.append_assoc, List.append_cancel_left_eq] at split
        have none := longest more last split ((spells_iff _ infinityWord_known).mpr
          (by rw [List.append_assoc, ← split, length]))
        rw [← length, none, List.append_nil]
      refine ⟨⟨.infinite negative, .infinite negative, sign + taken.length⟩, ?_, rfl⟩
      rw [scanUnsigned, matchedLength_nanWord spelled filled, if_neg (by decide), matched, if_pos three]
  | numeral ends =>
      obtain ⟨numeral, scanned, -, -, length, -⟩ := exists_scanNumeral ends
      refine ⟨_, scanUnsigned_of_numeral negative sign scanned, ?_⟩
      rw [← length]
      rfl

/-- Where a number is found, the grammar has one. -/
theorem exists_unsignedText {negative : Bool} (found : scanUnsigned negative sign text = some number) :
    ∃ taken rest, text = taken ++ rest ∧ UnsignedText taken rest := by
  unfold scanUnsigned at found
  dsimp only at found
  split at found
  · rename_i three
    obtain ⟨rest, letters, rfl, length, -⟩ := matchedLength_takes nanWord_solid text
    refine ⟨letters, rest, rfl, .nan ?_ (length.trans three)⟩
    exact (spells_iff _ nanWord_known).mpr length.le
  · split at found
    · rename_i three
      obtain ⟨rest, letters, rfl, length, -⟩ := matchedLength_takes infinityWord_solid text
      refine ⟨letters, rest, rfl, .infinity ((spells_iff _ infinityWord_known).mpr length.le)
        (length ▸ three) ?_⟩
      rintro more last rfl spelled
      have reached := (spells_iff last infinityWord_known).mp spelled
      rw [List.append_assoc, ← length, List.length_append] at reached
      exact List.eq_nil_of_length_eq_zero (by omega)
    · obtain ⟨numeral, scanned, -⟩ := Option.map_eq_some_iff.mp found
      obtain ⟨n, rest, rfl, ends⟩ := exists_ends scanned
      exact ⟨n.text, rest, rfl, .numeral ends⟩

/-- Where a text begins with a number, the scanner finds one of its length. -/
theorem exists_scan (typed : NumberText taken rest) :
    ∃ number, scan (taken ++ rest) = some number ∧ number.length = taken.length := by
  obtain ⟨negative, unsigned, rfl, typed⟩ := typed
  obtain ⟨number, found, length⟩ := exists_scanUnsigned negative (dash negative).length typed
  refine ⟨number, ?_, by rw [length, List.length_append]⟩
  rw [List.append_assoc, scan_signed fun _ => undashed_of_scanUnsigned found, found]

/-- Where the scanner finds a number, the text begins with one. -/
theorem exists_numberText (found : scan text = some number) :
    ∃ taken rest, text = taken ++ rest ∧ NumberText taken rest := by
  obtain ⟨negative, body, rfl, undashed⟩ := exists_dash text
  rw [scan_signed undashed] at found
  obtain ⟨unsigned, rest, rfl, typed⟩ := exists_unsignedText found
  exact ⟨dash negative ++ unsigned, rest, (List.append_assoc _ _ _).symm,
    negative, unsigned, rfl, typed⟩

/-- The scanner takes a numeral as the interval of half a unit of its last digit around its value,
both of which are converted without a failure. -/
theorem scan_numeral {n : TypedNumeral} (negative : Bool) (ends : n.Ends rest) :
    ∃ value power, Double.ofText? (n.converted negative) = some value ∧
      Double.exponent? n.exponent = some power ∧
      scan (n.signed negative ++ rest) =
        some ⟨value.sub (Double.powerOfTen (power - n.fraction.length)).half,
          value.add (Double.powerOfTen (power - n.fraction.length)).half,
          (n.signed negative).length⟩ := by
  obtain ⟨numeral, scanned, whole, fraction, length, power⟩ := exists_scanNumeral ends
  have found := scanUnsigned_of_numeral negative (dash negative).length scanned
  refine ⟨_, _, ends.ofText?_converted power, power, ?_⟩
  rw [TypedNumeral.signed, List.append_assoc, scan_signed fun _ => undashed_of_scanUnsigned found, found,
    ofNumeral, Numeral.value, Numeral.lastPlace, whole, fraction, length, List.length_append]

/-- **Grammar.** A text has a number at an offset exactly where the grammar has one.  The number goes on
behind the offset, ends in the text and is as long as the grammar has it, and the parts of a numeral
are converted without failing. -/
theorem scanAt_grammar (text : Text) (start : Nat) :
    ((∃ number, scanAt text start = some number) ↔
      ∃ taken rest, text.drop start = taken ++ rest ∧ NumberText taken rest) ∧
    (∀ number, scanAt text start = some number →
      start < start + number.length ∧ start + number.length ≤ text.length ∧
      ∀ taken rest, text.drop start = taken ++ rest → NumberText taken rest →
        number.length = taken.length) ∧
    ∀ negative (n : TypedNumeral) rest, text.drop start = n.signed negative ++ rest → n.Ends rest →
      ∃ value power, Double.ofText? (n.converted negative) = some value ∧
        Double.exponent? n.exponent = some power ∧
        scanAt text start =
          some ⟨value.sub (Double.powerOfTen (power - n.fraction.length)).half,
            value.add (Double.powerOfTen (power - n.fraction.length)).half,
            (n.signed negative).length⟩ := by
  refine ⟨⟨?_, ?_⟩, ?_, ?_⟩
  · rintro ⟨number, found⟩
    exact exists_numberText found
  · rintro ⟨taken, rest, split, typed⟩
    obtain ⟨number, found, -⟩ := exists_scan typed
    exact ⟨number, by rw [scanAt, split, found]⟩
  · intro number found
    have filled := scan_length_pos found
    refine ⟨by omega, ?_, ?_⟩
    · obtain ⟨rest, letters, split, length, -⟩ := scan_takes found
      have bound := congrArg List.length split
      rw [List.length_drop, List.length_append] at bound
      omega
    · intro taken rest split typed
      obtain ⟨number', found', length⟩ := exists_scan typed
      rw [scanAt, split, found'] at found
      rw [← length, Option.some.inj found]
  · intro negative n rest split ends
    rw [scanAt, split]
    exact scan_numeral negative ends

/-- The number behind the first letter of `p.5e-07x`. -/
theorem scanAt_grammar_of_small :
    let text : Text := ['p', '.', '5', 'e', '-', '0', '7', 'x']
    let n : TypedNumeral := ⟨[], ['.'], ['5'], ['e', '-', '0', '7']⟩
    n.Ends ['x'] ∧ (∃ number, scanAt text 1 = some number ∧ number.length = 6) ∧
      ∃ value power, Double.ofText? (n.converted false) = some value ∧
        Double.exponent? n.exponent = some power ∧
        scanAt text 1 = some ⟨value.sub (Double.powerOfTen (power - 1)).half,
          value.add (Double.powerOfTen (power - 1)).half, 6⟩ := by
  have ends : TypedNumeral.Ends ⟨[], ['.'], ['5'], ['e', '-', '0', '7']⟩ ['x'] := by
    refine ⟨⟨⟨nofun, ?_⟩, ⟨List.all_eq_true.mp rfl, ?_⟩, .inl rfl, by decide⟩, .inl ?_, ?_⟩
    · rintro c ⟨⟩
      decide
    · rintro c ⟨⟩
      decide
    · refine @IsExponent.intro 'e' true ['0', '7'] ['x'] (.inl rfl)
        ⟨List.all_eq_true.mp rfl, ?_⟩ (by decide) (by decide)
      rintro c ⟨⟩
      decide
    · exact fun trivial => absurd trivial.1 (by decide)
  obtain ⟨accepts, lengths, converts⟩ :=
    scanAt_grammar ['p', '.', '5', 'e', '-', '0', '7', 'x'] 1
  have typed : NumberText ['.', '5', 'e', '-', '0', '7'] ['x'] :=
    ⟨false, _, rfl, .numeral ends⟩
  obtain ⟨number, found⟩ := accepts.mpr ⟨_, _, rfl, typed⟩
  exact ⟨ends, ⟨number, found, (lengths number found).2.2 _ _ rfl typed⟩,
    converts false _ _ rfl ends⟩

end FoundNumber

end TableSearch
