import TableSearch.Proofs.Duration.Spelling
import TableSearch.Proofs.Number.Grammar
import TableSearch.Proofs.Text.Words

/-! # The grammar of durations

A part of a duration is a number, blanks, and the spelling of a unit in any case that no letter follows
(`TableSearch.Duration.IsPart`).  A run of parts has separators between them, which may be empty
(`TableSearch.Duration.RunText`).  The grammar relates what is taken to the text that it stands in front
of, since a letter behind a unit is no part of what is taken.

In a text of the ASCII range there is one way to read a part.  A number and its gap end where something
else begins, and a unit is all letters up to something else, so that of the spellings that the text begins
with only one can be right (`TableSearch.Duration.unitLength?_append`).  A part is scanned where the
grammar has one (`TableSearch.Duration.PartText.exists_scanPart?`) and nowhere else
(`TableSearch.Duration.exists_partText`).
-/

namespace TableSearch

/-! ## Characters of the ASCII range -/

namespace Text

variable {front back : Text}

/-- Whether all characters of a text are of the ASCII range. -/
def IsAscii (text : Text) : Prop :=
  ∀ c ∈ text, c.toNat < 128

instance : DecidablePred IsAscii := fun text =>
  decidable_of_iff (text.all (·.toNat < 128) = true) (by simp [IsAscii])

/-- Two texts are of the ASCII range together exactly if each of them is. -/
theorem isAscii_append : IsAscii (front ++ back) ↔ IsAscii front ∧ IsAscii back :=
  List.forall_mem_append

end Text

namespace CharClass

variable {c : Char}

theorem isDecimal_of_ascii (ascii : c.toNat < 128) : isDecimal c = isDigit c := by
  rw [isDecimal, decimalValue?, if_pos ascii]
  cases isDigit c <;> rfl

theorem isDecimal_of_isDigit (digit : isDigit c = true) : isDecimal c = true := by
  have range := CharCase.isDigit_iff.mp digit
  rw [isDecimal_of_ascii (by omega), digit]

/-- In the ASCII range the letters are those of the alphabet. -/
theorem isLetter_of_ascii (ascii : c.toNat < 128) : isLetter c = isAsciiLetter c := by
  have checked : ∀ code < 128, isLetter (Char.ofNat code) = isAsciiLetter (Char.ofNat code) := by
    decide +kernel
  have here := checked c.toNat ascii
  rwa [Char.ofNat_toNat] at here

end CharClass

namespace CharCase

variable {c w : Char} {code : Nat}

theorem foldCode_of_ascii (ascii : code < 128) : foldCode code = asciiLowerCode code := by
  have checked : ∀ code < 128, foldCode code = asciiLowerCode code := by decide +kernel
  exact checked code ascii

/-- In the ASCII range a letter has two cases and no other form. -/
theorem foldCode_eq_iff (ascii : c.toNat < 128) (small : IsSmall w.toNat) :
    foldCode c.toNat = foldCode w.toNat ↔ IsLetter w c := by
  have checked : ∀ place < 26, ∀ code < 128, asciiLowerCode code = 97 + place ↔
      Char.ofNat code = Char.ofNat (97 + place) ∨
        Char.ofNat code = (Char.ofNat (97 + place)).toUpper := by
    decide +kernel
  have here := checked (w.toNat - 97) (by have := small.2; omega) c.toNat ascii
  rwa [Nat.add_sub_cancel' small.1, Char.ofNat_toNat, Char.ofNat_toNat, ← foldCode_of_ascii ascii,
    ← foldCode_of_isSmall small] at here

end CharCase

/-- A small letter and its capital are letters. -/
theorem IsLetter.isAsciiLetter {c w : Char} (letter : IsLetter w c) (small : CharCase.IsSmall w.toNat) :
    CharClass.isAsciiLetter c = true := by
  have checked : ∀ place < 26, CharClass.isAsciiLetter (Char.ofNat (97 + place)) = true ∧
      CharClass.isAsciiLetter (Char.ofNat (97 + place)).toUpper = true := by
    decide +kernel
  have here := checked (w.toNat - 97) (by have := small.2; omega)
  rw [Nat.add_sub_cancel' small.1, Char.ofNat_toNat] at here
  rcases letter with rfl | rfl
  · exact here.1
  · exact here.2

namespace Duration

/-! ## The grammar -/

/-- Whether a text is the number of a part: digits, or digits, a point and digits. -/
inductive IsQuantity : Text → Prop where
  | whole {digits : Text} (filled : digits ≠ []) (all : ∀ c ∈ digits, isDigit c = true) :
      IsQuantity digits
  | pointed {digits fraction : Text} (filled : digits ≠ []) (all : ∀ c ∈ digits, isDigit c = true)
      (filled' : fraction ≠ []) (all' : ∀ c ∈ fraction, isDigit c = true) :
      IsQuantity (digits ++ '.' :: fraction)

/-- Whether a text is a spelling of a unit in any case. -/
def IsUnit (unit : Text) : Prop :=
  ∃ spelling ∈ units.map Prod.fst, List.Forall₂ IsLetter spelling unit

/-- Whether a number, blanks and a unit are a part of a duration in front of a text. -/
structure IsPart (number gap unit rest : Text) : Prop where
  number : IsQuantity number
  gap : ∀ c ∈ gap, isGap c = true
  unit : IsUnit unit
  closes : ∀ c ∈ rest.head?, CharClass.isAsciiLetter c = false

/-- Whether a text is a part of a duration in front of another one. -/
def PartText (taken rest : Text) : Prop :=
  ∃ number gap unit, taken = number ++ (gap ++ unit) ∧ IsPart number gap unit rest

/-- Whether a text is a run of parts in front of another one: a part, and then a separator and a part any
number of times. -/
inductive RunText : Text → Text → Prop where
  | last {part rest : Text} (first : PartText part rest) : RunText part rest
  | more {part separator later rest : Text} (first : PartText part (separator ++ (later ++ rest)))
      (separates : ∀ c ∈ separator, isSeparator c = true) (others : RunText later rest) :
      RunText (part ++ (separator ++ later)) rest

/-- Whether a text begins with a part of a duration. -/
def BeginsPart (text : Text) : Prop :=
  ∃ taken rest, text = taken ++ rest ∧ PartText taken rest

/-- Whether a text begins with a run of parts and with no longer one. -/
structure IsLongestRun (text taken : Text) : Prop where
  run : ∃ rest, text = taken ++ rest ∧ RunText taken rest
  longest : ∀ taken' rest', text = taken' ++ rest' → RunText taken' rest' →
    taken'.length ≤ taken.length

/-- Whether a text is taken as a whole where a duration is scanned for at its start. -/
def IsTakenWhole (text : Text) : Prop :=
  ∃ seconds, scanAt? text 0 = .ok (some ⟨text, seconds⟩)

variable {c : Char} {text taken rest number gap unit word tail : Text} {part : Part} {n : Nat}

/-! ## Kinds of characters -/

theorem isSeparator_of_isGap (gap : isGap c = true) : isSeparator c = true := by
  rw [isSeparator, gap, Bool.true_or]

/-- A separating character is no part of a number or of a unit. -/
theorem isSeparator_apart (separator : isSeparator c = true) :
    c.toNat < 128 ∧ (CharClass.isDecimal c = false ∧ c ≠ '.') ∧ CharClass.isAsciiLetter c = false := by
  rw [isSeparator, isGap, Bool.or_eq_true, Bool.or_eq_true, beq_iff_eq, beq_iff_eq, beq_iff_eq] at separator
  rcases separator with (rfl | rfl) | rfl <;> decide

/-- A letter is no part of a number. -/
theorem isAsciiLetter_apart (letter : CharClass.isAsciiLetter c = true) :
    CharClass.isDecimal c = false ∧ c ≠ '.' := by
  have range := CharCase.isAsciiLetter_iff.mp letter
  refine ⟨?_, ?_⟩
  · rw [CharClass.isDecimal_of_ascii (by omega), CharCase.isDigit_eq_false (by omega)]
  · rintro rfl
    cases letter

theorem isGap_of_isAsciiLetter (letter : CharClass.isAsciiLetter c = true) : isGap c = false := by
  by_contra gap
  rw [Bool.not_eq_false] at gap
  rw [(isSeparator_apart (isSeparator_of_isGap gap)).2.2] at letter
  cases letter

/-- No digit may stand between parts. -/
theorem isSeparator_of_isDigit (digit : isDigit c = true) : isSeparator c = false := by
  by_contra separator
  rw [Bool.not_eq_false] at separator
  have decimal := CharClass.isDecimal_of_isDigit digit
  rw [(isSeparator_apart separator).2.1.1] at decimal
  cases decimal

/-- No digit is a letter. -/
theorem isAsciiLetter_of_isDigit (digit : isDigit c = true) : CharClass.isAsciiLetter c = false := by
  by_contra letter
  rw [Bool.not_eq_false] at letter
  have decimal := CharClass.isDecimal_of_isDigit digit
  rw [(isAsciiLetter_apart letter).1] at decimal
  cases decimal

/-! ## Units -/

theorem units_filled : ∀ unit ∈ units, unit.1 ≠ [] := by
  have checked : (units.all fun unit => unit.1 ≠ []) = true := by decide +kernel
  exact fun unit member => of_decide_eq_true (List.all_eq_true.mp checked unit member)

theorem spelling_isSmall (known : word ∈ units.map Prod.fst) : ∀ w ∈ word, CharCase.IsSmall w.toNat := by
  obtain ⟨unit, member, rfl⟩ := List.mem_map.mp known
  exact units_isSmall unit member

theorem IsUnit.filled (isUnit : IsUnit unit) : unit ≠ [] := by
  obtain ⟨spelling, known, spelled⟩ := isUnit
  obtain ⟨entry, member, rfl⟩ := List.mem_map.mp known
  rintro rfl
  exact units_filled entry member (List.forall₂_nil_right_iff.mp spelled)

/-- A unit is all letters. -/
theorem IsUnit.letters (isUnit : IsUnit unit) : ∀ c ∈ unit, CharClass.isAsciiLetter c = true := by
  obtain ⟨spelling, known, spelled⟩ := isUnit
  have small := spelling_isSmall known
  clear known
  induction spelled with
  | nil => exact List.forall_mem_nil _
  | cons letter _ ih =>
      rw [List.forall_mem_cons] at small ⊢
      exact ⟨letter.isAsciiLetter small.1, ih small.2⟩

/-- A text of the ASCII range begins with a spelling exactly if its letters are those of the
spelling, in any case. -/
theorem beginsWith_iff (small : ∀ w ∈ word, CharCase.IsSmall w.toNat) (ascii : text.IsAscii) :
    beginsWith word text = true ↔ List.Forall₂ IsLetter word (text.take word.length) := by
  induction word generalizing text with
  | nil => exact iff_of_true rfl .nil
  | cons w word ih =>
      cases text with
      | nil => exact iff_of_false Bool.false_ne_true nofun
      | cons c text =>
          rw [List.forall_mem_cons] at small
          rw [Text.IsAscii, List.forall_mem_cons] at ascii
          rw [beginsWith, Bool.and_eq_true, beq_iff_eq, List.length_cons, List.take_succ_cons,
            List.forall₂_cons, CharCase.foldCode_eq_iff ascii.1 small.1, ih small.2 ascii.2]

/-- In the ASCII range a unit is closed by anything but a letter of the alphabet. -/
theorem closes_iff (ascii : rest.IsAscii) :
    rest.head?.any CharClass.isLetter = false ↔
      ∀ c ∈ rest.head?, CharClass.isAsciiLetter c = false := by
  cases rest with
  | nil => exact iff_of_true rfl nofun
  | cons c rest =>
      rw [List.head?_cons, Option.any_some, CharClass.isLetter_of_ascii (ascii c List.mem_cons_self)]
      exact ⟨fun other _ same => Option.some.inj same ▸ other, fun closes => closes c rfl⟩

/-- The test of a spelling at the start of a text. -/
theorem spelled_iff (known : word ∈ units.map Prod.fst) (ascii : text.IsAscii) :
    (beginsWith word text && !(text[word.length]?).any CharClass.isLetter) = true ↔
      List.Forall₂ IsLetter word (text.take word.length) ∧
        ∀ c ∈ (text.drop word.length).head?, CharClass.isAsciiLetter c = false := by
  rw [Bool.and_eq_true, Bool.not_eq_true', ← List.head?_drop,
    beginsWith_iff (spelling_isSmall known) ascii,
    closes_iff fun c member => ascii c (List.mem_of_mem_drop member)]

/-- The length that is found is that of a unit. -/
theorem exists_unit (ascii : text.IsAscii) (found : unitLength? text = some n) :
    ∃ unit rest, text = unit ++ rest ∧ unit.length = n ∧ IsUnit unit ∧
      ∀ c ∈ rest.head?, CharClass.isAsciiLetter c = false := by
  obtain ⟨spelling, known, here⟩ := List.exists_of_findSome?_eq_some found
  rw [Option.ite_none_right_eq_some, spelled_iff known ascii] at here
  obtain ⟨⟨spelled, closes⟩, same⟩ := here
  obtain rfl := Option.some.inj same
  exact ⟨_, _, (List.take_append_drop _ _).symm, spelled.length_eq.symm, ⟨spelling, known, spelled⟩,
    closes⟩

/-- A unit that no letter follows is found.  A shorter or longer spelling does not end where the letters
end, so it does not matter which one is tried first. -/
theorem unitLength?_append (ascii : (unit ++ rest).IsAscii) (isUnit : IsUnit unit)
    (closes : ∀ c ∈ rest.head?, CharClass.isAsciiLetter c = false) :
    unitLength? (unit ++ rest) = some unit.length := by
  cases found : unitLength? (unit ++ rest) with
  | none =>
      obtain ⟨spelling, known, spelled⟩ := isUnit
      have failed := List.findSome?_eq_none_iff.mp found spelling known
      rw [if_pos] at failed
      · cases failed
      · rw [spelled_iff known ascii, spelled.length_eq, List.take_left, List.drop_left]
        exact ⟨spelled, closes⟩
  | some length =>
      obtain ⟨unit', rest', split, rfl, isUnit', closes'⟩ := exists_unit ascii found
      have letters := takeWhile_append_of_ends isUnit.letters closes
      rw [split, takeWhile_append_of_ends isUnit'.letters closes'] at letters
      rw [letters]

/-! ## Parts -/

/-- The digits behind the point with which a text begins, and the text behind them. -/
def scanFraction (text : Text) : Text × Text :=
  match text with
  | '.' :: rest =>
    let digits := rest.takeWhile CharClass.isDecimal
    if digits.isEmpty then ([], text) else (digits, rest.dropWhile CharClass.isDecimal)
  | _ => ([], text)

/-- A part is read number first. -/
theorem scanPart?_eq (text : Text) : scanPart? text =
    let number := text.takeWhile CharClass.isDecimal
    let fraction := scanFraction (text.dropWhile CharClass.isDecimal)
    if number.isEmpty then none
    else (unitLength? (fraction.2.dropWhile isGap)).map fun length =>
      (⟨number, fraction.1, (fraction.2.dropWhile isGap).take length⟩,
        (fraction.2.dropWhile isGap).drop length) :=
  rfl

theorem scanFraction_plain (plain : ∀ c ∈ text.head?, c ≠ '.') : scanFraction text = ([], text) := by
  unfold scanFraction
  split
  · exact (plain '.' rfl rfl).elim
  · rfl

/-- Digits behind a point are a fraction, up to what is no digit. -/
theorem scanFraction_pointed (filled : word ≠ []) (all : ∀ c ∈ word, CharClass.isDecimal c = true)
    (closes : ∀ c ∈ rest.head?, CharClass.isDecimal c = false) :
    scanFraction ('.' :: (word ++ rest)) = (word, rest) := by
  rw [scanFraction, takeWhile_append_of_ends all closes, dropWhile_append_of_ends all closes]
  exact if_neg (by rwa [List.isEmpty_iff])

/-- A fraction is a point with digits behind it, or is not there. -/
theorem scanFraction_cases (text : Text) :
    scanFraction text = ([], text) ∨ ∃ digits rest, text = '.' :: (digits ++ rest) ∧ digits ≠ [] ∧
      (∀ c ∈ digits, CharClass.isDecimal c = true) ∧ scanFraction text = (digits, rest) := by
  unfold scanFraction
  split
  · rename_i rest
    dsimp only
    split
    · exact .inl rfl
    · rename_i filled
      rw [List.isEmpty_iff] at filled
      refine .inr ⟨_, _, ?_, filled, fun _ => List.mem_takeWhile_imp, rfl⟩
      rw [List.takeWhile_append_dropWhile]
  · exact .inl rfl

/-- A number that no digit and no point follows is read to its end. -/
theorem scanPart?_quantity (quantity : IsQuantity number)
    (ends : ∀ c ∈ tail.head?, CharClass.isDecimal c = false ∧ c ≠ '.') :
    ∃ whole fraction, scanPart? (number ++ tail) =
      (unitLength? (tail.dropWhile isGap)).map fun length =>
        (⟨whole, fraction, (tail.dropWhile isGap).take length⟩,
          (tail.dropWhile isGap).drop length) := by
  have decimals : ∀ {digits : Text}, (∀ c ∈ digits, isDigit c = true) →
      ∀ c ∈ digits, CharClass.isDecimal c = true :=
    fun all c member => CharClass.isDecimal_of_isDigit (all c member)
  cases quantity with
  | whole filled all =>
      have closes : ∀ c ∈ tail.head?, CharClass.isDecimal c = false := fun c first => (ends c first).1
      refine ⟨number, [], ?_⟩
      rw [scanPart?_eq, takeWhile_append_of_ends (decimals all) closes,
        dropWhile_append_of_ends (decimals all) closes,
        scanFraction_plain fun c first => (ends c first).2]
      exact if_neg (by rwa [List.isEmpty_iff])
  | @pointed digits fraction filled all filled' all' =>
      have point : ∀ c ∈ ('.' :: (fraction ++ tail)).head?, CharClass.isDecimal c = false := by
        rintro c ⟨⟩
        decide
      refine ⟨digits, fraction, ?_⟩
      rw [List.append_assoc, List.cons_append, scanPart?_eq,
        takeWhile_append_of_ends (decimals all) point, dropWhile_append_of_ends (decimals all) point,
        scanFraction_pointed filled' (decimals all') fun c first => (ends c first).1]
      exact if_neg (by rwa [List.isEmpty_iff])

/-- What stands in front of the gap is a number. -/
theorem exists_quantity (ascii : text.IsAscii) (filled : text.takeWhile CharClass.isDecimal ≠ []) :
    ∃ number, IsQuantity number ∧
      text = number ++ (scanFraction (text.dropWhile CharClass.isDecimal)).2 := by
  have digits : ∀ {digits : Text}, digits ⊆ text → (∀ c ∈ digits, CharClass.isDecimal c = true) →
      ∀ c ∈ digits, isDigit c = true := by
    intro digits inside all c member
    rw [← CharClass.isDecimal_of_ascii (ascii c (inside member))]
    exact all c member
  have split := (List.takeWhile_append_dropWhile (p := CharClass.isDecimal) (l := text)).symm
  have leading := digits (List.takeWhile_subset _) fun _ => List.mem_takeWhile_imp
  rcases scanFraction_cases (text.dropWhile CharClass.isDecimal) with
    same | ⟨fraction, tail, pointed, filled', all, same⟩
  · refine ⟨_, .whole filled leading, ?_⟩
    rwa [same]
  · have behind : fraction ⊆ text := by
      intro c member
      rw [split, pointed]
      exact List.mem_append_right _ (List.mem_cons_of_mem _ (List.mem_append_left _ member))
    refine ⟨_, .pointed filled leading filled' (digits behind all), ?_⟩
    rwa [same, List.append_assoc, List.cons_append, ← pointed]

/-- What is read is a number, blanks and a unit. -/
theorem exists_isPart (ascii : text.IsAscii) (found : scanPart? text = some (part, rest)) :
    ∃ number gap, text = number ++ (gap ++ (part.unit ++ rest)) ∧ IsPart number gap part.unit rest := by
  rw [scanPart?_eq, Option.ite_none_left_eq_some, List.isEmpty_iff, Option.map_eq_some_iff] at found
  obtain ⟨filled, length, measured, same⟩ := found
  obtain ⟨number, quantity, split⟩ := exists_quantity ascii filled
  generalize scanFraction (text.dropWhile CharClass.isDecimal) = fraction at measured same split
  obtain ⟨fraction, tail⟩ := fraction
  have gapped := (List.takeWhile_append_dropWhile (p := isGap) (l := tail)).symm
  rw [split, Text.isAscii_append, gapped, Text.isAscii_append] at ascii
  obtain ⟨unit, behind, cut, rfl, isUnit, closes⟩ := exists_unit ascii.2.2 measured
  simp only [cut, List.take_left, List.drop_left] at same gapped
  cases same
  exact ⟨number, tail.takeWhile isGap, gapped ▸ split, quantity, fun _ => List.mem_takeWhile_imp, isUnit,
    closes⟩

/-- A part is read to its end. -/
theorem IsPart.exists_scanPart? (isPart : IsPart number gap unit rest) (ascii : (unit ++ rest).IsAscii) :
    ∃ part, scanPart? (number ++ (gap ++ (unit ++ rest))) = some (part, rest) := by
  obtain ⟨quantity, blank, isUnit, closes⟩ := isPart
  have letter : ∀ c ∈ (unit ++ rest).head?, CharClass.isAsciiLetter c = true := by
    intro c first
    rw [List.head?_append_of_ne_nil _ isUnit.filled] at first
    exact isUnit.letters c (List.mem_of_mem_head? first)
  have ends : ∀ c ∈ (gap ++ (unit ++ rest)).head?, CharClass.isDecimal c = false ∧ c ≠ '.' := by
    cases gap with
    | nil => exact fun c first => isAsciiLetter_apart (letter c first)
    | cons d gap =>
        rintro c ⟨⟩
        exact (isSeparator_apart (isSeparator_of_isGap (blank d List.mem_cons_self))).2.1
  obtain ⟨whole, fraction, scanned⟩ := scanPart?_quantity quantity ends
  have stops := fun c first => isGap_of_isAsciiLetter (letter c first)
  rw [scanned, dropWhile_append_of_ends blank stops, unitLength?_append ascii isUnit closes,
    Option.map_some, List.drop_left]
  exact ⟨_, rfl⟩

/-- A part of the grammar is scanned. -/
theorem PartText.exists_scanPart? (typed : PartText taken rest) (ascii : (taken ++ rest).IsAscii) :
    ∃ part, scanPart? (taken ++ rest) = some (part, rest) := by
  obtain ⟨number, gap, unit, rfl, isPart⟩ := typed
  rw [List.append_assoc, List.append_assoc] at ascii ⊢
  rw [Text.isAscii_append, Text.isAscii_append] at ascii
  exact isPart.exists_scanPart? ascii.2.2

/-- What is read is a part, and its unit stands in it. -/
theorem exists_partText (ascii : text.IsAscii) (found : scanPart? text = some (part, rest)) :
    ∃ taken, text = taken ++ rest ∧ PartText taken rest ∧ part.unit ⊆ taken := by
  obtain ⟨number, gap, split, isPart⟩ := exists_isPart ascii found
  refine ⟨number ++ (gap ++ part.unit), ?_, ⟨number, gap, part.unit, rfl, isPart⟩, fun c member => ?_⟩
  · rw [split, List.append_assoc, List.append_assoc]
  · exact List.mem_append_right _ (List.mem_append_right _ member)

/-- A quantity begins with a digit. -/
theorem IsQuantity.exists_digit (quantity : IsQuantity number) :
    ∃ c tail, number = c :: tail ∧ isDigit c = true := by
  cases quantity with
  | whole filled all =>
      obtain ⟨c, digits, rfl⟩ := List.exists_cons_of_ne_nil filled
      exact ⟨c, digits, rfl, all c List.mem_cons_self⟩
  | pointed filled all _ _ =>
      obtain ⟨c, digits, rfl⟩ := List.exists_cons_of_ne_nil filled
      exact ⟨c, _, rfl, all c List.mem_cons_self⟩

/-- A part begins with a digit. -/
theorem PartText.exists_digit (typed : PartText taken rest) :
    ∃ c tail, taken = c :: tail ∧ isDigit c = true := by
  obtain ⟨number, gap, unit, rfl, isPart⟩ := typed
  obtain ⟨c, tail, rfl, digit⟩ := isPart.number.exists_digit
  exact ⟨c, _, rfl, digit⟩

/-- A part is one in front of any text that begins with no letter. -/
theorem PartText.in_front (typed : PartText taken tail)
    (closes : ∀ c ∈ rest.head?, CharClass.isAsciiLetter c = false) : PartText taken rest := by
  obtain ⟨number, gap, unit, same, quantity, blank, isUnit, -⟩ := typed
  exact ⟨number, gap, unit, same, quantity, blank, isUnit, closes⟩

end Duration

end TableSearch
