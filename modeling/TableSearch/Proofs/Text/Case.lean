import TableSearch.Text.Case

/-! # Lower case

A text in lower case is its own lower-case form (`TableSearch.Text.lower_lower`).  Lower-casing
neither makes nor removes the characters that separate tokens: blanks and double quotes.

Both follow from one look at the table of upper-case characters
(`TableSearch.CharTable.lowerRuns_image`).
-/

namespace TableSearch

namespace CharTable

namespace CaseRun

/-- The codes that a run maps to. -/
def image (run : CaseRun) : List Nat :=
  (List.range ((run.last - run.first) / run.step + 1)).map fun place =>
    Int.toNat ((run.first + place * run.step : Nat) + run.delta)

/-- Whether a run holds codes between the least and the greatest that another one maps to. -/
def meets (run other : CaseRun) : Bool :=
  Nat.ble other.first (Int.toNat (run.last + run.delta)) &&
    Nat.ble (Int.toNat (run.first + run.delta)) other.last

variable {run other : CaseRun} {code found : Nat}

/-- What a run of the table maps a code to is in its image. -/
theorem mem_image_of_map? (mapped : run.map? code = some found) : found ∈ run.image := by
  unfold map? at mapped
  split at mapped
  · rename_i inside
    rw [Bool.and_eq_true, Bool.and_eq_true, decide_eq_true_eq, decide_eq_true_eq,
      beq_iff_eq] at inside
    obtain ⟨⟨above, below⟩, divides⟩ := inside
    have place : run.first + (code - run.first) / run.step * run.step = code := by
      rw [Nat.div_mul_cancel (Nat.dvd_of_mod_eq_zero divides)]
      omega
    cases mapped
    refine List.mem_map.mpr ⟨(code - run.first) / run.step, ?_, ?_⟩
    · rw [List.mem_range]
      exact Nat.lt_succ_of_le (Nat.div_le_div_right (by omega))
    · rw [place]
  · cases mapped

/-- The image of a run lies between the images of its ends. -/
theorem bounds_of_mem_image (member : found ∈ run.image) :
    Int.toNat (run.first + run.delta) ≤ found ∧ found ≤ Int.toNat (run.last + run.delta) ∨
      run.last < run.first := by
  obtain ⟨place, inside, same⟩ := List.mem_map.mp member
  rw [List.mem_range] at inside
  have reach : place * run.step ≤ run.last - run.first :=
    Nat.le_trans (Nat.mul_le_mul_right _ (Nat.le_of_lt_succ inside)) (Nat.div_mul_le_self _ _)
  omega

/-- A run that does not meet the image of another one maps nothing of it. -/
theorem map?_eq_none (above : found ≤ Int.toNat (run.last + run.delta))
    (below : Int.toNat (run.first + run.delta) ≤ found) (apart : run.meets other = false) :
    other.map? found = none := by
  unfold meets at apart
  rw [← Bool.not_eq_true, Bool.and_eq_true, Nat.ble_eq, Nat.ble_eq] at apart
  unfold map?
  rw [if_neg]
  intro inside
  rw [Bool.and_eq_true, Bool.and_eq_true, decide_eq_true_eq, decide_eq_true_eq] at inside
  omega

end CaseRun

/-- Whether a code is that of a character which is no capital letter of the ASCII range, no capital
with a lower-case form of its own, no double quote and not blank. -/
def isPlainCode (code : Nat) : Bool :=
  decide code.isValidChar && !(65 ≤ code && code ≤ 90) && code != 304 && code != 931 &&
    code != 34 && !CharClass.isBlank (Char.ofNat code)

/-- Every run of the table goes upwards, and maps to plain codes that no run maps any further. -/
theorem lowerRuns_checked :
    (lowerRuns.toList.all fun run =>
      let near := lowerRuns.toList.filter run.meets
      Nat.ble run.first run.last && run.image.all fun code =>
        near.all (fun other => (other.map? code).isNone) && isPlainCode code) = true := by
  decide +kernel

/-- No code that a run maps to is mapped again, and none stands for a character that separates
tokens. -/
theorem lowerRuns_image {run : CaseRun} {code found : Nat} (member : run ∈ lowerRuns)
    (mapped : run.map? code = some found) :
    lowerRuns.findSome? (·.map? found) = none ∧ isPlainCode found = true := by
  have inside := CaseRun.mem_image_of_map? mapped
  have checked := List.all_eq_true.mp lowerRuns_checked run (Array.mem_toList_iff.mpr member)
  rw [Bool.and_eq_true] at checked
  have proper := Nat.le_of_ble_eq_true checked.1
  have settled := List.all_eq_true.mp checked.2 found inside
  rw [Bool.and_eq_true] at settled
  refine ⟨?_, settled.2⟩
  rw [Array.findSome?_eq_none_iff]
  intro other known
  by_cases close : run.meets other = true
  · have near := List.mem_filter.mpr ⟨Array.mem_toList_iff.mpr known, close⟩
    exact Option.isNone_iff_eq_none.mp (List.all_eq_true.mp settled.1 other near)
  · rcases CaseRun.bounds_of_mem_image inside with ⟨below, above⟩ | empty
    · exact CaseRun.map?_eq_none above below (Bool.not_eq_true _ |>.mp close)
    · omega

theorem lowerRuns_above :
    ∀ run ∈ lowerRuns.toList, 96 < Int.toNat (run.first + run.delta) := by
  decide +kernel

/-- Nothing is mapped to a code below the small letters. -/
theorem above_of_map? {run : CaseRun} {code found : Nat} (member : run ∈ lowerRuns)
    (mapped : run.map? code = some found) : 96 < found := by
  have above := lowerRuns_above run (Array.mem_toList_iff.mpr member)
  unfold CaseRun.map? at mapped
  split at mapped
  · rename_i inside
    rw [Bool.and_eq_true, Bool.and_eq_true, decide_eq_true_eq] at inside
    cases mapped
    omega
  · cases mapped

end CharTable

namespace CharCase

/-! ## Characters -/

variable {c d : Char}

/-- Whether a character is the only one of its lower-case form, in every word. -/
def IsLower (c : Char) : Prop :=
  c ≠ 'Σ' ∧ lowerForm c = [c]

instance : DecidablePred IsLower := fun c =>
  inferInstanceAs (Decidable (c ≠ 'Σ' ∧ lowerForm c = [c]))

/-- The characters that a character may become in a text in lower case. -/
def lowerForms (c : Char) : Text :=
  if c = 'Σ' then ['ς', 'σ'] else lowerForm c

/-- The code of a character in lower case is its own, or that of a character which is no capital
and separates nothing. -/
theorem lowerCode_cases (c : Char) (beyond : ¬c.toNat < 128) :
    lowerCode c.toNat = c.toNat ∨ CharTable.isPlainCode (lowerCode c.toNat) = true ∧
      lowerCode (lowerCode c.toNat) = lowerCode c.toNat := by
  cases mapped : CharTable.lowerRuns.findSome? (·.map? c.toNat) with
  | none =>
      refine .inl ?_
      rw [lowerCode, if_neg beyond, mapped, Option.getD_none]
  | some found =>
      obtain ⟨run, member, here⟩ := Array.exists_of_findSome?_eq_some mapped
      obtain ⟨settled, plain⟩ := CharTable.lowerRuns_image member here
      have same : lowerCode c.toNat = found := by
        rw [lowerCode, if_neg beyond, mapped, Option.getD_some]
      rw [same]
      refine .inr ⟨plain, ?_⟩
      rw [lowerCode, settled, Option.getD_none]
      have small : ¬((decide (65 ≤ found) && decide (found ≤ 90)) = true) := by
        simp only [CharTable.isPlainCode, Bool.and_eq_true, Bool.not_eq_true'] at plain
        rw [Bool.not_eq_true]
        exact plain.1.1.1.1.2
      rw [if_neg small, ite_self]

theorem isPlainCode_ascii : ∀ place < 26, CharTable.isPlainCode (97 + place) = true := by
  decide

theorem le_iff_toNat {c d : Char} : c ≤ d ↔ c.toNat ≤ d.toNat :=
  Iff.rfl

theorem isDigit_iff : isDigit c = true ↔ 48 ≤ c.toNat ∧ c.toNat ≤ 57 := by
  rw [isDigit, Bool.and_eq_true, decide_eq_true_eq, decide_eq_true_eq]
  exact Iff.rfl

theorem isDigit_eq_false (outside : c.toNat < 48 ∨ 57 < c.toNat) : isDigit c = false := by
  rw [← Bool.not_eq_true, isDigit_iff]
  omega

/-- The capitals of the ASCII range, as lower-casing tests for them. -/
theorem isCapital_iff : ('A' ≤ c && c ≤ 'Z') = true ↔ 65 ≤ c.toNat ∧ c.toNat ≤ 90 := by
  rw [Bool.and_eq_true, decide_eq_true_eq, decide_eq_true_eq]
  exact Iff.rfl

theorem isAsciiLetter_iff : CharClass.isAsciiLetter c = true ↔
    97 ≤ c.toNat ∧ c.toNat ≤ 122 ∨ 65 ≤ c.toNat ∧ c.toNat ≤ 90 := by
  rw [CharClass.isAsciiLetter, Bool.or_eq_true, isCapital_iff, Bool.and_eq_true, decide_eq_true_eq,
    decide_eq_true_eq]
  exact Iff.rfl

theorem toNat_ofNat {code : Nat} (valid : code.isValidChar) : (Char.ofNat code).toNat = code := by
  rw [Char.ofNat, dif_pos valid]
  rfl

/-- A character that lower-casing changes becomes one that it does not change and that separates
nothing. -/
theorem lowerChar_cases (c : Char) :
    lowerChar c = c ∨ CharTable.isPlainCode (lowerChar c).toNat = true ∧
      lowerCode (lowerChar c).toNat = (lowerChar c).toNat := by
  unfold lowerChar
  split
  · split
    · rename_i capital
      rw [isCapital_iff] at capital
      have valid : (c.toNat + 32).isValidChar := .inl (by omega)
      have plain := isPlainCode_ascii (c.toNat - 65) (by omega)
      have place : 97 + (c.toNat - 65) = c.toNat + 32 := by omega
      rw [place] at plain
      rw [toNat_ofNat valid]
      refine .inr ⟨plain, ?_⟩
      rw [lowerCode, if_pos (by omega), if_neg]
      rw [Bool.and_eq_true, decide_eq_true_eq, decide_eq_true_eq]
      omega
    · exact .inl rfl
  · rename_i beyond
    rcases lowerCode_cases c beyond with same | ⟨plain, settled⟩
    · rw [same, Char.ofNat_toNat]
      exact .inl rfl
    · have valid : (lowerCode c.toNat).isValidChar := by
        simp only [CharTable.isPlainCode, Bool.and_eq_true, decide_eq_true_eq] at plain
        exact plain.1.1.1.1.1
      rw [toNat_ofNat valid]
      exact .inr ⟨plain, settled⟩

/-- A character that lower-casing changes lies behind the signs and digits, and what it becomes lies
behind the capital letters. -/
theorem lowerChar_eq_or_above (c : Char) :
    lowerChar c = c ∨ 64 < c.toNat ∧ 96 < (lowerChar c).toNat := by
  unfold lowerChar
  split
  · split
    · rename_i capital
      rw [isCapital_iff] at capital
      rw [toNat_ofNat (.inl (by omega))]
      omega
    · exact .inl rfl
  · rename_i beyond
    cases mapped : CharTable.lowerRuns.findSome? (·.map? c.toNat) with
    | none =>
        rw [lowerCode, if_neg beyond, mapped, Option.getD_none, Char.ofNat_toNat]
        exact .inl rfl
    | some found =>
        obtain ⟨run, member, here⟩ := Array.exists_of_findSome?_eq_some mapped
        have above := CharTable.above_of_map? member here
        have valid : found.isValidChar := by
          have plain := (CharTable.lowerRuns_image member here).2
          simp only [CharTable.isPlainCode, Bool.and_eq_true, decide_eq_true_eq] at plain
          exact plain.1.1.1.1.1
        rw [lowerCode, if_neg beyond, mapped, Option.getD_some, toNat_ofNat valid]
        omega

/-- A character that is neither a capital of the alphabet nor one of the table is its own lower-case
form. -/
theorem lowerChar_eq_self (small : ¬(65 ≤ c.toNat ∧ c.toNat ≤ 90))
    (settled : lowerCode c.toNat = c.toNat) : lowerChar c = c := by
  unfold lowerChar
  split
  · rw [if_neg]
    rw [Bool.and_eq_true, decide_eq_true_eq, decide_eq_true_eq, le_iff_toNat, le_iff_toNat]
    exact small
  · rw [settled, Char.ofNat_toNat]

/-- A character that is its own lower-case form is in lower case, but for a sigma and a dotted
capital I. -/
theorem isLower_of_lowerChar (final : c ≠ 'Σ') (dotted : c ≠ 'İ') (same : lowerChar c = c) :
    IsLower c :=
  ⟨final, by rw [lowerForm, if_neg dotted, same]⟩

/-- The character of a plain code that is in lower case separates nothing. -/
theorem isLower_of_plain (plain : CharTable.isPlainCode c.toNat = true)
    (settled : lowerCode c.toNat = c.toNat) :
    IsLower c ∧ c ≠ '"' ∧ CharClass.isBlank c = false := by
  simp only [CharTable.isPlainCode, Bool.and_eq_true, decide_eq_true_eq, Bool.not_eq_true',
    bne_iff_ne, Char.ofNat_toNat] at plain
  obtain ⟨⟨⟨⟨⟨-, small⟩, dotted⟩, final⟩, quote⟩, blank⟩ := plain
  have low : ¬(65 ≤ c.toNat ∧ c.toNat ≤ 90) := by
    rw [Bool.and_eq_false_iff, decide_eq_false_iff_not, decide_eq_false_iff_not] at small
    omega
  refine ⟨isLower_of_lowerChar ?_ ?_ (lowerChar_eq_self low settled), ?_, blank⟩
  · rintro rfl
    exact final rfl
  · rintro rfl
    exact dotted rfl
  · rintro rfl
    exact quote rfl

/-- What becomes of a character in lower case is in lower case, and separates tokens only if it is
the character itself. -/
theorem of_mem_lowerForms (member : d ∈ lowerForms c) :
    IsLower d ∧ (d = c ∨ d ≠ '"' ∧ CharClass.isBlank d = false) := by
  unfold lowerForms at member
  by_cases final : c = 'Σ'
  · rw [if_pos final, List.mem_cons, List.mem_singleton] at member
    rcases member with same | same
    · rw [same]
      exact ⟨by decide +kernel, .inr (by decide +kernel)⟩
    · rw [same]
      exact ⟨by decide +kernel, .inr (by decide +kernel)⟩
  · rw [if_neg final, lowerForm] at member
    by_cases dotted : c = 'İ'
    · rw [if_pos dotted, List.mem_cons, List.mem_singleton] at member
      rcases member with same | same
      · rw [same]
        exact ⟨by decide +kernel, .inr (by decide +kernel)⟩
      · rw [same]
        exact ⟨by decide +kernel, .inr (by decide +kernel)⟩
    · rw [if_neg dotted, List.mem_singleton] at member
      rcases lowerChar_cases c with same | ⟨plain, settled⟩
      · rw [member, same]
        exact ⟨isLower_of_lowerChar final dotted same, .inl rfl⟩
      · rw [← member] at plain settled
        obtain ⟨lower, ordinary⟩ := isLower_of_plain plain settled
        exact ⟨lower, .inr ordinary⟩

/-- Only a sign or digit itself becomes that sign or digit. -/
theorem eq_of_mem_lowerForms (low : d.toNat ≤ 64) (member : d ∈ lowerForms c) : d = c := by
  unfold lowerForms lowerForm at member
  split at member
  · rw [List.mem_cons, List.mem_singleton] at member
    rcases member with rfl | rfl
    · exact absurd low (by decide)
    · exact absurd low (by decide)
  · split at member
    · rw [List.mem_cons, List.mem_singleton] at member
      rcases member with rfl | rfl
      · exact absurd low (by decide)
      · exact absurd low (by decide)
    · rw [List.mem_singleton] at member
      rcases lowerChar_eq_or_above c with same | ⟨-, above⟩
      · rw [member, same]
      · rw [← member] at above
        omega

end CharCase

namespace Text

open CharCase

/-! ## Texts -/

variable {passed text : Text} {c d : Char}

theorem lowerForms_ne_nil : lowerForms c ≠ [] := by
  unfold lowerForms lowerForm
  split
  · exact List.cons_ne_nil _ _
  · split
    · exact List.cons_ne_nil _ _
    · exact List.cons_ne_nil _ _

/-- The lower-case form of a text begins with what becomes of its first character. -/
theorem lowerFrom_cons (passed : Text) (c : Char) (text : Text) :
    ∃ form, form ≠ [] ∧ (∀ d ∈ form, d ∈ lowerForms c) ∧
      lowerFrom passed (c :: text) = form ++ lowerFrom (c :: passed) text := by
  rw [lowerFrom]
  by_cases final : c = 'Σ'
  · rw [if_pos final]
    refine ⟨[_], List.cons_ne_nil _ _, ?_, rfl⟩
    intro d member
    rw [List.mem_singleton] at member
    rw [member, lowerForms, if_pos final, List.mem_cons, List.mem_singleton]
    split
    · exact .inl rfl
    · exact .inr rfl
  · rw [if_neg final]
    have same : lowerForms c = lowerForm c := if_neg final
    rw [← same]
    exact ⟨lowerForms c, lowerForms_ne_nil, fun _ member => member, rfl⟩

/-- A text that is not empty has a lower-case form that is not empty. -/
theorem lower_ne_nil (filled : text ≠ []) : lower text ≠ [] := by
  cases text with
  | nil => exact (filled rfl).elim
  | cons c rest =>
      obtain ⟨form, nonempty, -, same⟩ := lowerFrom_cons [] c rest
      rw [lower, same]
      exact List.append_ne_nil_of_left_ne_nil nonempty _

/-- Every character of a lower-case form comes from a character of the text. -/
theorem mem_lowerFrom (member : d ∈ lowerFrom passed text) : ∃ c ∈ text, d ∈ lowerForms c := by
  induction text generalizing passed with
  | nil => cases member
  | cons c rest ih =>
      obtain ⟨form, -, forms, same⟩ := lowerFrom_cons passed c rest
      rw [same, List.mem_append] at member
      rcases member with first | later
      · exact ⟨c, List.mem_cons_self, forms d first⟩
      · obtain ⟨b, inside, becomes⟩ := ih later
        exact ⟨b, List.mem_cons_of_mem _ inside, becomes⟩

/-- Every character of a text in lower case is in lower case. -/
theorem isLower_of_mem_lower (member : d ∈ lower text) : IsLower d := by
  obtain ⟨c, -, becomes⟩ := mem_lowerFrom member
  exact (of_mem_lowerForms becomes).1

/-- A text in lower case stays as it is, whatever stands in front of it. -/
theorem lowerFrom_of_isLower (lowered : ∀ c ∈ text, IsLower c) : lowerFrom passed text = text := by
  induction text generalizing passed with
  | nil => rfl
  | cons c rest ih =>
      rw [List.forall_mem_cons] at lowered
      rw [lowerFrom, if_neg lowered.1.1, lowered.1.2, ih lowered.2]
      rfl

/-- A text of characters in lower case stays as it is. -/
theorem lower_of_isLower (lowered : ∀ c ∈ text, IsLower c) : lower text = text :=
  lowerFrom_of_isLower lowered

/-- **Lower case.** A text in lower case is its own lower-case form. -/
theorem lower_lower : lower (lower text) = lower text :=
  lower_of_isLower fun _ member => isLower_of_mem_lower member

/-- Lower-casing makes no blanks. -/
theorem not_isBlank_of_mem_lower (solid : ∀ c ∈ text, CharClass.isBlank c = false)
    (member : d ∈ lower text) : CharClass.isBlank d = false := by
  obtain ⟨c, inside, becomes⟩ := mem_lowerFrom member
  rcases (of_mem_lowerForms becomes).2 with same | ⟨-, solid'⟩
  · rw [same]
    exact solid c inside
  · exact solid'

/-- Lower-casing makes no signs and no digits. -/
theorem not_mem_lower (low : d.toNat ≤ 64) (absent : d ∉ text) : d ∉ lower text := by
  intro member
  obtain ⟨c, inside, becomes⟩ := mem_lowerFrom member
  rw [eq_of_mem_lowerForms low becomes] at absent
  exact absent inside

/-- Lower-casing makes no double quotes. -/
theorem quote_not_mem_lower (unquoted : '"' ∉ text) : '"' ∉ lower text :=
  not_mem_lower (by decide) unquoted

/-- Lower-casing puts no double quote at the start. -/
theorem head?_lower_ne_quote (start : c ≠ '"') : (lower (c :: text)).head? ≠ some '"' := by
  obtain ⟨form, nonempty, forms, same⟩ := lowerFrom_cons [] c text
  rw [lower, same]
  cases form with
  | nil => exact (nonempty rfl).elim
  | cons d rest =>
      rw [List.cons_append, List.head?_cons, ne_eq, Option.some.injEq]
      rintro rfl
      rcases (of_mem_lowerForms (forms _ List.mem_cons_self)).2 with same | ⟨differs, -⟩
      · exact start same.symm
      · exact differs rfl

end Text

end TableSearch
