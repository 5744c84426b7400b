import Mathlib.Data.List.Forall2
import TableSearch.Pattern.Syntax
import TableSearch.Proofs.Number.Scan
import TableSearch.Proofs.Text.Fold

/-! # What becomes of a character in lower case

A text without a dotted capital I is put in lower case character by character
(`TableSearch.Text.forall₂_becomes`).  A character becomes the same letter in small
(`TableSearch.CharCase.Becomes.foldCode_eq`), and signs and digits come from nothing but themselves
(`TableSearch.CharCase.Becomes.eq_iff`).
-/

namespace TableSearch

namespace CharTable

variable {run : CaseRun} {code found base : Nat}

/-- Only the dotted capital I and the Kelvin sign are mapped into the ASCII range. -/
theorem lowerRuns_small : ∀ run ∈ lowerRuns.toList,
    128 ≤ Int.toNat (run.first + run.delta) ∨
      run.first = run.last ∧ (run.first = 304 ∨ run.first = 8490) := by
  decide +kernel

theorem lowerRuns_beyond : ∀ run ∈ lowerRuns.toList, 192 ≤ run.first := by
  decide +kernel

theorem sharedUpper_above : ∀ codes ∈ sharedUpper, ∀ code ∈ codes, 96 < code := by
  decide +kernel

/-- No digit of any script has a case. -/
theorem lowerRuns_apart : (decimalZeros.toList.all fun base => lowerRuns.toList.all fun run =>
    Nat.blt run.last base || Nat.blt (base + 9) run.first) = true := by
  decide +kernel

/-- A run of the table maps only the codes between its ends. -/
theorem within_of_map? (mapped : run.map? code = some found) :
    run.first ≤ code ∧ code ≤ run.last := by
  unfold CaseRun.map? at mapped
  split at mapped
  · rename_i inside
    rw [Bool.and_eq_true, Bool.and_eq_true, decide_eq_true_eq, decide_eq_true_eq] at inside
    exact inside.1
  · cases mapped

/-- Only two characters beyond the ASCII range have lower-case forms inside it: the dotted capital I
and the sign for kelvin. -/
theorem small_of_map? (member : run ∈ lowerRuns) (mapped : run.map? code = some found) :
    128 ≤ found ∨ code = 304 ∨ code = 8490 := by
  have inside := within_of_map? mapped
  rcases lowerRuns_small run (Array.mem_toList_iff.mpr member) with above | ⟨single, which⟩
  · rcases CaseRun.bounds_of_mem_image (CaseRun.mem_image_of_map? mapped) with within | empty
    · exact .inl (le_trans above within.1)
    · omega
  · omega

/-- What a run of the table maps lies beyond the ASCII range. -/
theorem beyond_of_preimage? (member : run ∈ lowerRuns) (source : run.preimage? found = some code) :
    192 ≤ code := by
  have mapped : run.map? code = some found := by
    simp only [CaseRun.preimage?] at source
    split at source
    · rename_i same
      cases source
      exact beq_iff_eq.mp same
    · cases source
  exact le_trans (lowerRuns_beyond run (Array.mem_toList_iff.mpr member)) (within_of_map? mapped).1

/-- The table maps no decimal digit of any script. -/
theorem lowerRuns_of_decimal (member : base ∈ decimalZeros.toList) (above : base ≤ code)
    (below : code ≤ base + 9) : lowerRuns.findSome? (·.map? code) = none := by
  have checked := List.all_eq_true.mp lowerRuns_apart base member
  rw [Array.findSome?_eq_none_iff]
  intro run known
  have apart := List.all_eq_true.mp checked run (Array.mem_toList_iff.mpr known)
  rw [Bool.or_eq_true, Nat.blt_eq, Nat.blt_eq] at apart
  rw [Option.eq_none_iff_forall_ne_some]
  intro found mapped
  have inside := within_of_map? mapped
  omega

end CharTable

namespace CharCase

variable {c d sign : Char} {code low high : Nat}

/-! ## Characters without a case -/

theorem isLower_of_isBlank (blank : CharClass.isBlank c = true) : IsLower c := by
  refine ⟨?_, CharClass.lowerForm_of_isBlank blank⟩
  rintro rfl
  exact absurd blank (by decide)

/-- Characters in front of the letters are in lower case. -/
theorem isLower_of_low (low : c.toNat ≤ 64) : IsLower c := by
  refine isLower_of_lowerChar ?_ ?_ ?_
  · rintro rfl
    exact absurd low (by decide)
  · rintro rfl
    exact absurd low (by decide)
  · rcases lowerChar_eq_or_above c with same | ⟨above, -⟩
    · exact same
    · omega

/-- Whether a character of the ASCII range is no letter. -/
def IsSign (c : Char) : Prop :=
  c.toNat < 128 ∧ CharClass.isAsciiLetter c = false

instance : DecidablePred IsSign := fun c =>
  inferInstanceAs (Decidable (c.toNat < 128 ∧ CharClass.isAsciiLetter c = false))

/-- A sign has no case. -/
theorem isLower_of_isSign (sign : IsSign c) : IsLower c := by
  obtain ⟨small, letter⟩ := sign
  rw [← Bool.not_eq_true, isAsciiLetter_iff, not_or] at letter
  refine isLower_of_lowerChar ?_ ?_ ?_
  · rintro rfl
    exact absurd small (by decide)
  · rintro rfl
    exact absurd small (by decide)
  · rw [lowerChar, if_pos small, if_neg]
    rw [isCapital_iff]
    exact letter.2

/-- Decimal digits are in lower case. -/
theorem isLower_of_isDecimal (decimal : CharClass.isDecimal c = true) : IsLower c := by
  unfold CharClass.isDecimal CharClass.decimalValue? at decimal
  by_cases small : c.toNat < 128
  · rw [if_pos small] at decimal
    split at decimal
    · rename_i digit
      rw [isDigit_iff] at digit
      exact isLower_of_low (by omega)
    · cases decimal
  · rw [if_neg small, Option.isSome_map] at decimal
    obtain ⟨base, found⟩ := Option.isSome_iff_exists.mp decimal
    have member := Array.mem_toList_iff.mpr (Array.mem_of_find?_eq_some found)
    have inside := Array.find?_some found
    rw [Bool.and_eq_true, decide_eq_true_eq, decide_eq_true_eq] at inside
    have caseless := CharTable.lowerRuns_of_decimal member inside.1 inside.2
    have same : lowerChar c = c := by
      rw [lowerChar, if_neg small, lowerCode, if_neg small, caseless, Option.getD_none,
        Char.ofNat_toNat]
    refine isLower_of_lowerChar ?_ ?_ same
    · rintro rfl
      exact absurd same (by decide +kernel)
    · rintro rfl
      exact absurd same (by decide +kernel)

/-! ## One character for another -/

/-- Whether a character becomes another one, and nothing more, in a text in lower case. -/
structure Becomes (c d : Char) : Prop where
  undotted : c ≠ 'İ'
  form : d ∈ lowerForms c

namespace Becomes

theorem eq_of_isLower (becomes : Becomes c d) (lower : IsLower c) : d = c := by
  have form := becomes.form
  rwa [lowerForms, if_neg lower.1, lower.2, List.mem_singleton] at form

/-- A text in lower case becomes itself. -/
theorem eq_of_forall₂ {text other : Text} (becomes : List.Forall₂ Becomes text other)
    (lower : ∀ c ∈ text, IsLower c) : other = text := by
  induction becomes with
  | nil => rfl
  | cons first _ ih =>
      rw [List.forall_mem_cons] at lower
      rw [first.eq_of_isLower lower.1, ih lower.2]

theorem of_isLower (lower : IsLower c) : Becomes c c := by
  refine ⟨?_, ?_⟩
  · rintro rfl
    exact absurd lower (by decide)
  · rw [lowerForms, if_neg lower.1, lower.2]
    exact List.mem_singleton_self c

theorem isLower (becomes : Becomes c d) : IsLower d :=
  (of_mem_lowerForms becomes.form).1

/-- The capital sigma becomes one of two small ones, and any other character its small form. -/
theorem cases (becomes : Becomes c d) :
    c = 'Σ' ∧ (d = 'ς' ∨ d = 'σ') ∨ c ≠ 'Σ' ∧ d = lowerChar c := by
  have form := becomes.form
  unfold lowerForms lowerForm at form
  split at form
  · rename_i final
    rw [List.mem_cons, List.mem_singleton] at form
    exact .inl ⟨final, form⟩
  · rename_i other
    rw [if_neg becomes.undotted, List.mem_singleton] at form
    exact .inr ⟨other, form⟩

/-- A character of the ASCII range comes from itself, from its capital, or from the Kelvin sign. -/
theorem ascii (becomes : Becomes c d) (small : d.toNat < 128) :
    d = c ∨ 65 ≤ c.toNat ∧ c.toNat ≤ 90 ∧ d.toNat = c.toNat + 32 ∨ c.toNat = 8490 ∧ d = 'k' := by
  rcases becomes.cases with ⟨-, same | same⟩ | ⟨-, same⟩
  · rw [same] at small
    exact absurd small (by decide)
  · rw [same] at small
    exact absurd small (by decide)
  · unfold lowerChar at same
    split at same
    · split at same
      · rename_i capital
        rw [isCapital_iff] at capital
        rw [same, toNat_ofNat (.inl (by omega))]
        exact .inr (.inl ⟨capital.1, capital.2, rfl⟩)
      · exact .inl same
    · rename_i beyond
      rw [lowerCode, if_neg beyond] at same
      cases mapped : CharTable.lowerRuns.findSome? (·.map? c.toNat) with
      | none =>
          rw [mapped, Option.getD_none, Char.ofNat_toNat] at same
          exact .inl same
      | some found =>
          obtain ⟨run, member, here⟩ := Array.exists_of_findSome?_eq_some mapped
          rcases CharTable.small_of_map? member here with above | dotted | kelvin
          · have plain := (CharTable.lowerRuns_image member here).2
            simp only [CharTable.isPlainCode, Bool.and_eq_true, decide_eq_true_eq] at plain
            rw [same, mapped, Option.getD_some, toNat_ofNat plain.1.1.1.1.1] at small
            omega
          · exact (becomes.undotted (by rw [← Char.ofNat_toNat c, dotted])).elim
          · rw [kelvin] at same
            have small : Char.ofNat (lowerCode 8490) = 'k' := by decide +kernel
            exact .inr (.inr ⟨kelvin, same.trans small⟩)

/-- A capital of the ASCII range becomes its small form. -/
theorem toNat_of_capital (becomes : Becomes c d) (low : 65 ≤ c.toNat) (high : c.toNat ≤ 90) :
    d.toNat = c.toNat + 32 := by
  rcases becomes.cases with ⟨rfl, -⟩ | ⟨-, rfl⟩
  · exact absurd high (by decide)
  · rw [lowerChar, if_pos (by omega), if_pos (isCapital_iff.mpr ⟨low, high⟩),
      toNat_ofNat (.inl (by omega))]

/-- What becomes of a character of the ASCII range is one. -/
theorem beyond (becomes : Becomes c d) (beyond : ¬d.toNat < 128) : ¬c.toNat < 128 := by
  intro small
  rcases becomes.cases with ⟨rfl, -⟩ | ⟨-, rfl⟩
  · exact absurd small (by decide)
  · refine beyond ?_
    rw [lowerChar, if_pos small]
    split
    · rename_i capital
      rw [isCapital_iff] at capital
      rw [toNat_ofNat (.inl (by omega))]
      omega
    · exact small

/-- A sign comes from itself alone. -/
theorem eq_iff (becomes : Becomes c d) (known : IsSign sign) : d = sign ↔ c = sign := by
  constructor
  · rintro rfl
    obtain ⟨small, letter⟩ := known
    rcases becomes.ascii small with same | ⟨low, high, above⟩ | ⟨-, same⟩
    · exact same.symm
    · rw [← Bool.not_eq_true, isAsciiLetter_iff] at letter
      omega
    · rw [same] at letter
      exact absurd letter (by decide)
  · rintro rfl
    exact becomes.eq_of_isLower (isLower_of_isSign known)

/-- A class of signs and digits holds both characters or neither. -/
theorem class_eq (becomes : Becomes c d) {p : Char → Bool} (low : ∀ b, p b = true → b.toNat ≤ 64) :
    p d = p c := by
  rw [Bool.eq_iff_iff]
  constructor
  · intro holds
    rwa [eq_of_mem_lowerForms (low d holds) becomes.form] at holds
  · intro holds
    rwa [becomes.eq_of_isLower (isLower_of_low (low c holds))]

/-- What a character becomes has the lower-case form of the character, unless that is a sigma. -/
theorem lowerCode_eq (becomes : Becomes c d) (other : c ≠ 'Σ') :
    lowerCode d.toNat = lowerCode c.toNat := by
  rcases becomes.cases with ⟨final, -⟩ | ⟨-, rfl⟩
  · exact (other final).elim
  · unfold lowerChar
    split
    · rename_i small
      split
      · rename_i capital
        rw [isCapital_iff] at capital
        rw [toNat_ofNat (.inl (by omega)), lowerCode, lowerCode, if_pos (by omega), if_pos small,
          if_neg, if_pos]
        · rw [Bool.and_eq_true, decide_eq_true_eq, decide_eq_true_eq]
          exact capital
        · rw [Bool.and_eq_true, decide_eq_true_eq, decide_eq_true_eq]
          omega
      · rfl
    · rename_i beyond
      rcases lowerCode_cases c beyond with same | ⟨plain, settled⟩
      · rw [same, Char.ofNat_toNat, same]
      · simp only [CharTable.isPlainCode, Bool.and_eq_true, decide_eq_true_eq] at plain
        rw [toNat_ofNat plain.1.1.1.1.1, settled]

/-- A character becomes the same letter. -/
theorem foldCode_eq (becomes : Becomes c d) : foldCode d.toNat = foldCode c.toNat := by
  rcases becomes.cases with ⟨rfl, rfl | rfl⟩ | ⟨other, -⟩
  · decide +kernel
  · decide +kernel
  · rw [foldCode, foldCode, becomes.lowerCode_eq other]

end Becomes

/-! ## Ranges of capitals -/

/-- No code has a lower-case form among the capitals of the alphabet. -/
theorem lowerCode_apart : lowerCode code < 65 ∨ 90 < lowerCode code := by
  unfold lowerCode
  split
  · split
    · rename_i capital
      rw [Bool.and_eq_true, decide_eq_true_eq, decide_eq_true_eq] at capital
      omega
    · rename_i other
      rw [Bool.and_eq_true, decide_eq_true_eq, decide_eq_true_eq] at other
      omega
  · cases mapped : CharTable.lowerRuns.findSome? (·.map? code) with
    | none =>
        rw [Option.getD_none]
        omega
    | some found =>
        obtain ⟨run, member, here⟩ := Array.exists_of_findSome?_eq_some mapped
        have above := CharTable.above_of_map? member here
        rw [Option.getD_some]
        omega

/-- No lower-case form shares its capital with a capital of the alphabet. -/
theorem apart_of_mem_sharedClass {lower : Nat} (member : lower ∈ sharedClass (lowerCode code)) :
    lower < 65 ∨ 90 < lower := by
  unfold sharedClass at member
  cases found : CharTable.sharedUpper.find? (·.contains (lowerCode code)) with
  | none =>
      rw [found, Option.getD_none, List.mem_singleton] at member
      rw [member]
      exact lowerCode_apart
  | some codes =>
      rw [found, Option.getD_some] at member
      have above := CharTable.sharedUpper_above codes (List.mem_of_find?_eq_some found) lower member
      omega

/-- The codes of a letter that are those of a Latin letter: small ones, and their capitals in the
ASCII range. -/
theorem mem_caseMates_iff {mate : Nat} (small : mate < 192) :
    mate ∈ caseMates code ↔ ∃ lower ∈ sharedClass (lowerCode code),
      mate = lower ∨ 97 ≤ lower ∧ lower ≤ 122 ∧ mate = lower - 32 := by
  rw [caseMates, List.mem_flatMap]
  refine exists_congr fun lower => and_congr_right fun _ => ?_
  have absent : mate ∉ (CharTable.lowerRuns.filterMap (·.preimage? lower)).toList := by
    rw [Array.mem_toList_iff, Array.mem_filterMap]
    rintro ⟨run, member, source⟩
    have beyond := CharTable.beyond_of_preimage? member source
    omega
  rw [List.cons_append, List.mem_cons, List.mem_append, or_iff_left absent]
  refine or_congr_right ?_
  by_cases ascii : 97 ≤ lower ∧ lower ≤ 122
  · rw [if_pos (by simpa using ascii), List.mem_singleton, and_iff_right ascii.1,
      and_iff_right ascii.2]
  · rw [if_neg (by simpa using ascii)]
    exact iff_of_false List.not_mem_nil fun both => ascii ⟨both.1, both.2.1⟩

/-- Among the codes of one letter are a capital of the ASCII range and its small form, or neither. -/
theorem mem_caseMates_capital (low : 65 ≤ code) (high : code ≤ 90) {other : Nat} :
    code + 32 ∈ caseMates other ↔ code ∈ caseMates other := by
  rw [mem_caseMates_iff (by omega), mem_caseMates_iff (by omega)]
  refine exists_congr fun lower => and_congr_right fun member => ?_
  have apart := apart_of_mem_sharedClass member
  omega

/-- A range between two capitals of the ASCII range takes in the same characters as the one between
their small forms. -/
theorem takes_capitals (least : 65 ≤ low) (most : high ≤ 90) :
    (CharItem.range (low + 32) (high + 32)).takes .folded c =
      (CharItem.range low high).takes .folded c := by
  simp only [CharItem.takes]
  rw [Bool.eq_iff_iff, List.any_eq_true, List.any_eq_true]
  simp only [Bool.and_eq_true, decide_eq_true_eq]
  constructor
  · rintro ⟨mate, member, above, below⟩
    obtain ⟨capital, rfl⟩ : ∃ capital, mate = capital + 32 := ⟨mate - 32, by omega⟩
    exact ⟨capital, (mem_caseMates_capital (by omega) (by omega)).mp member, by omega, by omega⟩
  · rintro ⟨mate, member, above, below⟩
    exact ⟨mate + 32, (mem_caseMates_capital (by omega) (by omega)).mpr member, by omega, by omega⟩

end CharCase

namespace Text

open CharCase

/-- Without a dotted capital I, each character of a text becomes one character. -/
theorem forall₂_becomes {passed text : Text} (undotted : 'İ' ∉ text) :
    List.Forall₂ Becomes text (lowerFrom passed text) := by
  induction text generalizing passed with
  | nil => exact .nil
  | cons c rest ih =>
      rw [List.mem_cons, not_or] at undotted
      obtain ⟨form, -, forms, same⟩ := lowerFrom_cons passed c rest
      have single : form.length = 1 := by
        have whole := congrArg List.length same
        rw [length_lowerFrom, List.length_append, length_lowerFrom, List.length_cons,
          List.count_cons_of_ne (Ne.symm undotted.1)] at whole
        omega
      obtain ⟨d, rfl⟩ := List.length_eq_one_iff.mp single
      rw [same]
      exact .cons ⟨Ne.symm undotted.1, forms d (List.mem_singleton_self d)⟩ (ih undotted.2)

end Text

end TableSearch
