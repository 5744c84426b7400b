import TableSearch.Duration.Basic
import TableSearch.Proofs.Answers
import TableSearch.Proofs.Text.Case

/-! # Units spelled with stray letters

Units are found by letters that are compared without their case, and looked up by their lower-case
form. Three letters are a case of an ASCII letter that lower-casing does not turn into that letter:
the long s, the dotless i and the dotted capital I (`TableSearch.CharCase.strayLetters`). Every other
letter becomes the ASCII letter it stands for (`TableSearch.CharCase.lowerForm_of_foldCode_eq`).

So the scan of a duration answers unless the text begins with a run of parts of which one has a
stray letter in its unit (`TableSearch.Duration.scan?_answers_iff`).
-/

namespace TableSearch

namespace CharTable

/-- The small letters that share a capital with an ASCII letter are no lower-case form. -/
theorem lowerRuns_shared_checked :
    (lowerRuns.toList.all fun run => run.image.all fun code => code != 305 && code != 383) =
      true := by
  decide +kernel

/-- Of the letters that share a capital only two groups have an ASCII letter in them: the dotless i
with the i, and the long s with the s. -/
theorem sharedUpper_ascii_checked : ∀ shared ∈ sharedUpper,
    shared = [105, 305] ∨ shared = [115, 383] ∨ 122 < shared.headD 0 := by
  decide

end CharTable

namespace CharCase

variable {c w : Char} {code letter : Nat}

/-- Letters that are a case of an ASCII letter without becoming it in lower case. -/
def strayLetters : List Char :=
  ['ſ', 'ı', 'İ']

/-- Whether a code is that of a lower-case ASCII letter. -/
def IsSmall (code : Nat) : Prop :=
  97 ≤ code ∧ code ≤ 122

instance : DecidablePred IsSmall := fun code =>
  inferInstanceAs (Decidable (97 ≤ code ∧ code ≤ 122))

/-- The lower-case form of a character is that of its code. -/
theorem lowerChar_eq_ofNat (c : Char) : lowerChar c = Char.ofNat (lowerCode c.toNat) := by
  unfold lowerChar lowerCode
  by_cases ascii : c.toNat < 128
  · have capital : (decide ('A' ≤ c) && decide (c ≤ 'Z')) =
        (decide (65 ≤ c.toNat) && decide (c.toNat ≤ 90)) := rfl
    rw [if_pos ascii, if_pos ascii, capital]
    split
    · rfl
    · exact (Char.ofNat_toNat c).symm
  · rw [if_neg ascii, if_neg ascii]

/-- A code shares its capital with no other code, or with those of a group of the table. -/
theorem sharedClass_cases (code : Nat) :
    sharedClass code = [code] ∨
      sharedClass code ∈ CharTable.sharedUpper ∧ code ∈ sharedClass code := by
  unfold sharedClass
  cases found : CharTable.sharedUpper.find? (·.contains code) with
  | none => exact .inl rfl
  | some shared =>
      have holds := List.find?_some found
      exact .inr ⟨List.mem_of_find?_eq_some found, List.contains_iff_mem.mp holds⟩

/-- A code of the same letter as a lower-case ASCII letter has this letter as its lower-case code,
or one of the two small letters that share a capital with an ASCII letter. -/
theorem lowerCode_of_foldCode_eq (small : IsSmall letter) (same : foldCode code = letter) :
    lowerCode code = letter ∨ lowerCode code = 305 ∨ lowerCode code = 383 := by
  unfold foldCode at same
  rcases sharedClass_cases (lowerCode code) with alone | ⟨known, member⟩
  · rw [alone] at same
    exact .inl same
  · rcases CharTable.sharedUpper_ascii_checked _ known with dotless | long | beyond
    · rw [dotless] at same member
      simp only [List.mem_cons, List.not_mem_nil, or_false] at same member
      omega
    · rw [long] at same member
      simp only [List.mem_cons, List.not_mem_nil, or_false] at same member
      omega
    · cases shared : sharedClass (lowerCode code) with
      | nil =>
          rw [shared] at member
          cases member
      | cons first rest =>
          have bound := small.2
          rw [shared] at same beyond
          rw [List.headD_cons] at beyond
          simp only at same
          omega

/-- Small ASCII letters are compared as themselves. -/
theorem foldCode_of_isSmall (small : IsSmall letter) : foldCode letter = letter := by
  have checked : ∀ place < 26, foldCode (97 + place) = 97 + place := by decide
  have here := checked (letter - 97) (by have := small.2; omega)
  rwa [Nat.add_sub_cancel' small.1] at here

/-- The lower-case code of a character is one of the small letters that share a capital with an
ASCII letter only if the character is that letter. -/
theorem mem_strayLetters_of_lowerCode (shared : lowerCode c.toNat = 305 ∨ lowerCode c.toNat = 383) :
    c ∈ strayLetters := by
  have itself : c.toNat = lowerCode c.toNat := by
    by_cases ascii : c.toNat < 128
    · exfalso
      revert shared
      rw [lowerCode, if_pos ascii]
      split <;> omega
    · cases mapped : CharTable.lowerRuns.findSome? (·.map? c.toNat) with
      | none => rw [lowerCode, if_neg ascii, mapped, Option.getD_none]
      | some found =>
          exfalso
          have same : lowerCode c.toNat = found := by
            rw [lowerCode, if_neg ascii, mapped, Option.getD_some]
          obtain ⟨run, member, here⟩ := Array.exists_of_findSome?_eq_some mapped
          have checked := List.all_eq_true.mp CharTable.lowerRuns_shared_checked run
            (Array.mem_toList_iff.mpr member)
          have apart := List.all_eq_true.mp checked found (CharTable.CaseRun.mem_image_of_map? here)
          simp only [Bool.and_eq_true, bne_iff_ne] at apart
          omega
  have back := Char.ofNat_toNat c
  rcases shared with dotless | long
  · rw [itself, dotless] at back
    rw [← back]
    decide
  · rw [itself, long] at back
    rw [← back]
    decide

/-- **Letters.** A character that is the same letter as a lower-case ASCII letter becomes that
letter in lower case, unless it is a stray letter. -/
theorem lowerForm_of_foldCode_eq (small : IsSmall w.toNat)
    (same : foldCode c.toNat = foldCode w.toNat) (regular : c ∉ strayLetters) :
    c ≠ 'Σ' ∧ lowerForm c = [w] := by
  rw [foldCode_of_isSmall small] at same
  have lowered : lowerCode c.toNat = w.toNat := by
    rcases lowerCode_of_foldCode_eq small same with lowered | shared
    · exact lowered
    · exact (regular (mem_strayLetters_of_lowerCode shared)).elim
  constructor
  · rintro rfl
    have sigma : lowerCode 'Σ'.toNat = 963 := by decide +kernel
    rw [sigma] at lowered
    have bound := small.2
    omega
  · have undotted : c ≠ 'İ' := by
      rintro rfl
      exact regular (by decide)
    rw [lowerForm, if_neg undotted, lowerChar_eq_ofNat, lowered, Char.ofNat_toNat]

end CharCase

namespace Text

open CharCase

variable {passed text : Text} {c d : Char}

/-- What a character other than the sigma becomes is in the lower-case form of every text that holds
it. -/
theorem mem_lowerFrom_of_mem (member : c ∈ text) (plain : c ≠ 'Σ') (becomes : d ∈ lowerForm c) :
    d ∈ lowerFrom passed text := by
  induction text generalizing passed with
  | nil => cases member
  | cons first rest ih =>
      rw [lowerFrom]
      rcases List.mem_cons.mp member with rfl | later
      · rw [if_neg plain]
        exact List.mem_append_left _ becomes
      · split
        · exact List.mem_cons_of_mem _ (ih later)
        · exact List.mem_append_right _ (ih later)

/-- A text with a stray letter does not become one of lower-case ASCII letters. -/
theorem exists_not_isSmall_of_stray (member : c ∈ text) (stray : c ∈ strayLetters) :
    ∃ d ∈ lower text, ¬IsSmall d.toNat := by
  have becomes : c ≠ 'Σ' ∧ ∃ d ∈ lowerForm c, ¬IsSmall d.toNat := by
    have checked : (strayLetters.all fun c => c ≠ 'Σ' &&
        (lowerForm c).any fun d => ¬IsSmall d.toNat) = true := by
      decide +kernel
    have here := List.all_eq_true.mp checked c stray
    simpa only [Bool.and_eq_true, List.any_eq_true, decide_eq_true_eq] using here
  obtain ⟨plain, d, inside, large⟩ := becomes
  exact ⟨d, mem_lowerFrom_of_mem member plain inside, large⟩

end Text

namespace Duration

open CharCase

variable {text word rest : Text} {part : Part}

/-! ## The unit of a part -/

theorem units_checked :
    (units.all fun unit => (units.lookup unit.1).isSome && unit.1.all fun c => IsSmall c.toNat) =
      true := by
  decide +kernel

/-- Units are spelled in small letters. -/
theorem units_isSmall : ∀ unit ∈ units, ∀ c ∈ unit.1, IsSmall c.toNat := by
  intro unit member c inside
  have checked := List.all_eq_true.mp units_checked unit member
  rw [Bool.and_eq_true] at checked
  exact of_decide_eq_true (List.all_eq_true.mp checked.2 c inside)

theorem units_known : ∀ unit ∈ units, (units.lookup unit.1).isSome = true := by
  intro unit member
  have checked := List.all_eq_true.mp units_checked unit member
  rw [Bool.and_eq_true] at checked
  exact checked.1

/-- A word that a text begins with in some case is the lower-case form of the text so far, unless
there is a stray letter. -/
theorem lower_take_of_beginsWith (begins : beginsWith word text = true)
    (small : ∀ w ∈ word, IsSmall w.toNat) (regular : ∀ c ∈ text.take word.length, c ∉ strayLetters) :
    Text.lower (text.take word.length) = word := by
  have onward : ∀ passed, Text.lowerFrom passed (text.take word.length) = word := by
    induction word generalizing text with
    | nil =>
        intro passed
        rw [List.length_nil, List.take_zero, Text.lowerFrom]
    | cons w word ih =>
        intro passed
        cases text with
        | nil => cases begins
        | cons c text =>
            rw [beginsWith, Bool.and_eq_true, beq_iff_eq] at begins
            rw [List.forall_mem_cons] at small
            rw [List.length_cons, List.take_succ_cons, List.forall_mem_cons] at regular
            obtain ⟨plain, becomes⟩ := lowerForm_of_foldCode_eq small.1 begins.1 regular.1
            rw [List.length_cons, List.take_succ_cons, Text.lowerFrom, if_neg plain, becomes,
              ih begins.2 small.2 regular.2, List.singleton_append]
  exact onward []

/-- Whether a part has a stray letter in its unit. -/
def Part.IsStray (part : Part) : Prop :=
  ∃ c ∈ part.unit, c ∈ strayLetters

instance : DecidablePred Part.IsStray := fun part =>
  decidable_of_iff (part.unit.any strayLetters.contains = true) (by simp [Part.IsStray])

/-- The unit of a part is a spelling of some unit in some case. -/
theorem exists_unit_of_scanPart? (found : scanPart? text = some (part, rest)) :
    ∃ unit ∈ units, ∃ after : Text, beginsWith unit.1 after = true ∧
      part.unit = after.take unit.1.length := by
  unfold scanPart? at found
  simp only at found
  rw [Option.ite_none_left_eq_some] at found
  obtain ⟨length, spelled, same⟩ := Option.map_eq_some_iff.mp found.2
  cases same
  obtain ⟨spelling, known, here⟩ := List.exists_of_findSome?_eq_some spelled
  rw [Option.ite_none_right_eq_some, Bool.and_eq_true] at here
  obtain ⟨⟨begins, -⟩, same⟩ := here
  cases same
  obtain ⟨unit, member, rfl⟩ := List.mem_map.mp known
  exact ⟨unit, member, _, begins, rfl⟩

/-- The length of a part is known exactly if its unit has no stray letter. -/
theorem seconds_answers_iff (found : scanPart? text = some (part, rest)) :
    (∃ seconds, part.seconds = .ok seconds) ↔ ¬part.IsStray := by
  obtain ⟨unit, member, after, begins, same⟩ := exists_unit_of_scanPart? found
  constructor
  · rintro ⟨seconds, answer⟩ ⟨c, inside, stray⟩
    obtain ⟨d, lowered, large⟩ := Text.exists_not_isSmall_of_stray inside stray
    unfold Part.seconds unitSeconds? at answer
    cases known : units.lookup part.unit.lower with
    | none =>
        rw [known] at answer
        cases answer
    | some thousandths =>
        obtain ⟨before, later, split, -⟩ := List.lookup_eq_some_iff.mp known
        have listed : (part.unit.lower, thousandths) ∈ units := by
          rw [split]
          exact List.mem_append_right _ List.mem_cons_self
        exact large (units_isSmall _ listed d lowered)
  · intro regular
    have lowered : part.unit.lower = unit.1 := by
      rw [same]
      refine lower_take_of_beginsWith begins (units_isSmall unit member) ?_
      rw [← same]
      intro c inside stray
      exact regular ⟨c, inside, stray⟩
    have known : (units.lookup unit.1).isSome = true := units_known unit member
    obtain ⟨thousandths, looked⟩ := Option.isSome_iff_exists.mp known
    refine ⟨part.number.mul (Double.ofRatio false thousandths 1000), ?_⟩
    rw [Part.seconds, unitSeconds?, lowered, looked]
    rfl

/-! ## The parts of a duration -/

/-- Every part of a scan was found somewhere. -/
theorem exists_scanPart?_of_mem {rounds : Nat} (member : part ∈ (scanParts text rounds).1) :
    ∃ before after, scanPart? before = some (part, after) := by
  induction rounds generalizing text with
  | zero =>
      rw [scanParts] at member
      cases member
  | succ rounds ih =>
      rw [scanParts] at member
      cases scanned : scanPart? text with
      | none =>
          rw [scanned] at member
          cases member
      | some found =>
          obtain ⟨first, rest⟩ := found
          rw [scanned] at member
          have either : part = first ∨ part ∈ (scanParts (rest.dropWhile isSeparator) rounds).1 := by
            simp only at member
            split at member
            · exact .inl (List.mem_singleton.mp member)
            · exact List.mem_cons.mp member
          rcases either with rfl | later
          · exact ⟨text, rest, scanned⟩
          · exact ih later

/-- Parts are added up exactly if each of them has a length. -/
theorem total_answers_iff {parts : List Part} {sum : Double} :
    (∃ seconds, total sum parts = .ok seconds) ↔
      ∀ part ∈ parts, ∃ seconds, part.seconds = .ok seconds := by
  induction parts generalizing sum with
  | nil => simp [total]
  | cons part rest ih =>
      rw [total, List.forall_mem_cons]
      cases part.seconds with
      | error problem => simp
      | ok seconds => simp [ih]

/-- Whether a text begins with a run of parts of which one has a stray letter in its unit. -/
def IsMisspelled (text : Text) : Prop :=
  ∃ part ∈ (scanParts text (text.length + 1)).1, part.IsStray

instance : DecidablePred IsMisspelled := fun text =>
  decidable_of_iff ((scanParts text (text.length + 1)).1.any (·.IsStray) = true)
    (by simp [IsMisspelled])

/-- **Durations.** The scan of a duration answers unless the text is misspelled. -/
theorem scan?_answers_iff : (∃ found, scan? text = .ok found) ↔ ¬IsMisspelled text := by
  have parts : (∃ found, scan? text = .ok found) ↔
      ∀ part ∈ (scanParts text (text.length + 1)).1, ∃ seconds, part.seconds = .ok seconds := by
    unfold scan?
    split
    · rename_i none
      simp [none]
    · rename_i scanned
      rw [scanned, ← total_answers_iff]
      exact exists_map_eq_ok
  rw [parts, IsMisspelled, not_exists]
  refine forall_congr' fun part => ?_
  rw [not_and]
  refine forall_congr' fun member => ?_
  obtain ⟨before, after, scanned⟩ := exists_scanPart?_of_mem member
  exact seconds_answers_iff scanned

/-- A text is read as one duration, or as none, exactly if it is not misspelled. -/
theorem readWhole?_answers_iff : (∃ found, readWhole? text = .ok found) ↔ ¬IsMisspelled text := by
  rw [← scan?_answers_iff]
  exact exists_map_eq_ok

end Duration

end TableSearch
