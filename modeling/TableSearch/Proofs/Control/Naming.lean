import TableSearch.Proofs.Control.ColumnName

/-! # What a text names

A column is named by the beginning of its name, in any case and without the blanks.  The comparison
passes over the blanks of the name one by one;
`TableSearch.ColumnName.startsWith_iff_isPrefix_filter` says what it finds without following it: a
text without blanks names a column exactly if it is, letter by letter, a prefix of the name with all
blanks taken out.

A blank is the same letter as no other character, so a text without blanks has to pass over every
blank that it meets, and whether it does so before the comparison or in it makes no difference.
-/

namespace TableSearch

namespace ColumnName

open CharCase

variable {c d : Char} {typed name : Text}

/-- Whether a text is a prefix of another one, letter by letter: each letter is equal to the one in
its place or has the same lower-case form. -/
def IsPrefix (typed name : Text) : Prop :=
  ∃ part, part <+: name ∧ List.Forall₂ (fun c d => c = d ∨ lowerForm c = lowerForm d) typed part

theorem sameLetter_iff : sameLetter c d = true ↔ c = d ∨ lowerForm c = lowerForm d := by
  rw [sameLetter, Bool.or_eq_true, beq_iff_eq, beq_iff_eq]

/-! ## Blanks -/

theorem solid_of_any (solid : typed.any CharClass.isBlank = false) :
    ∀ c ∈ typed, CharClass.isBlank c = false :=
  fun c member => (Bool.not_eq_true _).mp (List.any_eq_false.mp solid c member)

/-- A blank is the same letter as no other character. -/
theorem sameLetter_of_blank (solid : CharClass.isBlank c = false)
    (blank : CharClass.isBlank d = true) : sameLetter c d = false := by
  rw [← Bool.not_eq_true, sameLetter_iff, CharClass.lowerForm_of_isBlank blank]
  rintro (rfl | form)
  · rw [blank] at solid
    cases solid
  · by_cases final : c = 'Σ'
    · rw [final] at form
      rw [← List.singleton_inj.mp form] at blank
      exact absurd blank (by decide +kernel)
    · have member : d ∈ lowerForms c := by
        rw [lowerForms, if_neg final, form]
        exact List.mem_singleton_self d
      rcases (of_mem_lowerForms member).2 with rfl | ⟨-, solid'⟩
      · rw [blank] at solid
        cases solid
      · rw [blank] at solid'
        cases solid'

/-- A text without blanks passes over a blank of the name. -/
theorem startsWith_blank (solid : ∀ c ∈ typed, CharClass.isBlank c = false)
    (blank : CharClass.isBlank d = true) :
    startsWith typed (d :: name) = startsWith typed name := by
  cases typed with
  | nil => simp only [startsWith]
  | cons c typed =>
      have first := solid c List.mem_cons_self
      rw [startsWith, sameLetter_of_blank first blank, blank, first]
      rfl

/-- Blanks may be taken out of a name before a text without blanks is compared with it. -/
theorem startsWith_filter (solid : ∀ c ∈ typed, CharClass.isBlank c = false) :
    startsWith typed (name.filter (!CharClass.isBlank ·)) = startsWith typed name := by
  induction name generalizing typed with
  | nil => rfl
  | cons d name ih =>
      cases blank : CharClass.isBlank d with
      | true =>
          rw [List.filter_cons_of_neg (by rw [blank]; decide), startsWith_blank solid blank,
            ih solid]
      | false =>
          rw [List.filter_cons_of_pos (by rw [blank]; decide)]
          cases typed with
          | nil => simp only [startsWith]
          | cons c typed =>
              rw [List.forall_mem_cons] at solid
              rw [startsWith, startsWith, blank, ih solid.2]
              rfl

/-! ## Names without blanks -/

theorem isPrefix_nil : IsPrefix [] name :=
  ⟨[], List.nil_prefix, .nil⟩

/-- A text is a prefix of a name if their first letters are the same and what follows is a prefix of
what follows. -/
theorem isPrefix_cons_cons :
    IsPrefix (c :: typed) (d :: name) ↔ sameLetter c d = true ∧ IsPrefix typed name := by
  rw [sameLetter_iff]
  constructor
  · rintro ⟨part, within, same⟩
    obtain ⟨e, part, first, later, rfl⟩ := List.forall₂_cons_left_iff.mp same
    obtain ⟨rfl, within'⟩ := List.cons_prefix_cons.mp within
    exact ⟨first, part, within', later⟩
  · rintro ⟨first, part, within, later⟩
    exact ⟨d :: part, List.cons_prefix_cons.mpr ⟨rfl, within⟩, .cons first later⟩

/-- Where the name has no blanks, the comparison goes letter by letter. -/
theorem startsWith_iff_isPrefix (solid : ∀ d ∈ name, CharClass.isBlank d = false) :
    startsWith typed name = true ↔ IsPrefix typed name := by
  induction typed generalizing name with
  | nil => exact iff_of_true (by simp only [startsWith]) isPrefix_nil
  | cons c typed ih =>
      cases name with
      | nil =>
          refine iff_of_false Bool.false_ne_true ?_
          rintro ⟨part, within, same⟩
          rw [List.prefix_nil.mp within] at same
          cases same
      | cons d name =>
          rw [List.forall_mem_cons] at solid
          rw [startsWith_cons_cons, isPrefix_cons_cons, solid.1, ih solid.2]
          simp only [Bool.false_eq_true, false_and, and_false, or_false]

/-! ## All names -/

/-- **Naming.** A text without blanks names a column exactly if it is, letter by letter, a prefix of
the name without its blanks. -/
theorem startsWith_iff_isPrefix_filter (solid : ∀ c ∈ typed, CharClass.isBlank c = false) :
    startsWith typed name = true ↔ IsPrefix typed (name.filter fun d => !CharClass.isBlank d) := by
  rw [← startsWith_filter solid]
  refine startsWith_iff_isPrefix fun d member => ?_
  simpa only [Bool.not_eq_true'] using (List.mem_filter.mp member).2

/-- Blanks before, between and behind the letters of a name are passed over, and its other letters
are not. -/
theorem startsWith_iff_isPrefix_filter_of_blanks :
    let name := "\t First  Name ".toList
    (∀ c ∈ "firstNAME".toList, CharClass.isBlank c = false) ∧
      startsWith "firstNAME".toList name = true ∧
      IsPrefix "firstNAME".toList (name.filter fun d => !CharClass.isBlank d) ∧
      ¬IsPrefix "name".toList (name.filter fun d => !CharClass.isBlank d) := by
  intro name
  have solid : ∀ c ∈ "firstNAME".toList, CharClass.isBlank c = false := solid_of_any (by decide)
  have starts : startsWith "firstNAME".toList name = true := by decide +kernel
  refine ⟨solid, starts, (startsWith_iff_isPrefix_filter solid).mp starts, ?_⟩
  rw [← startsWith_iff_isPrefix_filter (solid_of_any (by decide))]
  decide +kernel

end ColumnName

end TableSearch
