import Mathlib.Data.List.Infix
import Mathlib.Tactic.MkIffOfInductiveProp
import TableSearch.Proofs.Text.Case

/-! # Folding a part of a text

A text is folded as a whole.  A capital sigma in it looks at the letters around it, and a dotted
capital I anywhere changes how all other characters are folded, so that a part of a text need not
be folded as it is by itself.

`TableSearch.Text.foldsAlike_iff_stands`: the folding of a part stands at its place in the folding of the
whole exactly if the part has no dotted capital I and each of its capital sigmas ends a word by
itself if and only if it is written in the final form in the whole.
-/

namespace TableSearch

namespace Text

open CharCase

variable {c d : Char} {passed before inside after rest text : Text}

/-! ## One character at a time -/

/-- Whether a capital sigma between two texts ends a word. -/
def endsWord (before after : Text) : Bool :=
  meetsCased before.reverse && !meetsCased after

/-- The lower-case form of a character between two texts. -/
def lowerAt (before : Text) (c : Char) (after : Text) : Text :=
  if c = 'Σ' then [if endsWord before after then 'ς' else 'σ'] else lowerForm c

/-- A text is put in lower case character by character, each between what is in front of it and what
is behind. -/
theorem lowerFrom_eq :
    lowerFrom passed (c :: rest) = lowerAt passed.reverse c rest ++ lowerFrom (c :: passed) rest := by
  rw [lowerFrom, lowerAt]
  by_cases final : c = 'Σ'
  · rw [if_pos final, if_pos final, endsWord, List.reverse_reverse]
    rfl
  · rw [if_neg final, if_neg final]

/-- Only a dotted capital I becomes two characters. -/
theorem length_lowerAt : (lowerAt before c after).length = if c = 'İ' then 2 else 1 := by
  unfold lowerAt lowerForm
  by_cases final : c = 'Σ'
  · rw [if_pos final, final]
    rfl
  · rw [if_neg final]
    split
    · rfl
    · rfl

/-- Lower-casing adds one character for each dotted capital I. -/
theorem length_lowerFrom : (lowerFrom passed text).length = text.length + text.count 'İ' := by
  induction text generalizing passed with
  | nil => rfl
  | cons c rest ih =>
      rw [lowerFrom_eq, List.length_append, length_lowerAt, ih, List.length_cons, List.count_cons]
      by_cases dotted : c = 'İ'
      · simp only [dotted, ↓reduceIte, beq_self_eq_true]
        omega
      · simp only [dotted, ↓reduceIte, beq_iff_eq]
        omega

/-- Lower-casing keeps the length of a text exactly if the text has no dotted capital I. -/
theorem length_lower_eq_iff : (lower text).length = text.length ↔ 'İ' ∉ text := by
  rw [lower, length_lowerFrom, ← List.count_eq_zero]
  omega

theorem fold_of_undotted (undotted : 'İ' ∉ text) : text.fold = text.lower.map ([·]) := by
  rw [fold, if_pos (length_lower_eq_iff.mpr undotted)]

theorem fold_of_dotted (dotted : 'İ' ∈ text) : text.fold = text.map lowerForm := by
  rw [fold, if_neg (mt length_lower_eq_iff.mp (not_not_intro dotted))]

/-- A text in lower case is folded into its own characters. -/
theorem fold_lower : text.lower.fold = text.lower.map ([·]) := by
  rw [fold, lower_lower, if_pos rfl]

/-! ## Parts of a text -/

/-- What holds wherever a character stands in a text holds at its start, if it begins with that
character, and wherever the character stands in the rest. -/
theorem forall_eq_append_cons {P : Text → Text → Prop} :
    (∀ before after, c :: rest = before ++ d :: after → P before after) ↔
      (c = d → P [] rest) ∧ ∀ before after, rest = before ++ d :: after → P (c :: before) after := by
  constructor
  · intro holds
    refine ⟨?_, ?_⟩
    · rintro rfl
      exact holds [] rest rfl
    · rintro before after rfl
      exact holds (c :: before) after rfl
  · rintro ⟨first, later⟩ before after same
    cases before with
    | nil =>
        obtain ⟨rfl, rfl⟩ := List.cons.inj same
        exact first rfl
    | cons b before =>
        obtain ⟨rfl, rfl⟩ := List.cons.inj same
        exact later before after rfl

/-- Without a dotted capital I in front, a text is lower-cased as what stands behind its front. -/
theorem drop_lowerFrom (undotted : 'İ' ∉ before) :
    (lowerFrom passed (before ++ text)).drop before.length =
      lowerFrom (before.reverse ++ passed) text := by
  induction before generalizing passed with
  | nil => rfl
  | cons c before ih =>
      rw [List.mem_cons, not_or] at undotted
      have single : (lowerAt passed.reverse c (before ++ text)).length = 1 := by
        rw [length_lowerAt, if_neg fun same => undotted.1 same.symm]
      rw [List.cons_append, lowerFrom_eq, List.length_cons, Nat.add_comm, ← single,
        List.drop_length_add_append, ih undotted.2, List.reverse_cons, List.append_assoc,
        List.singleton_append]

/-- A text is lower-cased alike in two places exactly if its sigmas end words alike. -/
theorem lowerFrom_prefix_iff {other : Text} :
    lowerFrom passed text <+: lowerFrom other (text ++ after) ↔
      ∀ front back, text = front ++ 'Σ' :: back →
        endsWord (passed.reverse ++ front) back =
          endsWord (other.reverse ++ front) (back ++ after) := by
  induction text generalizing passed other with
  | nil =>
      refine iff_of_true (List.nil_prefix) ?_
      intro front back absent
      cases front <;> cases absent
  | cons c rest ih =>
      rw [List.cons_append, lowerFrom_eq, lowerFrom_eq, forall_eq_append_cons]
      have later : (∀ front back, rest = front ++ 'Σ' :: back →
          endsWord ((c :: passed).reverse ++ front) back =
            endsWord ((c :: other).reverse ++ front) (back ++ after)) ↔
          ∀ front back, rest = front ++ 'Σ' :: back →
            endsWord (passed.reverse ++ c :: front) back =
              endsWord (other.reverse ++ c :: front) (back ++ after) := by
        simp only [List.reverse_cons, List.append_assoc, List.singleton_append]
      rw [← later, ← ih, List.append_nil, List.append_nil]
      by_cases final : c = 'Σ'
      · rw [lowerAt, lowerAt, if_pos final, if_pos final, List.singleton_append,
          List.singleton_append, List.cons_prefix_cons]
        refine and_congr_left fun _ => ?_
        simp only [final, true_imp_iff]
        cases endsWord passed.reverse rest <;> cases endsWord other.reverse (rest ++ after) <;>
          decide
      · rw [lowerAt, lowerAt, if_neg final, if_neg final, List.prefix_append_right_inj]
        exact (and_iff_right fun same => (final same).elim).symm

/-- A text is lower-cased character by character exactly if it has no dotted capital I and none of
its sigmas ends a word. -/
theorem lowerFrom_prefix_map_iff :
    (lowerFrom passed text).map ([·]) <+: (text ++ after).map lowerForm ↔
      'İ' ∉ text ∧ ∀ front back, text = front ++ 'Σ' :: back →
        endsWord (passed.reverse ++ front) back = false := by
  induction text generalizing passed with
  | nil =>
      refine iff_of_true (List.nil_prefix) ⟨List.not_mem_nil, ?_⟩
      intro front back absent
      cases front <;> cases absent
  | cons c rest ih =>
      rw [List.cons_append, List.map_cons, lowerFrom_eq, List.map_append, forall_eq_append_cons,
        List.mem_cons, not_or, List.append_nil]
      have later : (∀ front back, rest = front ++ 'Σ' :: back →
          endsWord ((c :: passed).reverse ++ front) back = false) ↔
          ∀ front back, rest = front ++ 'Σ' :: back →
            endsWord (passed.reverse ++ c :: front) back = false := by
        simp only [List.reverse_cons, List.append_assoc, List.singleton_append]
      rw [← later]
      by_cases dotted : c = 'İ'
      · refine iff_of_false ?_ fun both => both.1.1 dotted.symm
        have apart : lowerAt passed.reverse c rest = ['i', '\u0307'] := by
          rw [lowerAt, dotted]
          rfl
        rw [apart, dotted, List.map_cons, List.cons_append, List.cons_prefix_cons]
        intro both
        exact absurd both.1 (by decide)
      · rw [and_iff_right fun same => dotted same.symm]
        by_cases final : c = 'Σ'
        · have plain : lowerForm 'Σ' = ['σ'] := by decide +kernel
          rw [lowerAt, if_pos final, final, plain, List.map_singleton, List.singleton_append,
            List.cons_prefix_cons, ih, and_left_comm, forall_prop_of_true rfl]
          refine and_congr_right fun _ => and_congr_left fun _ => ?_
          cases endsWord passed.reverse rest <;> decide
        · have single : lowerForm c = [lowerChar c] := if_neg dotted
          rw [lowerAt, if_neg final, single, List.map_singleton, List.singleton_append,
            List.cons_prefix_cons, ih, and_iff_right rfl, and_iff_right fun same => (final same).elim]

/-! ## Folding -/

/-- Whether a part of a text is folded in the text as it is by itself: it has no dotted capital I,
and each of its capital sigmas ends a word if and only if it takes the final form in the text. -/
@[mk_iff]
structure FoldsAlike (before inside after : Text) : Prop where
  undotted : 'İ' ∉ inside
  finals : ∀ front back, inside = front ++ 'Σ' :: back →
    (endsWord front back = true ↔
      'İ' ∉ before ++ after ∧ endsWord (before ++ front) (back ++ after) = true)

/-- **Folding.** A part of a text folds alike in it exactly if what the part is folded into in lower
case stands at the place of the part in the folded text. -/
theorem foldsAlike_iff_stands :
    FoldsAlike before inside after ↔
      inside.lower.fold <+: (before ++ (inside ++ after)).fold.drop before.length := by
  rw [fold_lower, lower, foldsAlike_iff]
  by_cases dotted : 'İ' ∈ before ++ (inside ++ after)
  · rw [fold_of_dotted dotted, ← List.map_drop, List.drop_left, lowerFrom_prefix_map_iff]
    refine and_congr_right fun undotted => forall₃_congr fun front back _ => ?_
    have outside : 'İ' ∈ before ++ after := by
      rw [List.mem_append, List.mem_append] at dotted
      exact List.mem_append.mpr (dotted.imp_right fun later => later.resolve_left undotted)
    have never : ¬('İ' ∉ before ++ after ∧ endsWord (before ++ front) (back ++ after) = true) :=
      fun both => both.1 outside
    rw [iff_false_right never, Bool.not_eq_true, List.reverse_nil, List.nil_append]
  · rw [List.mem_append, List.mem_append, not_or, not_or] at dotted
    obtain ⟨left, undotted, right⟩ := dotted
    have whole : 'İ' ∉ before ++ (inside ++ after) := by
      rw [List.mem_append, List.mem_append, not_or, not_or]
      exact ⟨left, undotted, right⟩
    have outside : 'İ' ∉ before ++ after := by
      rw [List.mem_append, not_or]
      exact ⟨left, right⟩
    have singleton : Function.Injective fun c : Char => [c] := fun _ _ => List.singleton_inj.mp
    rw [fold_of_undotted whole, lower, ← List.map_drop, drop_lowerFrom left,
      List.prefix_map_iff_of_injective singleton, lowerFrom_prefix_iff, and_iff_right undotted]
    refine forall₃_congr fun front back _ => ?_
    rw [and_iff_right outside, List.append_nil, List.reverse_reverse]
    exact Bool.eq_iff_iff.symm

instance : Decidable (FoldsAlike before inside after) :=
  decidable_of_iff _ foldsAlike_iff_stands.symm

-- The sigma ends what was typed, but not the word in the cell.
example : ¬FoldsAlike [] ['Α', 'Σ'] ['Α'] := by decide +kernel

end Text

end TableSearch
