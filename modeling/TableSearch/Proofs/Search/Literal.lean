import TableSearch.Proofs.Search.Runs
import TableSearch.Proofs.Span.Packing

/-! # Where a literal is found

A literal is looked for in a folded text.  What is reported are its successive occurrences, each the
first at or after the end of the one before (`TableSearch.Term.Leftmost`), and no other choice of
disjoint occurrences has more of them (`TableSearch.Term.findLiteral_leftmost`).
-/

namespace TableSearch

namespace Term

variable {needle units : List Text} {offset start rounds : Nat} {spans : List Span}

/-! ## One occurrence -/

/-- A list occurs somewhere in another one exactly if it stands at some place of it. -/
theorem occurrence?_isSome_iff :
    (occurrence? needle offset units).isSome = true ↔ ∃ place, needle <+: units.drop place := by
  induction units generalizing offset with
  | nil =>
      simp only [List.drop_nil, List.prefix_nil, exists_const]
      cases needle <;> simp [occurrence?]
  | cons unit units ih =>
      rw [occurrence?]
      by_cases here : needle.isPrefixOf (unit :: units) = true
      · rw [if_pos here]
        exact iff_of_true rfl ⟨0, List.isPrefixOf_iff_prefix.mp here⟩
      · rw [if_neg here, ih]
        constructor
        · rintro ⟨place, stands⟩
          exact ⟨place + 1, stands⟩
        · rintro ⟨_ | place, stands⟩
          · exact (here (List.isPrefixOf_iff_prefix.mpr stands)).elim
          · exact ⟨place, stands⟩

/-- The occurrence that is found is the first one. -/
theorem occurrence?_first (found : occurrence? needle offset units = some start) :
    ∃ skip, start = offset + skip ∧ needle <+: units.drop skip ∧
      ∀ place, needle <+: units.drop place → skip ≤ place := by
  induction units generalizing offset with
  | nil =>
      rw [occurrence?, Option.ite_none_right_eq_some] at found
      refine ⟨0, (Option.some.inj found.2).symm, ?_, fun place _ => Nat.zero_le place⟩
      rw [List.isEmpty_iff.mp found.1]
      exact List.nil_prefix
  | cons unit units ih =>
      rw [occurrence?] at found
      split at found
      · rename_i here
        exact ⟨0, (Option.some.inj found).symm, List.isPrefixOf_iff_prefix.mp here,
          fun place _ => Nat.zero_le place⟩
      · rename_i elsewhere
        obtain ⟨skip, same, stands, first⟩ := ih found
        refine ⟨skip + 1, by omega, stands, ?_⟩
        rintro (_ | place) other
        · exact (elsewhere (List.isPrefixOf_iff_prefix.mpr other)).elim
        · exact Nat.succ_le_succ (first place other)

theorem drop_drop_of_le {place : Nat} (after : offset ≤ place) :
    (units.drop offset).drop (place - offset) = units.drop place := by
  rw [List.drop_drop, Nat.add_sub_cancel' after]

/-- A list is not found from an offset on exactly if it stands nowhere at or after the offset. -/
theorem occurrence?_drop_eq_none_iff :
    occurrence? needle offset (units.drop offset) = none ↔
      ∀ place, offset ≤ place → ¬needle <+: units.drop place := by
  rw [← Option.not_isSome_iff_eq_none, occurrence?_isSome_iff, not_exists]
  constructor
  · intro absent place after
    rw [← drop_drop_of_le after]
    exact absent _
  · intro absent place
    rw [List.drop_drop]
    exact absent _ (Nat.le_add_right _ _)

/-- What is found from an offset on is the first place at or after it where the list stands. -/
theorem occurrence?_drop_first (found : occurrence? needle offset (units.drop offset) = some start) :
    offset ≤ start ∧ needle <+: units.drop start ∧
      ∀ place, offset ≤ place → needle <+: units.drop place → start ≤ place := by
  obtain ⟨skip, rfl, stands, first⟩ := occurrence?_first found
  rw [List.drop_drop] at stands
  refine ⟨Nat.le_add_right _ _, stands, fun place after other => ?_⟩
  rw [← drop_drop_of_le after] at other
  have := first _ other
  omega

/-! ## Successive occurrences -/

/-- The spans of the successive occurrences of a list in another one, each the first at or after the
end of the one before, and the first of them at or after an offset. -/
inductive Leftmost (needle units : List Text) : Nat → List Span → Prop
  | none {offset : Nat} (absent : ∀ place, offset ≤ place → ¬needle <+: units.drop place) :
      Leftmost needle units offset []
  | next {offset start : Nat} {later : List Span} (after : offset ≤ start)
      (stands : needle <+: units.drop start)
      (first : ∀ place, offset ≤ place → needle <+: units.drop place → start ≤ place)
      (rest : Leftmost needle units (start + needle.length) later) :
      Leftmost needle units offset (⟨start, start + needle.length⟩ :: later)

/-- Whether a span is that of an occurrence of a list in another one. -/
def IsOccurrence (needle units : List Text) (s : Span) : Prop :=
  needle <+: units.drop s.start ∧ s.stop = s.start + needle.length

/-- Every round takes the next occurrence, and one round for each unit that is left is enough. -/
theorem leftmost_occurrences (filled : needle ≠ []) (room : units.length < offset + rounds) :
    Leftmost needle units offset (occurrences needle units offset rounds) := by
  induction rounds generalizing offset with
  | zero =>
      refine .none fun place after stands => filled ?_
      rw [List.drop_eq_nil_of_le (by omega)] at stands
      exact List.prefix_nil.mp stands
  | succ rounds ih =>
      rw [occurrences]
      cases found : occurrence? needle offset (units.drop offset) with
      | none => exact .none (occurrence?_drop_eq_none_iff.mp found)
      | some start =>
          obtain ⟨after, stands, first⟩ := occurrence?_drop_first found
          have advance := List.length_pos_of_ne_nil filled
          exact .next after stands first (ih (by omega))

/-- The first occurrence is the one that ends first, since all have the same length. -/
theorem Leftmost.sweep (leftmost : Leftmost needle units offset spans) :
    Span.Sweep (IsOccurrence needle units) offset spans := by
  induction leftmost with
  | none absent =>
      refine .done fun s occurs => ?_
      by_contra after
      exact absent s.start (Nat.le_of_not_lt after) occurs.1
  | next after stands first _ ih =>
      refine .step ⟨stands, rfl⟩ after (fun t occurs behind => ?_) ih
      have := first t.start behind occurs.1
      rw [occurs.2]
      exact Nat.add_le_add_right this _

/-- **Literals.** What a literal reports are its successive leftmost occurrences in the folded text,
and these are as many as there can be disjoint occurrences. -/
theorem findLiteral_leftmost {needle : Text} (text : Text) (filled : needle ≠ []) :
    Leftmost needle.fold text.fold 0 (findLiteral needle text).spans ∧
      IsGreatest {count | ∃ family,
        Span.IsPacking (IsOccurrence needle.fold text.fold) family ∧ family.card = count}
        (findLiteral needle text).size := by
  have folded : needle.fold ≠ [] := by
    apply List.ne_nil_of_length_pos
    rw [Text.length_fold]
    exact List.length_pos_of_ne_nil filled
  have proper : ∀ s, IsOccurrence needle.fold text.fold s → s.start < s.stop := by
    intro s occurs
    have := List.length_pos_of_ne_nil folded
    rw [occurs.2]
    omega
  have leftmost : Leftmost needle.fold text.fold 0
      (occurrences needle.fold text.fold 0 (text.length + 1)) := by
    apply leftmost_occurrences folded
    rw [Text.length_fold]
    omega
  have sweep := leftmost.sweep
  have reported : (findLiteral needle text).spans =
      occurrences needle.fold text.fold 0 (text.length + 1) :=
    SpanSet.spans_ofList_of_apart (sweep.apart proper)
  rw [SpanSet.size, reported]
  exact ⟨leftmost, sweep.isGreatest proper⟩

/-- Of the overlapping occurrences of `aba` in `AbabaXaba` the first and the third are reported. -/
theorem findLiteral_leftmost_of_overlap :
    let needle : Text := ['a', 'B', 'a']
    let text : Text := ['A', 'b', 'a', 'b', 'a', 'X', 'a', 'b', 'a']
    needle ≠ [] ∧ Leftmost needle.fold text.fold 0 [⟨0, 3⟩, ⟨6, 9⟩] ∧
      IsGreatest {count | ∃ family,
        Span.IsPacking (IsOccurrence needle.fold text.fold) family ∧ family.card = count} 2 := by
  intro needle text
  have filled : needle ≠ [] := List.cons_ne_nil _ _
  have reported : (findLiteral needle text).spans = [⟨0, 3⟩, ⟨6, 9⟩] := by decide +kernel
  have both := findLiteral_leftmost text filled
  rw [SpanSet.size, reported] at both
  exact ⟨filled, both⟩

end Term

end TableSearch
