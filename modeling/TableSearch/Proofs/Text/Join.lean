import TableSearch.Text.Basic

/-! # Cut and joined texts

`TableSearch.Text.splitOn` takes back what `TableSearch.Text.join` does with texts that do not hold
the separator. -/

namespace TableSearch

namespace Text

variable {text piece : Text} {c d : Char} {pieces : List Text}

theorem splitOn_cons_self : splitOn c (c :: text) = [] :: splitOn c text := by
  rw [splitOn, if_pos rfl]

/-- A text is cut into at least one piece. -/
theorem splitOn_ne_nil : splitOn c text ≠ [] := by
  cases text with
  | nil => exact List.cons_ne_nil _ _
  | cons d rest =>
      rw [splitOn]
      split
      · exact List.cons_ne_nil _ _
      · split
        · exact List.cons_ne_nil _ _
        · exact List.cons_ne_nil _ _

theorem splitOn_cons_of_ne (differs : d ≠ c) (split : splitOn c text = piece :: pieces) :
    splitOn c (d :: text) = (d :: piece) :: pieces := by
  rw [splitOn, if_neg differs, split]

/-- The pieces of a text hold characters of the text other than the separator. -/
theorem of_mem_splitOn (member : piece ∈ splitOn c text) : ∀ d ∈ piece, d ∈ text ∧ d ≠ c := by
  induction text generalizing piece with
  | nil =>
      rw [splitOn, List.mem_singleton] at member
      rw [member]
      intro d inside
      cases inside
  | cons first rest ih =>
      have filled : splitOn c rest ≠ [] := splitOn_ne_nil
      obtain ⟨head, tail, split⟩ := List.exists_cons_of_ne_nil filled
      have later : ∀ piece ∈ head :: tail, ∀ d ∈ piece, d ∈ first :: rest ∧ d ≠ c := by
        intro piece inside d known
        rw [← split] at inside
        exact ⟨List.mem_cons_of_mem _ (ih inside d known).1, (ih inside d known).2⟩
      by_cases same : first = c
      · rw [same, splitOn_cons_self, List.mem_cons, split] at member
        rcases member with rfl | inside
        · intro d known
          cases known
        · exact later piece inside
      · rw [splitOn_cons_of_ne same split, List.mem_cons] at member
        rcases member with rfl | inside
        · rw [List.forall_mem_cons]
          exact ⟨⟨List.mem_cons_self, same⟩, later head List.mem_cons_self⟩
        · exact later piece (List.mem_cons_of_mem _ inside)

/-- The characters of a text other than the separator are in its pieces. -/
theorem mem_splitOn (member : d ∈ text) (differs : d ≠ c) : ∃ piece ∈ splitOn c text, d ∈ piece := by
  induction text with
  | nil => cases member
  | cons first rest ih =>
      have filled : splitOn c rest ≠ [] := splitOn_ne_nil
      obtain ⟨head, tail, split⟩ := List.exists_cons_of_ne_nil filled
      rw [split] at ih
      by_cases same : first = c
      · rw [same, splitOn_cons_self, split]
        rcases List.mem_cons.mp member with here | later
        · exact (differs (here.trans same)).elim
        · obtain ⟨piece, inside, known⟩ := ih later
          exact ⟨piece, List.mem_cons_of_mem _ inside, known⟩
      · rw [splitOn_cons_of_ne same split]
        rcases List.mem_cons.mp member with rfl | later
        · exact ⟨_, List.mem_cons_self, List.mem_cons_self⟩
        · obtain ⟨piece, inside, known⟩ := ih later
          rcases List.mem_cons.mp inside with rfl | behind
          · exact ⟨_, List.mem_cons_self, List.mem_cons_of_mem _ known⟩
          · exact ⟨piece, List.mem_cons_of_mem _ behind, known⟩

/-- A text without a separator, in front of one that begins with it, is a piece. -/
theorem splitOn_append (free : c ∉ piece) (split : splitOn c text = [] :: pieces) :
    splitOn c (piece ++ text) = piece :: pieces := by
  induction piece with
  | nil => exact split
  | cons d piece ih =>
      rw [List.mem_cons, not_or] at free
      exact splitOn_cons_of_ne (Ne.symm free.1) (ih free.2)

theorem join_cons {separator : Text} (more : pieces ≠ []) :
    join separator (piece :: pieces) = piece ++ separator ++ join separator pieces := by
  cases pieces with
  | nil => exact (more rfl).elim
  | cons _ _ => rw [join]; exact List.cons_ne_nil _ _

/-- Texts without a separator, joined with it, are split into those texts again. -/
theorem splitOn_join (filled : pieces ≠ []) (free : ∀ piece ∈ pieces, c ∉ piece) :
    splitOn c (join [c] pieces) = pieces := by
  induction pieces with
  | nil => exact (filled rfl).elim
  | cons piece rest ih =>
      rw [List.forall_mem_cons] at free
      cases rest with
      | nil =>
          have alone : splitOn c (piece ++ []) = [piece] := splitOn_append free.1 rfl
          rwa [List.append_nil] at alone
      | cons next more =>
          have later := ih (List.cons_ne_nil _ _) free.2
          rw [join_cons (List.cons_ne_nil _ _), List.append_assoc, List.singleton_append,
            splitOn_append free.1 (splitOn_cons_self.trans rfl), later]

/-- The characters of joined pieces are those of the pieces and of the separator. -/
theorem of_mem_join {separator : Text} (member : d ∈ join separator pieces) :
    d ∈ separator ∨ ∃ piece ∈ pieces, d ∈ piece := by
  induction pieces with
  | nil => cases member
  | cons piece rest ih =>
      cases rest with
      | nil => exact .inr ⟨piece, List.mem_cons_self, member⟩
      | cons next more =>
          rw [join_cons (List.cons_ne_nil _ _), List.mem_append, List.mem_append] at member
          rcases member with (first | between) | later
          · exact .inr ⟨piece, List.mem_cons_self, first⟩
          · exact .inl between
          · rcases ih later with between | ⟨other, inside, known⟩
            · exact .inl between
            · exact .inr ⟨other, List.mem_cons_of_mem _ inside, known⟩

end Text

end TableSearch
