import TableSearch.Proofs.Search.Literal

/-! # Where a wildcard is found

A wildcard is looked for as its non-empty parts, one after another.  An occurrence of the parts is any
choice of places for them in order, each at or after the end of the one before
(`TableSearch.Term.IsChain`).  What is reported are occurrences from left to right, and no other choice
of disjoint occurrences has more of them (`TableSearch.Term.findWildcard_greatest`).

Taking for each part the first place is enough: the chain that is found this way ends first among all
that begin at or after the same offset (`TableSearch.Term.chain?_first`), so the rounds are a sweep.
-/

namespace TableSearch

namespace Term

variable {units : List Text} {parts : List (List Text)} {offset rounds more : Nat} {s t : Span}

/-! ## One chain -/

/-- Whether a span is that of an occurrence of several lists: each of them stands at or after the end
of the one before, the first where the span starts, and the last ends where the span ends. -/
inductive IsChain (units : List Text) : List (List Text) → Span → Prop
  | last {part : List Text} {start : Nat} (stands : part <+: units.drop start) :
      IsChain units [part] ⟨start, start + part.length⟩
  | next {part : List Text} {parts : List (List Text)} {start : Nat} {later : Span}
      (stands : part <+: units.drop start) (after : start + part.length ≤ later.start)
      (rest : IsChain units parts later) : IsChain units (part :: parts) ⟨start, later.stop⟩

/-- If there is a chain from an offset on, then one is found. -/
theorem IsChain.isSome_chain? (chain : IsChain units parts s) (after : offset ≤ s.start) :
    (chain? units offset parts).isSome = true := by
  induction chain generalizing offset with
  | @last part start stands =>
      rw [chain?]
      cases found : occurrence? part offset (units.drop offset) with
      | none => exact (occurrence?_drop_eq_none_iff.mp found start after stands).elim
      | some place => rfl
  | @next part parts start later stands behind rest ih =>
      rw [chain?]
      cases found : occurrence? part offset (units.drop offset) with
      | none => exact (occurrence?_drop_eq_none_iff.mp found start after stands).elim
      | some place =>
          have early := (occurrence?_drop_first found).2.2 start after stands
          cases rest with
          | last | next =>
              simp only [Option.isSome_map]
              exact ih ((Nat.add_le_add_right early _).trans behind)

/-- The chain that is found ends first among those that begin at or after the offset: a later place of
a part leaves no more room for the parts behind it. -/
theorem chain?_first (found : chain? units offset parts = some s) :
    IsChain units parts s ∧ offset ≤ s.start ∧
      ∀ t, IsChain units parts t → offset ≤ t.start → s.stop ≤ t.stop := by
  induction parts generalizing offset s with
  | nil =>
      rw [chain?] at found
      cases found
  | cons part parts ih =>
      rw [chain?] at found
      split at found
      · cases found
      · rename_i start place
        obtain ⟨after, stands, first⟩ := occurrence?_drop_first place
        cases parts with
        | nil =>
            obtain rfl := Option.some.inj found
            refine ⟨.last stands, after, fun t chain behind => ?_⟩
            cases chain with
            | last stands' => exact Nat.add_le_add_right (first _ behind stands') _
            | next _ _ rest => cases rest
        | cons next rest =>
            obtain ⟨later, chained, rfl⟩ := Option.map_eq_some_iff.mp found
            obtain ⟨chain, room, earliest⟩ := ih chained
            refine ⟨.next stands room chain, after, fun t chain' behind => ?_⟩
            cases chain' with
            | @next _ _ _ later' stands' room' rest' =>
                have early := first _ behind stands'
                exact earliest later' rest' ((Nat.add_le_add_right early _).trans room')

/-! ## Successive chains -/

/-- The span of a chain of parts with units ends inside the units and is not empty. -/
theorem IsChain.extent (chain : IsChain units parts s) (filled : ∀ part ∈ parts, part ≠ []) :
    s.start < s.stop ∧ s.stop ≤ units.length := by
  induction chain with
  | @last part start stands =>
      have advance := List.length_pos_of_ne_nil (filled part (List.mem_singleton_self part))
      have fits := stands.length_le
      rw [List.length_drop] at fits
      simp only
      omega
  | next _ behind _ ih =>
      obtain ⟨_, others⟩ := List.forall_mem_cons.mp filled
      obtain ⟨proper, inside⟩ := ih others
      exact ⟨(Nat.le_add_right _ _).trans_lt (behind.trans_lt proper), inside⟩

/-- Every round takes the next chain, and one round for each unit that is left is enough. -/
theorem sweep_chains (filled : ∀ part ∈ parts, part ≠ []) (room : units.length < offset + rounds) :
    Span.Sweep (IsChain units parts) offset (chains parts units offset rounds) := by
  induction rounds generalizing offset with
  | zero =>
      refine .done fun s chain => ?_
      have extent := chain.extent filled
      omega
  | succ rounds ih =>
      rw [chains]
      cases found : chain? units offset parts with
      | none =>
          refine .done fun s chain => ?_
          by_contra after
          have some := chain.isSome_chain? (Nat.le_of_not_lt after)
          rw [found] at some
          cases some
      | some s =>
          obtain ⟨chain, after, first⟩ := chain?_first found
          have advance := (chain.extent filled).1
          exact .step chain after first (ih (by omega))

/-- The rounds end by themselves: more of them find nothing more. -/
theorem chains_eq_of_le (filled : ∀ part ∈ parts, part ≠ []) (room : units.length < offset + rounds)
    (enough : rounds ≤ more) :
    chains parts units offset more = chains parts units offset rounds := by
  induction rounds generalizing offset more with
  | zero =>
      cases more with
      | zero => rfl
      | succ more =>
          rw [chains, chains]
          cases found : chain? units offset parts with
          | none => rfl
          | some s =>
              obtain ⟨chain, after, -⟩ := chain?_first found
              have extent := chain.extent filled
              omega
  | succ rounds ih =>
      obtain ⟨more, rfl⟩ := Nat.exists_eq_add_of_le' (Nat.zero_lt_of_lt enough)
      rw [chains, chains]
      cases found : chain? units offset parts with
      | none => rfl
      | some s =>
          obtain ⟨chain, after, -⟩ := chain?_first found
          have advance := (chain.extent filled).1
          exact congrArg (s :: ·) (ih (by omega) (Nat.le_of_succ_le_succ enough))

/-! ## Wildcards -/

/-- The parts of a wildcard that are looked for, as units: those that are not empty. -/
def pieces (parts : List Text) : List (List Text) :=
  (parts.filter (!·.isEmpty)).map Text.fold

/-- No part of a wildcard that is looked for is empty. -/
theorem ne_nil_of_mem_pieces {parts : List Text} : ∀ piece ∈ pieces parts, piece ≠ [] := by
  intro piece member
  obtain ⟨part, listed, rfl⟩ := List.mem_map.mp member
  have kept := (List.mem_filter.mp listed).2
  rw [Bool.not_eq_true', List.isEmpty_eq_false_iff] at kept
  apply List.ne_nil_of_length_pos
  rw [Text.length_fold]
  exact List.length_pos_of_ne_nil kept

/-- A wildcard with a part that is not empty finds the chains of its parts in the folded text. -/
theorem findWildcard_eq {parts : List Text} (text : Text) (filled : ∃ part ∈ parts, part ≠ []) :
    findWildcard parts text =
      .ofList (chains (pieces parts) text.fold 0 (text.length + 1)) := by
  obtain ⟨part, member, nonempty⟩ := filled
  have kept : part ∈ parts.filter (!·.isEmpty) := by
    rw [List.mem_filter, Bool.not_eq_true', List.isEmpty_eq_false_iff]
    exact ⟨member, nonempty⟩
  rw [findWildcard]
  split
  · rename_i none
    rw [none] at kept
    cases kept
  · rfl

/-- **Wildcards.** The search for a wildcard ends by itself.  What it reports are spans of occurrences
of the parts from left to right, at least one if there is any, and as many as there can be disjoint
occurrences. -/
theorem findWildcard_greatest {parts : List Text} (text : Text)
    (filled : ∃ part ∈ parts, part ≠ []) :
    let reported := (findWildcard parts text).spans
    (∀ rounds, text.length < rounds → chains (pieces parts) text.fold 0 rounds = reported) ∧
      (∀ s ∈ reported, IsChain text.fold (pieces parts) s) ∧
      reported.Pairwise (fun s t => s.stop ≤ t.start) ∧
      (reported ≠ [] ↔ ∃ s, IsChain text.fold (pieces parts) s) ∧
      IsGreatest {count | ∃ family,
        Span.IsPacking (IsChain text.fold (pieces parts)) family ∧ family.card = count}
        reported.length := by
  intro reported
  have pieces_filled : ∀ piece ∈ pieces parts, piece ≠ [] := ne_nil_of_mem_pieces
  have proper : ∀ s, IsChain text.fold (pieces parts) s → s.start < s.stop :=
    fun s chain => (chain.extent pieces_filled).1
  have room : text.fold.length < 0 + (text.length + 1) := by
    rw [Text.length_fold]
    omega
  have sweep := sweep_chains pieces_filled room
  have known : reported = chains (pieces parts) text.fold 0 (text.length + 1) := by
    change (findWildcard parts text).spans = _
    rw [findWildcard_eq text filled]
    exact SpanSet.spans_ofList_of_apart (sweep.apart proper)
  rw [← known] at sweep
  refine ⟨fun rounds enough => ?_, sweep.eligible_of_mem, ?_, ?_, sweep.isGreatest proper⟩
  · rw [known]
    exact chains_eq_of_le pieces_filled room enough
  · exact (sweep.apart proper).pairwise.imp fun before => before.1
  · rw [sweep.ne_nil_iff]
    exact exists_congr fun s => and_iff_left (Nat.zero_le s.start)

/-- With the parts `a` and `B`, `AabXaBb` holds two disjoint occurrences: the first begins with the first
`A`, and the last `b` stays over. -/
theorem findWildcard_greatest_of_overlap :
    let parts : List Text := [['a'], [], ['B']]
    let text : Text := ['A', 'a', 'b', 'X', 'a', 'B', 'b']
    (∃ part ∈ parts, part ≠ []) ∧ (findWildcard parts text).spans = [⟨0, 3⟩, ⟨4, 6⟩] ∧
      IsGreatest {count | ∃ family,
        Span.IsPacking (IsChain text.fold (pieces parts)) family ∧ family.card = count} 2 := by
  intro parts text
  have filled : ∃ part ∈ parts, part ≠ [] := ⟨['a'], List.mem_cons_self, List.cons_ne_nil _ _⟩
  have reported : (findWildcard parts text).spans = [⟨0, 3⟩, ⟨4, 6⟩] := by decide +kernel
  obtain ⟨-, -, -, -, greatest⟩ := findWildcard_greatest text filled
  rw [reported] at greatest
  exact ⟨filled, reported, greatest⟩

end Term

end TableSearch
