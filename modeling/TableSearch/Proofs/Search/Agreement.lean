import TableSearch.Proofs.Search.Satisfaction

/-! # The search of a row agrees with its meaning

`TableSearch.Control.findRow_agrees_iff`: the search of a row by a control that filters finds
something exactly in the rows that satisfy the control, and finds in each cell the spans of the
satisfied parts, unless a part that it has to look at fails.

Every part is shown to find what it contributes (`TableSearch.RowMatch.Gives`), by recursion over
the control; a part that is not satisfied contributes nothing, so a disjunction may take it in.
-/

namespace TableSearch

/-! ## Findings with given spans -/

/-- A finding in a row whose spans in each cell are given by a function. -/
structure RowMatch.Gives (found : RowMatch) (cells : List Cell) (spansAt : Cell → SpanSet) :
    Prop where
  ordered : found.Ordered
  spans_eq : found.spans = cells.map spansAt

namespace RowMatch.Gives

variable {found other : RowMatch} {cells : List Cell} {spansAt spansAt' : Cell → SpanSet}

theorem none : Gives (RowMatch.none cells.length) cells fun _ => .empty where
  ordered := ordered_none
  spans_eq := by
    rw [RowMatch.none, spans, List.map_replicate, List.map_const']
    rfl

theorem congr (gives : found.Gives cells spansAt)
    (same : ∀ cell ∈ cells, spansAt cell = spansAt' cell) : found.Gives cells spansAt' where
  ordered := gives.ordered
  spans_eq := gives.spans_eq.trans (List.map_congr_left same)

/-- The spans that are found in a cell are in order. -/
theorem spansAt_ordered (gives : found.Gives cells spansAt) :
    ∀ cell ∈ cells, (spansAt cell).Ordered := by
  intro cell member
  have inside : spansAt cell ∈ found.spans := by
    rw [gives.spans_eq]
    exact List.mem_map_of_mem member
  obtain ⟨answer, present, same⟩ := List.mem_map.mp inside
  rw [← same]
  exact CellMatch.spans_ordered (gives.ordered answer present)

/-- What is found by two parts together gives the union of what each of them finds. -/
theorem merge (left : found.Gives cells spansAt) (right : other.Gives cells spansAt') :
    (found.merge other).Gives cells fun cell => (spansAt cell).union (spansAt' cell) where
  ordered := merge_ordered left.ordered right.ordered
  spans_eq := by
    rw [spans_merge right.ordered, left.spans_eq, right.spans_eq, List.zipWith_map]
    exact List.zipWith_self

/-- Something is found in a row exactly when it is in one of its cells. -/
theorem isHit_eq (gives : found.Gives cells spansAt) :
    found.isHit = cells.any fun cell => !(spansAt cell).isEmpty := by
  rw [RowMatch.isHit_eq, gives.spans_eq, List.any_map]
  rfl

end RowMatch.Gives

namespace Control

variable {env : Environment} {cells : List Cell} {control : Control} {cell : Cell}

/-! ## One control in every cell -/

/-- A part that no cell of the row stops finds in each cell what it reports there. -/
theorem findCells_gives (calm : control.isStuck env cells = false) :
    ∃ found, control.findCells env cells = .ok found ∧
      found.Gives cells (control.reported env) := by
  induction cells with
  | nil => exact ⟨[], rfl, fun _ member => (List.not_mem_nil member).elim, rfl⟩
  | cons cell rest ih =>
      rw [isStuck, List.any_cons, Bool.or_eq_false_iff] at calm
      obtain ⟨found, answer, gives⟩ := ih calm.2
      cases first : control.findCell env cell with
      | error problem =>
          rw [first] at calm
          cases calm.1
      | ok spans =>
          have here : control.reported env cell = spans.spans := by
            rw [reported, first]
          rw [findCell] at first
          refine ⟨spans :: found, ?_, ?_, ?_⟩
          · rw [findCells, first, answer]
            rfl
          · rw [RowMatch.Ordered, List.forall_mem_cons]
            exact ⟨find_ordered control first, gives.ordered⟩
          · rw [List.map_cons, ← gives.spans_eq, here]
            rfl

/-- A part that a cell of the row stops has no answer. -/
theorem findCells_fails (stuck : control.isStuck env cells = true) :
    ∃ problem, control.findCells env cells = .error problem := by
  induction cells with
  | nil => cases stuck
  | cons cell rest ih =>
      rw [isStuck, List.any_cons, Bool.or_eq_true] at stuck
      rw [findCells]
      cases first : control.find env cell.head.name cell.text cell.head.general with
      | error problem => exact ⟨problem, rfl⟩
      | ok spans =>
          have later : control.isStuck env rest = true := by
            rcases stuck with here | later
            · rw [findCell, first] at here
              cases here
            · exact later
          obtain ⟨problem, answer⟩ := ih later
          exact ⟨problem, by rw [answer]; rfl⟩

/-- A part that reports nothing in a row reports nothing in any of its cells. -/
theorem reported_eq_empty (silent : control.reports env cells = false) (member : cell ∈ cells) :
    control.reported env cell = .empty := by
  rw [reports, List.any_eq_false] at silent
  have nothing : (control.reported env cell).isEmpty = true := by
    simpa only [Bool.not_eq_true', Bool.not_eq_false] using silent cell member
  exact SpanSet.eq_of_spans_eq (List.isEmpty_iff.mp nothing)

/-! ## Parts of a control -/

/-- What a control finds in a row has a span if and only if the row satisfies it. -/
theorem isHit_eq_satisfied {found : RowMatch} (search : control.isSearch = true)
    (gives : found.Gives cells (control.shown env cells)) :
    found.isHit = control.satisfied env cells := by
  rw [gives.isHit_eq]
  by_cases holds : control.satisfied env cells = true
  · obtain ⟨cell, member, nonempty⟩ := exists_contribution control search holds
    rw [holds, List.any_eq_true]
    refine ⟨cell, member, ?_⟩
    rw [shown, if_pos holds, nonempty]
    rfl
  · have nothing : ∀ cell ∈ cells, ¬(!(control.shown env cells cell).isEmpty) = true := by
      intro cell _
      rw [shown, if_neg holds]
      exact Bool.false_ne_true
    rw [List.any_eq_false.mpr nothing, Bool.not_eq_true _ |>.mp holds]

/-- A control that is not a combination, found in every cell, shows what it reports. -/
theorem findCells_shown (calm : control.isStuck env cells = false)
    (simple : control.satisfied env cells = control.reports env cells)
    (own : ∀ cell, control.contribution env cells cell = control.reported env cell) :
    ∃ found, (control.findCells env cells).map some = .ok (some found) ∧
      found.Gives cells (control.shown env cells) := by
  obtain ⟨found, answer, gives⟩ := findCells_gives calm
  refine ⟨found, by rw [answer]; rfl, gives.congr ?_⟩
  intro cell member
  rw [shown, simple, own]
  by_cases holds : control.reports env cells = true
  · rw [if_pos holds]
  · rw [if_neg holds]
    exact reported_eq_empty (Bool.not_eq_true _ |>.mp holds) member

mutual

/-- **Parts.** A part that filters and does not fail finds the spans it shows. -/
theorem findIn_gives : (control : Control) → control.isSearch = true →
    control.fails env cells = false →
    ∃ found, control.findIn env cells = .ok (some found) ∧
      found.Gives cells (control.shown env cells)
  | anyOf children, search, calm => by
      rw [isSearch] at search
      rw [fails] at calm
      obtain ⟨found, answer, gives⟩ := findInAny_gives children search calm RowMatch.Gives.none
      refine ⟨found, by rw [findIn, if_pos search, answer]; rfl, gives.congr ?_⟩
      intro cell _
      rw [SpanSet.empty_union (contributions_ordered children), shown, satisfied, contribution]
      by_cases holds : anySatisfied env cells children = true
      · rw [if_pos holds]
      · rw [if_neg holds]
        exact contributions_eq_empty (Bool.not_eq_true _ |>.mp holds)
  | allOf children, search, calm => by
      rw [isSearch] at search
      rw [fails] at calm
      obtain ⟨found, answer, gives⟩ := findInAll_gives children calm RowMatch.Gives.none
      refine ⟨found, by rw [findIn, if_pos search, answer]; rfl, gives.congr ?_⟩
      intro cell _
      rw [SpanSet.empty_union (contributions_ordered children), shown, satisfied, contribution]
  | term _, _, calm | emptyCell, _, calm | predicate _ _, _, calm | category _ _, _, calm => by
      rw [fails] at calm
      rw [findIn]
      refine findCells_shown calm ?_ ?_
      · rw [satisfied]
      · intro cell
        rw [contribution]
  | rowSort _, search, _ | columnSort _, search, _ | unfiltered, search, _ => by
      rw [isSearch] at search
      cases search

/-- The search for the parts of a disjunction adds what they contribute to what was found before. -/
theorem findInAny_gives {spansAt : Cell → SpanSet} : {before : RowMatch} →
    (children : List Control) → allSearch children = true → anyFails env cells children = false →
    before.Gives cells spansAt →
    ∃ found, findInAny env cells before children = .ok found ∧
      found.Gives cells fun cell => (spansAt cell).union (contributions env cells cell children)
  | before, [], _, _, gives => by
      refine ⟨before, by rw [findInAny], gives.congr ?_⟩
      intro cell _
      rw [contributions, SpanSet.union_empty]
  | before, child :: rest, search, calm, gives => by
      rw [allSearch, Bool.and_eq_true] at search
      rw [anyFails, Bool.or_eq_false_iff] at calm
      obtain ⟨answer, first, added⟩ := findIn_gives child search.1 calm.1
      obtain ⟨found, later, total⟩ := findInAny_gives rest search.2 calm.2 (gives.merge added)
      refine ⟨found, by rw [findInAny, first]; exact later, total.congr ?_⟩
      intro cell member
      rw [contributions, search.1, Bool.true_and, shown]
      by_cases holds : child.satisfied env cells = true
      · rw [if_pos holds, if_pos holds]
        exact SpanSet.union_assoc (gives.spansAt_ordered cell member) (contribution_ordered child)
          (contributions_ordered rest)
      · rw [if_neg holds, if_neg holds, SpanSet.union_empty]

/-- The search for the parts of a conjunction adds what they contribute, and gives up all that was
found if one of them is not satisfied. -/
theorem findInAll_gives {spansAt : Cell → SpanSet} : {before : RowMatch} →
    (children : List Control) → failsInTurn env cells children = false →
    before.Gives cells spansAt →
    ∃ found, findInAll env cells before children = .ok found ∧
      found.Gives cells fun cell =>
        if allSatisfied env cells children then
          (spansAt cell).union (contributions env cells cell children)
        else .empty
  | before, [], _, gives => by
      refine ⟨before, by rw [findInAll], gives.congr ?_⟩
      intro cell _
      rw [allSatisfied, if_pos rfl, contributions, SpanSet.union_empty]
  | before, child :: rest, calm, gives => by
      rw [failsInTurn] at calm
      by_cases filters : child.isSearch = true
      · rw [if_pos filters, Bool.or_eq_false_iff] at calm
        obtain ⟨answer, first, added⟩ := findIn_gives child filters calm.1
        have hit := isHit_eq_satisfied filters added
        by_cases holds : child.satisfied env cells = true
        · have remaining : failsInTurn env cells rest = false := by
            rw [holds, Bool.true_and] at calm
            exact calm.2
          obtain ⟨found, later, total⟩ := findInAll_gives rest remaining (gives.merge added)
          refine ⟨found, ?_, total.congr ?_⟩
          · rw [findInAll, if_pos filters, first]
            simp only [bind, Except.bind, Option.filter, hit, holds, if_true]
            exact later
          · intro cell member
            rw [allSatisfied, contributions, filters, holds, shown, if_pos holds]
            simp only [Bool.and_true, Bool.or_true, Bool.true_and, if_true]
            rw [SpanSet.union_assoc (gives.spansAt_ordered cell member)
              (contribution_ordered child) (contributions_ordered rest)]
        · refine ⟨.none cells.length, ?_, RowMatch.Gives.none.congr ?_⟩
          · rw [findInAll, if_pos filters, first]
            simp only [bind, Except.bind, Option.filter, hit, holds]
            rfl
          · intro cell _
            rw [allSatisfied, filters, Bool.not_eq_true _ |>.mp holds]
            rfl
      · rw [if_neg filters] at calm
        obtain ⟨found, later, total⟩ := findInAll_gives rest calm gives
        refine ⟨found, by rw [findInAll, if_neg filters]; exact later, total.congr ?_⟩
        intro cell _
        rw [allSatisfied, contributions, Bool.not_eq_true _ |>.mp filters]
        rfl

end

mutual

/-- A part that filters and fails ends the search. -/
theorem findIn_fails : (control : Control) → control.isSearch = true →
    control.fails env cells = true →
    ∃ problem, control.findIn env cells = .error problem
  | anyOf children, search, stuck => by
      rw [isSearch] at search
      rw [fails] at stuck
      obtain ⟨problem, answer⟩ := findInAny_fails children search stuck
      exact ⟨problem, by rw [findIn, if_pos search, answer]; rfl⟩
  | allOf children, search, stuck => by
      rw [isSearch] at search
      rw [fails] at stuck
      obtain ⟨problem, answer⟩ := findInAll_fails children stuck
      exact ⟨problem, by rw [findIn, if_pos search, answer]; rfl⟩
  | term _, _, stuck | emptyCell, _, stuck | predicate _ _, _, stuck | category _ _, _, stuck => by
      rw [fails] at stuck
      obtain ⟨problem, answer⟩ := findCells_fails stuck
      exact ⟨problem, by rw [findIn, answer]; rfl⟩
  | rowSort _, search, _ | columnSort _, search, _ | unfiltered, search, _ => by
      rw [isSearch] at search
      cases search

/-- The search for the parts of a disjunction breaks off if one of them fails: all of them are
looked at. -/
theorem findInAny_fails : {before : RowMatch} → (children : List Control) →
    allSearch children = true → anyFails env cells children = true →
    ∃ problem, findInAny env cells before children = .error problem
  | _, [], _, stuck => by
      rw [anyFails] at stuck
      cases stuck
  | before, child :: rest, search, stuck => by
      rw [allSearch, Bool.and_eq_true] at search
      rw [anyFails, Bool.or_eq_true] at stuck
      by_cases first : child.fails env cells = true
      · obtain ⟨problem, answer⟩ := findIn_fails child search.1 first
        exact ⟨problem, by rw [findInAny, answer]; rfl⟩
      · obtain ⟨added, answer, _⟩ := findIn_gives child search.1 (Bool.not_eq_true _ |>.mp first)
        obtain ⟨problem, later⟩ := findInAny_fails rest search.2 (stuck.resolve_left first)
        exact ⟨problem, by rw [findInAny, answer]; exact later⟩

/-- The search for the parts of a conjunction breaks off if a part fails that it gets to. -/
theorem findInAll_fails : {before : RowMatch} → (children : List Control) →
    failsInTurn env cells children = true →
    ∃ problem, findInAll env cells before children = .error problem
  | _, [], stuck => by
      rw [failsInTurn] at stuck
      cases stuck
  | before, child :: rest, stuck => by
      rw [failsInTurn] at stuck
      by_cases filters : child.isSearch = true
      · rw [if_pos filters, Bool.or_eq_true] at stuck
        by_cases first : child.fails env cells = true
        · obtain ⟨problem, answer⟩ := findIn_fails child filters first
          exact ⟨problem, by rw [findInAll, if_pos filters, answer]; rfl⟩
        · obtain ⟨added, answer, gives⟩ :=
            findIn_gives child filters (Bool.not_eq_true _ |>.mp first)
          have remaining := stuck.resolve_left first
          rw [Bool.and_eq_true] at remaining
          obtain ⟨problem, later⟩ := findInAll_fails rest remaining.2
          refine ⟨problem, ?_⟩
          rw [findInAll, if_pos filters, answer]
          simp only [bind, Except.bind, Option.filter, isHit_eq_satisfied filters gives,
            remaining.1, if_true]
          exact later
      · rw [if_neg filters] at stuck
        obtain ⟨problem, later⟩ := findInAll_fails rest stuck
        exact ⟨problem, by rw [findInAll, if_neg filters]; exact later⟩

end

/-! ## Rows -/

/-- **Rows.** The search of a row agrees with the meaning of a control that filters exactly if none
of the parts that it has to look at fails: it finds something if and only if the row satisfies the
control, and in each cell the spans of the satisfied parts. -/
theorem findRow_agrees_iff {heads : List ColumnHead} {texts : List Text}
    (search : control.isSearch = true) (fits : heads.length = texts.length) :
    (∃ found, control.findRow env heads texts = .ok (some found) ∧
      found.isHit = control.satisfied env (List.zipWith Cell.mk heads texts) ∧
      (found.isHit = true → found.spans = (List.zipWith Cell.mk heads texts).map fun cell =>
        control.contribution env (List.zipWith Cell.mk heads texts) cell)) ↔
    control.fails env (List.zipWith Cell.mk heads texts) = false := by
  rw [findRow, if_neg (not_not_intro fits)]
  constructor
  · rintro ⟨found, answer, -⟩
    rw [← Bool.not_eq_true]
    intro stuck
    obtain ⟨problem, failed⟩ := findIn_fails control search stuck
    rw [failed] at answer
    cases answer
  · intro calm
    obtain ⟨found, answer, gives⟩ := findIn_gives control search calm
    have hit := isHit_eq_satisfied search gives
    refine ⟨found, answer, hit, ?_⟩
    intro holds
    refine (gives.congr ?_).spans_eq
    intro cell _
    rw [shown, ← hit, if_pos holds]

/-- A row with `a` in one column satisfies `a` or `9s`, yet the search fails on the unit of `5ſ` in
the other column. -/
theorem not_agrees_of_long_s :
    let env : Environment := ⟨fun _ => none, fun _ _ => false⟩
    let heads : List ColumnHead := [⟨['x'], true⟩, ⟨['y'], true⟩]
    let texts : List Text := [['a'], ['5', 'ſ']]
    let control := anyOf [term (.literal ['a']),
      term (.duration ⟨['9', 's'], .ofNat 9⟩)]
    control.satisfied env (List.zipWith Cell.mk heads texts) = true ∧
      ¬∃ found, control.findRow env heads texts = .ok (some found) ∧
        found.isHit = control.satisfied env (List.zipWith Cell.mk heads texts) ∧
        (found.isHit = true → found.spans = (List.zipWith Cell.mk heads texts).map fun cell =>
          control.contribution env (List.zipWith Cell.mk heads texts) cell) := by
  intro env heads texts control
  refine ⟨by decide +kernel, ?_⟩
  rw [findRow_agrees_iff (by decide) (by decide)]
  decide +kernel

end Control

end TableSearch
