import TableSearch.Proofs.Search.Outcome

/-! # Verdicts on a row

What a control makes of a row (`TableSearch.Control.verdict`): the row is kept with spans, left out,
or the search breaks off with a failure.  Unlike an outcome, a verdict tells a failure from a row
that is left out.

A row is shown (`TableSearch.Control.Shows`) if the control does not filter or its search finds a
span.  A conjunction shows the rows that all of its parts show
(`TableSearch.Control.shows_together_iff`), since it searches for one part only after those before
it were found.  A disjunction that filters searches for all of its parts, so that a failure in one of
them is a failure of the whole (`TableSearch.Control.shows_anyOf_iff`).
-/

namespace TableSearch

/-- Joined outcomes leave a row out if one of them does. -/
theorem RowOutcome.sup_eq_none_iff {ι : Type} [DecidableEq ι] {cells : Nat} {s : Finset ι}
    {f : ι → RowOutcome cells} : (s.sup f).1 = none ↔ ∃ x ∈ s, (f x).1 = none := by
  induction s using Finset.induction_on with
  | empty =>
      rw [Finset.sup_empty]
      refine iff_of_false (Option.some_ne_none _) ?_
      rintro ⟨x, absent, -⟩
      exact Finset.notMem_empty x absent
  | insert x s _ ih =>
      have joined : (f x ⊔ s.sup f).1 = none ↔ (f x).1 = none ∨ (s.sup f).1 = none := by
        change both (f x).1 (s.sup f).1 = none ↔ _
        cases (f x).1 <;> cases (s.sup f).1 <;> simp [both]
      rw [Finset.sup_insert, joined, ih, Finset.exists_mem_insert]

namespace Control

variable {env : Environment} {heads : List ColumnHead} {texts : List Text} {control : Control}
  {children : List Control}

/-- What a control makes of a row: the spans with which it is kept, nothing if it is left out, or why
the search breaks off. -/
def verdict (env : Environment) (heads : List ColumnHead) (texts : List Text) (control : Control) :
    Except SearchError (Option RowMatch) :=
  if control.isSearch then (control.findRow env heads texts).map (Option.filter RowMatch.isHit)
  else .ok (some (.none texts.length))

/-- Whether a control shows a row: it does not filter, or its search finds a span. -/
def Shows (env : Environment) (heads : List ColumnHead) (texts : List Text) (control : Control) :
    Prop :=
  ∃ found, control.verdict env heads texts = .ok (some found)

/-- Whether the search of a row by a control breaks off. -/
def Aborts (env : Environment) (heads : List ColumnHead) (texts : List Text) (control : Control) :
    Prop :=
  ∃ problem, control.verdict env heads texts = .error problem

/-! ## Verdicts, searches and outcomes -/

theorem verdict_of_order (order : control.isSearch = false) :
    control.verdict env heads texts = .ok (some (.none texts.length)) := by
  rw [verdict, order, if_neg Bool.false_ne_true]

/-- The verdict of a control that filters is what its search finds, and a search without spans
leaves the row out. -/
theorem verdict_of_search (search : control.isSearch = true) (fits : heads.length = texts.length) :
    control.verdict env heads texts =
      (control.findIn env (List.zipWith Cell.mk heads texts)).map (Option.filter RowMatch.isHit) := by
  rw [verdict, if_pos search, findRow, if_neg (not_not_intro fits)]

theorem verdict_of_misfit (search : control.isSearch = true) (misfit : heads.length ≠ texts.length) :
    control.verdict env heads texts = .error (.textCount texts.length heads.length) := by
  rw [verdict, if_pos search, findRow, if_pos misfit]
  rfl

/-- The verdict on a row is what its evaluation says. -/
theorem evaluate_verdict {ρ : Type} (value : ρ) :
    (FilteredRow.evaluate env value heads texts control).map
        (fun row => if row.hasMatch then some row.found else none) =
      control.verdict env heads texts := by
  rw [FilteredRow.evaluate, verdict]
  split
  · cases control.findRow env heads texts with
    | error problem => rfl
    | ok answer =>
        cases answer with
        | none =>
            have missed : ¬(RowMatch.none texts.length).isHit = true := by
              rw [RowMatch.isHit_none]
              exact Bool.false_ne_true
            exact congrArg Except.ok (if_neg missed)
        | some found => rfl
  · rfl

/-- The outcome of a verdict: a failure counts as a row that is left out. -/
theorem kept_of_verdict :
    control.kept env heads texts = (control.verdict env heads texts).toOption.join := by
  rw [← evaluate_verdict (), kept]
  cases FilteredRow.evaluate env () heads texts control <;> rfl

theorem kept_of_verdict_ok {answer : Option RowMatch}
    (known : control.verdict env heads texts = .ok answer) :
    control.kept env heads texts = answer := by
  rw [kept_of_verdict, known]
  exact Option.join_some

/-- A row is shown exactly if it is kept. -/
theorem shows_iff_kept : control.Shows env heads texts ↔ control.kept env heads texts ≠ none := by
  rw [Shows, kept_of_verdict]
  rcases control.verdict env heads texts with problem | _ | found <;> simp [Except.toOption]

theorem shows_of_order (order : control.isSearch = false) : control.Shows env heads texts :=
  ⟨_, verdict_of_order order⟩

theorem Shows.not_aborts (shows : control.Shows env heads texts) :
    ¬control.Aborts env heads texts := by
  rintro ⟨problem, failed⟩
  obtain ⟨found, known⟩ := shows
  rw [known] at failed
  cases failed

/-- A control that filters shows only rows with as many texts as columns. -/
theorem Shows.fits (shows : control.Shows env heads texts) (search : control.isSearch = true) :
    heads.length = texts.length := by
  by_contra misfit
  exact shows.not_aborts ⟨_, verdict_of_misfit search misfit⟩

/-! ## Verdicts and satisfied controls -/

/-- The search for a control breaks off exactly if the control fails on the cells of the row. -/
theorem aborts_iff (search : control.isSearch = true) (fits : heads.length = texts.length) :
    control.Aborts env heads texts ↔
      control.fails env (List.zipWith Cell.mk heads texts) = true := by
  rw [Aborts, verdict_of_search search fits]
  cases stuck : control.fails env (List.zipWith Cell.mk heads texts) with
  | true =>
      obtain ⟨problem, failed⟩ := findIn_fails control search stuck
      exact iff_of_true ⟨problem, by rw [failed]; rfl⟩ rfl
  | false =>
      obtain ⟨found, answer, -⟩ := findIn_gives control search stuck
      rw [answer]
      refine iff_of_false ?_ Bool.false_ne_true
      rintro ⟨problem, absent⟩
      cases absent

/-- A control that filters shows the rows that satisfy it and in which it does not fail. -/
theorem shows_iff (search : control.isSearch = true) (fits : heads.length = texts.length) :
    control.Shows env heads texts ↔
      control.fails env (List.zipWith Cell.mk heads texts) = false ∧
        control.satisfied env (List.zipWith Cell.mk heads texts) = true := by
  cases stuck : control.fails env (List.zipWith Cell.mk heads texts) with
  | true =>
      refine iff_of_false (fun shows => ?_) fun both => Bool.false_ne_true both.1.symm
      exact shows.not_aborts ((aborts_iff search fits).mpr stuck)
  | false =>
      obtain ⟨found, answer, gives⟩ := findIn_gives control search stuck
      rw [Shows, verdict_of_search search fits, answer, ← isHit_eq_satisfied search gives]
      simp [Except.map, Option.filter]

/-! ## Combinations -/

/-- A control whose outcome is the join of those of its parts shows the rows that all of them
show. -/
theorem shows_iff_of_outcome
    (joined : control.outcome env heads texts = children.toFinset.sup (outcome env heads texts)) :
    control.Shows env heads texts ↔ ∀ child ∈ children, child.Shows env heads texts := by
  have whole : control.kept env heads texts = (children.toFinset.sup (outcome env heads texts)).1 :=
    congrArg Subtype.val joined
  have parts : ∀ child, (outcome env heads texts child).1 = child.kept env heads texts :=
    fun _ => rfl
  rw [shows_iff_kept, whole, ne_eq, RowOutcome.sup_eq_none_iff, not_exists]
  simp only [parts, shows_iff_kept, List.mem_toFinset, not_and, ne_eq]

theorem shows_allOf_iff :
    (allOf children).Shows env heads texts ↔ ∀ child ∈ children, child.Shows env heads texts :=
  shows_iff_of_outcome outcome_allOf

/-- **Conjunctions.** Controls together show the rows that each of them shows. -/
theorem shows_together_iff :
    (together children).Shows env heads texts ↔ ∀ child ∈ children, child.Shows env heads texts :=
  shows_iff_of_outcome outcome_together

/-- The search for a disjunction breaks off exactly if it does for one of its parts, since all of
them are looked for. -/
theorem aborts_anyOf_iff (search : allSearch children = true) (fits : heads.length = texts.length) :
    (anyOf children).Aborts env heads texts ↔ ∃ child ∈ children, child.Aborts env heads texts := by
  have whole : (anyOf children).isSearch = true := search
  rw [aborts_iff whole fits, fails, anyFails_iff]
  refine exists_congr fun child => and_congr_right fun member => ?_
  rw [aborts_iff (allSearch_iff.mp search child member) fits]

/-- **Disjunctions.** A disjunction that filters shows the rows that one of its parts shows, if the
search for none of them breaks off. -/
theorem shows_anyOf_iff (search : allSearch children = true) :
    (anyOf children).Shows env heads texts ↔
      (∃ child ∈ children, child.Shows env heads texts) ∧
        ∀ child ∈ children, ¬child.Aborts env heads texts := by
  have filters := allSearch_iff.mp search
  have whole : (anyOf children).isSearch = true := search
  by_cases fits : heads.length = texts.length
  · have calm : (anyOf children).fails env (List.zipWith Cell.mk heads texts) = false ↔
        ∀ child ∈ children, ¬child.Aborts env heads texts := by
      rw [← Bool.not_eq_true, ← aborts_iff whole fits, aborts_anyOf_iff search fits, not_exists]
      simp only [not_and]
    rw [shows_iff whole fits, calm, satisfied, anySatisfied_iff, and_comm]
    refine and_congr_left fun free => exists_congr fun child => and_congr_right fun member => ?_
    have still : child.fails env (List.zipWith Cell.mk heads texts) = false := by
      rw [← Bool.not_eq_true, ← aborts_iff (filters child member) fits]
      exact free child member
    rw [shows_iff (filters child member) fits, and_iff_right still]
  · refine iff_of_false (fun shows => fits (shows.fits whole)) ?_
    rintro ⟨⟨child, member, shows⟩, -⟩
    exact fits (shows.fits (filters child member))

end Control

end TableSearch
