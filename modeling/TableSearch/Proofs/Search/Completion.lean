import TableSearch.Proofs.Control.Reparse
import TableSearch.Proofs.Duration.Spelling
import TableSearch.Proofs.Search.Outcome

/-! # The searches that are carried out

The only thing in a cell that stops the search for a control that was read from a directive is a
duration with a misspelled unit (`TableSearch.Duration.IsMisspelled`), in a column that the control
looks for durations in (`TableSearch.Control.measures`).  The search of a row gets to the parts of
the control in turn, up to the first that is not satisfied (`TableSearch.Control.reached`).

`TableSearch.Control.findRow_answers_iff`: the search of a row has an answer exactly if no part that
it gets to comes upon such a cell.
-/

namespace TableSearch

namespace Term

variable {read : DateReader} {text : Text} {term : Term}

/-! ## Terms in a cell -/

/-- Whether a term looks for durations. -/
def isDuration : Term → Bool
  | duration _ | durationRange _ _ _ => true
  | _ => false

/-- Looking for durations in a text fails exactly if one of them is misspelled. -/
theorem findDuration_answers_iff {accepts : Duration → Bool} :
    (∃ found, findDuration accepts text = .ok found) ↔ ¬Duration.IsMisspelled text.trim := by
  rw [← Duration.readWhole?_answers_iff, findDuration]
  cases Duration.readWhole? text.trim with
  | error problem => simp
  | ok found => simp

/-- Looking for a term fails exactly if the term looks for durations and one of them is
misspelled. -/
theorem find_answers_iff (known : term ≠ .unknown) :
    (∃ found, term.find read text = .ok found) ↔
      (term.isDuration = true → ¬Duration.IsMisspelled text.trim) := by
  cases term with
  | unknown => exact (known rfl).elim
  | duration length | durationRange typed low high =>
      rw [find, findDuration_answers_iff]
      exact ⟨fun regular _ => regular, fun regular => regular rfl⟩
  | literal | wildcard | regex | digitRange | numberRange | instant | instantRange =>
      refine iff_of_true ⟨_, rfl⟩ ?_
      intro absent
      cases absent

end Term

namespace Control

open Text

variable {read : DateReader} {env : Environment} {directive token rest text column : Text}
  {general : Bool} {control : Control} {children : List Control} {cells : List Cell}
  {heads : List ColumnHead} {texts : List Text}

/-! ## Controls for tokens -/

/-- Controls out of known terms, for any or for named columns, and orderings. -/
inductive IsElementary : Control → Prop
  | term {term : Term} (known : term ≠ .unknown) : IsElementary (.term term)
  | emptyCell : IsElementary .emptyCell
  | category {name : Text} {inner : Control} (inside : IsElementary inner) :
      IsElementary (.category name inner)
  | anyOf {children : List Control} (all : ∀ child ∈ children, IsElementary child) :
      IsElementary (.anyOf children)
  | rowSort {tokens : List Text} : IsElementary (.rowSort tokens)
  | columnSort {tokens : List Text} : IsElementary (.columnSort tokens)

/-- What an element of a directive is read as is elementary. -/
theorem isElementary_of_readElement (found : readElement read text = .ok control) :
    control.IsElementary := by
  obtain ⟨first, others, readings, rfl⟩ := exists_of_readElement found
  have known : ∀ term ∈ first :: others, term ≠ .unknown := fun _ member =>
    (Term.isReadingOf_of_mem_readings readings member).ne_unknown
  split
  · exact .term (known first List.mem_cons_self)
  · refine .anyOf fun child member => ?_
    obtain ⟨term, inside, rfl⟩ := List.mem_map.mp member
    exact .term (known term inside)

/-- What the part behind the name of a column is read as is elementary. -/
theorem isElementary_of_readInner (found : readInner read rest = .ok control) :
    control.IsElementary := by
  unfold readInner at found
  split at found
  · cases found
    exact .emptyCell
  · exact isElementary_of_readElement found

/-- What a token of a directive is read as is elementary. -/
theorem isElementary_of_readToken (found : readToken read token = .ok (some control)) :
    control.IsElementary := by
  rcases readToken_cases found with ⟨names, rfl | rfl⟩ |
    ⟨name, rest, inner, element, -, first, second, rfl⟩ | alone
  · exact .rowSort
  · exact .columnSort
  · refine .anyOf ?_
    rw [List.forall_mem_cons, List.forall_mem_singleton]
    exact ⟨.category (isElementary_of_readInner first), isElementary_of_readElement second⟩
  · exact isElementary_of_readElement alone

/-! ## Durations in a cell -/

mutual

/-- Whether a control looks for durations in the cells of a column. -/
def measures (column : Text) (general : Bool) : Control → Bool
  | term t => general && t.isDuration
  | category name inner => ColumnName.startsWith name column && measures column true inner
  | anyOf children | allOf children => anyMeasures column general children
  | emptyCell | predicate _ _ | rowSort _ | columnSort _ | unfiltered => false

/-- Whether one of several controls looks for durations in the cells of a column. -/
def anyMeasures (column : Text) (general : Bool) : List Control → Bool
  | [] => false
  | child :: rest => measures column general child || anyMeasures column general rest

end

/-- One of several controls looks for durations in a column exactly when some control among them
does. -/
theorem anyMeasures_iff :
    anyMeasures column general children = true ↔
      ∃ child ∈ children, child.measures column general = true := by
  induction children with
  | nil =>
      rw [anyMeasures]
      simp
  | cons child rest ih =>
      rw [anyMeasures, Bool.or_eq_true, ih]
      simp

/-- Looking for one of several controls in a cell fails exactly if it does for any of them, since
all of them are looked for. -/
theorem findAny_answers_iff {found : CellMatch} :
    (∃ answer, findAny env column text general found children = .ok answer) ↔
      ∀ child ∈ children, ∃ answer, child.find env column text general = .ok answer := by
  induction children generalizing found with
  | nil =>
      rw [findAny]
      simp
  | cons child rest ih =>
      rw [findAny, List.forall_mem_cons]
      constructor
      · rintro ⟨answer, all⟩
        obtain ⟨first, known, later⟩ := bind_eq_ok.mp all
        exact ⟨⟨first, known⟩, ih.mp ⟨answer, later⟩⟩
      · rintro ⟨⟨first, known⟩, later⟩
        have all : ∃ answer,
            findAny env column text general (found.merge first) rest = .ok answer := ih.mpr later
        obtain ⟨answer, last⟩ := all
        exact ⟨answer, bind_eq_ok.mpr ⟨first, known, last⟩⟩

/-- An elementary control has an answer in a cell unless it comes upon a misspelled duration. -/
theorem find_answers_iff (elementary : control.IsElementary) :
    (∃ answer, control.find env column text general = .ok answer) ↔
      (control.measures column general = true → ¬Duration.IsMisspelled text.trim) := by
  induction elementary generalizing general with
  | @term term known =>
      rw [find, measures]
      cases general with
      | false => simp
      | true =>
          rw [if_pos rfl, exists_map_eq_ok, Bool.true_and]
          exact Term.find_answers_iff known
  | @category name inner inside ih =>
      rw [find, measures]
      by_cases named : ColumnName.startsWith name column = true
      · rw [if_pos named, named, Bool.true_and]
        exact ih
      · rw [if_neg named, Bool.not_eq_true _ |>.mp named, Bool.false_and]
        simp
  | @anyOf children all ih =>
      rw [find, measures, findAny_answers_iff, anyMeasures_iff]
      constructor
      · rintro answers ⟨child, member, looks⟩
        exact (ih child member).mp (answers child member) looks
      · intro regular child member
        exact (ih child member).mpr fun looks => regular ⟨child, member, looks⟩
  | emptyCell | rowSort | columnSort =>
      rw [find, measures]
      simp

/-! ## Durations in a row -/

/-- Whether a control looks for durations in a cell with a misspelled one. -/
def StumblesOn (control : Control) (cell : Cell) : Prop :=
  control.measures cell.head.name cell.head.general = true ∧ Duration.IsMisspelled cell.text.trim

/-- An elementary control is stopped by a row exactly if it comes upon a cell with a misspelled
duration. -/
theorem isStuck_iff (elementary : control.IsElementary) :
    control.isStuck env cells = true ↔ ∃ cell ∈ cells, control.StumblesOn cell := by
  rw [isStuck, List.any_eq_true]
  refine exists_congr fun cell => and_congr_right fun _ => ?_
  have answers : (∃ answer, control.findCell env cell = .ok answer) ↔ ¬control.StumblesOn cell :=
    (find_answers_iff elementary).trans not_and.symm
  rw [← not_iff_not, ← answers]
  cases control.findCell env cell with
  | error problem => simp [Except.isOk, Except.toBool]
  | ok found => simp [Except.isOk, Except.toBool]

/-- The search of a row fails on an elementary control exactly if the control stumbles on a cell. -/
theorem fails_iff (elementary : control.IsElementary) :
    control.fails env cells = true ↔ ∃ cell ∈ cells, control.StumblesOn cell := by
  induction elementary with
  | term known =>
      rw [fails]
      exact isStuck_iff (.term known)
  | emptyCell =>
      rw [fails]
      exact isStuck_iff .emptyCell
  | category inside ih =>
      rw [fails]
      exact isStuck_iff (.category inside)
  | rowSort =>
      rw [fails]
      exact isStuck_iff .rowSort
  | columnSort =>
      rw [fails]
      exact isStuck_iff .columnSort
  | @anyOf children all ih =>
      rw [fails, anyFails_iff]
      constructor
      · rintro ⟨child, member, stuck⟩
        obtain ⟨cell, inside, looks, misspelled⟩ := (ih child member).mp stuck
        refine ⟨cell, inside, ?_, misspelled⟩
        rw [measures, anyMeasures_iff]
        exact ⟨child, member, looks⟩
      · rintro ⟨cell, inside, looks, misspelled⟩
        rw [measures, anyMeasures_iff] at looks
        obtain ⟨child, member, looks⟩ := looks
        exact ⟨child, member, (ih child member).mpr ⟨cell, inside, looks, misspelled⟩⟩

/-! ## Parts of a conjunction -/

/-- The parts of a conjunction that the search of a row gets to: those that filter, up to the first
that is not satisfied. -/
def reached (env : Environment) (cells : List Cell) : List Control → List Control
  | [] => []
  | child :: rest =>
    if child.isSearch then
      child :: if child.satisfied env cells then reached env cells rest else []
    else reached env cells rest

/-- The parts that the search gets to are parts that filter. -/
theorem of_mem_reached (member : control ∈ reached env cells children) :
    control ∈ children ∧ control.isSearch = true := by
  induction children with
  | nil => cases member
  | cons child rest ih =>
      rw [reached] at member
      by_cases search : child.isSearch = true
      · rw [if_pos search, List.mem_cons] at member
        rcases member with rfl | later
        · exact ⟨List.mem_cons_self, search⟩
        · by_cases holds : child.satisfied env cells = true
          · rw [if_pos holds] at later
            exact ⟨List.mem_cons_of_mem _ (ih later).1, (ih later).2⟩
          · rw [if_neg holds] at later
            cases later
      · rw [if_neg search] at member
        exact ⟨List.mem_cons_of_mem _ (ih member).1, (ih member).2⟩

/-- The search of a conjunction breaks off exactly if one of the parts fails that it gets to. -/
theorem failsInTurn_iff :
    failsInTurn env cells children = true ↔
      ∃ child ∈ reached env cells children, child.fails env cells = true := by
  induction children with
  | nil =>
      rw [failsInTurn, reached]
      simp
  | cons child rest ih =>
      rw [failsInTurn, reached]
      by_cases search : child.isSearch = true
      · rw [if_pos search, if_pos search, List.exists_mem_cons_iff, Bool.or_eq_true,
          Bool.and_eq_true, ih]
        refine or_congr_right ?_
        by_cases holds : child.satisfied env cells = true
        · rw [if_pos holds]
          exact and_iff_right holds
        · rw [if_neg holds]
          simp [holds]
      · rw [if_neg search, if_neg search]
        exact ih

/-! ## Rows -/

/-- A part that does not filter is not looked for. -/
theorem findIn_of_not_search (order : control.isSearch = false) :
    control.findIn env cells = .ok none := by
  cases control with
  | anyOf children =>
      rw [isSearch] at order
      rw [findIn, order, if_neg Bool.false_ne_true]
  | allOf children =>
      rw [isSearch] at order
      rw [findIn, order, if_neg Bool.false_ne_true]
  | rowSort | columnSort | unfiltered => rw [findIn]
  | term | emptyCell | predicate | category =>
      rw [isSearch] at order
      cases order

/-- The search of a row has an answer exactly if the control does not filter or does not fail. -/
theorem findIn_answers_iff :
    (∃ answer, control.findIn env cells = .ok answer) ↔
      (control.isSearch = true → control.fails env cells = false) := by
  cases search : control.isSearch with
  | false => exact iff_of_true ⟨none, findIn_of_not_search search⟩ fun absent => by cases absent
  | true =>
      cases stuck : control.fails env cells with
      | true =>
          obtain ⟨problem, failed⟩ := findIn_fails control search stuck
          rw [failed]
          simp
      | false =>
          obtain ⟨found, answer, -⟩ := findIn_gives control search stuck
          exact iff_of_true ⟨some found, answer⟩ fun _ => rfl

/-- The search for several controls together has an answer unless one that it gets to fails. -/
theorem findIn_together_answers_iff :
    (∃ answer, (together children).findIn env cells = .ok answer) ↔
      ∀ child ∈ reached env cells children, child.fails env cells = false := by
  have turn : failsInTurn env cells children = false ↔
      ∀ child ∈ reached env cells children, child.fails env cells = false := by
    rw [← not_iff_not, Bool.not_eq_false, failsInTurn_iff]
    simp only [not_forall, Bool.not_eq_false, exists_prop]
  rw [findIn_answers_iff, ← turn]
  match children with
  | [] => exact iff_of_true (fun absent => by cases absent) rfl
  | [single] =>
      rw [failsInTurn, failsInTurn, Bool.and_false, Bool.or_false]
      by_cases search : single.isSearch = true
      · rw [if_pos search]
        exact forall_prop_of_true search
      · rw [if_neg search]
        exact iff_of_true (fun filters => (search filters).elim) rfl
  | first :: second :: rest =>
      -- If no part filters, there is no search, and no part is reached either.
      have joined : together (first :: second :: rest) = allOf (first :: second :: rest) := rfl
      rw [joined, isSearch, fails]
      refine ⟨fun calm => ?_, fun calm _ => calm⟩
      by_cases search : anySearch (first :: second :: rest) = true
      · exact calm search
      · rw [turn]
        intro child member
        obtain ⟨inside, filters⟩ := of_mem_reached member
        exact (search (anySearch_iff.mpr ⟨child, inside, filters⟩)).elim

/-- **Completion.** The search of a row for a directive that was read has an answer exactly if none
of the parts that it gets to stumbles on a cell. -/
theorem findRow_answers_iff (accepted : parse read directive = .ok control)
    (fits : heads.length = texts.length) :
    (∃ answer, control.findRow env heads texts = .ok answer) ↔
      ∀ part ∈ reached env (List.zipWith Cell.mk heads texts) (readAll read (splitTokens directive)),
        ∀ cell ∈ List.zipWith Cell.mk heads texts, ¬part.StumblesOn cell := by
  obtain ⟨-, rfl⟩ := parse_eq_ok_iff.mp accepted
  rw [findRow, if_neg (not_not_intro fits), findIn_together_answers_iff]
  refine forall₂_congr fun part member => ?_
  -- A part was read from some token, so it fails only where it stumbles.
  obtain ⟨token, -, found⟩ := exists_token_of_mem_readAll (of_mem_reached member).1
  have elementary := isElementary_of_readToken (reading?_eq_some_iff.mp found)
  rw [← Bool.not_eq_true, fails_iff elementary, not_exists]
  exact forall_congr' fun cell => not_and

/-- The search for `5s` in a cell with the long s for a unit has no answer. -/
theorem not_answered_of_long_s :
    let env : Environment := ⟨fun _ => none, fun _ _ => false⟩
    let heads : List ColumnHead := [⟨['x'], true⟩]
    let texts : List Text := [['5', 'ſ']]
    ∃ control, parse env.readDate ['5', 's'] = .ok control ∧
      ¬∃ answer, control.findRow env heads texts = .ok answer := by
  intro env heads texts
  let seconds : Control := .anyOf
    [.term (.literal ['5', 's']), .term (.duration ⟨['5', 's'], .ofNat 5⟩)]
  have accepted : parse env.readDate ['5', 's'] = .ok seconds := by decide +kernel
  refine ⟨seconds, accepted, ?_⟩
  rw [findRow_answers_iff accepted rfl]
  intro calm
  refine calm seconds (by decide +kernel) ⟨⟨['x'], true⟩, ['5', 'ſ']⟩ (by decide) ?_
  exact ⟨by decide, by decide +kernel⟩

end Control

end TableSearch
