import TableSearch.Proofs.Control.Unquoted
import TableSearch.Proofs.Search.Combination

/-! # Combined controls, written and read again

A conjunction and a disjunction are both written as the tokens of their parts with blanks between
them, and a directive demands all of its tokens.  So the combination of two directives without
double quotes, written and read again, shows the rows that both of them show, a disjunction as well
as a conjunction: only where one of the two filters and orders nothing is a disjunction still what it
was (`TableSearch.Control.reread_combinations_iff`).
-/

namespace TableSearch

namespace Control

open Text

variable {read : DateReader} {env : Environment} {heads : List ColumnHead} {texts : List Text}
  {directive token : Text} {tokens : List Text} {control part : Control} {children : List Control}

/-! ## The tokens of a combination -/

/-- Texts that are closed stay so when repetitions are left out. -/
theorem closed_of_mem_firstOccurrences (closed : ∀ child ∈ children, child.text.Closed) :
    ∀ text ∈ firstOccurrences [] (children.map Control.text), text.Closed := by
  intro text member
  rcases mem_firstOccurrences.mp member with absent | ⟨inside, -⟩
  · cases absent
  · obtain ⟨child, known, rfl⟩ := List.mem_map.mp inside
    exact closed child known

/-- Parts that are written as closed texts, one after another and each text once, have the tokens of
all of them. -/
theorem mem_splitTokens_parts (closed : ∀ child ∈ children, child.text.Closed) :
    token ∈ splitTokens (join [' '] (firstOccurrences [] (children.map Control.text))) ↔
      ∃ child ∈ children, token ∈ splitTokens child.text := by
  rw [splitTokens_join (closed_of_mem_firstOccurrences closed), List.mem_flatMap]
  constructor
  · rintro ⟨text, member, inside⟩
    rcases mem_firstOccurrences.mp member with absent | ⟨written, -⟩
    · cases absent
    · obtain ⟨child, known, rfl⟩ := List.mem_map.mp written
      exact ⟨child, known, inside⟩
  · rintro ⟨child, known, inside⟩
    refine ⟨child.text, mem_firstOccurrences.mpr (.inr ⟨List.mem_map_of_mem known, ?_⟩), inside⟩
    intro empty
    rw [empty, splitTokens_nil] at inside
    cases inside

theorem mem_splitTokens_together (closed : ∀ child ∈ children, child.text.Closed) :
    token ∈ splitTokens (together children).text ↔
      ∃ child ∈ children, token ∈ splitTokens child.text := by
  rw [text_together]
  exact mem_splitTokens_parts closed

/-- A disjunction is written as its parts with blanks between them, each only once. -/
theorem text_either : (either children).text =
    join [' '] (firstOccurrences [] (children.map Control.text)) := by
  match children with
  | [] => rfl
  | [single] => exact join_firstOccurrences_singleton.symm
  | first :: second :: rest =>
      have joined : either (first :: second :: rest) = anyOf (first :: second :: rest) := rfl
      rw [joined, Control.text, texts_eq_map]

/-- The parts that a control adds to a disjunction have its tokens. -/
theorem mem_splitTokens_disjuncts (closed : ∀ part ∈ control.disjuncts, part.text.Closed) :
    (∃ part ∈ control.disjuncts, token ∈ splitTokens part.text) ↔
      token ∈ splitTokens control.text := by
  cases control with
  | anyOf children =>
      rw [Control.text, texts_eq_map]
      exact (mem_splitTokens_parts closed).symm
  | unfiltered => simp [disjuncts, Control.text, splitTokens_nil]
  | _ => simp only [disjuncts, List.mem_singleton, exists_eq_left]

/-! ## The parts of a directive -/

/-- The alternatives of an element of a directive are written as texts whose tokens do not depend on
what follows them. -/
theorem closed_of_readElement (proper : token.IsToken)
    (found : readElement read token = .ok control) (member : part ∈ control.disjuncts) :
    part.text.Closed := by
  obtain ⟨first, rest, readings, rfl⟩ := exists_of_readElement found
  have reading : ∃ term ∈ first :: rest, part = .term term := by
    split at member
    · exact ⟨first, List.mem_cons_self, List.mem_singleton.mp member⟩
    · obtain ⟨term, inside, rfl⟩ := List.mem_map.mp member
      exact ⟨term, inside, rfl⟩
  obtain ⟨term, inside, rfl⟩ := reading
  rw [Control.text, Term.text_of_mem_readings readings inside]
  exact proper.closed

/-- The parts that the control for a token adds to a disjunction are written as closed texts. -/
theorem closed_of_reading? (proper : token.IsToken) (found : reading? read token = some control)
    (member : part ∈ control.disjuncts) : part.text.Closed := by
  have whole := (splitTokens_text proper found).1
  rcases readToken_cases (reading?_eq_some_iff.mp found) with ⟨names, rfl | rfl⟩ |
    ⟨name, rest, inner, element, names, first, second, rfl⟩ | alone
  · rwa [List.mem_singleton.mp member]
  · rwa [List.mem_singleton.mp member]
  · rw [disjuncts, List.mem_cons, List.mem_singleton] at member
    rcases member with rfl | rfl
    · rw [text_category proper names first]
      apply IsToken.closed
      apply names.isToken proper
      intro c inside
      exact .inl (mem_of_mem_unquoteToken inside)
    · rw [(text_readElement second).1]
      exact proper.closed
  · exact closed_of_readElement proper alone member

/-- What a token is read as is written as a text whose tokens do not depend on what follows it. -/
theorem closed_of_mem_readAll (proper : ∀ token ∈ tokens, token.IsToken)
    (member : control ∈ readAll read tokens) : control.text.Closed := by
  obtain ⟨token, inside, found⟩ := exists_token_of_mem_readAll member
  exact (splitTokens_text (proper token inside) found).1

theorem exists_token_of_single (alone : readAll read tokens = [control]) :
    ∃ token ∈ tokens, reading? read token = some control := by
  apply exists_token_of_mem_readAll
  rw [alone]
  exact List.mem_singleton_self control

/-- A directive is a conjunction with the controls of its tokens. -/
theorem conjuncts_together_readAll :
    (together (readAll read tokens)).conjuncts = readAll read tokens := by
  match parts : readAll read tokens with
  | [] => rfl
  | [single] =>
      obtain ⟨token, -, found⟩ := exists_token_of_single parts
      rcases readToken_cases (reading?_eq_some_iff.mp found) with ⟨names, rfl | rfl⟩ |
        ⟨name, rest, inner, element, -, -, -, rfl⟩ | alone
      · rfl
      · rfl
      · rfl
      · obtain ⟨term, rest, -, rfl⟩ := exists_of_readElement alone
        change conjuncts _ = _
        split <;> rfl
  | first :: second :: rest => rfl

/-- The parts that a directive adds to a disjunction are written as closed texts. -/
theorem closed_of_mem_disjuncts (proper : ∀ token ∈ tokens, token.IsToken)
    (member : part ∈ (together (readAll read tokens)).disjuncts) : part.text.Closed := by
  have closed : ∀ control ∈ readAll read tokens, control.text.Closed := fun _ =>
    closed_of_mem_readAll proper
  have whole : (together (readAll read tokens)).text.Closed := by
    rw [text_together]
    exact (scan_join (closed_of_mem_firstOccurrences closed)).1
  match parts : readAll read tokens with
  | [] =>
      rw [parts] at member
      cases member
  | [single] =>
      obtain ⟨token, inside, found⟩ := exists_token_of_single parts
      rw [parts] at member
      exact closed_of_reading? (proper token inside) found member
  | first :: second :: rest =>
      rw [parts] at member whole
      rwa [List.mem_singleton.mp member]

/-! ## Reading again -/

/-- **Rereading.** A text that has the tokens of the controls for tokens without double quotes is
read as a control that shows the rows that all of them show. -/
theorem exists_reread {text : Text} (proper : ∀ token ∈ tokens, token.IsToken)
    (unquoted : ∀ token ∈ tokens, '"' ∉ token)
    (same : ∀ token, token ∈ splitTokens text ↔
      ∃ control ∈ readAll read tokens, token ∈ splitTokens control.text) :
    ∃ again, parse read text = .ok again ∧ ∀ env heads texts,
      again.Shows env heads texts ↔
        ∀ control ∈ readAll read tokens, control.Shows env heads texts := by
  have readable : ∀ token ∈ splitTokens text, IsReadable read token := by
    intro token member
    obtain ⟨control, inside, written⟩ := (same token).mp member
    obtain ⟨typed, known, found⟩ := exists_token_of_mem_readAll inside
    rw [(splitTokens_text (proper typed known) found).2, mem_written,
      bareForm?_of_not_mem (unquoted typed known)] at written
    rcases written with absent | rfl
    · cases absent
    · exact isReadable_normalForm.mpr ⟨_, reading?_eq_some_iff.mp found⟩
  have controls : ∀ control, control ∈ readAll read (splitTokens text) ↔
      control ∈ readAll read tokens := by
    intro control
    have alone : ∀ other ∈ readAll read tokens, readAll read (splitTokens other.text) = [other] := by
      intro other inside
      obtain ⟨typed, known, found⟩ := exists_token_of_mem_readAll inside
      exact readAll_splitTokens_text (proper typed known) (unquoted typed known) found
    constructor
    · intro member
      obtain ⟨token, inside, found⟩ := exists_token_of_mem_readAll member
      obtain ⟨other, known, written⟩ := (same token).mp inside
      have listed : control ∈ readAll read (splitTokens other.text) :=
        List.mem_filterMap.mpr ⟨token, written, found⟩
      rw [alone other known, List.mem_singleton] at listed
      rwa [listed]
    · intro member
      have listed : control ∈ readAll read (splitTokens control.text) := by
        rw [alone control member]
        exact List.mem_singleton_self control
      obtain ⟨token, written, found⟩ := exists_token_of_mem_readAll listed
      exact List.mem_filterMap.mpr ⟨token, (same token).mpr ⟨control, member, written⟩, found⟩
  refine ⟨_, parse_eq_ok_iff.mpr ⟨readable, rfl⟩, ?_⟩
  intro env heads texts
  rw [shows_together_iff]
  exact forall_congr' fun control => imp_congr_left (controls control)

theorem parse_nil : parse read [] = .ok .unfiltered := by
  rw [parse_eq_ok_iff, splitTokens_nil]
  exact ⟨fun _ absent => (List.not_mem_nil absent).elim, rfl⟩

/-! ## Two directives -/

section Directives

variable {others : List Text} {first second : Text} {c d : Control}

/-- A text that has the tokens of two written directives is read as a control that shows the rows
that both of them show. -/
theorem exists_reread_both {text : Text} (proper : ∀ token ∈ tokens ++ others, token.IsToken)
    (unquoted : ∀ token ∈ tokens ++ others, '"' ∉ token)
    (same : ∀ token, token ∈ splitTokens text ↔
      token ∈ splitTokens (together (readAll read tokens)).text ∨
        token ∈ splitTokens (together (readAll read others)).text) :
    ∃ again, parse read text = .ok again ∧ ∀ env heads texts,
      again.Shows env heads texts ↔
        (together (readAll read tokens)).Shows env heads texts ∧
          (together (readAll read others)).Shows env heads texts := by
  have both : readAll read (tokens ++ others) = readAll read tokens ++ readAll read others :=
    List.filterMap_append
  have listed : ∀ token, token ∈ splitTokens text ↔
      ∃ control ∈ readAll read (tokens ++ others), token ∈ splitTokens control.text := by
    intro token
    rw [List.forall_mem_append] at proper
    rw [same, both, mem_splitTokens_together fun _ => closed_of_mem_readAll proper.1,
      mem_splitTokens_together fun _ => closed_of_mem_readAll proper.2]
    simp only [List.mem_append, or_and_right, exists_or]
  obtain ⟨again, known, shows⟩ := exists_reread proper unquoted listed
  refine ⟨again, known, ?_⟩
  intro env heads texts
  rw [shows, both, List.forall_mem_append, shows_together_iff, shows_together_iff]

/-- The tokens of a conjunction of two directives are those of both. -/
theorem mem_splitTokens_conjoin (proper : ∀ token ∈ tokens ++ others, token.IsToken) :
    token ∈ splitTokens
        (conjoin [together (readAll read tokens), together (readAll read others)]).text ↔
      token ∈ splitTokens (together (readAll read tokens)).text ∨
        token ∈ splitTokens (together (readAll read others)).text := by
  rw [List.forall_mem_append] at proper
  have closed : ∀ control ∈ readAll read tokens ++ readAll read others, control.text.Closed := by
    rw [List.forall_mem_append]
    exact ⟨fun _ => closed_of_mem_readAll proper.1, fun _ => closed_of_mem_readAll proper.2⟩
  rw [conjoin_eq_together, List.flatMap_cons, List.flatMap_singleton, conjuncts_together_readAll,
    conjuncts_together_readAll, mem_splitTokens_together closed]
  rw [List.forall_mem_append] at closed
  rw [mem_splitTokens_together closed.1, mem_splitTokens_together closed.2]
  simp only [List.mem_append, or_and_right, exists_or]

/-- The parts of a disjunction have the tokens of both of its controls. -/
theorem mem_splitTokens_either (proper : ∀ token ∈ tokens ++ others, token.IsToken) :
    token ∈ splitTokens (either ([together (readAll read tokens),
        together (readAll read others)].flatMap disjuncts)).text ↔
      token ∈ splitTokens (together (readAll read tokens)).text ∨
        token ∈ splitTokens (together (readAll read others)).text := by
  rw [List.forall_mem_append] at proper
  have closed : ∀ part ∈ (together (readAll read tokens)).disjuncts ++
      (together (readAll read others)).disjuncts, part.text.Closed := by
    rw [List.forall_mem_append]
    exact ⟨fun _ => closed_of_mem_disjuncts proper.1, fun _ => closed_of_mem_disjuncts proper.2⟩
  rw [List.flatMap_cons, List.flatMap_singleton, text_either, mem_splitTokens_parts closed]
  rw [List.forall_mem_append] at closed
  rw [← mem_splitTokens_disjuncts closed.1, ← mem_splitTokens_disjuncts closed.2]
  simp only [List.mem_append, or_and_right, exists_or]

/-- No directive is read as the empty disjunction. -/
theorem together_readAll_ne_anyOf_nil (proper : ∀ token ∈ tokens, token.IsToken) :
    together (readAll read tokens) ≠ .anyOf [] := by
  intro empty
  have parts : (together (readAll read tokens)).conjuncts = readAll read tokens :=
    conjuncts_together_readAll
  have member : anyOf [] ∈ readAll read tokens := by
    rw [← parts, empty]
    exact List.mem_singleton_self _
  obtain ⟨token, inside, found⟩ := exists_token_of_mem_readAll member
  exact text_ne_nil (proper token inside) found rfl

/-- A directive that adds nothing that filters to a disjunction does not filter. -/
theorem isSearch_of_disjuncts (proper : ∀ token ∈ tokens, token.IsToken)
    (orders : ∀ part ∈ (together (readAll read tokens)).disjuncts, ¬part.isSearch = true) :
    (together (readAll read tokens)).isSearch = false := by
  by_cases free : together (readAll read tokens) = .unfiltered
  · rw [free]
    rfl
  · rw [isSearch_disjuncts free, ← Bool.not_eq_true, allSearch_iff]
    intro search
    match parts : (together (readAll read tokens)).disjuncts with
    | [] =>
        rcases disjuncts_eq_nil parts with same | same
        · exact together_readAll_ne_anyOf_nil proper same
        · exact free same
    | part :: rest =>
        have member : part ∈ (together (readAll read tokens)).disjuncts := by
          rw [parts]
          exact List.mem_cons_self
        exact orders part member (search part member)

/-- The disjunction of two directives, written and read again, shows the rows that both of them show,
and every row if one of them says nothing. -/
theorem exists_reread_disjoin (proper : ∀ token ∈ tokens ++ others, token.IsToken)
    (unquoted : ∀ token ∈ tokens ++ others, '"' ∉ token) :
    let c := together (readAll read tokens)
    let d := together (readAll read others)
    ∃ again, parse read (disjoin [c, d]).text = .ok again ∧ ∀ env heads texts,
      again.Shows env heads texts ↔
        (c = .unfiltered ∨ d = .unfiltered) ∨ c.Shows env heads texts ∧ d.Shows env heads texts := by
  intro c d
  have written : disjoin [c, d] =
      if [c, d].contains .unfiltered && ([c, d].flatMap disjuncts).any isSearch then .unfiltered
      else either ([c, d].flatMap disjuncts) := disjoin_eq_either
  have absorbs : [c, d].contains .unfiltered = true ↔ c = .unfiltered ∨ d = .unfiltered := by
    rw [List.contains_iff_mem, List.mem_cons, List.mem_singleton, eq_comm, @eq_comm _ _ d]
  by_cases free : ([c, d].contains .unfiltered && ([c, d].flatMap disjuncts).any isSearch) = true
  · rw [if_pos free] at written
    rw [Bool.and_eq_true] at free
    refine ⟨.unfiltered, ?_, ?_⟩
    · rw [written]
      exact parse_nil
    · intro env heads texts
      exact iff_of_true (shows_of_order rfl) (.inl (absorbs.mp free.1))
  · rw [if_neg free] at written
    obtain ⟨again, known, shows⟩ := exists_reread_both proper unquoted fun _ =>
      mem_splitTokens_either proper
    refine ⟨again, ?_, ?_⟩
    · rw [written]
      exact known
    intro env heads texts
    rw [shows, iff_or_self]
    intro nothing
    -- One of the two says nothing and was not absorbed, so no part of the other one filters.
    have orders : ∀ control ∈ [c, d], ∀ part ∈ control.disjuncts, ¬part.isSearch = true := by
      rw [absorbs.mpr nothing, Bool.true_and, Bool.not_eq_true, List.any_eq_false] at free
      rwa [List.forall_mem_flatMap] at free
    rw [List.forall_mem_append] at proper
    rw [List.forall_mem_cons, List.forall_mem_singleton] at orders
    exact ⟨shows_of_order (isSearch_of_disjuncts proper.1 orders.1),
      shows_of_order (isSearch_of_disjuncts proper.2 orders.2)⟩

/-- **Combinations, written and read again.** For two directives without double quotes, their
conjunction is read again as a control that shows the rows that both of them show.  So is their
disjunction, unless one of them says nothing, which makes it show every row.  Hence it shows the rows
that one of the two shows exactly if one of them says nothing or both agree on the row. -/
theorem reread_combinations_iff (accepted : parse read first = .ok c)
    (accepted' : parse read second = .ok d) (unquoted : '"' ∉ first) (unquoted' : '"' ∉ second) :
    (∃ again, parse read (conjoin [c, d]).text = .ok again ∧ ∀ env heads texts,
        again.Shows env heads texts ↔ c.Shows env heads texts ∧ d.Shows env heads texts) ∧
      ∃ again, parse read (disjoin [c, d]).text = .ok again ∧ ∀ env heads texts,
        (again.Shows env heads texts ↔
          (c = .unfiltered ∨ d = .unfiltered) ∨
            c.Shows env heads texts ∧ d.Shows env heads texts) ∧
        ((again.Shows env heads texts ↔ c.Shows env heads texts ∨ d.Shows env heads texts) ↔
          (c = .unfiltered ∨ d = .unfiltered) ∨
            (c.Shows env heads texts ↔ d.Shows env heads texts)) := by
  obtain ⟨-, rfl⟩ := parse_eq_ok_iff.mp accepted
  obtain ⟨-, rfl⟩ := parse_eq_ok_iff.mp accepted'
  have proper : ∀ token ∈ splitTokens first ++ splitTokens second, token.IsToken := by
    rw [List.forall_mem_append]
    exact ⟨fun _ => isToken_of_mem_splitTokens, fun _ => isToken_of_mem_splitTokens⟩
  have plain : ∀ token ∈ splitTokens first ++ splitTokens second, '"' ∉ token := by
    rw [List.forall_mem_append]
    exact ⟨fun _ => quote_not_mem_of_mem_splitTokens unquoted,
      fun _ => quote_not_mem_of_mem_splitTokens unquoted'⟩
  constructor
  · exact exists_reread_both proper plain fun _ => mem_splitTokens_conjoin proper
  · obtain ⟨again, known, shows⟩ := exists_reread_disjoin proper plain
    refine ⟨again, known, ?_⟩
    intro env heads texts
    have everything : ∀ {control : Control}, control = .unfiltered →
        control.Shows env heads texts := by
      rintro _ rfl
      exact shows_of_order rfl
    refine ⟨shows env heads texts, ?_⟩
    rw [shows]
    by_cases nothing : together (readAll read (splitTokens first)) = .unfiltered ∨
        together (readAll read (splitTokens second)) = .unfiltered
    · simp only [nothing, true_or, true_iff, iff_true]
      exact nothing.imp everything everything
    · simp only [nothing, false_or]
      tauto

/-- The disjunction of `a` and `b` shows a row with `a` alone, but what it is written as does not. -/
theorem not_reread_of_disjunction :
    let read : DateReader := fun _ => none
    let env : Environment := ⟨read, fun _ _ => false⟩
    let heads : List ColumnHead := [⟨['x'], true⟩]
    let texts : List Text := [['a']]
    ∃ c d, parse read ['a'] = .ok c ∧ parse read ['b'] = .ok d ∧ '"' ∉ ['a'] ∧ '"' ∉ ['b'] ∧
      (disjoin [c, d]).Shows env heads texts ∧
      ∃ again, parse read (disjoin [c, d]).text = .ok again ∧
        ¬(again.Shows env heads texts ↔ c.Shows env heads texts ∨ d.Shows env heads texts) := by
  intro read env heads texts
  let a : Control := term (.literal ['a'])
  let b : Control := term (.literal ['b'])
  have accepted : parse read ['a'] = .ok a := by decide +kernel
  have accepted' : parse read ['b'] = .ok b := by decide +kernel
  have shown : a.Shows env heads texts := ⟨[some ⟨[⟨0, 1⟩]⟩], by decide +kernel⟩
  have missed : ¬b.Shows env heads texts := by
    rw [shows_iff_kept]
    decide +kernel
  have either : (disjoin [a, b]).Shows env heads texts := ⟨[some ⟨[⟨0, 1⟩]⟩], by decide +kernel⟩
  obtain ⟨-, again, known, agrees⟩ :=
    reread_combinations_iff accepted accepted' (by decide) (by decide)
  refine ⟨a, b, accepted, accepted', by decide, by decide, either, again, known, ?_⟩
  rw [(agrees env heads texts).2]
  rintro ((absent | absent) | same)
  · exact nomatch (show term (.literal ['a']) = unfiltered from absent)
  · exact nomatch (show term (.literal ['b']) = unfiltered from absent)
  · exact missed (same.mp shown)

end Directives

end Control

end TableSearch
