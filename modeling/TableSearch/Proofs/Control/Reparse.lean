import TableSearch.Proofs.Control.Written

/-! # The tokens of a written directive

The control of a directive is written as a directive with the tokens of the first one, each once,
and the bare forms of those that have one (`TableSearch.Control.mem_splitTokens_text_together`).  It
is read as the controls of both (`TableSearch.Control.mem_readAll_written_iff`).
-/

namespace TableSearch

namespace Control

open Text

variable {read : DateReader} {directive token bare : Text} {control other : Control}
  {tokens : List Text}

/-! ## The controls of a directive -/

/-- Whether a token can be read. -/
def IsReadable (read : DateReader) (token : Text) : Prop :=
  ∃ reading, readToken read token = .ok reading

/-- The control for a token, if it has one. -/
def reading? (read : DateReader) (token : Text) : Option Control :=
  match readToken read token with
  | .ok reading => reading
  | .error _ => none

/-- The controls for several tokens. -/
def readAll (read : DateReader) (tokens : List Text) : List Control :=
  tokens.filterMap (reading? read)

/-- A token has a control exactly if it is read as that control. -/
theorem reading?_eq_some_iff :
    reading? read token = some control ↔ readToken read token = .ok (some control) := by
  unfold reading?
  cases readToken read token with
  | error problem =>
      constructor
      · intro absent
        cases absent
      · intro absent
        cases absent
  | ok reading => exact ⟨congrArg Except.ok, Except.ok.inj⟩

/-- The control for a token orders by it, searches a column by its name and the row for the token, or
searches the row for the token alone. -/
theorem readToken_cases (found : readToken read token = .ok (some control)) :
    (∃ names, control = .rowSort names ∨ control = .columnSort names) ∨
      (∃ name rest inner element, Names token name rest ∧ readInner read rest = .ok inner ∧
        readElement read token = .ok element ∧
        control = .anyOf [.category name inner, element]) ∨
      readElement read token = .ok control := by
  rcases names_or_plain token with ⟨name, rest, names⟩ | plain
  · by_cases row : name = rowSortKeyword
    · rw [readToken_of_names names, if_pos row] at found
      obtain ⟨-, same⟩ := Option.ite_none_left_eq_some.mp (Except.ok.inj found)
      exact .inl ⟨_, .inl (Option.some.inj same).symm⟩
    by_cases column : name = columnSortKeyword
    · rw [readToken_of_names names, if_neg row, if_pos column] at found
      obtain ⟨-, same⟩ := Option.ite_none_left_eq_some.mp (Except.ok.inj found)
      exact .inl ⟨_, .inr (Option.some.inj same).symm⟩
    obtain ⟨inner, element, first, second, same⟩ := readToken_category names row column found
    exact .inr (.inl ⟨name, rest, inner, element, names, first, second, Option.some.inj same⟩)
  · rw [readToken_of_plain plain] at found
    obtain ⟨element, known, same⟩ := map_eq_ok.mp found
    rw [← Option.some.inj same]
    exact .inr (.inr known)

/-- Tokens that can all be read are read one by one. -/
theorem mapM_readToken (readable : ∀ token ∈ tokens, IsReadable read token) :
    tokens.mapM (readToken read) = .ok (tokens.map (reading? read)) := by
  induction tokens with
  | nil => rfl
  | cons token rest ih =>
      rw [List.forall_mem_cons] at readable
      obtain ⟨reading, known⟩ := readable.1
      have same : reading? read token = reading := by rw [reading?, known]
      rw [List.mapM_cons, known, ih readable.2, List.map_cons, same]
      rfl

/-- Only tokens that can all be read are read together. -/
theorem isReadable_of_mapM {readings : List (Option Control)}
    (found : tokens.mapM (readToken read) = .ok readings) :
    ∀ token ∈ tokens, IsReadable read token := by
  induction tokens generalizing readings with
  | nil =>
      intro token member
      cases member
  | cons token rest ih =>
      rw [List.mapM_cons] at found
      obtain ⟨reading, first, afterFirst⟩ := bind_eq_ok.mp found
      obtain ⟨others, later, -⟩ := bind_eq_ok.mp afterFirst
      rw [List.forall_mem_cons]
      exact ⟨⟨reading, first⟩, ih later⟩

/-- A directive is read if each of its tokens is, as the controls of its tokens together. -/
theorem parse_eq_ok_iff :
    parse read directive = .ok control ↔
      (∀ token ∈ splitTokens directive, IsReadable read token) ∧
        together (readAll read (splitTokens directive)) = control := by
  unfold parse readAll
  constructor
  · intro found
    obtain ⟨readings, all, last⟩ := bind_eq_ok.mp found
    have readable := isReadable_of_mapM all
    rw [mapM_readToken readable] at all
    refine ⟨readable, ?_⟩
    rw [← Except.ok.inj last, ← Except.ok.inj all, List.filterMap_map]
    rfl
  · rintro ⟨readable, rfl⟩
    rw [mapM_readToken readable]
    refine congrArg Except.ok ?_
    rw [List.filterMap_map]
    rfl

/-! ## The written directive -/

theorem written_ne_nil : written token ≠ [] :=
  List.append_ne_nil_of_right_ne_nil _ (List.cons_ne_nil _ _)

theorem closed_written (proper : token.IsToken) :
    ∀ text ∈ (written token).map quoteToken, text.Closed := by
  intro text member
  obtain ⟨part, inside, rfl⟩ := List.mem_map.mp member
  exact (isToken_of_mem_written proper inside).closed

/-- The control for a token is written as a closed text with the written tokens. -/
theorem splitTokens_text (proper : token.IsToken) (found : reading? read token = some control) :
    control.text.Closed ∧ splitTokens control.text = written token := by
  have closed := closed_written proper
  rw [text_readToken proper (reading?_eq_some_iff.mp found)]
  refine ⟨(scan_join closed).1, ?_⟩
  rw [splitTokens_join closed, List.flatMap_map]
  refine flatMap_singletons ?_
  intro part inside
  exact splitTokens_quoteToken (isToken_of_mem_written proper inside)

theorem splitTokens_nil : splitTokens [] = [] := by
  rw [splitTokens, Token.scan_nil]
  rfl

theorem text_ne_nil (proper : token.IsToken) (found : reading? read token = some control) :
    control.text ≠ [] := by
  intro empty
  have tokens := (splitTokens_text proper found).2
  rw [empty, splitTokens_nil] at tokens
  exact written_ne_nil tokens.symm

theorem join_firstOccurrences_singleton {text : Text} :
    join [' '] (firstOccurrences [] [text]) = text := by
  cases text <;> rfl

/-- Controls put together are written as their texts with blanks between them, each only once. -/
theorem text_together {children : List Control} :
    (together children).text = join [' '] (firstOccurrences [] (children.map Control.text)) := by
  match children with
  | [] => rfl
  | [single] => exact join_firstOccurrences_singleton.symm
  | first :: second :: rest =>
      have joined : together (first :: second :: rest) = allOf (first :: second :: rest) := rfl
      rw [joined, Control.text, texts_eq_map]

theorem exists_token_of_mem_readAll (member : control ∈ readAll read tokens) :
    ∃ token ∈ tokens, reading? read token = some control :=
  List.mem_filterMap.mp member

/-- The texts that the controls of a directive are written as, each once. -/
def writtenTexts (read : DateReader) (directive : Text) : List Text :=
  firstOccurrences [] ((readAll read (splitTokens directive)).map Control.text)

/-- The texts of a directive are those that the controls of its tokens are written as. -/
theorem mem_writtenTexts {text : Text} :
    text ∈ writtenTexts read directive ↔
      ∃ token ∈ splitTokens directive, ∃ control, reading? read token = some control ∧
        control.text = text := by
  rw [writtenTexts, mem_firstOccurrences, List.mem_map]
  constructor
  · rintro (absent | ⟨⟨control, inside, same⟩, -⟩)
    · cases absent
    · obtain ⟨token, member, found⟩ := exists_token_of_mem_readAll inside
      exact ⟨token, member, control, found, same⟩
  · rintro ⟨token, member, control, found, rfl⟩
    refine .inr ⟨⟨control, List.mem_filterMap.mpr ⟨token, member, found⟩, rfl⟩, ?_⟩
    exact text_ne_nil (isToken_of_mem_splitTokens member) found

/-- The tokens of a written directive are those that its texts are written as. -/
theorem splitTokens_text_together :
    splitTokens (together (readAll read (splitTokens directive))).text =
      (writtenTexts read directive).flatMap splitTokens := by
  rw [text_together]
  apply splitTokens_join
  intro text inside
  obtain ⟨token, member, control, found, rfl⟩ := mem_writtenTexts.mp inside
  exact (splitTokens_text (isToken_of_mem_splitTokens member) found).1

/-- The tokens of a written directive are those that its tokens are written as. -/
theorem mem_splitTokens_text_together :
    token ∈ splitTokens (together (readAll read (splitTokens directive))).text ↔
      ∃ typed ∈ splitTokens directive, ∃ control, reading? read typed = some control ∧
        token ∈ written typed := by
  rw [splitTokens_text_together, List.mem_flatMap]
  constructor
  · rintro ⟨text, inside, member⟩
    obtain ⟨typed, known, control, found, rfl⟩ := mem_writtenTexts.mp inside
    rw [(splitTokens_text (isToken_of_mem_splitTokens known) found).2] at member
    exact ⟨typed, known, control, found, member⟩
  · rintro ⟨typed, known, control, found, member⟩
    refine ⟨control.text, mem_writtenTexts.mpr ⟨typed, known, control, found, rfl⟩, ?_⟩
    rwa [(splitTokens_text (isToken_of_mem_splitTokens known) found).2]

/-! ## Bare forms -/

/-- The bare forms of tokens. -/
def bareForms (tokens : List Text) : List Text :=
  tokens.filterMap bareForm?

/-- Whether a control filters and orders nothing. -/
structure FiltersOnly (control : Control) : Prop where
  isSearch_eq : control.isSearch = true
  rowSorting_eq : control.rowSorting = []
  columnSorting_eq : control.columnSorting = []

theorem filtersOnly_term {t : Term} : FiltersOnly (term t) :=
  ⟨rfl, rfl, rfl⟩

theorem filtersOnly_category {name : Text} {inner : Control} : FiltersOnly (category name inner) :=
  ⟨rfl, rfl, rfl⟩

/-- A disjunction of searches that order nothing orders nothing. -/
theorem filtersOnly_anyOf {children : List Control}
    (parts : ∀ child ∈ children, FiltersOnly child) : FiltersOnly (anyOf children) := by
  have all : allSearch children = true ∧ rowSortings children = [] ∧
      columnSortings children = [] := by
    induction children with
    | nil => exact ⟨rfl, rfl, rfl⟩
    | cons child rest ih =>
        rw [List.forall_mem_cons] at parts
        obtain ⟨⟨search, rows, columns⟩, later⟩ := parts
        obtain ⟨search', rows', columns'⟩ := ih later
        refine ⟨?_, ?_, ?_⟩
        · rw [allSearch, search, search', Bool.and_self]
        · rw [rowSortings, rows, rows', List.append_nil]
        · rw [columnSortings, columns, columns', List.append_nil]
  exact ⟨all.1, all.2.1, all.2.2⟩

/-- What a text is read as orders nothing. -/
theorem filtersOnly_readElement {text : Text} (found : readElement read text = .ok control) :
    FiltersOnly control := by
  obtain ⟨first, rest, -, rfl⟩ := exists_of_readElement found
  split
  · exact filtersOnly_term
  · refine filtersOnly_anyOf ?_
    intro child member
    obtain ⟨t, -, rfl⟩ := List.mem_map.mp member
    exact filtersOnly_term

/-- A token with a column name that can be read has a control, which only filters. -/
theorem reading?_of_names {name rest : Text} (names : Names token name rest)
    (row : name ≠ rowSortKeyword) (column : name ≠ columnSortKeyword)
    (readable : IsReadable read token) :
    ∃ control, reading? read token = some control ∧ FiltersOnly control := by
  obtain ⟨reading, found⟩ := readable
  obtain ⟨inner, element, -, second, same⟩ := readToken_category names row column found
  rw [same] at found
  refine ⟨_, reading?_eq_some_iff.mpr found, filtersOnly_anyOf ?_⟩
  intro child member
  rw [List.mem_cons, List.mem_singleton] at member
  rcases member with rfl | rfl
  · exact filtersOnly_category
  · exact filtersOnly_readElement second

/-- A token with a bare form, and that form, have a name of a column before their first colon. -/
theorem names_of_bareForm? (found : bareForm? token = some bare) :
    ∃ name rest rest', Names token name rest ∧ Names bare name rest' ∧
      name ≠ rowSortKeyword ∧ name ≠ columnSortKeyword := by
  rcases names_or_plain token with ⟨name, rest, names⟩ | plain
  · rw [bareForm?_of_names names, Option.ite_none_left_eq_some, Option.some.injEq, not_or,
      not_or] at found
    obtain ⟨⟨row, column, -⟩, same⟩ := found
    exact ⟨name, rest, rest.unquoteToken, names, ⟨same.symm, names.free, names.filled⟩, row, column⟩
  · rw [bareForm?_of_plain plain] at found
    cases found

/-- A token with a bare form is read as a search that orders nothing. -/
theorem reading?_of_bareForm? (found : bareForm? token = some bare)
    (readable : IsReadable read token) :
    ∃ control, reading? read token = some control ∧ FiltersOnly control := by
  obtain ⟨name, rest, -, names, -, row, column⟩ := names_of_bareForm? found
  exact reading?_of_names names row column readable

/-- A bare form that can be read is read as a search that orders nothing. -/
theorem reading?_bare (found : bareForm? token = some bare) (readable : IsReadable read bare) :
    ∃ control, reading? read bare = some control ∧ FiltersOnly control := by
  obtain ⟨name, -, rest, -, names, row, column⟩ := names_of_bareForm? found
  exact reading?_of_names names row column readable

/-- A token can be read exactly if its normal form can. -/
theorem isReadable_normalForm :
    IsReadable read (normalForm token) ↔ IsReadable read token := by
  rw [IsReadable, readToken_normalForm, IsReadable]

theorem reading?_normalForm : reading? read (normalForm token) = reading? read token := by
  rw [reading?, readToken_normalForm, reading?]

/-- A token is written as its normal form and, if it has one, its bare form. -/
theorem mem_written {part : Text} :
    part ∈ written token ↔ bareForm? token = some part ∨ part = normalForm token := by
  rw [written, List.mem_append, Option.mem_toList, List.mem_singleton]

/-- The written directive can be read if the bare forms can. -/
theorem isReadable_written_iff
    (readable : ∀ token ∈ splitTokens directive, IsReadable read token) :
    (∀ part ∈ splitTokens (together (readAll read (splitTokens directive))).text,
        IsReadable read part) ↔
      ∀ bare ∈ bareForms (splitTokens directive), IsReadable read bare := by
  constructor
  · intro all bare member
    obtain ⟨token, inside, found⟩ := List.mem_filterMap.mp member
    obtain ⟨control, reading, -⟩ := reading?_of_bareForm? found (readable token inside)
    exact all bare (mem_splitTokens_text_together.mpr
      ⟨token, inside, control, reading, mem_written.mpr (.inl found)⟩)
  · intro all part member
    obtain ⟨token, inside, control, -, known⟩ := mem_splitTokens_text_together.mp member
    rcases mem_written.mp known with found | rfl
    · exact all part (List.mem_filterMap.mpr ⟨token, inside, found⟩)
    · exact isReadable_normalForm.mpr (readable token inside)

/-- The written directive has the controls of the directive and those of the bare forms. -/
theorem mem_readAll_written_iff
    (readable : ∀ token ∈ splitTokens directive, IsReadable read token) :
    control ∈ readAll read (splitTokens (together (readAll read (splitTokens directive))).text) ↔
      control ∈ readAll read (splitTokens directive) ∨
        control ∈ readAll read (bareForms (splitTokens directive)) := by
  constructor
  · intro member
    obtain ⟨part, inside, reading⟩ := exists_token_of_mem_readAll member
    obtain ⟨token, known, _, _, known'⟩ := mem_splitTokens_text_together.mp inside
    rcases mem_written.mp known' with found | rfl
    · exact .inr (List.mem_filterMap.mpr ⟨part, List.mem_filterMap.mpr ⟨token, known, found⟩,
        reading⟩)
    · rw [reading?_normalForm] at reading
      exact .inl (List.mem_filterMap.mpr ⟨token, known, reading⟩)
  · rintro (member | member)
    · obtain ⟨token, inside, reading⟩ := exists_token_of_mem_readAll member
      refine List.mem_filterMap.mpr ⟨normalForm token, ?_, ?_⟩
      · exact mem_splitTokens_text_together.mpr
          ⟨token, inside, control, reading, mem_written.mpr (.inr rfl)⟩
      · rw [reading?_normalForm, reading]
    · obtain ⟨bare, inside, reading⟩ := exists_token_of_mem_readAll member
      obtain ⟨token, known, found⟩ := List.mem_filterMap.mp inside
      obtain ⟨typed, reading', -⟩ := reading?_of_bareForm? found (readable token known)
      refine List.mem_filterMap.mpr ⟨bare, ?_, reading⟩
      exact mem_splitTokens_text_together.mpr
        ⟨token, known, typed, reading', mem_written.mpr (.inl found)⟩

end Control

end TableSearch
