import TableSearch.Proofs.Control.Reading
import TableSearch.Proofs.Text.Join

/-! # What a directive is written as

The control for a token is written as the token, but for two differences: an ordering is written
without the empty names between its commas (`TableSearch.Control.normalForm`), which it does not
have anyway, and a token with quotes around all that follows its column name is written along with
the same token without those quotes (`TableSearch.Control.bareForm?`), which the column is then
searched for too.
-/

namespace TableSearch

namespace Control

open Text

variable {read : DateReader} {token rest name : Text} {control : Control}

/-- Names without commas are split as they were joined. -/
theorem splitNames_join {names : List Text} (filled : ∀ name ∈ names, name ≠ [])
    (free : ∀ name ∈ names, ',' ∉ name) : splitNames (join [','] names) = names := by
  cases names with
  | nil => rfl
  | cons name rest =>
      rw [splitNames, splitOn_join (List.cons_ne_nil _ _) free, List.filter_eq_self]
      intro other member
      rw [Bool.not_eq_true', List.isEmpty_eq_false_iff]
      exact filled other member

theorem of_mem_splitNames (member : name ∈ splitNames rest) :
    name ≠ [] ∧ ∀ d ∈ name, d ∈ rest ∧ d ≠ ',' := by
  obtain ⟨piece, filled⟩ := List.mem_filter.mp member
  refine ⟨?_, of_mem_splitOn piece⟩
  rintro rfl
  cases filled

/-- The names of a list are the same if the empty ones are left out. -/
theorem splitNames_join_splitNames :
    splitNames (join [','] (splitNames rest)) = splitNames rest := by
  refine splitNames_join ?_ ?_
  · intro name member
    exact (of_mem_splitNames member).1
  · intro name member comma
    exact ((of_mem_splitNames member).2 ',' comma).2 rfl

/-! ## Tokens with a colon -/

/-- Whether a token has a colon, which is not its first character, after a given name. -/
structure Names (token name rest : Text) : Prop where
  split : token = name ++ ':' :: rest
  free : ':' ∉ name
  filled : name ≠ []

/-- The first colon of a token stands behind its column name. -/
theorem Names.indexOf?_eq (names : Names token name rest) :
    indexOf? ':' token = some name.length := by
  rw [names.split, indexOf?, List.findIdx?_append, List.findIdx?_eq_none_iff.mpr]
  · rw [List.findIdx?_cons]
    simp
  · intro d member
    rw [beq_eq_false_iff_ne]
    rintro rfl
    exact names.free member

theorem Names.take_eq (names : Names token name rest) : token.take name.length = name := by
  rw [names.split, List.take_left]

theorem Names.drop_eq (names : Names token name rest) :
    token.drop (name.length + 1) = rest := by
  rw [names.split, ← List.drop_drop, List.drop_left, List.drop_one, List.tail_cons]

theorem Names.length_eq (names : Names token name rest) : ∃ length, name.length = length + 1 :=
  Nat.exists_eq_add_one_of_ne_zero (mt List.length_eq_zero_iff.mp names.filled)

/-- A token has a name before a colon or none. -/
theorem names_or_plain (token : Text) :
    (∃ name rest, Names token name rest) ∨
      indexOf? ':' token = none ∨ indexOf? ':' token = some 0 := by
  by_cases colon : ':' ∈ token
  · obtain ⟨name, rest, split, free⟩ := List.eq_append_cons_of_mem colon
    cases name with
    | nil =>
        rw [split]
        exact .inr (.inr rfl)
    | cons c name => exact .inl ⟨c :: name, rest, split, free, List.cons_ne_nil _ _⟩
  · refine .inr (.inl (List.findIdx?_eq_none_iff.mpr ?_))
    intro d member
    rw [beq_eq_false_iff_ne]
    rintro rfl
    exact colon member

/-- The token that an ordering is written as: without the empty names between its commas.  Other
tokens are written as they are. -/
def normalForm (token : Text) : Text :=
  match indexOf? ':' token with
  | none | some 0 => token
  | some colon =>
    if token.take colon = rowSortKeyword ∨ token.take colon = columnSortKeyword then
      token.take colon ++ ':' :: join [','] (splitNames (token.drop (colon + 1)))
    else token

/-- The token without the quotes around all that follows its column name, if there are any. -/
def bareForm? (token : Text) : Option Text :=
  match indexOf? ':' token with
  | none | some 0 => none
  | some colon =>
    let name : Text := token.take colon
    let rest : Text := token.drop (colon + 1)
    if name = rowSortKeyword ∨ name = columnSortKeyword ∨ rest.unquoteToken = rest then none
    else some (name ++ ':' :: rest.unquoteToken)

/-- The tokens that the control for a token is written as. -/
def written (token : Text) : List Text :=
  (bareForm? token).toList ++ [normalForm token]

/-! ## The cases of a token -/

theorem normalForm_of_plain (plain : indexOf? ':' token = none ∨ indexOf? ':' token = some 0) :
    normalForm token = token := by
  rcases plain with none | zero
  · rw [normalForm, none]
  · rw [normalForm, zero]
    rfl

theorem bareForm?_of_plain (plain : indexOf? ':' token = none ∨ indexOf? ':' token = some 0) :
    bareForm? token = none := by
  rcases plain with none | zero
  · rw [bareForm?, none]
  · rw [bareForm?, zero]
    rfl

/-- A token without a column name is read as an element. -/
theorem readToken_of_plain (plain : indexOf? ':' token = none ∨ indexOf? ':' token = some 0) :
    readToken read token = (readElement read token).map some := by
  rcases plain with none | zero
  · rw [readToken, none]
    cases readElement read token <;> rfl
  · rw [readToken, zero]
    cases readElement read token <;> rfl

/-- A token with a column name is its own normal form, unless it is an ordering, which loses its
empty names. -/
theorem normalForm_of_names (names : Names token name rest) :
    normalForm token =
      if name = rowSortKeyword ∨ name = columnSortKeyword then
        name ++ ':' :: join [','] (splitNames rest)
      else token := by
  obtain ⟨before, length⟩ := names.length_eq
  have take := names.take_eq
  have drop := names.drop_eq
  rw [length] at take drop
  rw [normalForm, names.indexOf?_eq, length]
  simp only [take, drop]

/-- A token with a column name has a bare form exactly if it is no ordering and quotes stand around
all that follows the name. -/
theorem bareForm?_of_names (names : Names token name rest) :
    bareForm? token =
      if name = rowSortKeyword ∨ name = columnSortKeyword ∨ rest.unquoteToken = rest then none
      else some (name ++ ':' :: rest.unquoteToken) := by
  obtain ⟨before, length⟩ := names.length_eq
  have take := names.take_eq
  have drop := names.drop_eq
  rw [length] at take drop
  rw [bareForm?, names.indexOf?_eq, length]
  simp only [take, drop]

/-- The control for what follows the name of a column. -/
def readInner (read : DateReader) (rest : Text) : Except DirectiveError Control :=
  if rest.isEmpty then .ok emptyCell else readElement read rest

/-- A token with a column name is read as an ordering if the name is a keyword, and otherwise as a
search in that column or as an element, whichever is found. -/
theorem readToken_of_names (names : Names token name rest) :
    readToken read token =
      if name = rowSortKeyword then .ok (ordering? .rowSort rest)
      else if name = columnSortKeyword then .ok (ordering? .columnSort rest)
      else (readInner read rest).bind fun inner => (readElement read token).map fun element =>
        some (.anyOf [.category name inner, element]) := by
  obtain ⟨before, length⟩ := names.length_eq
  have take := names.take_eq
  have drop := names.drop_eq
  rw [length] at take drop
  rw [readToken, names.indexOf?_eq, length, readInner]
  simp only [take, drop]
  split
  · rfl
  · split
    · rfl
    · split
      · cases readElement read token <;> rfl
      · cases readElement read rest with
        | error problem => rfl
        | ok inner => cases readElement read token <;> rfl

/-- A token with the name of a column that can be read searches that column, or the row for the
token. -/
theorem readToken_category {answer : Option Control} (names : Names token name rest)
    (row : name ≠ rowSortKeyword) (column : name ≠ columnSortKeyword)
    (found : readToken read token = .ok answer) :
    ∃ inner element, readInner read rest = .ok inner ∧ readElement read token = .ok element ∧
      answer = some (.anyOf [.category name inner, element]) := by
  rw [readToken_of_names names, if_neg row, if_neg column] at found
  obtain ⟨inner, first, later⟩ := bind_eq_ok.mp found
  obtain ⟨element, second, same⟩ := map_eq_ok.mp later
  exact ⟨inner, element, first, second, same.symm⟩

/-! ## Orderings -/

theorem rowSortKeyword_names : Names (rowSortKeyword ++ ':' :: rest) rowSortKeyword rest :=
  ⟨rfl, by decide, by decide⟩

theorem columnSortKeyword_names :
    Names (columnSortKeyword ++ ':' :: rest) columnSortKeyword rest :=
  ⟨rfl, by decide, by decide⟩

theorem ordering?_join {make : List Text → Control} :
    ordering? make (join [','] (splitNames rest)) = ordering? make rest := by
  rw [ordering?, splitNames_join_splitNames, ordering?]

/-- The empty names of an ordering make no difference. -/
theorem readToken_normalForm : readToken read (normalForm token) = readToken read token := by
  rcases names_or_plain token with ⟨name, rest, names⟩ | plain
  · rw [normalForm_of_names names]
    by_cases row : name = rowSortKeyword
    · rw [if_pos (.inl row), row, readToken_of_names rowSortKeyword_names, if_pos rfl,
        ordering?_join, readToken_of_names names, if_pos row]
    · by_cases column : name = columnSortKeyword
      · have differs : columnSortKeyword ≠ rowSortKeyword := by decide
        rw [if_pos (.inr column), column, readToken_of_names columnSortKeyword_names,
          if_neg differs, if_pos rfl, ordering?_join, readToken_of_names names, if_neg row,
          if_pos column]
      · rw [if_neg (not_or.mpr ⟨row, column⟩)]
  · rw [normalForm_of_plain plain]

/-! ## Quotes -/

theorem mem_of_mem_unquoteToken {c : Char} (member : c ∈ rest.unquoteToken) : c ∈ rest := by
  unfold unquoteToken at member
  split at member
  · exact List.mem_of_mem_drop ((List.dropLast_sublist _).subset member)
  · exact member

/-- Only a text with quotes is changed when quotes are taken off. -/
theorem quote_mem_of_unquoteToken_ne (differs : rest.unquoteToken ≠ rest) : '"' ∈ rest := by
  unfold unquoteToken at differs
  split at differs
  · rename_i quoted
    rw [Bool.and_eq_true, Bool.and_eq_true, beq_iff_eq] at quoted
    exact List.mem_of_mem_head? (Option.mem_def.mpr quoted.1.2)
  · exact (differs rfl).elim

theorem unquoteToken_of_not_mem (unquoted : '"' ∉ rest) : rest.unquoteToken = rest := by
  by_cases same : rest.unquoteToken = rest
  · exact same
  · exact (unquoted (quote_mem_of_unquoteToken_ne same)).elim

/-- Quotes that were put around a text with blanks are taken off again. -/
theorem unquoteToken_quoteToken (apart : Solid rest ∨ '"' ∉ rest) :
    rest.quoteToken.unquoteToken = rest.unquoteToken := by
  rcases apart with solid | unquoted
  · rw [solid.quoteToken_eq]
  · rw [unquoteToken_of_not_mem unquoted]
    unfold quoteToken
    split
    · have last : ('"' :: rest ++ ['"']).getLast? = some '"' := List.getLast?_concat
      rw [unquoteToken, if_pos]
      · simp
      · rw [last]
        simp
    · exact unquoteToken_of_not_mem unquoted

/-! ## Written tokens -/

/-- A text is a token if it has the start and only characters of one, commas apart. -/
theorem isToken_of_subset {text : Text} (proper : token.IsToken) (filled : text ≠ [])
    (start : text.head? = token.head?) (inside : ∀ c ∈ text, c ∈ token ∨ c = ',') :
    text.IsToken where
  nonempty := filled
  lowered := by
    intro c member
    rcases inside c member with known | rfl
    · exact proper.lowered c known
    · decide +kernel
  start := by
    rw [start]
    exact proper.start
  apart := by
    rcases proper.apart with solid | unquoted
    · refine .inl ?_
      intro c member
      rcases inside c member with known | rfl
      · exact solid c known
      · decide
    · refine .inr ?_
      intro quote
      rcases inside '"' quote with known | same
      · exact unquoted known
      · revert same
        decide

/-- A token stays one when what follows its column name is replaced by a text of the same
characters, and of commas. -/
theorem Names.isToken {more : Text} (proper : token.IsToken) (names : Names token name rest)
    (inside : ∀ c ∈ more, c ∈ rest ∨ c = ',') : (name ++ ':' :: more).IsToken := by
  obtain ⟨split, -, filled⟩ := names
  refine isToken_of_subset proper (List.append_ne_nil_of_left_ne_nil filled _) ?_ ?_
  · obtain ⟨c, before, rfl⟩ := List.exists_cons_of_ne_nil filled
    rw [split]
    rfl
  · intro c member
    rw [List.mem_append, List.mem_cons] at member
    rw [split, List.mem_append, List.mem_cons]
    rcases member with before | colon | after
    · exact .inl (.inl before)
    · exact .inl (.inr (.inl colon))
    · rcases inside c after with known | comma
      · exact .inl (.inr (.inr known))
      · exact .inr comma

/-- The normal form of a token is a token. -/
theorem isToken_normalForm (proper : token.IsToken) : (normalForm token).IsToken := by
  rcases names_or_plain token with ⟨name, rest, names⟩ | plain
  · rw [normalForm_of_names names]
    split
    · refine names.isToken proper ?_
      intro c member
      rcases of_mem_join member with comma | ⟨piece, inside, known⟩
      · exact .inr (List.mem_singleton.mp comma)
      · exact .inl ((of_mem_splitNames inside).2 c known).1
    · exact proper
  · rwa [normalForm_of_plain plain]

/-- The bare form of a token is a token. -/
theorem isToken_bareForm? {bare : Text} (proper : token.IsToken)
    (found : bareForm? token = some bare) : bare.IsToken := by
  rcases names_or_plain token with ⟨name, rest, names⟩ | plain
  · rw [bareForm?_of_names names, Option.ite_none_left_eq_some, Option.some.injEq] at found
    rw [← found.2]
    refine names.isToken proper ?_
    intro c member
    exact .inl (mem_of_mem_unquoteToken member)
  · rw [bareForm?_of_plain plain] at found
    cases found

/-- What a token is written as are tokens. -/
theorem isToken_of_mem_written {text : Text} (proper : token.IsToken)
    (member : text ∈ written token) : text.IsToken := by
  rw [written, List.mem_append, Option.mem_toList, List.mem_singleton] at member
  rcases member with bare | rfl
  · exact isToken_bareForm? proper bare
  · exact isToken_normalForm proper

/-! ## Written controls -/

/-- An ordering is written with its keyword and the names that are not empty. -/
theorem text_ordering {make : List Text → Control} {keyword : Text}
    (writes : ∀ names, (make names).text = quoteToken (keyword ++ ':' :: join [','] names))
    (found : ordering? make rest = some control) :
    control.text = quoteToken (keyword ++ ':' :: join [','] (splitNames rest)) := by
  unfold ordering? at found
  rw [Option.ite_none_left_eq_some, Option.some.injEq] at found
  rw [← found.2, writes]

/-- What follows the column name of a token holds no blank or no quote. -/
theorem Names.apart (proper : token.IsToken) (names : Names token name rest) :
    Solid rest ∨ '"' ∉ rest := by
  have inside : ∀ c ∈ rest, c ∈ token := by
    intro c member
    rw [names.split]
    exact List.mem_append_right _ (List.mem_cons_of_mem _ member)
  rcases proper.apart with solid | unquoted
  · exact .inl fun c member => solid c (inside c member)
  · exact .inr fun quote => unquoted (inside '"' quote)

/-- The control for a column is written without quotes around all that follows its name. -/
theorem text_category {inner : Control} (proper : token.IsToken) (names : Names token name rest)
    (found : readInner read rest = .ok inner) :
    (category name inner).text = quoteToken (name ++ ':' :: rest.unquoteToken) := by
  rw [Control.text]
  unfold readInner at found
  split at found
  · rename_i empty
    rw [← Except.ok.inj found, List.isEmpty_iff.mp empty]
    rfl
  · rw [(text_readElement found).1, unquoteToken_quoteToken (names.apart proper)]

/-- A token from which quotes can be taken off holds no blanks, since it holds quotes. -/
theorem Names.solid_of_quotes (proper : token.IsToken) (names : Names token name rest)
    (quoted : rest.unquoteToken ≠ rest) : Solid token := by
  rcases proper.apart with solid | unquoted
  · exact solid
  · have quote := quote_mem_of_unquoteToken_ne quoted
    rw [names.split, List.mem_append, List.mem_cons, not_or, not_or] at unquoted
    exact (unquoted.2.2 quote).elim

/-- A token without blanks needs no quotes in its bare form either. -/
theorem Names.quoteToken_bare (names : Names token name rest) (solid : Solid token) :
    (name ++ ':' :: rest.unquoteToken).quoteToken = name ++ ':' :: rest.unquoteToken := by
  refine Solid.quoteToken_eq ?_
  intro c member
  refine solid c ?_
  rw [names.split]
  rw [List.mem_append, List.mem_cons] at member ⊢
  rcases member with before | colon | after
  · exact .inl before
  · exact .inr (.inl colon)
  · exact .inr (.inr (mem_of_mem_unquoteToken after))

/-- The two alternatives of a token with a column name are written as the tokens that the token is
written as: once without the quotes behind the name, and once as it is. They are the same text, and
written only once, if there are no quotes to take off. -/
theorem text_category_element {inner element : Control} (proper : token.IsToken)
    (names : Names token name rest) (keyword : ¬(name = rowSortKeyword ∨ name = columnSortKeyword))
    (first : (category name inner).text = quoteToken (name ++ ':' :: rest.unquoteToken))
    (second : element.text = quoteToken token) :
    (anyOf [category name inner, element]).text =
      join [' '] ((written token).map quoteToken) := by
  rw [not_or] at keyword
  rw [written, normalForm_of_names names, if_neg (not_or.mpr keyword), bareForm?_of_names names]
  by_cases same : rest.unquoteToken = rest
  · rw [same, ← names.split] at first
    rw [if_pos (.inr (.inr same)), text_anyOf_of_same, first]
    · rfl
    · rw [first]
      exact quoteToken_ne_nil proper.nonempty
    · intro other member
      rw [List.mem_singleton.mp member, first, second]
  · have solid : Solid token := names.solid_of_quotes proper same
    have bare := names.quoteToken_bare solid
    have differs : (name ++ ':' :: rest.unquoteToken) ≠ token := by
      rw [names.split]
      intro equal
      exact same (List.cons.inj (List.append_cancel_left equal)).2
    rw [if_neg (not_or.mpr ⟨keyword.1, not_or.mpr ⟨keyword.2, same⟩⟩), Control.text, texts_eq_map,
      List.map_cons, List.map_cons, List.map_nil, first, second, bare, solid.quoteToken_eq,
      firstOccurrences_cons (List.append_ne_nil_of_right_ne_nil _ (List.cons_ne_nil _ _))
        List.not_mem_nil,
      firstOccurrences_cons proper.nonempty]
    · simp [firstOccurrences, bare, solid.quoteToken_eq]
    · rw [List.mem_singleton]
      exact Ne.symm differs

/-- **Tokens.** The control for a token is written as its written tokens. -/
theorem text_readToken (proper : token.IsToken)
    (found : readToken read token = .ok (some control)) :
    control.text = join [' '] ((written token).map quoteToken) := by
  rcases names_or_plain token with ⟨name, rest, names⟩ | plain
  · by_cases row : name = rowSortKeyword
    · rw [readToken_of_names names, if_pos row] at found
      rw [written, normalForm_of_names names, if_pos (.inl row), bareForm?_of_names names,
        if_pos (.inl row), row]
      exact text_ordering (fun _ => rfl) (Except.ok.inj found)
    · by_cases column : name = columnSortKeyword
      · rw [readToken_of_names names, if_neg row, if_pos column] at found
        rw [written, normalForm_of_names names, if_pos (.inr column), bareForm?_of_names names,
          if_pos (.inr (.inl column)), column]
        exact text_ordering (fun _ => rfl) (Except.ok.inj found)
      · obtain ⟨inner, element, first, second, same⟩ := readToken_category names row column found
        rw [Option.some.inj same]
        exact text_category_element proper names (not_or.mpr ⟨row, column⟩)
          (text_category proper names first) (text_readElement second).1
  · rw [readToken_of_plain plain] at found
    obtain ⟨element, known, same⟩ := map_eq_ok.mp found
    rw [← Option.some.inj same, (text_readElement known).1, written, normalForm_of_plain plain,
      bareForm?_of_plain plain]
    rfl

end Control

end TableSearch
