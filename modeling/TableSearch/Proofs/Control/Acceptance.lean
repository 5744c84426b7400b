import Mathlib.Data.List.Basic
import TableSearch.Proofs.Control.Reparse
import TableSearch.Proofs.Duration.Spelling

/-! # The directives that are read

A reading that does not fit is left out of the control for a token
(`TableSearch.Control.promised`).  Two readings may have no answer at all: a duration with a
misspelled unit, and a pattern that is refused for something other than its form.  A directive with
such a text is not read; every other one is read as promised
(`TableSearch.Control.parse_eq_promised_iff`).
-/

namespace TableSearch

namespace Term

variable {read : DateReader} {text : Text} {terms : List Term}

/-! ## Durations and patterns -/

/-- The texts that are read as durations: those around the first dash, or the whole text. -/
def durationTexts (text : Text) : List Text :=
  match Text.indexOf? '-' text with
  | some (dash + 1) => [text.take (dash + 1), text.drop (dash + 2)]
  | _ => [text]

/-- Whether every reading of a text has an answer. -/
structure IsUsable (text : Text) : Prop where
  spelled : ∀ part ∈ durationTexts text, ¬Duration.IsMisspelled part
  refused : ∀ source problem, text = '\\' :: source → source ≠ [] →
    Pattern.compile source = .error problem → problem = .malformed

/-- Reading a text as one duration fails exactly if it is misspelled. -/
theorem readDurationWhole?_answers_iff :
    (∃ found, readDurationWhole? text = .ok found) ↔ ¬Duration.IsMisspelled text := by
  rw [← Duration.readWhole?_answers_iff]
  unfold readDurationWhole?
  cases Duration.readWhole? text with
  | ok found => simp
  | error problem => simp

/-- Reading a text as a range of durations fails exactly if one of its bounds is misspelled. -/
theorem readDuration?_answers_iff :
    (∃ found, readDuration? text = .ok found) ↔
      ∀ part ∈ durationTexts text, ¬Duration.IsMisspelled part := by
  have whole : (∃ found, (do return (← readDurationWhole? text).map Term.duration) = .ok found) ↔
      ¬Duration.IsMisspelled text := by
    rw [← readDurationWhole?_answers_iff]
    constructor
    · rintro ⟨found, answer⟩
      obtain ⟨length, known, -⟩ := bind_eq_ok.mp answer
      exact ⟨length, known⟩
    · rintro ⟨length, known⟩
      exact ⟨length.map .duration, by rw [known]; rfl⟩
  unfold readDuration? durationTexts
  cases Text.indexOf? '-' text with
  | none =>
      rw [List.forall_mem_singleton]
      exact whole
  | some dash =>
      cases dash with
      | zero =>
          rw [List.forall_mem_singleton]
          exact whole
      | succ dash =>
          -- The text after the dash is read even if the one before it is no duration.
          rw [List.forall_mem_cons, List.forall_mem_singleton, ← readDurationWhole?_answers_iff,
            ← readDurationWhole?_answers_iff]
          constructor
          · rintro ⟨found, answer⟩
            obtain ⟨low, first, later⟩ := bind_eq_ok.mp answer
            obtain ⟨high, second, -⟩ := bind_eq_ok.mp later
            exact ⟨⟨low, first⟩, high, second⟩
          · rintro ⟨⟨low, first⟩, high, second⟩
            cases low with
            | none => exact ⟨none, bind_eq_ok.mpr ⟨none, first, bind_eq_ok.mpr ⟨high, second, rfl⟩⟩⟩
            | some low =>
                refine ⟨high.map (.durationRange text low), ?_⟩
                refine bind_eq_ok.mpr ⟨some low, first, bind_eq_ok.mpr ⟨high, second, ?_⟩⟩
                cases high with
                | none => rfl
                | some high => rfl

/-- A source that compiles is read as a pattern. -/
theorem ofPattern_of_ok {source : Text} {node : Node}
    (compiled : Pattern.compile source = .ok node) : ∃ term, ofPattern source = .ok term := by
  have known : ∃ pattern, Pattern.ofText source = .ok pattern := by
    unfold Pattern.ofText
    split
    · exact ⟨_, rfl⟩
    · rename_i refused
      rw [compiled] at refused
      cases refused
  obtain ⟨pattern, found⟩ := known
  exact ⟨.regex pattern, by rw [ofPattern, found]⟩

/-- A source that does not compile is refused with the problem that the compiler found. -/
theorem ofPattern_of_error {source : Text} {problem : PatternError}
    (refused : Pattern.compile source = .error problem) :
    ofPattern source = .error (.pattern problem) := by
  have known : Pattern.ofText source = .error problem := by
    unfold Pattern.ofText
    split
    · rename_i compiled
      rw [refused] at compiled
      cases compiled
    · rename_i same
      rw [refused] at same
      rw [Except.error.inj same]
  rw [ofPattern, known]

/-- Reading a text as a pattern fails exactly if it is one that is refused for something other than
its form. -/
theorem readPattern?_answers_iff :
    (∃ found, readPattern? text = .ok found) ↔
      ∀ source problem, text = '\\' :: source → source ≠ [] →
        Pattern.compile source = .error problem → problem = .malformed := by
  unfold readPattern?
  split
  · rename_i c rest
    constructor
    · rintro ⟨found, answer⟩ source problem same - refused
      cases same
      rw [ofPattern_of_error refused] at answer
      cases problem with
      | malformed => rfl
      | repetitionTooLarge => cases answer
      | countTooLong digits => cases answer
      | incompatibleModes => cases answer
    · intro refused
      cases compiled : Pattern.compile (c :: rest) with
      | ok node =>
          obtain ⟨term, known⟩ := ofPattern_of_ok compiled
          exact ⟨some term, by rw [known]⟩
      | error problem =>
          have form := refused _ problem rfl (List.cons_ne_nil c rest) compiled
          exact ⟨none, by rw [ofPattern_of_error compiled, form]⟩
  · rename_i other
    refine ⟨fun _ => ?_, fun _ => ⟨none, rfl⟩⟩
    rintro source problem rfl filled
    cases source with
    | nil => exact (filled rfl).elim
    | cons c rest => exact (other c rest rfl).elim

/-- Of all readings of a text only those as durations and as a pattern may fail. -/
theorem isUsable_iff :
    IsUsable text ↔ (∃ duration, readDuration? text = .ok duration) ∧
      ∃ pattern, readPattern? text = .ok pattern := by
  rw [readDuration?_answers_iff, readPattern?_answers_iff]
  exact ⟨fun usable => ⟨usable.spelled, usable.refused⟩, fun both => ⟨both.1, both.2⟩⟩

theorem isUsable_nil : IsUsable [] :=
  isUsable_iff.mpr ⟨⟨none, rfl⟩, none, rfl⟩

/-! ## All readings -/

/-- The readings of a text that fit, the literal first. -/
def fitting (read : DateReader) (text : Text) : List Term :=
  .literal text :: [readDigitRange? text, readNumberRange? text, readInstant? read text,
    (readDuration? text).toOption.join, readWildcard? text,
    (readPattern? text).toOption.join].filterMap id

/-- The readings of a text are those that fit, if none of them fails. -/
theorem readings_eq_ok_iff (filled : text ≠ []) :
    readings read text = .ok terms ↔ IsUsable text ∧ fitting read text = terms := by
  constructor
  · intro found
    obtain ⟨-, duration, pattern, length, source, rfl⟩ := exists_of_readings found
    refine ⟨isUsable_iff.mpr ⟨⟨duration, length⟩, pattern, source⟩, ?_⟩
    rw [fitting, length, source]
    rfl
  · rintro ⟨usable, rfl⟩
    obtain ⟨⟨duration, length⟩, pattern, source⟩ := isUsable_iff.mp usable
    have literal : ofLiteral text = .ok (.literal text) :=
      if_neg (mt List.isEmpty_iff.mp filled)
    rw [readings, fitting, literal, length, source]
    rfl

end Term

namespace Control

open Text

variable {read : DateReader} {directive token name rest text : Text} {control : Control}
  {answer : Option Control}

/-! ## Tokens -/

/-- The control for a text with the given readings. -/
def choice : List Term → Control
  | [single] => .term single
  | several => .anyOf (several.map .term)

/-- The control for a text out of the readings that fit. -/
def offered (read : DateReader) (text : Text) : Control :=
  choice (Term.fitting read text)

/-- An element of a directive is the choice between the readings of its text. -/
theorem readElement_eq_map : readElement read text = (Term.readings read text).map choice := by
  unfold readElement
  cases Term.readings read text with
  | error problem => rfl
  | ok terms =>
      match terms with
      | [] => rfl
      | [single] => rfl
      | first :: second :: rest => rfl

/-- An element of a directive is the choice between the readings that fit, if none of them fails. -/
theorem readElement_eq_ok_iff (filled : text ≠ []) :
    readElement read text = .ok control ↔ Term.IsUsable text ∧ offered read text = control := by
  rw [readElement_eq_map, map_eq_ok]
  constructor
  · rintro ⟨terms, found, rfl⟩
    obtain ⟨usable, rfl⟩ := (Term.readings_eq_ok_iff filled).mp found
    exact ⟨usable, rfl⟩
  · rintro ⟨usable, rfl⟩
    exact ⟨_, (Term.readings_eq_ok_iff filled).mpr ⟨usable, rfl⟩, rfl⟩

/-- What follows the name of a column is a search for empty cells if it is empty, and otherwise the
choice between the readings that fit. -/
theorem readInner_eq_ok_iff :
    readInner read rest = .ok control ↔
      Term.IsUsable rest ∧ (if rest.isEmpty then emptyCell else offered read rest) = control := by
  unfold readInner
  by_cases empty : rest = []
  · rw [empty, List.isEmpty_nil, if_pos rfl, if_pos rfl, Except.ok.injEq]
    exact (and_iff_right Term.isUsable_nil).symm
  · have filled : ¬rest.isEmpty = true := mt List.isEmpty_iff.mp empty
    rw [if_neg filled, if_neg filled]
    exact readElement_eq_ok_iff empty

/-- What is made of a token without a column name, or of its column name and what follows it. -/
def onNames {α : Type} (token : Text) (plain : α) (named : Text → Text → α) : α :=
  match indexOf? ':' token with
  | none | some 0 => plain
  | some colon => named (token.take colon) (token.drop (colon + 1))

/-- A token without a column name is treated as a whole. -/
theorem onNames_of_plain {α : Type} {alone : α} {named : Text → Text → α}
    (plain : indexOf? ':' token = none ∨ indexOf? ':' token = some 0) :
    onNames token alone named = alone := by
  rcases plain with none | zero
  · rw [onNames, none]
  · rw [onNames, zero]
    rfl

/-- A token with a column name is treated as that name and what follows it. -/
theorem onNames_of_names {α : Type} {alone : α} {named : Text → Text → α}
    (names : Names token name rest) : onNames token alone named = named name rest := by
  obtain ⟨before, length⟩ := names.length_eq
  have take := names.take_eq
  have drop := names.drop_eq
  rw [length] at take drop
  rw [onNames, names.indexOf?_eq, length]
  simp only [take, drop]

/-- The texts of a token that are read as terms: the token, and what follows its column name.
Orderings have none. -/
def elements (token : Text) : List Text :=
  onNames token [token] fun name rest =>
    if name = rowSortKeyword ∨ name = columnSortKeyword then [] else [rest, token]

/-- The control for a token out of the readings that fit, if it has one. -/
def promised? (read : DateReader) (token : Text) : Option Control :=
  onNames token (some (offered read token)) fun name rest =>
    if name = rowSortKeyword then ordering? .rowSort rest
    else if name = columnSortKeyword then ordering? .columnSort rest
    else some (.anyOf [.category name (if rest.isEmpty then emptyCell else offered read rest),
      offered read token])

/-- A token is read exactly if its texts are usable, as the control out of the readings that fit. -/
theorem readToken_eq_ok_iff (filled : token ≠ []) :
    readToken read token = .ok answer ↔
      (∀ element ∈ elements token, Term.IsUsable element) ∧ promised? read token = answer := by
  rcases names_or_plain token with ⟨name, rest, names⟩ | plain
  · rw [readToken_of_names names, elements, onNames_of_names names, promised?,
      onNames_of_names names]
    by_cases row : name = rowSortKeyword
    · rw [if_pos row, if_pos (.inl row), if_pos row, Except.ok.injEq]
      exact (and_iff_right fun _ => List.not_mem_nil.elim).symm
    · rw [if_neg row, if_neg row]
      by_cases column : name = columnSortKeyword
      · rw [if_pos column, if_pos (.inr column), if_pos column, Except.ok.injEq]
        exact (and_iff_right fun _ => List.not_mem_nil.elim).symm
      · rw [if_neg column, if_neg column, if_neg (not_or.mpr ⟨row, column⟩),
          List.forall_mem_cons, List.forall_mem_singleton]
        constructor
        · intro found
          obtain ⟨inner, first, later⟩ := bind_eq_ok.mp found
          obtain ⟨element, second, same⟩ := map_eq_ok.mp later
          obtain ⟨usable, rfl⟩ := readInner_eq_ok_iff.mp first
          obtain ⟨whole, rfl⟩ := (readElement_eq_ok_iff filled).mp second
          exact ⟨⟨usable, whole⟩, same⟩
        · rintro ⟨⟨usable, whole⟩, rfl⟩
          refine bind_eq_ok.mpr ⟨_, readInner_eq_ok_iff.mpr ⟨usable, rfl⟩, ?_⟩
          exact map_eq_ok.mpr ⟨_, (readElement_eq_ok_iff filled).mpr ⟨whole, rfl⟩, rfl⟩
  · rw [readToken_of_plain plain, elements, onNames_of_plain plain, promised?,
      onNames_of_plain plain, List.forall_mem_singleton, map_eq_ok]
    constructor
    · rintro ⟨element, found, rfl⟩
      obtain ⟨usable, rfl⟩ := (readElement_eq_ok_iff filled).mp found
      exact ⟨usable, rfl⟩
    · rintro ⟨usable, rfl⟩
      exact ⟨_, (readElement_eq_ok_iff filled).mpr ⟨usable, rfl⟩, rfl⟩

/-! ## Directives -/

/-- The control that a directive should be read as: every token in the ways that fit. -/
def promised (read : DateReader) (directive : Text) : Control :=
  together ((splitTokens directive).filterMap (promised? read))

/-- A directive that is one token without a colon is read as the readings of the token that fit. -/
theorem parse_single_iff (single : splitTokens directive = [token]) (filled : token ≠ [])
    (plain : ':' ∉ token) :
    parse read directive = .ok control ↔
      Term.IsUsable token ∧ offered read token = control := by
  have nameless : indexOf? ':' token = none := by
    apply List.findIdx?_eq_none_iff.mpr
    intro c member
    rw [beq_eq_false_iff_ne]
    rintro rfl
    exact plain member
  have alone : readToken read token = (readElement read token).map some :=
    readToken_of_plain (.inl nameless)
  have known : Term.IsUsable token → readToken read token = .ok (some (offered read token)) := by
    intro usable
    rw [alone, (readElement_eq_ok_iff filled).mpr ⟨usable, rfl⟩]
    rfl
  have together_eq : Term.IsUsable token →
      together (readAll read [token]) = offered read token := by
    intro usable
    rw [readAll, List.filterMap_cons, reading?_eq_some_iff.mpr (known usable)]
    rfl
  rw [parse_eq_ok_iff, single, List.forall_mem_singleton]
  constructor
  · rintro ⟨⟨reading, found⟩, rfl⟩
    rw [alone] at found
    obtain ⟨element, answer, -⟩ := map_eq_ok.mp found
    have usable := ((readElement_eq_ok_iff filled).mp answer).1
    exact ⟨usable, (together_eq usable).symm⟩
  · rintro ⟨usable, rfl⟩
    exact ⟨⟨_, known usable⟩, together_eq usable⟩

/-- **Reading.** A directive is read exactly if every text in it is usable, and then as promised. -/
theorem parse_eq_promised_iff :
    parse read directive = .ok control ↔
      (∀ token ∈ splitTokens directive, ∀ element ∈ elements token, Term.IsUsable element) ∧
        promised read directive = control := by
  have filled : ∀ token ∈ splitTokens directive, token ≠ [] := by
    intro token member
    exact (isToken_of_mem_splitTokens member).nonempty
  rw [parse_eq_ok_iff]
  have readable : (∀ token ∈ splitTokens directive, IsReadable read token) ↔
      ∀ token ∈ splitTokens directive, ∀ element ∈ elements token, Term.IsUsable element := by
    refine forall₂_congr fun token member => ?_
    constructor
    · rintro ⟨reading, found⟩
      exact ((readToken_eq_ok_iff (filled token member)).mp found).1
    · intro usable
      exact ⟨_, (readToken_eq_ok_iff (filled token member)).mpr ⟨usable, rfl⟩⟩
  rw [readable]
  refine and_congr_right fun usable => ?_
  -- Each token is read as promised, so the controls that are put together are those promised.
  have same : readAll read (splitTokens directive) =
      (splitTokens directive).filterMap (promised? read) := by
    refine List.filterMap_congr fun token member => ?_
    have found : readToken read token = .ok (promised? read token) :=
      (readToken_eq_ok_iff (filled token member)).mpr ⟨usable token member, rfl⟩
    rw [reading?, found]
  rw [same, promised]

/-- A duration with the long s for a unit is not read, nor is a pattern with a count that is out of
range. -/
theorem not_read_of_long_s_of_count :
    let read : DateReader := fun _ => none
    let count : Text := ['\\', 'a', '{', '4', '2', '9', '4', '9', '6', '7', '2', '9', '5', '}']
    (¬∃ control, parse read ['5', 'ſ'] = .ok control) ∧
      ¬∃ control, parse read count = .ok control := by
  intro read count
  constructor
  · rintro ⟨control, found⟩
    have usable := (parse_eq_promised_iff.mp found).1 ['5', 'ſ'] (by decide +kernel) ['5', 'ſ']
      (by decide)
    exact usable.spelled ['5', 'ſ'] (by decide) (by decide +kernel)
  · rintro ⟨control, found⟩
    have usable := (parse_eq_promised_iff.mp found).1 count (by decide +kernel) count (by decide)
    have refused : Pattern.compile (count.drop 1) = .error .repetitionTooLarge := by
      decide +kernel
    cases usable.refused (count.drop 1) .repetitionTooLarge rfl (List.cons_ne_nil _ _) refused

end Control

end TableSearch
