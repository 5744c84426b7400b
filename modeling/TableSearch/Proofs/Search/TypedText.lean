import TableSearch.Proofs.Control.Acceptance
import TableSearch.Proofs.Search.Completion
import TableSearch.Proofs.Search.Literal
import TableSearch.Proofs.Search.Verdict
import TableSearch.Proofs.Text.Fold

/-! # Typing what a cell shows

A part of a cell, typed between double quotes, is looked for in lower case.  It is found in its own
place if it is folded there as it is by itself (`TableSearch.Text.FoldsAlike`).

`TableSearch.Control.shows_typed_iff`: the directive keeps the row exactly if it is read, no duration
is in the way, and the part is found in its own place, in another one, or in another reading.
-/

namespace TableSearch

/-- Whether a term is found in a cell in which terms are looked for without a column name. -/
def Term.IsFoundIn (read : DateReader) (cell : Cell) (term : Term) : Prop :=
  cell.head.general = true ∧
    ∃ found, term.find read cell.text = .ok found ∧ found.isEmpty = false

namespace Term

variable {read : DateReader} {needle text : Text} {offset place : Nat}

/-! ## Literals -/

/-- A literal is found in a text exactly if its folding stands somewhere in the folded text. -/
theorem findLiteral_filled_iff :
    (findLiteral needle text).isEmpty = false ↔
      ∃ place, needle.fold <+: text.fold.drop place := by
  have first : (occurrence? needle.fold 0 text.fold).isSome = true ↔
      ∃ place, needle.fold <+: text.fold.drop place := occurrence?_isSome_iff
  rw [findLiteral, SpanSet.ofList, SpanSet.isEmpty_foldl_insert, occurrences, List.drop_zero, ← first]
  cases occurrence? needle.fold 0 text.fold with
  | none => exact iff_of_false (fun absent => by cases absent) Bool.false_ne_true
  | some start => exact iff_of_true rfl rfl

/-- A literal is found in a cell exactly if it occurs in its folded text, and the column takes part
in the general search. -/
theorem literal_isFoundIn_iff {cell : Cell} :
    (literal needle).IsFoundIn read cell ↔
      cell.head.general = true ∧ ∃ place, needle.fold <+: cell.text.fold.drop place := by
  rw [IsFoundIn, ← findLiteral_filled_iff]
  refine and_congr_right fun _ => ?_
  constructor
  · rintro ⟨found, known, filled⟩
    cases known
    exact filled
  · intro filled
    exact ⟨_, rfl, filled⟩

end Term

namespace Control

open Text

variable {read : DateReader} {env : Environment} {heads : List ColumnHead} {texts : List Text}
  {term : Term} {terms : List Term} {control : Control} {cells : List Cell}
  {typed before after name : Text}

/-! ## Readings of a text -/

/-- A term shows a row exactly if its search does not break off and it is found in some cell. -/
theorem shows_term_iff (fits : heads.length = texts.length) :
    (Control.term term).Shows env heads texts ↔
      ¬(Control.term term).Aborts env heads texts ∧
        ∃ cell ∈ List.zipWith Cell.mk heads texts, term.IsFoundIn env.readDate cell := by
  have search : (Control.term term).isSearch = true := rfl
  rw [shows_iff search fits, aborts_iff search fits, Bool.not_eq_true, satisfied, reports,
    List.any_eq_true]
  refine and_congr_right fun _ => exists_congr fun cell => and_congr_right fun _ => ?_
  rw [reported, findCell, find, Term.IsFoundIn]
  by_cases general : cell.head.general = true
  · rw [if_pos general, and_iff_right general]
    cases term.find env.readDate cell.text with
    | error problem => simp [Except.map, SpanSet.isEmpty, SpanSet.empty]
    | ok found => simp [Except.map, CellMatch.spans]
  · rw [if_neg general]
    simp [general, CellMatch.spans, SpanSet.isEmpty, SpanSet.empty]

/-- The search for a term breaks off exactly if it is for durations and one of them is misspelled in
a cell of a column that takes part in the general search. -/
theorem aborts_term_iff (known : term ≠ .unknown) (fits : heads.length = texts.length) :
    (Control.term term).Aborts env heads texts ↔
      term.isDuration = true ∧ ∃ cell ∈ List.zipWith Cell.mk heads texts,
        cell.head.general = true ∧ Duration.IsMisspelled cell.text.trim := by
  rw [aborts_iff rfl fits, fails_iff (.term known), ← exists_and_left]
  refine exists_congr fun cell => ?_
  rw [StumblesOn, measures, Bool.and_eq_true]
  simp only [and_assoc, and_left_comm]

/-- The readings of a text show the rows that one of them shows, unless another one breaks off. -/
theorem shows_choice_iff :
    (choice terms).Shows env heads texts ↔
      (∃ term ∈ terms, (Control.term term).Shows env heads texts) ∧
        ∀ term ∈ terms, ¬(Control.term term).Aborts env heads texts := by
  have several : (anyOf (terms.map .term)).Shows env heads texts ↔
      (∃ term ∈ terms, (Control.term term).Shows env heads texts) ∧
        ∀ term ∈ terms, ¬(Control.term term).Aborts env heads texts := by
    have search : allSearch (terms.map Control.term) = true := by
      rw [allSearch_iff, List.forall_mem_map]
      exact fun _ _ => rfl
    rw [shows_anyOf_iff search, List.forall_mem_map]
    simp only [List.mem_map, exists_exists_and_eq_and]
  match terms with
  | [] => exact several
  | [single] =>
      rw [choice, List.forall_mem_singleton]
      simp only [List.mem_singleton, exists_eq_left]
      exact (and_iff_left_of_imp Shows.not_aborts).symm
  | first :: second :: rest => exact several

/-- The readings of a text show a row exactly if no duration that one of them looks for is misspelled
in it and one of them is found in it. -/
theorem shows_offered_iff (filled : typed ≠ []) (usable : Term.IsUsable typed)
    (fits : heads.length = texts.length) :
    (offered env.readDate typed).Shows env heads texts ↔
      (∀ term ∈ Term.fitting env.readDate typed, term.isDuration = true →
        ∀ cell ∈ List.zipWith Cell.mk heads texts, cell.head.general = true →
          ¬Duration.IsMisspelled cell.text.trim) ∧
      ∃ term ∈ Term.fitting env.readDate typed,
        ∃ cell ∈ List.zipWith Cell.mk heads texts, term.IsFoundIn env.readDate cell := by
  have readings : Term.readings env.readDate typed = .ok (Term.fitting env.readDate typed) :=
    (Term.readings_eq_ok_iff filled).mpr ⟨usable, rfl⟩
  have calm : (∀ term ∈ Term.fitting env.readDate typed,
      ¬(Control.term term).Aborts env heads texts) ↔
        ∀ term ∈ Term.fitting env.readDate typed, term.isDuration = true →
          ∀ cell ∈ List.zipWith Cell.mk heads texts, cell.head.general = true →
            ¬Duration.IsMisspelled cell.text.trim := by
    refine forall₂_congr fun term member => ?_
    have known := (Term.isReadingOf_of_mem_readings readings member).ne_unknown
    rw [aborts_term_iff known fits]
    simp only [not_and, not_exists]
  rw [offered, shows_choice_iff, ← calm, and_comm]
  refine and_congr_right fun free => exists_congr fun term => and_congr_right fun member => ?_
  rw [shows_term_iff fits, and_iff_right (free term member)]

/-! ## Typed texts -/

/-- A text without colons, typed between double quotes, is read in the ways in which its lower-case
form can be read. -/
theorem parse_quoted_iff (filled : typed ≠ []) (unquoted : '"' ∉ typed) (plain : ':' ∉ typed) :
    parse read ('"' :: (typed ++ ['"'])) = .ok control ↔
      Term.IsUsable typed.lower ∧ offered read typed.lower = control := by
  have lowered : typed.lower ≠ [] := lower_ne_nil filled
  have tokens : splitTokens ('"' :: (typed ++ ['"'])) = [typed.lower] := by
    have kept : (!typed.lower.isEmpty) = true := by simpa using lowered
    rw [splitTokens, scan_quoted unquoted, Token.scan_nil]
    exact List.filter_cons_of_pos kept
  exact parse_single_iff tokens lowered (not_mem_lower (by decide) plain)

/-- Whether a text is found in a row other than as a literal at one place of one cell. -/
inductive FoundElsewhere (read : DateReader) (cells : List Cell) (text : Text) (here : Cell)
    (place : Nat) : Prop
  /-- As a literal at another place. -/
  | again {cell : Cell} {other : Nat} (member : cell ∈ cells) (general : cell.head.general = true)
      (apart : ¬(cell = here ∧ other = place)) (stands : text.fold <+: cell.text.fold.drop other)
  /-- In another reading. -/
  | reading {term : Term} {cell : Cell} (fits : term ∈ (Term.fitting read text).tail)
      (member : cell ∈ cells) (found : term.IsFoundIn read cell)

/-- A part of a cell is found in the row of the cell if it is folded there as it is by itself, or if
it is found elsewhere. -/
theorem exists_isFoundIn_iff (here : ⟨⟨name, true⟩, before ++ (typed ++ after)⟩ ∈ cells) :
    (∃ term ∈ Term.fitting read typed.lower, ∃ cell ∈ cells, term.IsFoundIn read cell) ↔
      FoldsAlike before typed after ∨
        FoundElsewhere read cells typed.lower ⟨⟨name, true⟩, before ++ (typed ++ after)⟩
          before.length := by
  rw [foldsAlike_iff_stands]
  constructor
  · rintro ⟨term, fits, cell, member, found⟩
    rcases List.mem_cons.mp fits with rfl | other
    · obtain ⟨general, place, stands⟩ := Term.literal_isFoundIn_iff.mp found
      by_cases same : cell = ⟨⟨name, true⟩, before ++ (typed ++ after)⟩ ∧ place = before.length
      · obtain ⟨rfl, rfl⟩ := same
        exact .inl stands
      · exact .inr (.again member general same stands)
    · exact .inr (.reading other member found)
  · intro found
    rcases found with stands | ⟨member, general, -, stands⟩ | ⟨fits, member, found⟩
    · refine ⟨.literal typed.lower, List.mem_cons_self, _, here, ?_⟩
      exact Term.literal_isFoundIn_iff.mpr ⟨rfl, _, stands⟩
    · refine ⟨.literal typed.lower, List.mem_cons_self, _, member, ?_⟩
      exact Term.literal_isFoundIn_iff.mpr ⟨general, _, stands⟩
    · exact ⟨_, List.mem_of_mem_tail fits, _, member, found⟩

/-- **Typed texts.** A part of a cell in a column that takes part in the general search, without
quotes and colons and typed between double quotes, keeps the row exactly if its lower-case form can
be read, no duration that it is read as is misspelled in the row, and it is folded in the cell as it
is by itself or found elsewhere in the row. -/
theorem shows_typed_iff (filled : typed ≠ []) (unquoted : '"' ∉ typed) (plain : ':' ∉ typed)
    (fits : heads.length = texts.length)
    (here : ⟨⟨name, true⟩, before ++ (typed ++ after)⟩ ∈ List.zipWith Cell.mk heads texts) :
    (∃ control, parse env.readDate ('"' :: (typed ++ ['"'])) = .ok control ∧
        control.Shows env heads texts) ↔
      Term.IsUsable typed.lower ∧
        (∀ term ∈ Term.fitting env.readDate typed.lower, term.isDuration = true →
          ∀ cell ∈ List.zipWith Cell.mk heads texts, cell.head.general = true →
            ¬Duration.IsMisspelled cell.text.trim) ∧
        (FoldsAlike before typed after ∨
          FoundElsewhere env.readDate (List.zipWith Cell.mk heads texts) typed.lower
            ⟨⟨name, true⟩, before ++ (typed ++ after)⟩ before.length) := by
  rw [← exists_isFoundIn_iff here]
  simp only [parse_quoted_iff filled unquoted plain, and_assoc, exists_and_left, exists_eq_left']
  refine and_congr_right fun usable => ?_
  exact shows_offered_iff (lower_ne_nil filled) usable fits

/-- A cell with nothing but a dotted capital I is not kept by typing all of it. -/
theorem not_shown_of_dotted :
    let env : Environment := ⟨fun _ => none, fun _ _ => false⟩
    let typed : Text := ['İ']
    let heads : List ColumnHead := [⟨['x'], true⟩]
    let texts : List Text := [typed]
    typed ≠ [] ∧ '"' ∉ typed ∧ ':' ∉ typed ∧ heads.length = texts.length ∧
      ⟨⟨['x'], true⟩, [] ++ (typed ++ [])⟩ ∈ List.zipWith Cell.mk heads texts ∧
      ¬∃ control, parse env.readDate ('"' :: (typed ++ ['"'])) = .ok control ∧
        control.Shows env heads texts := by
  intro env typed heads texts
  have here : ⟨⟨['x'], true⟩, [] ++ (typed ++ [])⟩ ∈ List.zipWith Cell.mk heads texts := by
    decide
  have literal : (Term.fitting env.readDate typed.lower).tail = [] := by decide +kernel
  refine ⟨by decide, by decide, by decide, rfl, here, ?_⟩
  rw [shows_typed_iff (by decide) (by decide) (by decide) rfl here]
  rintro ⟨-, -, alike | elsewhere⟩
  · exact alike.undotted (by decide)
  · cases elsewhere with
    | @again cell place member _ _ stands =>
        rw [List.mem_singleton.mp member] at stands
        have long : typed.lower.fold.length = 2 := by decide +kernel
        have short : typed.fold.length = 1 := by decide +kernel
        have reach : typed.lower.fold.length ≤ (typed.fold.drop place).length := stands.length_le
        rw [List.length_drop] at reach
        omega
    | reading other =>
        rw [literal] at other
        cases other

end Control

end TableSearch
