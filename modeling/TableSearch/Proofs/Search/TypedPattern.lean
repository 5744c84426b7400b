import TableSearch.Proofs.Control.Acceptance
import TableSearch.Proofs.Pattern.LowerCase
import TableSearch.Search.Term

/-! # Typing a pattern

A pattern is typed behind a backslash, and the whole token is put in lower case before it is read.

`TableSearch.Control.findsTyped_iff`: one of the readings finds what the pattern finds exactly if the
pattern is not empty, no duration is misspelled in the token, and the pattern in lower case finds the
same.  The last holds for every pattern that says nothing about letter case.
-/

namespace TableSearch

namespace Text

open CharCase

variable {passed text : Text} {c : Char}

/-- A character that has no case and is not looked through counts as the start of a text. -/
theorem lowerFrom_append_singleton (uncased : isCased c = false) (seen : isIgnorable c = false) :
    lowerFrom (passed ++ [c]) text = lowerFrom passed text := by
  have stops : [c].find? (fun c => isCased c || !isIgnorable c) = some c := by
    rw [List.find?_singleton, uncased, seen]
    rfl
  have same : ∀ passed, meetsCased (passed ++ [c]) = meetsCased passed := by
    intro passed
    rw [meetsCased, meetsCased, List.find?_append, stops]
    cases passed.find? fun c => isCased c || !isIgnorable c with
    | none => exact uncased
    | some found => rfl
  induction text generalizing passed with
  | nil => rfl
  | cons d rest ih => rw [lowerFrom, lowerFrom, same, ← List.cons_append, ih]

/-- A backslash in front of a pattern stays when both are put in lower case. -/
theorem lower_backslash : lower ('\\' :: text) = '\\' :: lower text := by
  have uncased : isCased '\\' = false := by decide +kernel
  have seen : isIgnorable '\\' = false := by decide +kernel
  have kept : lowerForm '\\' = ['\\'] := by decide
  have rest : lowerFrom ([] ++ ['\\']) text = lowerFrom [] text :=
    lowerFrom_append_singleton uncased seen
  rw [lower, lowerFrom, if_neg (by decide), kept, lower, ← rest]
  rfl

end Text

/-- Whether two patterns find the same in every text. -/
def Pattern.FindsSame (p q : Pattern) : Prop :=
  ∀ text, Term.findPattern q text = Term.findPattern p text

/-- Whether a pattern typed behind a backslash is read, among other things, as one that finds the
same. -/
def Control.FindsTyped (read : DateReader) (p : Pattern) : Prop :=
  ∃ children q, parse read ('\\' :: p.source) = .ok (.anyOf children) ∧
    .term (.regex q) ∈ children ∧ p.FindsSame q

namespace Term

variable {read : DateReader} {q : Pattern} {text : Text} {term : Term}

/-- A pattern that compiles is read from its source. -/
theorem ofPattern_source : ofPattern q.source = .ok (.regex q) := by
  obtain ⟨term, found⟩ := ofPattern_of_ok q.compiled
  unfold ofPattern at found ⊢
  split at found
  · rename_i other same
    rw [Pattern.eq_of_source_eq (source_ofText same)]
  · cases found

/-- No instant is read as a pattern. -/
theorem readInstant?_ne_regex : readInstant? read text ≠ some (.regex q) := by
  intro found
  unfold readInstant? at found
  split at found
  · cases found
  · obtain ⟨dash, -, ranged⟩ := List.exists_of_findSome?_eq_some found
    obtain ⟨low, -, later⟩ := Option.bind_eq_some_iff.mp ranged
    obtain ⟨high, -, same⟩ := Option.bind_eq_some_iff.mp later
    cases same

/-- A backslash alone is no pattern. -/
theorem regex_not_mem_fitting : .regex q ∉ fitting read ['\\'] := by
  have digits : readDigitRange? ['\\'] = none := by decide +kernel
  have numbers : readNumberRange? ['\\'] = none := by decide +kernel
  have duration : readDuration? ['\\'] = .ok none := by decide +kernel
  have wildcard : readWildcard? ['\\'] = none := by decide +kernel
  have pattern : readPattern? ['\\'] = .ok none := rfl
  rw [fitting, digits, numbers, duration, wildcard, pattern]
  intro member
  simp only [List.mem_cons, reduceCtorEq, List.mem_filterMap, List.not_mem_nil, or_false, false_or,
    id, exists_eq_right, Except.toOption, Option.join_some] at member
  exact readInstant?_ne_regex member.symm

/-- The pattern behind a backslash is the reading of a text as a pattern. -/
theorem regex_mem_fitting_iff (usable : IsUsable ('\\' :: text)) :
    .regex q ∈ fitting read ('\\' :: text) ↔ text ≠ [] ∧ q.source = text := by
  constructor
  · intro member
    have readings : readings read ('\\' :: text) = .ok (fitting read ('\\' :: text)) :=
      (readings_eq_ok_iff (List.cons_ne_nil _ _)).mpr ⟨usable, rfl⟩
    have source : q.source = text := by
      cases isReadingOf_of_mem_readings readings member with
      | regex same => exact List.tail_eq_of_cons_eq same
    refine ⟨?_, source⟩
    rintro rfl
    exact regex_not_mem_fitting member
  · rintro ⟨filled, rfl⟩
    have reading : readPattern? ('\\' :: q.source) = .ok (some (.regex q)) := by
      obtain ⟨c, rest, split⟩ := List.exists_cons_of_ne_nil filled
      have whole : ofPattern (c :: rest) = .ok (.regex q) := by
        rw [← split]
        exact ofPattern_source
      rw [split, readPattern?, whole]
    rw [fitting, reading]
    refine List.mem_cons_of_mem _ (List.mem_filterMap.mpr ⟨some (.regex q), ?_, rfl⟩)
    simp [Except.toOption]

end Term

namespace Control

open Text

variable {read : DateReader} {p q : Pattern} {text : Text}

/-- A backslash and a pattern without blanks are one token, in lower case. -/
theorem splitTokens_pattern (solid : ∀ c ∈ text, CharClass.isBlank c = false) :
    splitTokens ('\\' :: text) = ['\\' :: text.lower] := by
  have whole : ∀ c ∈ '\\' :: text, CharClass.isBlank c = false := by
    rw [List.forall_mem_cons]
    exact ⟨by decide, solid⟩
  have scanned : Token.scan (('\\' :: text) ++ []) = .word ('\\' :: text) :: Token.scan [] :=
    scan_unquoted (List.cons_ne_nil '\\' text) (by simp) whole (.inl rfl)
  rw [List.append_nil, Token.scan_nil] at scanned
  rw [splitTokens, scanned, List.map_singleton, Token.text, lower_backslash]
  rfl

/-- Where a token has several readings, its parts are those readings. -/
theorem eq_map_of_choice {terms : List Term} {children : List Control}
    (several : choice terms = .anyOf children) : children = terms.map .term := by
  match terms with
  | [] => exact (anyOf.inj several).symm
  | [single] => cases several
  | first :: second :: rest => exact (anyOf.inj several).symm

/-- A text with a reading as a pattern has several readings. -/
theorem offered_eq_anyOf (member : .regex q ∈ Term.fitting read text) :
    offered read text = .anyOf ((Term.fitting read text).map .term) := by
  rw [Term.fitting, List.mem_cons] at member
  rcases member with impossible | other
  · cases impossible
  · obtain ⟨first, rest, split⟩ := List.exists_cons_of_ne_nil (List.ne_nil_of_mem other)
    rw [offered, Term.fitting, split]
    rfl

/-- A reading of the typed pattern finds what the pattern finds exactly if there is something to
type, no duration is misspelled in the token, and the pattern in lower case compiles to one that
finds the same. -/
theorem findsTyped_iff_exists (read : DateReader) (solid : ∀ c ∈ p.source, CharClass.isBlank c = false)
    (plain : ':' ∉ p.source) :
    FindsTyped read p ↔ p.source ≠ [] ∧
      (∀ part ∈ Term.durationTexts ('\\' :: p.source.lower), ¬Duration.IsMisspelled part) ∧
        ∃ q : Pattern, q.source = p.source.lower ∧ p.FindsSame q := by
  have unnamed : ':' ∉ '\\' :: p.source.lower := by
    rw [List.mem_cons, not_or]
    exact ⟨by decide, not_mem_lower (by decide) plain⟩
  have reads {control : Control} : parse read ('\\' :: p.source) = .ok control ↔
      Term.IsUsable ('\\' :: p.source.lower) ∧
        offered read ('\\' :: p.source.lower) = control :=
    parse_single_iff (splitTokens_pattern solid) (List.cons_ne_nil _ _) unnamed
  constructor
  · rintro ⟨children, q, found, member, same⟩
    obtain ⟨usable, offers⟩ := reads.mp found
    rw [eq_map_of_choice offers, List.mem_map] at member
    obtain ⟨term, fits, known⟩ := member
    rw [Control.term.inj known, Term.regex_mem_fitting_iff usable] at fits
    exact ⟨mt (congrArg lower) fits.1, usable.spelled, q, fits.2, same⟩
  · rintro ⟨filled, spelled, q, source, same⟩
    have usable : Term.IsUsable ('\\' :: p.source.lower) := by
      refine ⟨spelled, ?_⟩
      rintro other problem split - refused
      have compiled := q.compiled
      rw [source, List.tail_eq_of_cons_eq split, refused] at compiled
      cases compiled
    have member : .regex q ∈ Term.fitting read ('\\' :: p.source.lower) :=
      (Term.regex_mem_fitting_iff usable).mpr ⟨lower_ne_nil filled, source⟩
    exact ⟨_, q, reads.mpr ⟨usable, offered_eq_anyOf member⟩, List.mem_map_of_mem member, same⟩

/-- **Typed patterns.** A pattern without blanks and colons, typed behind a backslash, is read as one
that finds the same exactly if it is not empty, no duration is misspelled in the token, and the
pattern in lower case finds the same.  The last holds if the pattern says nothing about letter
case. -/
theorem findsTyped_iff (solid : ∀ c ∈ p.source, CharClass.isBlank c = false)
    (plain : ':' ∉ p.source) :
    (FindsTyped read p ↔ p.source ≠ [] ∧
      (∀ part ∈ Term.durationTexts ('\\' :: p.source.lower), ¬Duration.IsMisspelled part) ∧
        ∃ q : Pattern, q.source = p.source.lower ∧ p.FindsSame q) ∧
    (Pattern.IsCaseless p.source → (FindsTyped read p ↔ p.source ≠ [] ∧
      ∀ part ∈ Term.durationTexts ('\\' :: p.source.lower), ¬Duration.IsMisspelled part)) := by
  have whole := findsTyped_iff_exists read solid plain
  refine ⟨whole, fun caseless => ?_⟩
  have lowered : ∃ q : Pattern, q.source = p.source.lower ∧ p.FindsSame q := by
    obtain ⟨q, source, same⟩ := p.exists_lower caseless
    refine ⟨q, source, fun text => ?_⟩
    rw [Term.findPattern, same, Term.findPattern]
  rw [whole, and_iff_left lowered]

/-- A set of capitals, typed behind a backslash, is looked for.  Any character but a digit is not: in
lower case the pattern is a digit. -/
theorem findsTyped_of_capitals_not_of_class :
    let capitals : Pattern :=
      ⟨['[', 'A', '-', 'Z', ']'], .char ⟨[.range 65 90], false, .folded⟩, by decide +kernel⟩
    let other : Pattern :=
      ⟨['\\', 'D'], .char ⟨[.ofKind .digit true false], false, .folded⟩, by decide +kernel⟩
    ((∀ c ∈ capitals.source, CharClass.isBlank c = false) ∧ ':' ∉ capitals.source ∧
      Pattern.IsCaseless capitals.source ∧ FindsTyped (fun _ => none) capitals) ∧
    (∀ c ∈ other.source, CharClass.isBlank c = false) ∧ ':' ∉ other.source ∧
      ¬FindsTyped (fun _ => none) other := by
  intro capitals other
  constructor
  · have solid : ∀ c ∈ capitals.source, CharClass.isBlank c = false := by
      have checked : capitals.source.all (!CharClass.isBlank ·) = true := by decide
      intro c member
      simpa using List.all_eq_true.mp checked c member
    have plain : ':' ∉ capitals.source := by decide
    have caseless : Pattern.IsCaseless capitals.source := Pattern.isCaseless_of_capitals
    refine ⟨solid, plain, caseless, ((findsTyped_iff solid plain).2 caseless).mpr ?_⟩
    exact ⟨by decide, by decide +kernel⟩
  · have solid : ∀ c ∈ other.source, CharClass.isBlank c = false := by
      have checked : other.source.all (!CharClass.isBlank ·) = true := by decide
      intro c member
      simpa using List.all_eq_true.mp checked c member
    have plain : ':' ∉ other.source := by decide
    refine ⟨solid, plain, fun found => ?_⟩
    obtain ⟨-, -, q, source, same⟩ := (findsTyped_iff solid plain).1.mp found
    let digit : Pattern :=
      ⟨['\\', 'd'], .char ⟨[.ofKind .digit false false], false, .folded⟩, by decide +kernel⟩
    have lowered : digit.source = other.source.lower := by decide +kernel
    rw [Pattern.eq_of_source_eq (source.trans lowered.symm)] at same
    have differs : Term.findPattern digit ['1'] ≠ Term.findPattern other ['1'] := by decide +kernel
    exact differs (same ['1'])

end Control

end TableSearch
