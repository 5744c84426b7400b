import TableSearch.Control.Parser
import TableSearch.Proofs.Answers
import TableSearch.Proofs.Instant.Opening
import TableSearch.Proofs.Number.Scan

/-! # A reading is written as it was typed

A text can be read as a few kinds of terms only (`TableSearch.Term.IsReadingOf`), and every one of
them has the written form of the text itself (`TableSearch.Term.text_of_mem_readings`): ranges of
digits and numbers are written without quotes but hold no blanks, and the other readings keep the
text and quote it.
-/

namespace TableSearch

namespace Term

open Text

variable {read : DateReader} {text : Text} {term : Term}

/-! ## One reading -/

/-- The terms that a text may be read as. -/
inductive IsReadingOf (text : Text) : Term → Prop
  | literal : IsReadingOf text (.literal text)
  | wildcard {parts : List Text} : IsReadingOf text (.wildcard text parts)
  | regex {pattern : Pattern} (same : '\\' :: pattern.source = text) :
      IsReadingOf text (.regex pattern)
  | digitRange {low high : Text} (solid : Solid text) : IsReadingOf text (.digitRange text low high)
  | numberRange {low high : Double} (solid : Solid text) :
      IsReadingOf text (.numberRange text low high)
  | instant {time : Instant} (same : time.text = text) : IsReadingOf text (.instant time)
  | instantRange {low high : Instant} : IsReadingOf text (.instantRange text low high)
  | duration {length : Duration} (same : length.text = text) : IsReadingOf text (.duration length)
  | durationRange {low high : Duration} : IsReadingOf text (.durationRange text low high)

namespace IsReadingOf

/-- A term that a text may be read as is written as that text. -/
theorem text_eq (reading : term.IsReadingOf text) : term.text = text.quoteToken := by
  cases reading with
  | literal | wildcard | instantRange | durationRange => rfl
  | regex same | instant same | duration same => exact congrArg Text.quoteToken same
  | digitRange solid | numberRange solid => exact solid.quoteToken_eq.symm

theorem ne_unknown (reading : term.IsReadingOf text) : term ≠ .unknown := by
  rintro rfl
  cases reading

theorem ofDigits {low high : Text} (solid : Solid text) :
    (Term.ofDigits text low high).IsReadingOf text := by
  unfold Term.ofDigits
  split
  · exact .digitRange solid
  · exact .digitRange solid

theorem ofNumbers {low high : Double} (solid : Solid text) :
    (Term.ofNumbers text low high).IsReadingOf text := by
  unfold Term.ofNumbers
  split
  · exact .numberRange solid
  · exact .numberRange solid

end IsReadingOf

/-- What is read as a range of digits is a reading of the text. -/
theorem readDigitRange?_reads (found : readDigitRange? text = some term) :
    term.IsReadingOf text := by
  unfold readDigitRange? at found
  simp only at found
  split at found
  · rename_i high dash
    rw [Option.ite_none_left_eq_some, Bool.or_eq_true, not_or] at found
    obtain ⟨⟨-, guard⟩, same⟩ := found
    have digits : high.all CharClass.isDecimal = true := by
      rwa [Bool.not_eq_true, Bool.not_eq_false'] at guard
    have split : text = text.takeWhile CharClass.isDecimal ++ '-' :: high := by
      rw [← dash]
      exact List.takeWhile_append_dropWhile.symm
    have solid : Solid text := by
      rw [split]
      refine (Solid.takeWhile fun _ => CharClass.isBlank_of_isDecimal).append ?_
      refine solid_cons.mpr ⟨by decide, ?_⟩
      intro c member
      exact CharClass.isBlank_of_isDecimal (List.all_eq_true.mp digits c member)
    cases same
    exact .ofDigits solid
  · cases found

/-- What is read as a range of numbers is a reading of the text. -/
theorem readNumberRange?_reads (found : readNumberRange? text = some term) :
    term.IsReadingOf text := by
  unfold readNumberRange? at found
  cases scanned : FoundNumber.scan text with
  | none =>
      rw [scanned] at found
      cases found
  | some low =>
      rw [scanned] at found
      obtain ⟨rest, takes⟩ := FoundNumber.scan_takes scanned
      simp only [takes.drop_eq] at found
      split at found
      · cases found
        exact .ofNumbers takes.solid
      · rename_i high
        obtain ⟨number, whole, same⟩ := Option.map_eq_some_iff.mp found
        obtain ⟨taken, split, -, solid⟩ := takes
        have all : Solid text := by
          rw [split]
          exact solid.append (solid_cons.mpr ⟨by decide, FoundNumber.scanWhole_solid whole⟩)
        rw [← same]
        exact .ofNumbers all
      · cases found

/-- What is read as a range of dates is a reading of the text. -/
theorem readInstant?_reads (found : readInstant? read text = some term) :
    term.IsReadingOf text := by
  unfold readInstant? at found
  cases whole : Instant.readWhole? read text with
  | some time =>
      rw [whole] at found
      rw [← Option.some.inj found]
      exact .instant (Instant.text_readWhole? whole)
  | none =>
      rw [whole] at found
      obtain ⟨dash, -, range⟩ := List.exists_of_findSome?_eq_some found
      obtain ⟨low, -, rest⟩ := Option.bind_eq_some_iff.mp range
      obtain ⟨high, -, same⟩ := Option.bind_eq_some_iff.mp rest
      cases same
      exact .instantRange

/-- A duration at the start of a text keeps the part it was read from. -/
theorem text_scan? {length : Duration} (found : Duration.scan? text = .ok (some length)) :
    ∃ taken, length.text = text.take taken := by
  unfold Duration.scan? at found
  split at found
  · cases found
  · rename_i parts rest _ _
    cases summed : Duration.total (Double.zero false) parts with
    | error problem =>
        rw [summed] at found
        cases found
    | ok seconds =>
        rw [summed] at found
        rw [← Option.some.inj (Except.ok.inj found)]
        exact ⟨_, rfl⟩

/-- A duration that is read from a text as a whole keeps that text. -/
theorem text_readDurationWhole? {length : Duration}
    (found : readDurationWhole? text = .ok (some length)) : length.text = text := by
  unfold readDurationWhole? Duration.readWhole? at found
  cases scanned : Duration.scan? text with
  | error problem =>
      rw [scanned] at found
      cases found
  | ok answer =>
      rw [scanned] at found
      obtain ⟨known, whole⟩ := Option.filter_eq_some_iff.mp (Except.ok.inj found)
      obtain ⟨taken, same⟩ := text_scan? (scanned.trans (congrArg Except.ok known))
      rw [beq_iff_eq] at whole
      rw [same] at whole ⊢
      exact List.take_of_length_le (by rw [List.length_take] at whole; omega)

/-- What is read as a range of durations is a reading of the text. -/
theorem readDuration?_reads (found : readDuration? text = .ok (some term)) :
    term.IsReadingOf text := by
  unfold readDuration? at found
  split at found
  · obtain ⟨low, -, later⟩ := bind_eq_ok.mp found
    obtain ⟨high, -, last⟩ := bind_eq_ok.mp later
    split at last
    · rw [← Option.some.inj (Except.ok.inj last)]
      exact .durationRange
    · cases last
  · obtain ⟨answer, whole, later⟩ := bind_eq_ok.mp found
    obtain ⟨length, known, same⟩ := Option.map_eq_some_iff.mp (Except.ok.inj later)
    rw [known] at whole
    rw [← same]
    exact .duration (text_readDurationWhole? whole)

/-- What is read as a wildcard is a reading of the text. -/
theorem readWildcard?_reads (found : readWildcard? text = some term) :
    term.IsReadingOf text := by
  unfold readWildcard? at found
  split at found
  · cases found
  · rw [Option.ite_none_left_eq_some] at found
    obtain ⟨-, same⟩ := found
    cases same
    exact .wildcard

/-- A pattern keeps the source it was compiled from. -/
theorem source_ofText {source : Text} {pattern : Pattern}
    (found : Pattern.ofText source = .ok pattern) : pattern.source = source := by
  unfold Pattern.ofText at found
  split at found
  · cases found
    rfl
  · cases found

/-- What a pattern is read as, even one that is malformed, is a reading of its source behind a
backslash. -/
theorem ofPattern_reads {source : Text} (found : ofPattern source = .ok term) :
    term.IsReadingOf ('\\' :: source) := by
  unfold ofPattern at found
  split at found
  · rename_i pattern compiled
    rw [← Except.ok.inj found]
    exact .regex (congrArg (List.cons '\\') (source_ofText compiled))
  · cases found

/-- What is read as a pattern is a reading of the text. -/
theorem readPattern?_reads (found : readPattern? text = .ok (some term)) :
    term.IsReadingOf text := by
  unfold readPattern? at found
  split at found
  · split at found
    · rename_i known compiled
      rw [← Option.some.inj (Except.ok.inj found)]
      exact ofPattern_reads compiled
    · cases found
    · cases found
  · cases found

/-! ## All readings -/

/-- The readings of a text are the literal first, and every other one that there is. -/
theorem exists_of_readings {terms : List Term} (found : readings read text = .ok terms) :
    text ≠ [] ∧ ∃ duration pattern, readDuration? text = .ok duration ∧
      readPattern? text = .ok pattern ∧
      terms = .literal text :: [readDigitRange? text, readNumberRange? text,
        readInstant? read text, duration, readWildcard? text, pattern].filterMap id := by
  obtain ⟨first, literal, afterLiteral⟩ := bind_eq_ok.mp found
  obtain ⟨duration, length, afterDuration⟩ := bind_eq_ok.mp afterLiteral
  obtain ⟨pattern, source, same⟩ := bind_eq_ok.mp afterDuration
  have known : text ≠ [] ∧ first = .literal text := by
    unfold ofLiteral at literal
    split at literal
    · cases literal
    · rename_i filled
      exact ⟨mt List.isEmpty_iff.mpr filled, (Except.ok.inj literal).symm⟩
  rw [known.2] at same
  exact ⟨known.1, duration, pattern, length, source, (Except.ok.inj same).symm⟩

/-- Every reading of a text is a term that the text may be read as. -/
theorem isReadingOf_of_mem_readings {terms : List Term} (found : readings read text = .ok terms)
    (member : term ∈ terms) : term.IsReadingOf text := by
  obtain ⟨-, duration, pattern, length, source, rfl⟩ := exists_of_readings found
  rw [List.mem_cons, List.mem_filterMap] at member
  rcases member with rfl | ⟨reading, member, same⟩
  · exact .literal
  · rw [id] at same
    rw [same] at member
    simp only [List.mem_cons, List.not_mem_nil, or_false] at member
    rcases member with this | this | this | this | this | this
    · exact readDigitRange?_reads this.symm
    · exact readNumberRange?_reads this.symm
    · exact readInstant?_reads this.symm
    · rw [← this] at length
      exact readDuration?_reads length
    · exact readWildcard?_reads this.symm
    · rw [← this] at source
      exact readPattern?_reads source

/-- **Readings.** Every reading of a text is written as the text, between quotes if it needs them. -/
theorem text_of_mem_readings {terms : List Term} (found : readings read text = .ok terms)
    (member : term ∈ terms) : term.text = text.quoteToken :=
  (isReadingOf_of_mem_readings found member).text_eq

end Term

/-! ## Combinations -/

namespace Text

variable {text : Text} {texts seen : List Text}

/-- The texts that are left when repetitions are left out are those seen before and those that are
not empty. -/
theorem mem_firstOccurrences :
    text ∈ firstOccurrences seen texts ↔ text ∈ seen ∨ text ∈ texts ∧ text ≠ [] := by
  induction texts generalizing seen with
  | nil => simp [firstOccurrences]
  | cons first rest ih =>
      rw [firstOccurrences]
      split
      · rename_i skipped
        rw [Bool.or_eq_true, List.isEmpty_iff, List.contains_iff_mem] at skipped
        rw [ih, List.mem_cons]
        constructor
        · rintro (known | ⟨later, filled⟩)
          · exact .inl known
          · exact .inr ⟨.inr later, filled⟩
        · rintro (known | ⟨rfl | later, filled⟩)
          · exact .inl known
          · exact .inl (skipped.resolve_left filled)
          · exact .inr ⟨later, filled⟩
      · rename_i fresh
        rw [Bool.or_eq_true, List.isEmpty_iff, not_or] at fresh
        rw [ih, List.mem_cons, List.mem_cons]
        constructor
        · rintro ((rfl | known) | ⟨later, filled⟩)
          · exact .inr ⟨.inl rfl, fresh.1⟩
          · exact .inl known
          · exact .inr ⟨.inr later, filled⟩
        · rintro (known | ⟨rfl | later, filled⟩)
          · exact .inl (.inr known)
          · exact .inl (.inl rfl)
          · exact .inr ⟨later, filled⟩

/-- Texts that have all been seen before add nothing. -/
theorem firstOccurrences_of_mem (known : ∀ other ∈ texts, other ∈ seen) :
    firstOccurrences seen texts = seen.reverse := by
  induction texts with
  | nil => rw [firstOccurrences]
  | cons first rest ih =>
      rw [List.forall_mem_cons] at known
      rw [firstOccurrences, if_pos, ih known.2]
      rw [Bool.or_eq_true, List.contains_iff_mem]
      exact .inr known.1

/-- A text that has not been seen before is kept. -/
theorem firstOccurrences_cons (filled : text ≠ []) (fresh : text ∉ seen) :
    firstOccurrences seen (text :: texts) = firstOccurrences (text :: seen) texts := by
  rw [firstOccurrences, if_neg]
  rw [Bool.or_eq_true, List.isEmpty_iff, List.contains_iff_mem, not_or]
  exact ⟨filled, fresh⟩

theorem quoteToken_ne_nil (filled : text ≠ []) : text.quoteToken ≠ [] := by
  unfold quoteToken
  split
  · exact List.cons_ne_nil _ _
  · exact filled

end Text

namespace Control

variable {read : DateReader} {text : Text} {control : Control}

theorem texts_eq_map {children : List Control} : texts children = children.map Control.text := by
  induction children with
  | nil => rfl
  | cons child rest ih => rw [texts, ih, List.map_cons]

/-- Controls that are all written alike are written once. -/
theorem text_anyOf_of_same {child : Control} {rest : List Control} (filled : child.text ≠ [])
    (same : ∀ other ∈ rest, other.text = child.text) :
    (anyOf (child :: rest)).text = child.text := by
  rw [Control.text, texts_eq_map, List.map_cons, Text.firstOccurrences_cons filled List.not_mem_nil,
    Text.firstOccurrences_of_mem]
  · rfl
  · intro other member
    obtain ⟨control, inside, rfl⟩ := List.mem_map.mp member
    rw [same control inside]
    exact List.mem_singleton_self _

/-- The control for a text is its only reading, or a choice between its readings. -/
theorem exists_of_readElement (found : readElement read text = .ok control) :
    ∃ term rest, Term.readings read text = .ok (term :: rest) ∧
      control = if rest = [] then .term term else .anyOf ((term :: rest).map .term) := by
  obtain ⟨terms, readings, last⟩ := bind_eq_ok.mp found
  obtain ⟨-, _, _, -, -, rfl⟩ := Term.exists_of_readings readings
  refine ⟨_, _, readings, ?_⟩
  split at last
  · rename_i single
    rw [(List.cons.inj single).1, (List.cons.inj single).2, if_pos rfl, Except.ok.inj last]
  · rename_i several
    rw [if_neg, ← Except.ok.inj last]
    intro empty
    exact several _ (congrArg _ empty)

/-- **Elements.** The control for a text is written as the text. -/
theorem text_readElement (found : readElement read text = .ok control) :
    control.text = text.quoteToken ∧ text ≠ [] := by
  obtain ⟨term, rest, readings, rfl⟩ := exists_of_readElement found
  have written : ∀ other ∈ term :: rest, other.text = text.quoteToken := fun other =>
    Term.text_of_mem_readings readings
  rw [List.forall_mem_cons] at written
  have filled := (Term.exists_of_readings readings).1
  refine ⟨?_, filled⟩
  split
  · exact written.1
  · rw [List.map_cons, text_anyOf_of_same, Control.text, written.1]
    · rw [Control.text, written.1]
      exact Text.quoteToken_ne_nil filled
    · intro other member
      obtain ⟨term', inside, rfl⟩ := List.mem_map.mp member
      rw [Control.text, Control.text, written.1]
      exact written.2 term' inside

end Control

end TableSearch
