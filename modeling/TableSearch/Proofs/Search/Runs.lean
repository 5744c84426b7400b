import TableSearch.Proofs.Instant.Opening
import TableSearch.Proofs.Number.Scan
import TableSearch.Proofs.Pattern.Extent
import TableSearch.Search.Term

/-! # Where the parts of a text that a term matches begin and end

Each way of looking for a term goes through a text from an offset on and reports spans.  They end
inside the text, and none of them is empty unless the text is, as long as what is looked for is not
empty (`TableSearch.Term.find_reports`).
-/

namespace TableSearch

/-- The units of a text stand at the offsets of its characters. -/
theorem Text.length_fold {text : Text} : text.fold.length = text.length := by
  unfold Text.fold
  simp only
  split
  · rename_i same
    rwa [List.length_map]
  · rw [List.length_map]

/-- Whether a span ends inside a text of the given length, and is empty only if the text is. -/
structure Span.Within (length : Nat) (s : Span) : Prop where
  proper : s.start ≤ s.stop
  inside : s.stop ≤ length
  filled : 0 < length → s.start < s.stop

namespace Span.Within

variable {length : Nat} {s : Span}

theorem of_lt (filled : s.start < s.stop) (inside : s.stop ≤ length) : s.Within length :=
  ⟨Nat.le_of_lt filled, inside, fun _ => filled⟩

/-- The span of a whole text. -/
theorem whole : (⟨0, length⟩ : Span).Within length :=
  ⟨Nat.zero_le _, Nat.le_refl _, id⟩

end Span.Within

namespace Term

variable {text : Text} {offset rounds : Nat} {s : Span}

/-! ## Literals and wildcards -/

section Units

variable {units needle : List Text} {parts : List (List Text)}

/-- An occurrence begins at or after the offset and ends inside the text. -/
theorem occurrence?_extent {start : Nat} (found : occurrence? needle offset units = some start) :
    offset ≤ start ∧ start + needle.length ≤ offset + units.length := by
  induction units generalizing offset with
  | nil =>
      rw [occurrence?, Option.ite_none_right_eq_some] at found
      rw [List.isEmpty_iff.mp found.1, ← Option.some.inj found.2]
      exact ⟨Nat.le_refl _, Nat.le_refl _⟩
  | cons unit units ih =>
      rw [occurrence?] at found
      split at found
      · rename_i here
        have fits := (List.isPrefixOf_iff_prefix.mp here).length_le
        rw [← Option.some.inj found]
        omega
      · have later := ih found
        rw [List.length_cons]
        omega

/-- What is found in the units from an offset on ends inside them. -/
theorem occurrence?_drop {start : Nat} (inside : offset ≤ units.length)
    (found : occurrence? needle offset (units.drop offset) = some start) :
    offset ≤ start ∧ start + needle.length ≤ units.length := by
  obtain ⟨first, last⟩ := occurrence?_extent found
  rw [List.length_drop, Nat.add_sub_cancel' inside] at last
  exact ⟨first, last⟩

/-- The occurrences of a list are as long as the list. -/
theorem of_mem_occurrences (inside : offset ≤ units.length)
    (member : s ∈ occurrences needle units offset rounds) :
    s.stop = s.start + needle.length ∧ s.stop ≤ units.length := by
  induction rounds generalizing offset with
  | zero => cases member
  | succ rounds ih =>
      rw [occurrences] at member
      split at member
      · cases member
      · rename_i start place
        have bounds := occurrence?_drop inside place
        rcases List.mem_cons.mp member with rfl | later
        · exact ⟨rfl, bounds.2⟩
        · exact ih bounds.2 later

/-- A chain of parts starts at or after the offset it is looked for at, and the later parts stand
behind the first. -/
theorem chain?_extent (inside : offset ≤ units.length)
    (found : chain? units offset parts = some s) :
    offset ≤ s.start ∧ s.stop ≤ units.length ∧
      ∃ part ∈ parts, s.start + part.length ≤ s.stop := by
  induction parts generalizing offset s with
  | nil =>
      rw [chain?] at found
      cases found
  | cons part parts ih =>
      rw [chain?] at found
      split at found
      · cases found
      · rename_i start place
        have bounds := occurrence?_drop inside place
        cases parts with
        | nil =>
            rw [← Option.some.inj found]
            exact ⟨bounds.1, bounds.2, part, List.mem_cons_self, Nat.le_refl _⟩
        | cons next rest =>
            obtain ⟨later, chained, rfl⟩ := Option.map_eq_some_iff.mp found
            obtain ⟨first, last, other, -, room⟩ := ih bounds.2 chained
            refine ⟨bounds.1, last, part, List.mem_cons_self, ?_⟩
            simp only
            omega

/-- A chain of parts ends inside the text and is at least as long as one of its parts. -/
theorem of_mem_chains (inside : offset ≤ units.length)
    (member : s ∈ chains parts units offset rounds) :
    s.stop ≤ units.length ∧ ∃ part ∈ parts, s.start + part.length ≤ s.stop := by
  induction rounds generalizing offset with
  | zero => cases member
  | succ rounds ih =>
      rw [chains] at member
      split at member
      · cases member
      · rename_i first found
        obtain ⟨-, last, room⟩ := chain?_extent inside found
        rcases List.mem_cons.mp member with rfl | later
        · exact ⟨last, room⟩
        · exact ih last later

end Units

/-! ## Digits, numbers and instants -/

theorem length_run {c : Char} {rest : Text} {p : Char → Bool} :
    (c :: rest.takeWhile p).length + (rest.dropWhile p).length = (c :: rest).length := by
  rw [← List.length_append, List.cons_append, List.takeWhile_append_dropWhile]

/-- Runs of digits are not empty and end inside the text. -/
theorem of_mem_digitRuns {low high : Text} (member : s ∈ digitRuns low high offset text) :
    s.start < s.stop ∧ s.stop ≤ offset + text.length := by
  fun_induction digitRuns low high offset text with
  | case1 => cases member
  | case2 offset c rest digit run later within ih =>
      have filled : 0 < run.length := Nat.succ_pos _
      have whole : run.length + (rest.dropWhile isDigit).length = (c :: rest).length := length_run
      rcases List.mem_cons.mp member with rfl | member
      · simp only
        omega
      · have bounds := ih member
        omega
  | case3 offset c rest digit run later within ih =>
      have whole : run.length + (rest.dropWhile isDigit).length = (c :: rest).length := length_run
      have bounds := ih member
      omega
  | case4 offset c rest digit ih =>
      have bounds := ih member
      rw [List.length_cons]
      omega

/-- The numbers that a range reports are not empty and end inside the text. -/
theorem of_mem_numberRuns {low high : Double}
    (member : s ∈ numberRuns low high offset text rounds) :
    s.start < s.stop ∧ s.stop ≤ offset + text.length := by
  induction rounds generalizing offset text with
  | zero => cases member
  | succ rounds ih =>
      cases text with
      | nil => cases member
      | cons c rest =>
          rw [numberRuns] at member
          split at member
          · have bounds := ih member
            rw [List.length_cons]
            omega
          · rename_i found scanned
            have filled := FoundNumber.scan_length_pos scanned
            obtain ⟨left, taken, split, length, -⟩ := FoundNumber.scan_takes scanned
            have whole : found.length ≤ (c :: rest).length := by
              rw [split, List.length_append, length]
              exact Nat.le_add_right _ _
            have onward : s ∈ numberRuns low high (offset + found.length)
                ((c :: rest).drop found.length) rounds →
                s.start < s.stop ∧ s.stop ≤ offset + (c :: rest).length := by
              intro inside
              have bounds := ih inside
              rw [List.length_drop] at bounds
              omega
            split at member
            · rcases List.mem_cons.mp member with rfl | member
              · simp only
                omega
              · exact onward member
            · exact onward member

/-- The instants that a range reports are not empty and end inside the text. -/
theorem of_mem_instantRuns {read : DateReader} {accepts : Instant → Bool} {previous : Option Char}
    (member : s ∈ instantRuns read accepts offset previous text rounds) :
    s.start < s.stop ∧ s.stop ≤ offset + text.length := by
  induction rounds generalizing offset previous text with
  | zero => cases member
  | succ rounds ih =>
      cases text with
      | nil => cases member
      | cons c rest =>
          have onward : s ∈ instantRuns read accepts (offset + 1) (some c) rest rounds →
              s.start < s.stop ∧ s.stop ≤ offset + (c :: rest).length := by
            intro inside
            have bounds := ih inside
            rw [List.length_cons]
            omega
          rw [instantRuns] at member
          split at member
          · split at member
            · rename_i time accepted
              obtain ⟨opening, filled⟩ := Instant.text_scan? (Option.filter_eq_some_iff.mp accepted).1
              have whole := opening.length_le
              have nonempty := List.length_pos_of_ne_nil filled
              rcases List.mem_cons.mp member with rfl | member
              · simp only
                omega
              · have bounds := ih member
                rw [List.length_drop] at bounds
                omega
            · exact onward member
          · exact onward member

/-! ## All terms -/

/-- Some spans each of which is proper, and lies in the text if the term is not an empty literal. -/
def Reports (term : Term) (text : Text) (found : SpanSet) : Prop :=
  ∃ spans, found = .ofList spans ∧
    ∀ s ∈ spans, s.start ≤ s.stop ∧ (term ≠ .literal [] → s.Within text.length)

variable {term : Term}

theorem reports_of_within {spans : List Span} (within : ∀ s ∈ spans, s.Within text.length) :
    Reports term text (.ofList spans) :=
  ⟨spans, rfl, fun s member => ⟨(within s member).proper, fun _ => within s member⟩⟩

/-- A set of spans inside the text that are not empty is one that a term may report. -/
theorem reports_of_bounds {spans : List Span}
    (bounds : ∀ s ∈ spans, s.start < s.stop ∧ s.stop ≤ 0 + text.length) :
    Reports term text (.ofList spans) := by
  apply reports_of_within
  intro s member
  obtain ⟨filled, inside⟩ := bounds s member
  rw [Nat.zero_add] at inside
  exact .of_lt filled inside

theorem reports_whole : Reports term text (.ofList [⟨0, text.length⟩]) :=
  reports_of_within (List.forall_mem_singleton.mpr .whole)

/-- What a literal finds lies in the text, unless the literal is empty. -/
theorem findLiteral_reports {needle : Text} :
    Reports (.literal needle) text (findLiteral needle text) := by
  refine ⟨_, rfl, ?_⟩
  intro s member
  obtain ⟨length, inside⟩ := of_mem_occurrences (Nat.zero_le _) member
  rw [Text.length_fold] at length inside
  refine ⟨by omega, ?_⟩
  intro differs
  have filled : 0 < needle.length := by
    apply List.length_pos_of_ne_nil
    rintro rfl
    exact differs rfl
  exact .of_lt (by omega) inside

/-- What a wildcard finds lies in the text. -/
theorem findWildcard_reports {parts : List Text} :
    Reports term text (findWildcard parts text) := by
  rw [findWildcard]
  split
  · exact reports_whole
  · apply reports_of_within
    intro s member
    obtain ⟨inside, part, known, room⟩ := of_mem_chains (Nat.zero_le _) member
    obtain ⟨piece, listed, rfl⟩ := List.mem_map.mp known
    have kept := (List.mem_filter.mp listed).2
    rw [Bool.not_eq_true', List.isEmpty_eq_false_iff] at kept
    have filled := List.length_pos_of_ne_nil kept
    rw [Text.length_fold] at inside room
    exact .of_lt (by omega) inside

/-- What a pattern finds lies in the text. -/
theorem findPattern_reports {pattern : Pattern} :
    Reports term text (findPattern pattern text) := by
  apply reports_of_within
  intro s member
  obtain ⟨matched, filled⟩ := List.mem_filter.mp member
  exact .of_lt (of_decide_eq_true filled) (Node.stop_le_of_mem_findAll matched)

/-- What a search for durations finds is the whole text or nothing. -/
theorem findDuration_reports {accepts : Duration → Bool} {found : SpanSet}
    (answer : findDuration accepts text = .ok found) : Reports term text found := by
  rw [findDuration] at answer
  split at answer
  · cases answer
  · cases answer
    split
    · exact reports_whole
    · exact ⟨[], rfl, List.forall_mem_nil _⟩

/-- **Terms.** A term reports spans that lie in the text. -/
theorem find_reports {read : DateReader} {found : SpanSet}
    (answer : term.find read text = .ok found) : Reports term text found := by
  cases term with
  | literal needle =>
      cases answer
      exact findLiteral_reports
  | wildcard shown parts =>
      cases answer
      exact findWildcard_reports
  | regex pattern =>
      cases answer
      exact findPattern_reports
  | digitRange shown low high =>
      cases answer
      exact reports_of_bounds fun _ => of_mem_digitRuns
  | numberRange shown low high =>
      cases answer
      exact reports_of_bounds fun _ => of_mem_numberRuns
  | instant time =>
      cases answer
      exact reports_of_bounds fun _ => of_mem_instantRuns
  | instantRange shown low high =>
      cases answer
      exact reports_of_bounds fun _ => of_mem_instantRuns
  | duration length => exact findDuration_reports answer
  | durationRange shown low high => exact findDuration_reports answer
  | unknown =>
      rw [find] at answer
      cases answer

end Term

end TableSearch
