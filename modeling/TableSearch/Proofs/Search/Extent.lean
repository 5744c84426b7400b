import TableSearch.Proofs.Control.Reparse
import TableSearch.Proofs.Search.Outcome

/-! # What a search finds lies inside the cell

Putting spans together neither leaves the text nor empties a span (`TableSearch.SpanSet.kept_fits`).
The spans that a control finds in a cell therefore lie in its text
(`TableSearch.Control.find_fits`), if no literal of the control is empty; those of a directive never
are (`TableSearch.Control.literal_nil_not_mem_terms`).
-/

namespace TableSearch

/-! ## Sets of spans -/

namespace SpanSet

variable {first second : SpanSet} {spans result : List Span} {length : Nat} {text : Text}

/-- Whether a set is in order and its spans lie in a text of the given length. -/
structure Fits (length : Nat) (set : SpanSet) : Prop where
  ordered : set.Ordered
  within : ∀ s ∈ set.spans, s.Within length

/-- Spans in order lie in a text if the spans they are put together from do.  The last offset of a
span that is not empty is covered, and an empty span has been there before. -/
theorem within_of_normal (normal : Span.NormalForm result spans)
    (within : ∀ s ∈ spans, s.Within length) : ∀ s ∈ result, s.Within length := by
  intro s member
  have proper := normal.apart.proper s member
  rcases Nat.lt_or_eq_of_le proper with filled | empty
  · have last : Span.Covered result (s.stop - 1) := ⟨s, member, by omega, by omega⟩
    obtain ⟨t, known, -, reaches⟩ := (normal.covered _).mp last
    have inside := (within t known).inside
    exact .of_lt filled (by omega)
  · have place : s = ⟨s.stop, s.stop⟩ := Span.eq_of_ends empty rfl
    have marked : Span.Marked result s.stop := place ▸ member
    have clear := normal.apart.not_crossed_of_marked marked
    rw [place]
    exact within _ ((normal.marked _ clear).mp marked)

theorem fits_ofList (within : ∀ s ∈ spans, s.Within length) : (ofList spans).Fits length := by
  have normal := ofList_normal fun s member => (within s member).proper
  exact ⟨normal.apart, within_of_normal normal within⟩

/-- The union of two sets inside a text lies inside the text. -/
theorem fits_union (left : first.Fits length) (right : second.Fits length) :
    (first.union second).Fits length := by
  have normal := union_normal left.ordered right.ordered
  refine ⟨normal.apart, within_of_normal normal ?_⟩
  exact List.forall_mem_append.mpr ⟨right.within, left.within⟩

theorem kept_fits : Kept text (Fits text.length) where
  empty := fits_ofList (List.forall_mem_nil _)
  whole := fits_ofList (List.forall_mem_singleton.mpr .whole)
  union := fits_union

end SpanSet

namespace Control

variable {env : Environment} {read : DateReader} {column text directive token : Text}
  {general : Bool} {control : Control} {children : List Control} {t : Term} {found : CellMatch}

/-! ## Cells -/

/-- **Cells.** The spans that a control finds in a cell are in order and lie in its text. -/
theorem find_fits (filled : .literal [] ∉ control.terms)
    (answer : control.find env column text general = .ok found) :
    found.Holds (SpanSet.Fits text.length) := by
  refine find_holds SpanSet.kept_fits control ?_ answer
  intro t member spans reported
  obtain ⟨parts, rfl, bounds⟩ := Term.find_reports reported
  apply SpanSet.fits_ofList
  intro s inside
  apply (bounds s inside).2
  rintro rfl
  exact filled member

/-! ## Directives -/

theorem termsOf_eq_flatMap : termsOf children = children.flatMap terms :=
  eq_flatMap (by rw [termsOf]) fun _ _ => by rw [termsOf]

theorem terms_together : (together children).terms = children.flatMap terms :=
  flatMap_together (by rw [terms]) fun _ => by rw [terms, termsOf_eq_flatMap]

/-- The terms of the control for a text are readings of the text, which is not empty. -/
theorem isReadingOf_of_mem_terms (found : readElement read text = .ok control)
    (member : t ∈ control.terms) : t.IsReadingOf text ∧ text ≠ [] := by
  refine ⟨?_, (text_readElement found).2⟩
  obtain ⟨first, rest, readings, rfl⟩ := exists_of_readElement found
  apply Term.isReadingOf_of_mem_readings readings
  split at member
  · rw [terms, List.mem_singleton] at member
    rw [member]
    exact List.mem_cons_self
  · rw [terms, termsOf_eq_flatMap, List.flatMap_map] at member
    obtain ⟨reading, inside, same⟩ := List.mem_flatMap.mp member
    rw [terms, List.mem_singleton] at same
    rwa [same]

theorem literal_nil_not_mem_of_readElement (found : readElement read text = .ok control) :
    .literal [] ∉ control.terms := by
  intro member
  obtain ⟨reading, filled⟩ := isReadingOf_of_mem_terms found member
  cases reading
  exact filled rfl

/-- No literal of a directive is empty. -/
theorem literal_nil_not_mem_terms (accepted : parse read directive = .ok control) :
    .literal [] ∉ control.terms := by
  obtain ⟨-, rfl⟩ := parse_eq_ok_iff.mp accepted
  rw [terms_together, List.mem_flatMap]
  rintro ⟨child, inside, member⟩
  obtain ⟨token, -, reading⟩ := exists_token_of_mem_readAll inside
  rcases readToken_cases (reading?_eq_some_iff.mp reading) with ⟨names, rfl | rfl⟩ |
    ⟨name, rest, inner, element, -, first, second, rfl⟩ | alone
  · rw [terms] at member
    cases member
  · rw [terms] at member
    cases member
  · simp only [terms, termsOf, List.append_nil, List.mem_append] at member
    rcases member with named | unnamed
    · rw [readInner] at first
      split at first
      · cases first
        rw [terms] at named
        cases named
      · exact literal_nil_not_mem_of_readElement first named
    · exact literal_nil_not_mem_of_readElement second unnamed
  · exact literal_nil_not_mem_of_readElement alone member

end Control

end TableSearch
