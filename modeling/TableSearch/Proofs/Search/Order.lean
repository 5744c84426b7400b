import TableSearch.Proofs.Answers
import TableSearch.Proofs.Search.Runs
import TableSearch.Proofs.Span.Union
import TableSearch.Search.Row

/-! # What a search finds is in order

A term reports proper spans, so the set it builds is in order
(`TableSearch.Term.find_ordered`). Unions keep that, and what unions keep holds of all that a
control finds in a cell (`TableSearch.Control.find_holds`), so this is in order as well
(`TableSearch.Control.find_ordered`). Findings in cells can therefore be taken together in any
grouping: the spans of two findings taken together are the union of the spans of each
(`TableSearch.CellMatch.spans_merge`), and so for rows (`TableSearch.RowMatch.spans_merge`).
-/

namespace TableSearch

/-- What a term finds in a text is in order. -/
theorem Term.find_ordered {read : DateReader} {term : Term} {text : Text} {found : SpanSet}
    (answer : term.find read text = .ok found) : found.Ordered := by
  obtain ⟨spans, rfl, bounds⟩ := find_reports answer
  exact SpanSet.ofList_ordered fun s member => (bounds s member).1

/-! ## Cells -/

namespace CellMatch

variable {found other : CellMatch} {P : SpanSet → Prop}

/-- The spans that were found, none if the control does not apply. -/
def spans (found : CellMatch) : SpanSet :=
  found.getD .empty

/-- Whether the set of spans that was found, if any, has a property. -/
def Holds (P : SpanSet → Prop) (found : CellMatch) : Prop :=
  ∀ spans, found = some spans → P spans

theorem holds_none : Holds P none := by
  intro spans same
  cases same

/-- A property holds of what was found exactly if it holds of the spans. -/
theorem holds_some {spans : SpanSet} : Holds P (some spans) ↔ P spans := by
  constructor
  · intro holds
    exact holds spans rfl
  · intro holds other same
    cases same
    exact holds

/-- A property that unions keep is kept when two findings are taken together. -/
theorem holds_merge (union : ∀ {first second}, P first → P second → P (first.union second))
    (left : Holds P found) (right : Holds P other) : Holds P (found.merge other) := by
  cases found with
  | none =>
      cases other with
      | none => exact holds_none
      | some spans => exact right
  | some before =>
      cases other with
      | none => exact left
      | some spans => exact holds_some.mpr (union (holds_some.mp left) (holds_some.mp right))

/-- Whether the spans that were found are in order. -/
def Ordered (found : CellMatch) : Prop :=
  ∀ spans, found = some spans → spans.Ordered

theorem ordered_none : Ordered none :=
  holds_none

theorem ordered_some {spans : SpanSet} : Ordered (some spans) ↔ spans.Ordered :=
  holds_some

theorem spans_ordered (ordered : found.Ordered) : found.spans.Ordered := by
  cases found with
  | none => exact SpanSet.ordered_empty
  | some spans => exact ordered spans rfl

theorem merge_ordered (left : found.Ordered) (right : other.Ordered) :
    (found.merge other).Ordered :=
  holds_merge SpanSet.union_ordered left right

/-- Two findings taken together have the spans of both. -/
theorem spans_merge (ordered : other.Ordered) :
    (found.merge other).spans = found.spans.union other.spans := by
  cases found with
  | none =>
      cases other with
      | none => rfl
      | some spans => exact (SpanSet.empty_union (ordered_some.mp ordered)).symm
  | some before =>
      cases other with
      | none => rfl
      | some spans => rfl

/-- Something was found exactly if there are spans. -/
theorem isHit_eq : found.isHit = !found.spans.isEmpty := by
  cases found <;> rfl

/-- Two findings taken together have a span if one of them has. -/
theorem isHit_merge : (found.merge other).isHit = (found.isHit || other.isHit) := by
  cases found with
  | none => cases other <;> rfl
  | some before =>
      cases other with
      | none => exact (Bool.or_false _).symm
      | some spans =>
          simp only [merge, isHit, Option.any_some, SpanSet.isEmpty_union, Bool.not_and]

end CellMatch

/-- A property that the set without spans and the set of a whole text have, and that unions keep. -/
structure SpanSet.Kept (text : Text) (P : SpanSet → Prop) : Prop where
  empty : P .empty
  whole : P (.ofList [⟨0, text.length⟩])
  union : ∀ {first second : SpanSet}, P first → P second → P (first.union second)

namespace Control

variable {env : Environment} {column text : Text} {P : SpanSet → Prop}

mutual

/-- The terms of a control. -/
def terms : Control → List Term
  | term t => [t]
  | category _ inner => terms inner
  | anyOf children | allOf children => termsOf children
  | emptyCell | predicate _ _ | rowSort _ | columnSort _ | unfiltered => []

/-- The terms of several controls. -/
def termsOf : List Control → List Term
  | [] => []
  | child :: rest => terms child ++ termsOf rest

end

/-- Whether a property has all that some terms find in a text. -/
def Finds (env : Environment) (text : Text) (P : SpanSet → Prop) (terms : List Term) : Prop :=
  ∀ t ∈ terms, ∀ found, t.find env.readDate text = .ok found → P found

mutual

/-- **Cells.** A property that unions keep has all that a control finds in a cell, if it has what
the terms of the control find. -/
theorem find_holds (kept : SpanSet.Kept text P) : (control : Control) → {general : Bool} →
    {found : CellMatch} → Finds env text P control.terms →
    control.find env column text general = .ok found → found.Holds P
  | term t, general, found, finds, answer => by
      rw [find] at answer
      split at answer
      · obtain ⟨spans, answered, rfl⟩ := map_eq_ok.mp answer
        rw [terms, Finds, List.forall_mem_singleton] at finds
        exact CellMatch.holds_some.mpr (finds spans answered)
      · cases answer
        exact CellMatch.holds_none
  | emptyCell, general, found, finds, answer => by
      rw [find] at answer
      cases answer
      refine CellMatch.holds_some.mpr ?_
      split
      · rename_i empty
        have whole := kept.whole
        rwa [List.isEmpty_iff.mp empty] at whole
      · exact kept.empty
  | predicate name test, general, found, finds, answer => by
      rw [find] at answer
      cases answer
      split
      · exact CellMatch.holds_none
      · refine CellMatch.holds_some.mpr ?_
        split
        · exact kept.whole
        · exact kept.empty
  | category name inner, general, found, finds, answer => by
      rw [find] at answer
      rw [terms] at finds
      split at answer
      · exact find_holds kept inner finds answer
      · cases answer
        exact CellMatch.holds_none
  | anyOf children, general, found, finds, answer => by
      rw [find] at answer
      rw [terms] at finds
      exact findAny_holds kept children finds CellMatch.holds_none answer
  | allOf children, general, found, finds, answer => by
      rw [find] at answer
      rw [terms] at finds
      exact findAll_holds kept children finds CellMatch.holds_none answer
  | rowSort tokens, general, found, finds, answer => by
      rw [find] at answer
      cases answer
      exact CellMatch.holds_none
  | columnSort tokens, general, found, finds, answer => by
      rw [find] at answer
      cases answer
      exact CellMatch.holds_none
  | unfiltered, general, found, finds, answer => by
      rw [find] at answer
      cases answer
      exact CellMatch.holds_none

/-- A disjunction finds what has a property in a cell, if all that its terms find has it and so does
what was found before. -/
theorem findAny_holds (kept : SpanSet.Kept text P) : (children : List Control) →
    {general : Bool} → {before found : CellMatch} → Finds env text P (termsOf children) →
    before.Holds P → findAny env column text general before children = .ok found → found.Holds P
  | [], general, before, found, finds, holds, answer => by
      rw [findAny] at answer
      cases answer
      exact holds
  | child :: rest, general, before, found, finds, holds, answer => by
      rw [findAny] at answer
      rw [termsOf, Finds, List.forall_mem_append] at finds
      obtain ⟨spans, answered, later⟩ := bind_eq_ok.mp answer
      have first := find_holds kept child finds.1 answered
      exact findAny_holds kept rest finds.2 (CellMatch.holds_merge kept.union holds first) later

/-- A conjunction finds what has a property in a cell, if all that its terms find has it and so does
what was found before. -/
theorem findAll_holds (kept : SpanSet.Kept text P) : (children : List Control) →
    {general : Bool} → {before found : CellMatch} → Finds env text P (termsOf children) →
    before.Holds P → findAll env column text general before children = .ok found → found.Holds P
  | [], general, before, found, finds, holds, answer => by
      rw [findAll] at answer
      cases answer
      exact holds
  | child :: rest, general, before, found, finds, holds, answer => by
      rw [findAll] at answer
      rw [termsOf, Finds, List.forall_mem_append] at finds
      split at answer
      · obtain ⟨spans, answered, later⟩ := bind_eq_ok.mp answer
        have first := find_holds kept child finds.1 answered
        split at later
        · exact findAll_holds kept rest finds.2 (CellMatch.holds_merge kept.union holds first) later
        · cases later
          exact first
      · exact findAll_holds kept rest finds.2 holds answer

end

/-- What a control finds in a cell is in order. -/
theorem find_ordered (control : Control) {general : Bool} {found : CellMatch}
    (answer : control.find env column text general = .ok found) : found.Ordered := by
  have kept : SpanSet.Kept text SpanSet.Ordered :=
    ⟨SpanSet.ordered_empty, SpanSet.ofList_ordered (List.forall_mem_singleton.mpr (Nat.zero_le _)),
      SpanSet.union_ordered⟩
  exact find_holds kept control (fun _ _ _ => Term.find_ordered) answer

end Control

/-! ## Rows -/

namespace RowMatch

variable {found other : RowMatch}

/-- The spans that were found in each cell. -/
def spans (found : RowMatch) : List SpanSet :=
  found.map CellMatch.spans

/-- Whether the spans that were found in each cell are in order. -/
def Ordered (found : RowMatch) : Prop :=
  ∀ cell ∈ found, cell.Ordered

theorem ordered_none {length : Nat} : Ordered (none length) := by
  intro cell member
  rw [List.eq_of_mem_replicate member]
  exact CellMatch.ordered_none

/-- Something was found in a row exactly if there are spans in one of its cells. -/
theorem isHit_eq : found.isHit = found.spans.any (!·.isEmpty) := by
  rw [isHit, spans, List.any_map]
  congr 1
  funext cell
  exact CellMatch.isHit_eq

theorem merge_cons {first second : CellMatch} :
    merge (first :: found) (second :: other) = first.merge second :: found.merge other := rfl

/-- Findings in order in all cells are taken together in order. -/
theorem merge_ordered (left : found.Ordered) (right : other.Ordered) :
    (found.merge other).Ordered := by
  induction found generalizing other with
  | nil =>
      intro cell member
      exact (List.not_mem_nil member).elim
  | cons first found ih =>
      cases other with
      | nil =>
          intro cell member
          exact (List.not_mem_nil member).elim
      | cons second other =>
          rw [Ordered, List.forall_mem_cons] at left right
          rw [merge_cons, Ordered, List.forall_mem_cons]
          exact ⟨CellMatch.merge_ordered left.1 right.1, ih left.2 right.2⟩

/-- Two findings taken together have the spans of both in each cell. -/
theorem spans_merge (ordered : other.Ordered) :
    (found.merge other).spans = List.zipWith SpanSet.union found.spans other.spans := by
  induction found generalizing other with
  | nil => rfl
  | cons first found ih =>
      cases other with
      | nil => rfl
      | cons second other =>
          rw [Ordered, List.forall_mem_cons] at ordered
          rw [merge_cons]
          simp only [spans, List.map_cons, List.zipWith_cons_cons]
          rw [CellMatch.spans_merge ordered.1]
          exact congrArg _ (ih ordered.2)

end RowMatch

end TableSearch
