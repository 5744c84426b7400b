import TableSearch.Proofs.Control.Reparse
import TableSearch.Proofs.Search.Outcome
import TableSearch.Proofs.Table.Order

/-! # Reading a directive that was written from a control

The control of a directive is written as a directive that reads as a control with the same effect,
with one exception: a token with quotes around all that follows its column name is written along
with its bare form, which then has to be found as well.

`TableSearch.Control.parse_text_agrees_iff`: reading what was written gives a control with the same
effect if and only if every bare form can be read and demands nothing that the directive does not
demand without it.
-/

namespace TableSearch

namespace Control

open Text

variable {read : DateReader} {directive : Text} {control other : Control}
  {children children' : List Control}

/-- Whether two controls have the same effect: they keep the same rows with the same spans, and put
rows and columns in the same order. -/
structure Agrees (read : DateReader) (first second : Control) : Prop where
  isSearch_eq : first.isSearch = second.isSearch
  kept_eq : ∀ (cellTest : Text → Text → Bool) (heads : List ColumnHead) (texts : List Text),
    first.kept ⟨read, cellTest⟩ heads texts = second.kept ⟨read, cellTest⟩ heads texts
  sortOrder_eq : ∀ {ρ : Type} (columns : List (Column ρ)) (row₁ row₂ : ρ),
    Table.sortOrder columns row₁ row₂ first.rowSorting =
      Table.sortOrder columns row₁ row₂ second.rowSorting
  orderColumns_eq : ∀ {α : Type} (name : α → Text) (columns : List α),
    Table.orderColumns name first columns = Table.orderColumns name second columns

/-- Whether a control keeps every row that another one keeps, with no spans that the other one does
not have. -/
def IsRedundant (read : DateReader) (control other : Control) : Prop :=
  ∀ (cellTest : Text → Text → Bool) (heads : List ColumnHead) (texts : List Text)
    (found : RowMatch), control.kept ⟨read, cellTest⟩ heads texts = some found →
    ∃ more, other.kept ⟨read, cellTest⟩ heads texts = some more ∧ found.merge more = found

/-- A search is redundant exactly if its outcome lies below that of the control for every row. -/
theorem isRedundant_iff :
    IsRedundant read control other ↔
      ∀ (cellTest : Text → Text → Bool) (heads : List ColumnHead) (texts : List Text),
        other.outcome ⟨read, cellTest⟩ heads texts ≤ control.outcome ⟨read, cellTest⟩ heads texts :=
  forall₃_congr fun _ _ _ => outcome_le_iff.symm

/-! ## Parts of a conjunction -/

/-- Conjunctions with the same parts make the same of every row, and one with more parts does if and
only if the others demand nothing more. -/
theorem kept_eq_iff {children'' : List Control}
    (parts : ∀ child, child ∈ children' ↔ child ∈ children ∨ child ∈ children'') :
    (∀ (cellTest : Text → Text → Bool) (heads : List ColumnHead) (texts : List Text),
        (together children).kept ⟨read, cellTest⟩ heads texts =
          (together children').kept ⟨read, cellTest⟩ heads texts) ↔
      ∀ child ∈ children'', IsRedundant read (together children) child := by
  have union : children'.toFinset = children.toFinset ∪ children''.toFinset := by
    ext child
    rw [Finset.mem_union, List.mem_toFinset, List.mem_toFinset, List.mem_toFinset]
    exact parts child
  have one : ∀ (cellTest : Text → Text → Bool) (heads : List ColumnHead) (texts : List Text),
      (together children).kept ⟨read, cellTest⟩ heads texts =
          (together children').kept ⟨read, cellTest⟩ heads texts ↔
        ∀ child ∈ children'', child.outcome ⟨read, cellTest⟩ heads texts ≤
          (together children).outcome ⟨read, cellTest⟩ heads texts := by
    intro cellTest heads texts
    rw [← outcome_inj, outcome_together, outcome_together, union, Finset.sup_union, left_eq_sup,
      Finset.sup_le_iff]
    simp only [List.mem_toFinset]
  constructor
  · intro same child member
    rw [isRedundant_iff]
    intro cellTest heads texts
    exact (one cellTest heads texts).mp (same cellTest heads texts) child member
  · intro redundant cellTest heads texts
    refine (one cellTest heads texts).mpr ?_
    intro child member
    exact isRedundant_iff.mp (redundant child member) cellTest heads texts

/-! ## Orderings -/

/-- A control that was read for a token orders by what its written form is read as. -/
theorem sorting_text {sorting : Control → List Text} {token : Text}
    (filters : ∀ control, FiltersOnly control → sorting control = []) (proper : token.IsToken)
    (readable : ∀ bare, bareForm? token = some bare → IsReadable read bare)
    (found : reading? read token = some control) :
    (readAll read (splitTokens control.text)).flatMap sorting = sorting control := by
  have whole : (readAll read [normalForm token]).flatMap sorting = sorting control := by
    rw [readAll, List.filterMap_cons_some (reading?_normalForm.trans found), List.filterMap_nil,
      List.flatMap_cons, List.flatMap_nil, List.append_nil]
  have nothing : (readAll read (bareForm? token).toList).flatMap sorting = [] := by
    cases bare : bareForm? token with
    | none => rfl
    | some form =>
        obtain ⟨search, reading, only⟩ := reading?_bare bare (readable form bare)
        rw [Option.toList_some, readAll, List.filterMap_cons_some reading, List.filterMap_nil,
          List.flatMap_cons, List.flatMap_nil, List.append_nil, filters search only]
  rw [(splitTokens_text proper found).2, written, readAll, List.filterMap_append,
    List.flatMap_append]
  exact (congrArg₂ _ nothing whole).trans (List.nil_append _)

/-- A written directive orders rows and columns as the directive. -/
theorem sortsAlike_written {sorting : Control → List Text}
    (filters : ∀ control, FiltersOnly control → sorting control = [])
    (readable : ∀ bare ∈ bareForms (splitTokens directive), IsReadable read bare) :
    Table.SortsAlike ((readAll read (splitTokens directive)).flatMap sorting)
      ((readAll read (splitTokens (together (readAll read (splitTokens directive))).text)).flatMap
        sorting) := by
  let tokensOf (text : Text) : List Text := (readAll read (splitTokens text)).flatMap sorting
  have none : tokensOf [] = [] := by
    change (readAll read (splitTokens [])).flatMap sorting = []
    rw [splitTokens_nil]
    rfl
  have typed : (readAll read (splitTokens directive)).flatMap sorting =
      ((readAll read (splitTokens directive)).map Control.text).flatMap tokensOf := by
    rw [List.flatMap_map]
    refine List.flatMap_congr ?_
    intro control member
    obtain ⟨token, inside, found⟩ := exists_token_of_mem_readAll member
    refine (sorting_text filters (isToken_of_mem_splitTokens inside) ?_ found).symm
    intro bare known
    exact readable bare (List.mem_filterMap.mpr ⟨token, inside, known⟩)
  have written : (readAll read
        (splitTokens (together (readAll read (splitTokens directive))).text)).flatMap sorting =
      (writtenTexts read directive).flatMap tokensOf := by
    rw [splitTokens_text_together, readAll, List.filterMap_flatMap, List.flatMap_assoc]
    rfl
  rw [typed, written]
  exact Table.SortsAlike.firstOccurrences none [] _

/-! ## The round trip -/

/-- A written directive filters exactly if the directive does. -/
theorem isSearch_written
    (readable : ∀ token ∈ splitTokens directive, IsReadable read token) :
    (together (readAll read (splitTokens directive))).isSearch =
      (together (readAll read
        (splitTokens (together (readAll read (splitTokens directive))).text))).isSearch := by
  rw [isSearch_together, isSearch_together, Bool.eq_iff_iff, anySearch_iff, anySearch_iff]
  constructor
  · rintro ⟨child, member, filters⟩
    exact ⟨child, (mem_readAll_written_iff readable).mpr (.inl member), filters⟩
  · rintro ⟨child, member, filters⟩
    rcases (mem_readAll_written_iff readable).mp member with typed | bare
    · exact ⟨child, typed, filters⟩
    · obtain ⟨form, inside, -⟩ := exists_token_of_mem_readAll bare
      obtain ⟨token, known, found⟩ := List.mem_filterMap.mp inside
      obtain ⟨search, reading, only⟩ := reading?_of_bareForm? found (readable token known)
      exact ⟨search, List.mem_filterMap.mpr ⟨token, known, reading⟩, only.isSearch_eq⟩

/-- That every bare form can be read and is redundant is a matter of the tokens and of the controls
that they are read as. -/
theorem forall_bareForms_iff :
    (∀ bare ∈ bareForms (splitTokens directive), ∃ search, readToken read bare = .ok (some search) ∧
        IsRedundant read control search) ↔
      (∀ bare ∈ bareForms (splitTokens directive), IsReadable read bare) ∧
        ∀ search ∈ readAll read (bareForms (splitTokens directive)),
          IsRedundant read control search := by
  constructor
  · intro all
    refine ⟨?_, ?_⟩
    · intro bare member
      obtain ⟨search, reading, -⟩ := all bare member
      exact ⟨some search, reading⟩
    · intro search member
      obtain ⟨bare, inside, reading⟩ := exists_token_of_mem_readAll member
      obtain ⟨search', reading', redundant⟩ := all bare inside
      rw [reading?_eq_some_iff, reading'] at reading
      cases reading
      exact redundant
  · rintro ⟨readable, redundant⟩ bare member
    obtain ⟨token, -, found⟩ := List.mem_filterMap.mp member
    obtain ⟨search, reading, -⟩ := reading?_bare found (readable bare member)
    exact ⟨search, reading?_eq_some_iff.mp reading,
      redundant search (List.mem_filterMap.mpr ⟨bare, member, reading⟩)⟩

/-- A directive whose bare forms are redundant has the same effect when it is written and read
again. -/
theorem agrees_of_redundant
    (readable : ∀ token ∈ splitTokens directive, IsReadable read token)
    (bares : ∀ bare ∈ bareForms (splitTokens directive), IsReadable read bare)
    (redundant : ∀ search ∈ readAll read (bareForms (splitTokens directive)),
      IsRedundant read (together (readAll read (splitTokens directive))) search) :
    ∃ again, parse read (together (readAll read (splitTokens directive))).text = .ok again ∧
      Agrees read (together (readAll read (splitTokens directive))) again := by
  refine ⟨_, parse_eq_ok_iff.mpr ⟨(isReadable_written_iff readable).mpr bares, rfl⟩, ?_⟩
  refine ⟨isSearch_written readable, ?_, ?_, ?_⟩
  · exact (kept_eq_iff fun _ => mem_readAll_written_iff readable).mpr redundant
  · intro ρ columns row₁ row₂
    rw [rowSorting_together, rowSorting_together]
    exact (sortsAlike_written (fun _ only => only.rowSorting_eq) bares).rows columns row₁ row₂
  · intro α name columns
    refine Table.SortsAlike.orderColumns_eq ?_ name columns
    rw [columnSorting_together, columnSorting_together]
    exact sortsAlike_written (fun _ only => only.columnSorting_eq) bares

/-- **Round trip.** A directive that is read, written and read again has the same effect if and only
if every bare form of one of its tokens can be read and is redundant. -/
theorem parse_text_agrees_iff (accepted : parse read directive = .ok control) :
    (∃ again, parse read control.text = .ok again ∧ Agrees read control again) ↔
      ∀ bare ∈ bareForms (splitTokens directive),
        ∃ search, readToken read bare = .ok (some search) ∧ IsRedundant read control search := by
  obtain ⟨readable, rfl⟩ := parse_eq_ok_iff.mp accepted
  rw [forall_bareForms_iff]
  constructor
  · rintro ⟨again, reread, agrees⟩
    obtain ⟨all, rfl⟩ := parse_eq_ok_iff.mp reread
    refine ⟨(isReadable_written_iff readable).mp all, ?_⟩
    exact (kept_eq_iff fun _ => mem_readAll_written_iff readable).mp agrees.kept_eq
  · rintro ⟨bares, redundant⟩
    exact agrees_of_redundant readable bares redundant

/-- A quoted search in a column is written along with the bare one, which a row need not have. -/
theorem not_agrees_of_quotes :
    let read : DateReader := fun _ => none
    let directive : Text := ['a', ':', '"', 'b', '"']
    ∃ control, parse read directive = .ok control ∧
      ¬∃ again, parse read control.text = .ok again ∧ Agrees read control again := by
  intro read directive
  let typed : Control := .anyOf
    [.category ['a'] (.term (.literal ['"', 'b', '"'])), .term (.literal directive)]
  let bare : Control := .anyOf
    [.category ['a'] (.term (.literal ['b'])), .term (.literal ['a', ':', 'b'])]
  have accepted : parse read directive = .ok typed := by decide +kernel
  refine ⟨typed, accepted, ?_⟩
  rw [parse_text_agrees_iff accepted]
  intro all
  obtain ⟨search, reading, redundant⟩ := all ['a', ':', 'b'] (by decide +kernel)
  have known : readToken read ['a', ':', 'b'] = .ok (some bare) := by decide +kernel
  rw [known] at reading
  cases reading
  obtain ⟨more, kept, -⟩ := redundant (fun _ _ => false) [⟨['z'], true⟩] [directive]
    [some ⟨[⟨0, 5⟩]⟩] (by decide +kernel)
  have dropped : bare.kept ⟨read, fun _ _ => false⟩ [⟨['z'], true⟩] [directive] = none := by
    decide +kernel
  rw [dropped] at kept
  cases kept

end Control

end TableSearch
