import Mathlib.Data.Finset.Lattice.Fold
import Mathlib.Order.Lattice
import TableSearch.Proofs.Search.Agreement
import TableSearch.Control.Parser
import TableSearch.Table.FilteredRow

/-! # Conjunctions by their parts

What a filtering makes of a row is that the row is left out, or kept with spans in its cells
(`TableSearch.Outcome`).  Outcomes form a semilattice: two of them are joined by leaving the row out
if one of them does, and taking their spans together otherwise.

The outcome of a conjunction is the join of the outcomes of its parts
(`TableSearch.Control.outcome_together`), so that neither their order nor a repetition matters.
-/

namespace TableSearch

/-! ## Findings as a semilattice -/

namespace CellMatch

variable {found other third : CellMatch}

/-- Findings in a cell are taken together in either order. -/
theorem merge_comm (left : found.Ordered) (right : other.Ordered) :
    found.merge other = other.merge found := by
  cases found with
  | none => cases other <;> rfl
  | some before =>
      cases other with
      | none => rfl
      | some spans =>
          exact congrArg some
            (SpanSet.union_comm (ordered_some.mp left) (ordered_some.mp right))

/-- Findings in a cell are taken together in any grouping. -/
theorem merge_assoc (left : found.Ordered) (middle : other.Ordered) (right : third.Ordered) :
    (found.merge other).merge third = found.merge (other.merge third) := by
  cases found with
  | none => cases other <;> cases third <;> rfl
  | some first =>
      cases other with
      | none => cases third <;> rfl
      | some second =>
          cases third with
          | none => rfl
          | some last =>
              exact congrArg some (SpanSet.union_assoc (ordered_some.mp left)
                (ordered_some.mp middle) (ordered_some.mp right))

theorem merge_self (ordered : found.Ordered) : found.merge found = found := by
  cases found with
  | none => rfl
  | some spans => exact congrArg some (SpanSet.union_self (ordered_some.mp ordered))

theorem none_merge (ordered : found.Ordered) : merge none found = found := by
  cases found <;> rfl

end CellMatch

namespace RowMatch

variable {found other third : RowMatch}

theorem ordered_cons {first : CellMatch} :
    Ordered (first :: found) ↔ first.Ordered ∧ found.Ordered :=
  List.forall_mem_cons

theorem length_none {length : Nat} : (none length).length = length :=
  List.length_replicate

theorem length_merge (fits : found.length = other.length) :
    (found.merge other).length = other.length := by
  rw [merge, List.length_zipWith, fits, Nat.min_self]

/-- Findings in a row are taken together in either order. -/
theorem merge_comm (left : found.Ordered) (right : other.Ordered) :
    found.merge other = other.merge found := by
  induction found generalizing other with
  | nil =>
      cases other with
      | nil => rfl
      | cons second other => rfl
  | cons first found ih =>
      cases other with
      | nil => rfl
      | cons second other =>
          rw [ordered_cons] at left right
          rw [merge_cons, merge_cons, CellMatch.merge_comm left.1 right.1, ih left.2 right.2]

/-- Findings in a row are taken together in any grouping. -/
theorem merge_assoc (left : found.Ordered) (middle : other.Ordered) (right : third.Ordered) :
    (found.merge other).merge third = found.merge (other.merge third) := by
  induction found generalizing other third with
  | nil => rfl
  | cons first found ih =>
      cases other with
      | nil => rfl
      | cons second other =>
          cases third with
          | nil => rfl
          | cons last third =>
              rw [ordered_cons] at left middle right
              rw [merge_cons, merge_cons, merge_cons, merge_cons,
                CellMatch.merge_assoc left.1 middle.1 right.1, ih left.2 middle.2 right.2]

theorem merge_self (ordered : found.Ordered) : found.merge found = found := by
  induction found with
  | nil => rfl
  | cons first found ih =>
      rw [ordered_cons] at ordered
      rw [merge_cons, CellMatch.merge_self ordered.1, ih ordered.2]

/-- Nothing found adds nothing to a finding in a row. -/
theorem none_merge (ordered : found.Ordered) : (none found.length).merge found = found := by
  induction found with
  | nil => rfl
  | cons first found ih =>
      rw [ordered_cons] at ordered
      have next : none (first :: found).length = Option.none :: none found.length := rfl
      rw [next, merge_cons, CellMatch.none_merge ordered.1, ih ordered.2]

/-- Something is found by two searches together exactly if it is by one of them. -/
theorem isHit_merge (fits : found.length = other.length) :
    (found.merge other).isHit = (found.isHit || other.isHit) := by
  induction found generalizing other with
  | nil =>
      cases other with
      | nil => rfl
      | cons second other => cases fits
  | cons first found ih =>
      cases other with
      | nil => cases fits
      | cons second other =>
          have later := ih (Nat.succ.inj fits)
          rw [isHit, isHit, isHit] at later
          rw [merge_cons, isHit, isHit, isHit, List.any_cons, List.any_cons, List.any_cons,
            CellMatch.isHit_merge, later]
          cases first.isHit <;> cases second.isHit <;> simp

theorem isHit_none {length : Nat} : (none length).isHit = false := by
  rw [isHit, List.any_eq_false]
  intro cell member
  rw [List.eq_of_mem_replicate member]
  exact Bool.false_ne_true

end RowMatch

/-! ## Outcomes -/

/-- What a filtering makes of a row with a number of cells: the row is left out, or kept with spans
in order. -/
def RowOutcome (cells : Nat) : Type :=
  { answer : Option RowMatch // ∀ found, answer = some found →
      found.Ordered ∧ found.length = cells }

namespace RowOutcome

variable {cells : Nat}

/-- The answer to two questions about a row, which is left out if one of them leaves it out. -/
def both : Option RowMatch → Option RowMatch → Option RowMatch
  | some found, some other => some (found.merge other)
  | _, _ => none

/-- A row that is kept with some spans. -/
def kept (found : RowMatch) (ordered : found.Ordered) (fits : found.length = cells) :
    RowOutcome cells :=
  ⟨some found, by
    rintro _ ⟨⟩
    exact ⟨ordered, fits⟩⟩

/-- A row that is left out. -/
def dropped : RowOutcome cells :=
  ⟨none, by
    intro found same
    cases same⟩

instance : Max (RowOutcome cells) where
  max first second := ⟨both first.1 second.1, by
    intro found same
    obtain ⟨_ | left, holds⟩ := first
    · cases same
    · obtain ⟨_ | right, holds'⟩ := second
      · cases same
      · cases same
        obtain ⟨ordered, fits⟩ := holds left rfl
        obtain ⟨ordered', fits'⟩ := holds' right rfl
        refine ⟨RowMatch.merge_ordered ordered ordered', ?_⟩
        rw [RowMatch.length_merge (fits.trans fits'.symm), fits']⟩

theorem val_max (first second : RowOutcome cells) :
    (max first second).1 = both first.1 second.1 := rfl

/-- The join of two outcomes does not depend on their order. -/
theorem max_comm (first second : RowOutcome cells) : max first second = max second first := by
  refine Subtype.ext ?_
  rw [val_max, val_max]
  obtain ⟨_ | left, holds⟩ := first
  · obtain ⟨_ | right, -⟩ := second <;> rfl
  · obtain ⟨_ | right, holds'⟩ := second
    · rfl
    · exact congrArg some (RowMatch.merge_comm (holds left rfl).1 (holds' right rfl).1)

/-- The join of outcomes does not depend on their grouping. -/
theorem max_assoc (first second third : RowOutcome cells) :
    max (max first second) third = max first (max second third) := by
  refine Subtype.ext ?_
  rw [val_max, val_max, val_max, val_max]
  obtain ⟨_ | left, holds⟩ := first
  · rfl
  · obtain ⟨_ | middle, holds'⟩ := second
    · rfl
    · obtain ⟨_ | right, holds''⟩ := third
      · rfl
      · exact congrArg some (RowMatch.merge_assoc (holds left rfl).1 (holds' middle rfl).1
          (holds'' right rfl).1)

theorem max_self (first : RowOutcome cells) : max first first = first := by
  refine Subtype.ext ?_
  rw [val_max]
  obtain ⟨_ | left, holds⟩ := first
  · rfl
  · exact congrArg some (RowMatch.merge_self (holds left rfl).1)

/-- A row that is left out is above all others, and of two that are kept the one is above whose
spans swallow those of the other. -/
instance : SemilatticeSup (RowOutcome cells) :=
  .mk' max_comm max_assoc max_self

instance : OrderBot (RowOutcome cells) where
  bot := kept (.none cells) RowMatch.ordered_none RowMatch.length_none
  bot_le := by
    rintro ⟨_ | found, holds⟩
    · rfl
    · obtain ⟨ordered, rfl⟩ := holds found rfl
      exact Subtype.ext (congrArg some (RowMatch.none_merge ordered))

theorem eq_dropped_of_le {outcome : RowOutcome cells} (above : dropped ≤ outcome) :
    outcome = dropped := by
  have join : max dropped outcome = outcome := above
  rw [← join]
  exact Subtype.ext rfl

/-- An outcome lies below another one exactly if a row that the other one keeps is kept by it as
well, with spans that the other one has already. -/
theorem le_iff {first second : RowOutcome cells} :
    first ≤ second ↔ ∀ found, second.1 = some found →
      ∃ other, first.1 = some other ∧ found.merge other = found := by
  have below : first ≤ second ↔ both first.1 second.1 = second.1 := Subtype.ext_iff
  rw [below]
  obtain ⟨answer, holds⟩ := first
  obtain ⟨_ | found, holds'⟩ := second
  · cases answer with
    | none => simp [both]
    | some other => simp [both]
  · cases answer with
    | none =>
        refine ⟨fun same => ?_, fun present => ?_⟩
        · cases same
        · obtain ⟨other, same, -⟩ := present found rfl
          cases same
    | some other =>
        have swap : other.merge found = found.merge other :=
          RowMatch.merge_comm (holds other rfl).1 (holds' found rfl).1
        rw [both, Option.some.injEq, swap]
        constructor
        · intro same found' known
          cases known
          exact ⟨other, rfl, same⟩
        · intro present
          obtain ⟨_, ⟨⟩, same⟩ := present found rfl
          exact same

end RowOutcome

/-! ## The outcome of a control -/

namespace Control

variable {env : Environment} {heads : List ColumnHead} {texts : List Text} {cells : List Cell}
  {control : Control}

/-- The spans with which a control keeps a row, none if the row is left out or its search fails. -/
def kept (env : Environment) (heads : List ColumnHead) (texts : List Text) (control : Control) :
    Option RowMatch :=
  match FilteredRow.evaluate env () heads texts control with
  | .ok row => if row.hasMatch then some row.found else none
  | .error _ => none

/-- What a search finds in a row is in order, and is something for each of its cells. -/
theorem findIn_ordered {found : RowMatch} (search : control.isSearch = true)
    (answer : control.findIn env cells = .ok (some found)) :
    found.Ordered ∧ found.length = cells.length := by
  cases stuck : control.fails env cells with
  | true =>
      obtain ⟨problem, failed⟩ := findIn_fails control search stuck
      rw [failed] at answer
      cases answer
  | false =>
      obtain ⟨found', answer', gives⟩ := findIn_gives control search stuck
      rw [answer] at answer'
      cases answer'
      refine ⟨gives.ordered, ?_⟩
      have lengths := congrArg List.length gives.spans_eq
      rwa [RowMatch.spans, List.length_map, List.length_map] at lengths

theorem kept_of_not_search (order : control.isSearch = false) :
    control.kept env heads texts = some (.none texts.length) := by
  rw [kept, FilteredRow.evaluate, order, if_neg Bool.false_ne_true]
  rfl

theorem kept_of_misfit (search : control.isSearch = true)
    (misfit : heads.length ≠ texts.length) : control.kept env heads texts = none := by
  rw [kept, FilteredRow.evaluate, if_pos search, findRow, if_pos misfit]
  rfl

/-- What the search of a row finds, unless it finds no spans. -/
def hit (env : Environment) (cells : List Cell) (control : Control) : Option RowMatch :=
  match control.findIn env cells with
  | .ok (some found) => if found.isHit then some found else none
  | _ => none

/-- A control that filters keeps a row exactly when its search is a hit. -/
theorem kept_eq_hit (search : control.isSearch = true) (fits : heads.length = texts.length) :
    control.kept env heads texts = control.hit env (List.zipWith Cell.mk heads texts) := by
  rw [kept, FilteredRow.evaluate, if_pos search, findRow, if_neg (not_not_intro fits), hit]
  cases stuck : control.fails env (List.zipWith Cell.mk heads texts) with
  | true =>
      obtain ⟨problem, failed⟩ := findIn_fails control search stuck
      rw [failed]
      rfl
  | false =>
      obtain ⟨found, answer, -⟩ := findIn_gives control search stuck
      rw [answer]
      rfl

/-- What a control makes of a row. -/
def outcome (env : Environment) (heads : List ColumnHead) (texts : List Text)
    (control : Control) : RowOutcome texts.length :=
  ⟨control.kept env heads texts, by
    intro found same
    cases search : control.isSearch with
    | false =>
        rw [kept_of_not_search search] at same
        cases same
        exact ⟨RowMatch.ordered_none, RowMatch.length_none⟩
    | true =>
        by_cases fits : heads.length = texts.length
        · rw [kept_eq_hit search fits, hit] at same
          split at same
          · rename_i answer
            split at same
            · cases same
              obtain ⟨ordered, lengths⟩ := findIn_ordered search answer
              refine ⟨ordered, ?_⟩
              rw [lengths, List.length_zipWith, fits, Nat.min_self]
            · cases same
          · cases same
        · rw [kept_of_misfit search fits] at same
          cases same⟩

/-- Controls have the same outcome for a row exactly if they keep it with the same spans or both
leave it out. -/
theorem outcome_inj {other : Control} :
    control.outcome env heads texts = other.outcome env heads texts ↔
      control.kept env heads texts = other.kept env heads texts :=
  Subtype.ext_iff

/-- A control adds nothing to what another one makes of a row exactly if it keeps the row whenever
that one does, with spans that are there already. -/
theorem outcome_le_iff {other : Control} :
    other.outcome env heads texts ≤ control.outcome env heads texts ↔
      ∀ found, control.kept env heads texts = some found →
        ∃ more, other.kept env heads texts = some more ∧ found.merge more = found :=
  RowOutcome.le_iff

theorem outcome_of_not_search (order : control.isSearch = false) :
    control.outcome env heads texts = ⊥ :=
  Subtype.ext (kept_of_not_search order)

/-! ## Conjunctions -/

/-- What the parts of a conjunction that filter find, added to what has been found. -/
def hits (env : Environment) (cells : List Cell) (children : List Control)
    (before : Option RowMatch) : Option RowMatch :=
  (children.filter isSearch).foldl (fun found child => RowOutcome.both found (child.hit env cells))
    before

variable {children : List Control} {before found : RowMatch}

theorem hits_none : hits env cells children none = none := by
  rw [hits]
  induction children.filter isSearch with
  | nil => rfl
  | cons child rest ih => exact ih

/-- A hit has spans. -/
theorem hit_isHit (present : control.hit env cells = some found) : found.isHit = true := by
  unfold hit at present
  split at present
  · split at present
    · cases present
      assumption
    · cases present
  · cases present

/-- A hit in a row is something for each of its cells. -/
theorem length_of_hit (search : control.isSearch = true)
    (present : control.hit env cells = some found) : found.length = cells.length := by
  unfold hit at present
  split at present
  · rename_i answer
    split at present
    · cases present
      exact (findIn_ordered search answer).2
    · cases present
  · cases present

/-- A part that filters is searched for before the others. -/
theorem hits_cons_search {child : Control} {rest : List Control} {before : Option RowMatch}
    (search : child.isSearch = true) :
    hits env cells (child :: rest) before =
      hits env cells rest (RowOutcome.both before (child.hit env cells)) := by
  rw [hits, List.filter_cons_of_pos search, List.foldl_cons, hits]

theorem hits_cons_order {child : Control} {rest : List Control} {before : Option RowMatch}
    (order : ¬child.isSearch = true) :
    hits env cells (child :: rest) before = hits env cells rest before := by
  rw [hits, List.filter_cons_of_neg order, hits]

/-- What a conjunction finds is what its parts find, and no spans if one of them finds none or
fails. -/
theorem findInAll_hits (env : Environment) (cells : List Cell) (children : List Control)
    {before : RowMatch} (fits : before.length = cells.length) :
    match findInAll env cells before children with
    | .ok found => hits env cells children (some before) = some found ∨
        hits env cells children (some before) = none ∧ found = .none cells.length
    | .error _ => hits env cells children (some before) = none := by
  induction children generalizing before with
  | nil =>
      rw [findInAll]
      exact .inl rfl
  | cons child rest ih =>
      rw [findInAll]
      by_cases search : child.isSearch = true
      · rw [if_pos search, hits_cons_search search]
        cases answer : child.findIn env cells with
        | error problem =>
            have missed : child.hit env cells = none := by rw [hit, answer]
            rw [missed]
            exact hits_none
        | ok found =>
            cases found with
            | none =>
                have missed : child.hit env cells = none := by rw [hit, answer]
                rw [missed]
                exact .inr ⟨hits_none, rfl⟩
            | some added =>
                simp only [bind, Except.bind, Option.filter]
                by_cases present : added.isHit = true
                · have known : child.hit env cells = some added := by
                    rw [hit, answer]
                    exact if_pos present
                  rw [if_pos present, known]
                  refine ih ?_
                  have same := length_of_hit search known
                  rw [RowMatch.length_merge (fits.trans same.symm), same]
                · have missed : child.hit env cells = none := by
                    rw [hit, answer]
                    exact if_neg present
                  rw [if_neg present, missed]
                  exact .inr ⟨hits_none, rfl⟩
      · rw [if_neg search, hits_cons_order search]
        exact ih fits

/-- What the parts find together has a span if something had one before or one of them filters. -/
theorem isHit_of_hits (fits : before.length = cells.length)
    (some : before.isHit = true ∨ anySearch children = true)
    (answer : hits env cells children (.some before) = .some found) : found.isHit = true := by
  induction children generalizing before with
  | nil =>
      cases answer
      rcases some with present | empty
      · exact present
      · rw [anySearch] at empty
        cases empty
  | cons child rest ih =>
      by_cases search : child.isSearch = true
      · rw [hits_cons_search search] at answer
        cases known : child.hit env cells with
        | none =>
            rw [known, RowOutcome.both, hits_none] at answer
            · cases answer
            · intro _ _ _ absurd
              cases absurd
        | some added =>
            rw [known] at answer
            have same := length_of_hit search known
            refine ih ?_ (.inl ?_) answer
            · rw [RowMatch.length_merge (fits.trans same.symm), same]
            · rw [RowMatch.isHit_merge (fits.trans same.symm), hit_isHit known, Bool.or_true]
      · rw [hits_cons_order search] at answer
        rw [anySearch, Bool.not_eq_true _ |>.mp search, Bool.false_or] at some
        exact ih fits some answer

/-- What the parts of a conjunction find is the join of their outcomes. -/
theorem hits_eq_sup (env : Environment) (children : List Control)
    (fits : heads.length = texts.length) (before : RowOutcome texts.length) :
    hits env (List.zipWith Cell.mk heads texts) children before.1 =
      (before ⊔ children.toFinset.sup (outcome env heads texts)).1 := by
  induction children generalizing before with
  | nil =>
      rw [List.toFinset_nil, Finset.sup_empty, sup_bot_eq]
      rfl
  | cons child rest ih =>
      rw [List.toFinset_cons, Finset.sup_insert, ← sup_assoc]
      by_cases search : child.isSearch = true
      · have same : RowOutcome.both before.1 (child.hit env (List.zipWith Cell.mk heads texts)) =
            (before ⊔ child.outcome env heads texts).1 := by
          rw [← kept_eq_hit search fits]
          rfl
        rw [hits_cons_search search, same, ih]
      · rw [hits_cons_order search, outcome_of_not_search (Bool.not_eq_true _ |>.mp search),
          sup_bot_eq, ih]

/-- A conjunction that filters is a hit exactly if each of its parts that filter is. -/
theorem hit_allOf (search : anySearch children = true) :
    (allOf children).hit env cells = hits env cells children (some (.none cells.length)) := by
  have answered := findInAll_hits env cells children RowMatch.length_none
  rw [hit, findIn, if_pos search]
  cases answer : findInAll env cells (.none cells.length) children with
  | error problem =>
      rw [answer] at answered
      exact answered.symm
  | ok found =>
      rw [answer] at answered
      rcases answered with whole | ⟨nothing, rfl⟩
      · rw [whole]
        exact if_pos (isHit_of_hits RowMatch.length_none (.inr search) whole)
      · rw [nothing]
        exact if_neg (by rw [RowMatch.isHit_none]; exact Bool.false_ne_true)

/-- Parts none of which filters have the least outcome together. -/
theorem eq_bot_of_order (order : anySearch children = false) :
    children.toFinset.sup (outcome env heads texts) = ⊥ := by
  induction children with
  | nil => rfl
  | cons child rest ih =>
      rw [anySearch, Bool.or_eq_false_iff] at order
      rw [List.toFinset_cons, Finset.sup_insert, outcome_of_not_search order.1, ih order.2,
        sup_bot_eq]

/-- One of several parts filters exactly when some part among them does. -/
theorem anySearch_iff : anySearch children = true ↔ ∃ child ∈ children, child.isSearch = true := by
  induction children with
  | nil =>
      rw [anySearch]
      simp
  | cons first rest ih =>
      rw [anySearch, Bool.or_eq_true, ih]
      simp

/-- All of several parts filter exactly when each of them does. -/
theorem allSearch_iff : allSearch children = true ↔ ∀ child ∈ children, child.isSearch = true := by
  induction children with
  | nil =>
      rw [allSearch]
      simp
  | cons first rest ih =>
      rw [allSearch, Bool.and_eq_true, ih]
      simp

/-- The outcome of a conjunction is the join of the outcomes of its parts. -/
theorem outcome_allOf :
    (allOf children).outcome env heads texts = children.toFinset.sup (outcome env heads texts) := by
  cases search : anySearch children with
  | false =>
      rw [eq_bot_of_order search]
      exact outcome_of_not_search search
  | true =>
      by_cases fits : heads.length = texts.length
      · have filters : (allOf children).isSearch = true := search
        have cells : (List.zipWith Cell.mk heads texts).length = texts.length := by
          rw [List.length_zipWith, fits, Nat.min_self]
        have whole := hits_eq_sup env children fits ⊥
        refine Subtype.ext ?_
        rw [bot_sup_eq] at whole
        rw [← whole]
        refine (kept_eq_hit filters fits).trans ?_
        rw [hit_allOf search, cells]
        rfl
      · obtain ⟨child, member, filters⟩ := anySearch_iff.mp search
        have left : child.outcome env heads texts = RowOutcome.dropped :=
          Subtype.ext (kept_of_misfit filters fits)
        have above : child.outcome env heads texts ≤
            children.toFinset.sup (outcome env heads texts) :=
          Finset.le_sup (List.mem_toFinset.mpr member)
        rw [left] at above
        rw [RowOutcome.eq_dropped_of_le above]
        exact Subtype.ext (kept_of_misfit search fits)

/-- **Conjunctions.** What several controls make of a row together is the join of what each of them
makes of it. -/
theorem outcome_together :
    (together children).outcome env heads texts =
      children.toFinset.sup (outcome env heads texts) := by
  match children with
  | [] => exact outcome_of_not_search rfl
  | [single] =>
      rw [List.toFinset_cons, Finset.sup_insert, List.toFinset_nil, Finset.sup_empty, sup_bot_eq]
      rfl
  | first :: second :: rest => exact outcome_allOf

theorem isSearch_together : (together children).isSearch = anySearch children := by
  match children with
  | [] => rfl
  | [single] => exact (Bool.or_false _).symm
  | first :: second :: rest => rfl

/-! ## The orderings of a conjunction -/

/-- What is collected child by child is what the children give one after another. -/
theorem eq_flatMap {α : Type} {collect : List Control → List α} {part : Control → List α}
    (nothing : collect [] = [])
    (more : ∀ child rest, collect (child :: rest) = part child ++ collect rest) :
    collect children = children.flatMap part := by
  induction children with
  | nil => exact nothing
  | cons child rest ih => rw [more, ih, List.flatMap_cons]

theorem rowSortings_eq_flatMap : rowSortings children = children.flatMap rowSorting :=
  eq_flatMap (by rw [rowSortings]) fun _ _ => by rw [rowSortings]

theorem columnSortings_eq_flatMap : columnSortings children = children.flatMap columnSorting :=
  eq_flatMap (by rw [columnSortings]) fun _ _ => by rw [columnSortings]

/-- What a conjunction gives, if it gives what its parts give one after another. -/
theorem flatMap_together {α : Type} {part : Control → List α} (nothing : part unfiltered = [])
    (parts : ∀ children, part (allOf children) = children.flatMap part) :
    part (together children) = children.flatMap part := by
  match children with
  | [] => exact nothing
  | [single] => exact (List.append_nil _).symm
  | first :: second :: rest => exact parts _

theorem rowSorting_together : (together children).rowSorting = children.flatMap rowSorting :=
  flatMap_together rfl fun _ => rowSortings_eq_flatMap

theorem columnSorting_together :
    (together children).columnSorting = children.flatMap columnSorting :=
  flatMap_together rfl fun _ => columnSortings_eq_flatMap

end Control

end TableSearch
