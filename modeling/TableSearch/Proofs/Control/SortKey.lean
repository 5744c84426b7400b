import Mathlib.Data.List.ReduceOption
import TableSearch.Proofs.Control.ColumnName
import TableSearch.Proofs.Search.Combination
import TableSearch.Proofs.Table.Criteria
import TableSearch.Proofs.Table.Refinement

/-! # What a change of the order orders by

The tokens that order rows after a click on the head of a column.  A control has a slot for each of
its tokens, and an empty one for each part that neither filters nor orders
(`TableSearch.Control.slots`).  If a token names the column, or a slot is empty, the change happens in
these slots, and otherwise the column becomes the first to order by
(`TableSearch.Control.rowSorting_toggleSort`).

Where the column comes first, it has to be found again from its token
(`TableSearch.Table.findSome?_toggleSort_iff`).
-/

namespace TableSearch

namespace Control

variable {column : Text} {control : Control} {children : List Control}

/-! ## Slots -/

mutual

/-- The tokens of a control that order rows, with an empty slot for each part that neither filters
nor orders. -/
def slots : Control → List (Option Text)
  | unfiltered => [none]
  | rowSort tokens => tokens.map some
  | anyOf children | allOf children => slotsOfAll children
  | term _ | emptyCell | predicate _ _ | category _ _ | columnSort _ => []

/-- The slots of several controls. -/
def slotsOfAll : List Control → List (Option Text)
  | [] => []
  | child :: rest => slots child ++ slotsOfAll rest

end

mutual

/-- What a control orders rows by are its slots that are not empty. -/
theorem rowSorting_eq_slots : (control : Control) → control.rowSorting = control.slots.reduceOption
  | rowSort tokens => by
      rw [rowSorting, slots, List.reduceOption, List.filterMap_map]
      exact List.filterMap_some.symm
  | anyOf children | allOf children => by
      rw [rowSorting, slots, rowSortings_eq_slotsOfAll children]
  | unfiltered | term _ | emptyCell | predicate _ _ | category _ _ | columnSort _ => rfl

/-- What several controls order rows by are their slots that are not empty. -/
theorem rowSortings_eq_slotsOfAll : (children : List Control) →
    rowSortings children = (slotsOfAll children).reduceOption
  | [] => rfl
  | child :: rest => by
      rw [rowSortings, slotsOfAll, List.reduceOption_append, rowSorting_eq_slots child,
        rowSortings_eq_slotsOfAll rest]

end

/-- Whether a change of the order by a column changes a slot. -/
def turns (column : Text) : Option Text → Bool
  | none => true
  | some token => ColumnName.isNamedBy token column

/-- The token in a slot after a change of the order by a column. -/
def turn (column : Text) : Option Text → Text
  | none => ColumnName.sortToken column
  | some token => if ColumnName.isNamedBy token column then ColumnName.flip token else token

/-- A slot that is turned is changed. -/
theorem turn_ne {slot : Option Text} (turned : turns column slot = true) :
    some (turn column slot) ≠ slot := by
  cases slot with
  | none => exact Option.some_ne_none _
  | some token =>
      have flipped : turn column (some token) = ColumnName.flip token := if_pos turned
      rw [flipped, ne_eq, Option.some.injEq]
      exact ColumnName.flip_ne token

theorem turn_eq {token : Text} (kept : ColumnName.isNamedBy token column = false) :
    turn column (some token) = token :=
  if_neg (Bool.not_eq_true _ |>.mpr kept)

/-! ## Slots after a change of the order -/

/-- Tokens none of which names the column stay as they are. -/
theorem flipTokens_eq {tokens : List Text}
    (kept : ∀ token ∈ tokens, ColumnName.isNamedBy token column = false) :
    flipTokens column tokens = tokens := by
  have same : ∀ token ∈ tokens, turn column (some token) = token :=
    fun token member => turn_eq (kept token member)
  exact (List.map_congr_left same).trans (List.map_id tokens)

/-- Inside a control the tokens that name the column are turned around. -/
theorem toggleSort_part_rowSort (tokens : List Text) :
    toggleSort column false (rowSort tokens) = rowSort (flipTokens column tokens) := by
  rw [toggleSort]
  split
  · rfl
  · rename_i unsorted
    rw [if_neg Bool.false_ne_true, flipTokens_eq]
    intro token member
    rw [← Bool.not_eq_true]
    exact fun named => unsorted (List.any_eq_true.mpr ⟨token, member, named⟩)

/-- Inside a control a combination stays one, of its parts with the order turned around. -/
theorem toggleSort_part_combined {combine : List Control → Control}
    (either : combine = anyOf ∨ combine = allOf) :
    toggleSort column false (combine children) = combine (toggleSorts column children) := by
  rw [toggleSort_combined either]
  by_cases turned : toggleSorts column children = children
  · rw [if_neg (not_not_intro turned), if_neg Bool.false_ne_true, turned]
  · rw [if_pos turned]

mutual

/-- A change of the order inside a control turns each of its slots. -/
theorem slots_toggleSort : (control : Control) →
    (toggleSort column false control).slots = control.slots.map fun slot => some (turn column slot)
  | unfiltered => rfl
  | rowSort tokens => by
      rw [toggleSort_part_rowSort, slots, slots, flipTokens, List.map_map, List.map_map]
      rfl
  | anyOf children => by
      rw [toggleSort_part_combined (.inl rfl), slots, slots, slotsOfAll_toggleSorts children]
  | allOf children => by
      rw [toggleSort_part_combined (.inr rfl), slots, slots, slotsOfAll_toggleSorts children]
  | term _ | category _ _ | emptyCell | predicate _ _ | columnSort _ => rfl

/-- A change of the order inside several controls turns each of their slots. -/
theorem slotsOfAll_toggleSorts : (children : List Control) →
    slotsOfAll (toggleSorts column children) =
      (slotsOfAll children).map fun slot => some (turn column slot)
  | [] => rfl
  | child :: rest => by
      rw [toggleSorts, slotsOfAll, slotsOfAll, List.map_append, slots_toggleSort child,
        slotsOfAll_toggleSorts rest]

end

mutual

/-- A part of which no slot is changed is not changed at all. -/
theorem toggleSort_part_eq : (control : Control) →
    (∀ slot ∈ control.slots, turns column slot = false) →
    toggleSort column false control = control
  | unfiltered, kept => nomatch kept none List.mem_cons_self
  | rowSort tokens, kept => by
      rw [toggleSort_part_rowSort, flipTokens_eq]
      exact fun token member => kept (some token) (List.mem_map_of_mem member)
  | anyOf children, kept => by
      rw [toggleSort_part_combined (.inl rfl), toggleSorts_eq children kept]
  | allOf children, kept => by
      rw [toggleSort_part_combined (.inr rfl), toggleSorts_eq children kept]
  | term _, _ | category _ _, _ | emptyCell, _ | predicate _ _, _ | columnSort _, _ => rfl

/-- Controls without a slot to turn are not changed. -/
theorem toggleSorts_eq : (children : List Control) →
    (∀ slot ∈ slotsOfAll children, turns column slot = false) →
    toggleSorts column children = children
  | [], _ => rfl
  | child :: rest, kept => by
      rw [slotsOfAll, List.forall_mem_append] at kept
      rw [toggleSorts, toggleSort_part_eq child kept.1, toggleSorts_eq rest kept.2]

end

/-- Parts are changed if one of their slots is. -/
theorem toggleSorts_ne_iff :
    toggleSorts column children ≠ children ↔
      (slotsOfAll children).any (turns column) = true := by
  rw [List.any_eq_true]
  constructor
  · intro changed
    by_contra kept
    rw [not_exists] at kept
    refine changed (toggleSorts_eq children fun slot member => ?_)
    rw [← Bool.not_eq_true]
    exact fun turned => kept slot ⟨member, turned⟩
  · rintro ⟨slot, member, turned⟩ same
    have slots : slotsOfAll (toggleSorts column children) = _ := slotsOfAll_toggleSorts children
    rw [same, ← List.map_id (slotsOfAll children), List.map_map, List.map_inj_left] at slots
    exact turn_ne turned (slots slot member).symm

/-- The tokens of a part with the order turned around. -/
theorem rowSorting_toggleSort_part :
    (toggleSort column false control).rowSorting = control.slots.map (turn column) := by
  rw [rowSorting_eq_slots, slots_toggleSort, List.reduceOption, List.filterMap_map]
  exact congrFun List.filterMap_eq_map control.slots

theorem rowSorting_orderFirst :
    (conjoin [.rowSort [ColumnName.sortToken column], control]).rowSorting =
      ColumnName.sortToken column :: control.rowSorting := by
  rw [rowSorting_conjoin, List.flatMap_cons, List.flatMap_singleton]
  rfl

/-- A combination orders by its turned slots, if one of them is to be turned, and otherwise by the
column first. -/
theorem rowSorting_toggleSort_combined {combine : List Control → Control}
    (either : combine = anyOf ∨ combine = allOf)
    (slots_eq : (combine children).slots = slotsOfAll children) :
    (toggleSort column true (combine children)).rowSorting =
      if (combine children).slots.any (turns column) then (combine children).slots.map (turn column)
      else ColumnName.sortToken column :: (combine children).rowSorting := by
  rw [toggleSort_combined either, ← rowSorting_toggleSort_part, toggleSort_part_combined either,
    slots_eq]
  by_cases turned : (slotsOfAll children).any (turns column) = true
  · rw [if_pos turned, if_pos (toggleSorts_ne_iff.mpr turned)]
  · rw [if_neg turned, if_neg (mt toggleSorts_ne_iff.mp turned), if_pos rfl, rowSorting_orderFirst]

/-- The order by a column is turned around where a control has it, or put into its empty slots, and
otherwise it comes first. -/
theorem rowSorting_toggleSort :
    (toggleSort column true control).rowSorting =
      if control.slots.any (turns column) then control.slots.map (turn column)
      else ColumnName.sortToken column :: control.rowSorting := by
  cases control with
  | unfiltered => rfl
  | rowSort tokens =>
      rw [← rowSorting_toggleSort_part, toggleSort_part_rowSort, toggleSort, slots, List.any_map]
      change (if tokens.any (ColumnName.isNamedBy · column) then _ else _ : Control).rowSorting =
        if tokens.any (ColumnName.isNamedBy · column) then _ else _
      split <;> rfl
  | anyOf children => exact rowSorting_toggleSort_combined (.inl rfl) rfl
  | allOf children => exact rowSorting_toggleSort_combined (.inr rfl) rfl
  | _ =>
      simp only [toggleSort, if_true]
      exact rowSorting_orderFirst

/-! ## What comes before the column -/

/-- The tokens in front of the first empty slot, if there is one. -/
def tokensAhead : List (Option Text) → Option (List Text)
  | [] => none
  | none :: _ => some []
  | some token :: rest => (tokensAhead rest).map (token :: ·)

/-- The tokens of a control that stay in front of a column by which the order is changed. -/
def ahead (control : Control) : List Text :=
  (tokensAhead control.slots).getD []

variable {slots : List (Option Text)} {tokens : List Text}

/-- If no token names the column, the first slot that is turned is the first empty one, which then
holds the token of the column, and the tokens in front of it stay. -/
theorem map_turn_of_tokensAhead (known : tokensAhead slots = some tokens)
    (unsorted : ∀ token, some token ∈ slots → ColumnName.isNamedBy token column = false) :
    ∃ behind, slots.map (turn column) = tokens ++ ColumnName.sortToken column :: behind ∧
      (∀ token ∈ tokens, some token ∈ slots) ∧
      ∀ token ∈ behind, token = ColumnName.sortToken column ∨ some token ∈ slots := by
  induction slots generalizing tokens with
  | nil => cases known
  | cons slot rest ih =>
      cases slot with
      | none =>
          cases known
          refine ⟨rest.map (turn column), rfl, List.forall_mem_nil _, ?_⟩
          intro token member
          obtain ⟨slot, inside, rfl⟩ := List.mem_map.mp member
          cases slot with
          | none => exact .inl rfl
          | some token =>
              rw [turn_eq (unsorted token (List.mem_cons_of_mem _ inside))]
              exact .inr (List.mem_cons_of_mem _ inside)
      | some first =>
          obtain ⟨later, known', rfl⟩ := Option.map_eq_some_iff.mp known
          obtain ⟨behind, same, front, back⟩ :=
            ih known' fun token member => unsorted token (List.mem_cons_of_mem _ member)
          refine ⟨behind, ?_, ?_, ?_⟩
          · rw [List.map_cons, same, turn_eq (unsorted first List.mem_cons_self), List.cons_append]
          · rw [List.forall_mem_cons]
            exact ⟨List.mem_cons_self, fun token member => List.mem_cons_of_mem _ (front token member)⟩
          · exact fun token member => (back token member).imp_right (List.mem_cons_of_mem _)

/-- No tokens stay in front of the column exactly if there is no empty slot. -/
theorem tokensAhead_eq_none_iff : tokensAhead slots = none ↔ none ∉ slots := by
  induction slots with
  | nil => exact iff_of_true rfl List.not_mem_nil
  | cons slot rest ih =>
      cases slot with
      | none => exact iff_of_false (Option.some_ne_none _) (not_not_intro List.mem_cons_self)
      | some token => simp [tokensAhead, ih]

/-- If no token of a control names the column, the order by it comes behind the tokens in front of the
first empty slot, and otherwise first. -/
theorem rowSorting_toggleSort_of_unsorted
    (unsorted : ∀ token ∈ control.rowSorting, ColumnName.isNamedBy token column = false) :
    ∃ behind, (toggleSort column true control).rowSorting =
        control.ahead ++ ColumnName.sortToken column :: behind ∧
      (∀ token ∈ control.ahead, token ∈ control.rowSorting) ∧
      ∀ token ∈ behind, token = ColumnName.sortToken column ∨ token ∈ control.rowSorting := by
  have slotted : ∀ token, some token ∈ control.slots ↔ token ∈ control.rowSorting := by
    intro token
    rw [rowSorting_eq_slots, List.reduceOption_mem_iff]
  simp only [← slotted] at unsorted ⊢
  rw [rowSorting_toggleSort, ahead]
  cases known : tokensAhead control.slots with
  | none =>
      have full : none ∉ control.slots := tokensAhead_eq_none_iff.mp known
      have kept : ¬control.slots.any (turns column) = true := by
        rw [List.any_eq_true]
        rintro ⟨_ | token, member, turned⟩
        · exact full member
        · exact Bool.false_ne_true ((unsorted token member).symm.trans turned)
      rw [if_neg kept]
      exact ⟨control.rowSorting, rfl, List.forall_mem_nil _,
        fun token member => .inr ((slotted token).mpr member)⟩
  | some tokens =>
      have empty : none ∈ control.slots := by
        by_contra full
        rw [tokensAhead_eq_none_iff.mpr full] at known
        cases known
      rw [if_pos (List.any_eq_true.mpr ⟨none, empty, rfl⟩)]
      exact map_turn_of_tokensAhead known unsorted

end Control

/-! ## The first column that tokens name -/

namespace Table

variable {ρ : Type} {columns : List (Column ρ)} {heads : List ColumnHead} {name token : Text}
  {direction : Direction} {tokens : List Text}

/-- The name of the first column that a token names, with the direction that the token gives. -/
def firstNamed? (heads : List ColumnHead) (token : Text) : Option (Text × Direction) :=
  heads.findSome? fun head => (ColumnName.direction? token head.name).map (head.name, ·)

/-- The first column that a token names is found by the heads of the columns alone. -/
theorem firstNamed?_heads :
    firstNamed? (Column.heads columns) token =
      (named? columns token).map fun naming => (naming.1.head.name, naming.2) := by
  rw [firstNamed?, named?, Column.heads, List.findSome?_map, List.map_findSome?]
  congr 1
  funext column
  rw [Function.comp_apply, Function.comp_apply, Option.map_map]
  rfl

/-- The first column that one of several tokens names is found by the heads of the columns alone. -/
theorem findSome?_firstNamed?_heads :
    tokens.findSome? (firstNamed? (Column.heads columns)) =
      (tokens.findSome? (named? columns)).map fun naming => (naming.1.head.name, naming.2) := by
  rw [List.map_findSome?]
  congr 1
  funext token
  exact firstNamed?_heads

/-- The column that a token names first is one that it names. -/
theorem isNamedBy_of_firstNamed? (naming : firstNamed? heads token = some (name, direction)) :
    ColumnName.isNamedBy token name = true := by
  obtain ⟨head, -, names⟩ := List.exists_of_findSome?_eq_some naming
  obtain ⟨_, known, same⟩ := Option.map_eq_some_iff.mp names
  cases same
  rw [ColumnName.isNamedBy, known]
  rfl

/-- Among tokens that do not name a column, the token for it makes it the first to be ordered by if no
token in front of it names any column, and if its own token names it before all others. -/
theorem findSome?_firstNamed?_iff {front behind : List Text}
    (unsorted : ∀ token ∈ front, ColumnName.isNamedBy token name = false)
    (unsorted' : ∀ token ∈ behind,
      token = ColumnName.sortToken name ∨ ColumnName.isNamedBy token name = false) :
    (front ++ ColumnName.sortToken name :: behind).findSome? (firstNamed? heads) =
        some (name, direction) ↔
      (∀ token ∈ front, firstNamed? heads token = none) ∧
        firstNamed? heads (ColumnName.sortToken name) = some (name, direction) := by
  rw [List.findSome?_append, List.findSome?_cons]
  constructor
  · intro found
    cases first : front.findSome? (firstNamed? heads) with
    | some naming =>
        obtain ⟨token, member, names⟩ := List.exists_of_findSome?_eq_some first
        rw [first] at found
        cases found
        have named := isNamedBy_of_firstNamed? names
        rw [unsorted token member] at named
        cases named
    | none =>
        rw [first, Option.none_or] at found
        refine ⟨List.findSome?_eq_none_iff.mp first, ?_⟩
        cases own : firstNamed? heads (ColumnName.sortToken name) with
        | some naming => rwa [own] at found
        | none =>
            rw [own] at found
            obtain ⟨token, member, names⟩ := List.exists_of_findSome?_eq_some found
            rcases unsorted' token member with rfl | unnamed
            · rw [own] at names
              cases names
            · rw [isNamedBy_of_firstNamed? names] at unnamed
              cases unnamed
  · rintro ⟨free, found⟩
    rw [List.findSome?_eq_none_iff.mpr free, found]
    rfl

/-- After a click on a column by which a control does not order yet, the column is the first to be
ordered by if no token ahead of it names any column, and if its own token names it before all
others. -/
theorem findSome?_toggleSort_iff {control : Control}
    (unsorted : ∀ token ∈ control.rowSorting, ColumnName.isNamedBy token name = false) :
    (control.toggleSort name true).rowSorting.findSome? (firstNamed? heads) =
        some (name, direction) ↔
      (∀ token ∈ control.ahead, firstNamed? heads token = none) ∧
        firstNamed? heads (ColumnName.sortToken name) = some (name, direction) := by
  obtain ⟨behind, tokens, front, back⟩ := Control.rowSorting_toggleSort_of_unsorted unsorted
  rw [tokens]
  exact findSome?_firstNamed?_iff (fun token inside => unsorted token (front token inside))
    fun token inside => (back token inside).imp_right (unsorted token)

/-- An ordinary name is found by its own token if no name in front of it is. -/
theorem firstNamed?_sortToken {before after : List ColumnHead} {head : ColumnHead}
    (ordinary : ColumnName.IsOrdinary head.name)
    (free : ∀ other ∈ before,
      ColumnName.isNamedBy (ColumnName.sortToken head.name) other.name = false) :
    firstNamed? (before ++ head :: after) (ColumnName.sortToken head.name) =
      some (head.name, .ascending) := by
  have passed : firstNamed? before (ColumnName.sortToken head.name) = none := by
    rw [firstNamed?, List.findSome?_eq_none_iff]
    intro other member
    exact Option.map_eq_none_iff.mpr (Option.not_isSome_iff_eq_none.mp
      (Bool.not_eq_true _ |>.mpr (free other member)))
  rw [firstNamed?] at passed ⊢
  rw [List.findSome?_append, passed, List.findSome?_cons,
    ColumnName.direction?_sortToken ordinary]
  rfl

end Table

end TableSearch
