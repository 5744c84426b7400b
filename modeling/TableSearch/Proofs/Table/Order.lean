import TableSearch.Control.Parser
import TableSearch.Control.Printer
import TableSearch.Table.Filter

/-! # Repeated tokens of an ordering

A token that comes a second time orders nothing that it has not ordered the first time: neither rows
nor columns are put in another order if it is left out (`TableSearch.Table.SortsAlike.drop`).
-/

namespace TableSearch

namespace Table

variable {ρ : Type} {columns : List (Column ρ)} {row₁ row₂ : ρ}
  {first second third tokens more : List Text}

/-! ## Rows -/

/-- The order of two rows by one token. -/
def tokenOrder (columns : List (Column ρ)) (row₁ row₂ : ρ) (token : Text) : Ordering :=
  match columns.findSome? fun column =>
    (ColumnName.direction? token column.head.name).map (column, ·) with
  | some (column, direction) => column.order (direction == Direction.descending) row₁ row₂
  | none => .eq

theorem sortOrder_cons {token : Text} :
    sortOrder columns row₁ row₂ (token :: tokens) =
      (tokenOrder columns row₁ row₂ token).then (sortOrder columns row₁ row₂ tokens) := rfl

/-- Rows are ordered by the first tokens and then by the others. -/
theorem sortOrder_append :
    sortOrder columns row₁ row₂ (tokens ++ more) =
      (sortOrder columns row₁ row₂ tokens).then (sortOrder columns row₁ row₂ more) := by
  induction tokens with
  | nil => rfl
  | cons token rest ih =>
      rw [List.cons_append, sortOrder_cons, sortOrder_cons, ih, Ordering.then_assoc]

/-- Tokens tie two rows exactly if each of them does. -/
theorem sortOrder_eq_iff :
    sortOrder columns row₁ row₂ tokens = .eq ↔
      ∀ token ∈ tokens, tokenOrder columns row₁ row₂ token = .eq := by
  induction tokens with
  | nil => exact ⟨fun _ _ member => (List.not_mem_nil member).elim, fun _ => rfl⟩
  | cons token rest ih =>
      rw [sortOrder_cons, Ordering.then_eq_eq, ih, List.forall_mem_cons]

/-- Tokens that have all been there before order no further rows. -/
theorem sortOrder_drop (known : ∀ token ∈ second, token ∈ first) :
    sortOrder columns row₁ row₂ (first ++ second ++ third) =
      sortOrder columns row₁ row₂ (first ++ third) := by
  rw [sortOrder_append, sortOrder_append, sortOrder_append]
  by_cases tie : sortOrder columns row₁ row₂ first = .eq
  · have later : sortOrder columns row₁ row₂ second = .eq := by
      rw [sortOrder_eq_iff] at tie ⊢
      intro token member
      exact tie token (known token member)
    rw [tie, later]
    rfl
  · cases decided : sortOrder columns row₁ row₂ first with
    | eq => exact (tie decided).elim
    | lt => rfl
    | gt => rfl

/-! ## Columns -/

theorem columnRank_append {name : Text} :
    columnRank (tokens ++ more) name =
      if columnRank tokens name < tokens.length then columnRank tokens name
      else columnRank more name + tokens.length :=
  List.findIdx_append

/-- Tokens that have all been there before only move the columns behind them. -/
theorem columnRank_drop (known : ∀ token ∈ second, token ∈ first) (name : Text) :
    columnRank (first ++ second ++ third) name =
      if columnRank (first ++ third) name < first.length then columnRank (first ++ third) name
      else columnRank (first ++ third) name + second.length := by
  rw [columnRank_append, columnRank_append, columnRank_append, List.length_append]
  by_cases named : columnRank first name < first.length
  · have before : columnRank first name < first.length + second.length := by omega
    rw [if_pos named, if_pos before, if_pos named, if_pos named]
  · have again : ¬columnRank second name < second.length := by
      intro within
      obtain ⟨token, member, names⟩ := List.findIdx_lt_length.mp within
      exact named (List.findIdx_lt_length.mpr ⟨token, known token member, names⟩)
    have behind : ¬columnRank second name + first.length < first.length + second.length := by omega
    have past : ¬columnRank third name + first.length < first.length := by omega
    rw [if_neg named, if_neg behind, if_neg named, if_neg past]
    omega

/-! ## Orderings alike -/

/-- Whether two lists of tokens put all rows and all columns in the same order. -/
structure SortsAlike (first second : List Text) : Prop where
  rows : ∀ {ρ : Type} (columns : List (Column ρ)) (row₁ row₂ : ρ),
    sortOrder columns row₁ row₂ first = sortOrder columns row₁ row₂ second
  columns : ∀ name name' : Text, columnRank first name ≤ columnRank first name' ↔
    columnRank second name ≤ columnRank second name'

namespace SortsAlike

theorem refl (tokens : List Text) : SortsAlike tokens tokens :=
  ⟨fun _ _ _ => rfl, fun _ _ => Iff.rfl⟩

/-- Tokens that order like the same ones order alike. -/
theorem trans (alike : SortsAlike first second) (alike' : SortsAlike second third) :
    SortsAlike first third where
  rows columns row₁ row₂ := (alike.rows columns row₁ row₂).trans (alike'.rows columns row₁ row₂)
  columns name name' := (alike.columns name name').trans (alike'.columns name name')

/-- Tokens that have all been there before can be left out. -/
theorem drop (known : ∀ token ∈ second, token ∈ first) :
    SortsAlike (first ++ second ++ third) (first ++ third) where
  rows _ _ _ := sortOrder_drop known
  columns := by
    intro name name'
    rw [columnRank_drop known name, columnRank_drop known name']
    split
    · split
      · rfl
      · omega
    · split
      · omega
      · omega

/-- The tokens of texts order as those of the first occurrences of the texts. -/
theorem firstOccurrences {tokensOf : Text → List Text} (none : tokensOf [] = []) (seen : List Text)
    (texts : List Text) :
    SortsAlike ((seen.reverse ++ texts).flatMap tokensOf)
      ((Text.firstOccurrences seen texts).flatMap tokensOf) := by
  induction texts generalizing seen with
  | nil =>
      rw [List.append_nil, Text.firstOccurrences]
      exact refl _
  | cons text rest ih =>
      rw [Text.firstOccurrences]
      split
      · rename_i skipped
        rw [Bool.or_eq_true, List.isEmpty_iff, List.contains_iff_mem] at skipped
        refine trans ?_ (ih seen)
        rw [List.flatMap_append, List.flatMap_append, List.flatMap_cons, ← List.append_assoc]
        refine drop ?_
        intro token member
        rcases skipped with rfl | known
        · rw [none] at member
          cases member
        · exact List.mem_flatMap.mpr ⟨text, List.mem_reverse.mpr known, member⟩
      · have moved : seen.reverse ++ text :: rest = (text :: seen).reverse ++ rest := by
          rw [List.reverse_cons, List.append_assoc, List.singleton_append]
        rw [moved]
        exact ih (text :: seen)

/-- Controls whose tokens order alike put columns in the same order. -/
theorem orderColumns_eq {α : Type} {control other : Control}
    (alike : SortsAlike control.columnSorting other.columnSorting) (name : α → Text)
    (columns : List α) :
    orderColumns name control columns = orderColumns name other columns := by
  have same : (fun a b => decide (columnRank control.columnSorting (name a) ≤
        columnRank control.columnSorting (name b))) =
      fun a b => decide (columnRank other.columnSorting (name a) ≤
        columnRank other.columnSorting (name b)) := by
    funext a b
    exact decide_eq_decide.mpr (alike.columns (name a) (name b))
  rw [orderColumns, orderColumns]
  exact congrArg (columns.mergeSort ·) same

end SortsAlike

end Table

end TableSearch
