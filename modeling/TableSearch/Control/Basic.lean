import TableSearch.Pattern.Parser
import TableSearch.Instant.Basic
import TableSearch.Duration.Basic

/-! # Controls

A control says which rows of a table are shown, and how rows and columns are ordered.

* A `Term` is looked for in the text of one cell.
* A `Control` is a term, a condition on the cells of some columns, a combination of controls, an
  ordering, or nothing at all.

Controls have decidable equality; two patterns are equal when their sources are.  `Control.isLike`
compares controls with the two zeros taken as one number.
-/

namespace TableSearch

/-- What can be looked for in the text of a cell.  A term keeps the text it was read from, except
where its parts determine it. -/
inductive Term where
  /-- A text, in any case. -/
  | literal (text : Text)
  /-- Parts that occur one after another. -/
  | wildcard (text : Text) (parts : List Text)
  /-- A pattern. -/
  | regex (pattern : Pattern)
  /-- Runs of digits between two others. -/
  | digitRange (text low high : Text)
  /-- Numbers between two others. -/
  | numberRange (text : Text) (low high : Double)
  /-- A date or a time of day. -/
  | instant (time : Instant)
  /-- Dates or times between two others. -/
  | instantRange (text : Text) (low high : Instant)
  /-- A length of time. -/
  | duration (length : Duration)
  /-- Lengths of time between two others. -/
  | durationRange (text : Text) (low high : Duration)
  /-- A term that no search knows. -/
  | unknown
deriving DecidableEq

/-- A filter and an order for the rows and columns of a table. -/
inductive Control where
  /-- A term looked for in every column that takes part in the search. -/
  | term (term : Term)
  /-- Cells without text. -/
  | emptyCell
  /-- A named test on the cells of one column. -/
  | predicate (column test : Text)
  /-- A control for the columns with a given name. -/
  | category (name : Text) (inner : Control)
  /-- Rows that one of several controls shows. -/
  | anyOf (children : List Control)
  /-- Rows that all of several controls show. -/
  | allOf (children : List Control)
  /-- An order of the rows by columns. -/
  | rowSort (tokens : List Text)
  /-- An order of the columns. -/
  | columnSort (tokens : List Text)
  /-- No filter and no order. -/
  | unfiltered

namespace Control

mutual

/-- Whether two controls are equal. -/
def same : Control → Control → Bool
  | term a, term b => decide (a = b)
  | emptyCell, emptyCell => true
  | predicate a x, predicate b y => decide (a = b) && decide (x = y)
  | category a x, category b y => decide (a = b) && same x y
  | anyOf xs, anyOf ys => sameAll xs ys
  | allOf xs, allOf ys => sameAll xs ys
  | rowSort a, rowSort b => decide (a = b)
  | columnSort a, columnSort b => decide (a = b)
  | unfiltered, unfiltered => true
  | _, _ => false

/-- Whether two lists of controls are equal. -/
def sameAll : List Control → List Control → Bool
  | [], [] => true
  | x :: xs, y :: ys => same x y && sameAll xs ys
  | _, _ => false

end

mutual

/-- Controls that are found to be the same are equal. -/
theorem eq_of_same : (x y : Control) → same x y = true → x = y
  | term _, y => by cases y <;> simp [same]
  | emptyCell, y => by cases y <;> simp [same]
  | predicate _ _, y => by cases y <;> simp +contextual [same]
  | category _ x, y => by
    cases y with
    | category _ y =>
      simp only [same, Bool.and_eq_true, decide_eq_true_eq, category.injEq]
      exact fun h => ⟨h.1, eq_of_same x y h.2⟩
    | _ => simp [same]
  | anyOf xs, y => by
    cases y with
    | anyOf ys => simpa only [same, anyOf.injEq] using eq_of_sameAll xs ys
    | _ => simp [same]
  | allOf xs, y => by
    cases y with
    | allOf ys => simpa only [same, allOf.injEq] using eq_of_sameAll xs ys
    | _ => simp [same]
  | rowSort _, y => by cases y <;> simp [same]
  | columnSort _, y => by cases y <;> simp [same]
  | unfiltered, y => by cases y <;> simp [same]

/-- Lists of controls that are found to be the same are equal. -/
theorem eq_of_sameAll : (xs ys : List Control) → sameAll xs ys = true → xs = ys
  | [], ys => by cases ys <;> simp [sameAll]
  | x :: xs, ys => by
    cases ys with
    | nil => simp [sameAll]
    | cons y ys =>
      simp only [sameAll, Bool.and_eq_true, List.cons.injEq]
      exact fun h => ⟨eq_of_same x y h.1, eq_of_sameAll xs ys h.2⟩

end

mutual

theorem same_self : (x : Control) → same x x = true
  | term _ | emptyCell | predicate _ _ | rowSort _ | columnSort _ | unfiltered => by simp [same]
  | category _ x => by simp [same, same_self x]
  | anyOf xs | allOf xs => by simp [same, sameAll_self xs]

theorem sameAll_self : (xs : List Control) → sameAll xs xs = true
  | [] => rfl
  | x :: xs => by simp [sameAll, same_self x, sameAll_self xs]

end

/-- Controls are found to be the same exactly if they are equal, which makes their equality
decidable. -/
theorem same_iff {x y : Control} : same x y = true ↔ x = y :=
  ⟨eq_of_same x y, fun h => h ▸ same_self x⟩

instance : DecidableEq Control := fun _ _ => decidable_of_iff _ same_iff

end Control

/-- The term without the signs of its zeros. -/
def Term.plain : Term → Term
  | numberRange text low high => .numberRange text low.plain high.plain
  | instant time => .instant time.plain
  | instantRange text low high => .instantRange text low.plain high.plain
  | duration length => .duration length.plain
  | durationRange text low high => .durationRange text low.plain high.plain
  | t => t

namespace Control

mutual

/-- The control without the signs of its zeros. -/
def plain : Control → Control
  | term t => .term t.plain
  | category name inner => .category name (plain inner)
  | anyOf children => .anyOf (plainAll children)
  | allOf children => .allOf (plainAll children)
  | control => control

/-- Several controls without the signs of their zeros. -/
def plainAll : List Control → List Control
  | [] => []
  | child :: rest => plain child :: plainAll rest

end

/-- Whether two controls are equal but for the signs of zeros. -/
def isLike (control other : Control) : Bool :=
  decide (control.plain = other.plain)

mutual

/-- Whether a control filters rows, as opposed to only ordering them. -/
def isSearch : Control → Bool
  | rowSort _ | columnSort _ | unfiltered => false
  | anyOf children => allSearch children
  | allOf children => anySearch children
  | term _ | emptyCell | predicate _ _ | category _ _ => true

/-- Whether all of several controls filter rows. -/
def allSearch : List Control → Bool
  | [] => true
  | child :: rest => isSearch child && allSearch rest

/-- Whether one of several controls filters rows. -/
def anySearch : List Control → Bool
  | [] => false
  | child :: rest => isSearch child || anySearch rest

end

mutual

/-- The tokens that order rows, the most significant first. -/
def rowSorting : Control → List Text
  | rowSort tokens => tokens
  | anyOf children | allOf children => rowSortings children
  | _ => []

/-- The tokens of several controls that order rows. -/
def rowSortings : List Control → List Text
  | [] => []
  | child :: rest => rowSorting child ++ rowSortings rest

end

mutual

/-- The tokens of columns that go to the front. -/
def columnSorting : Control → List Text
  | columnSort tokens => tokens
  | anyOf children | allOf children => columnSortings children
  | _ => []

/-- The tokens of several controls for columns that go to the front. -/
def columnSortings : List Control → List Text
  | [] => []
  | child :: rest => columnSorting child ++ columnSortings rest

end

end Control

end TableSearch
