import TableSearch.Proofs.Sorting.Stability
import TableSearch.Proofs.Table.Order

/-! # The criteria of an order

Rows are compared by several orders in turn: by the columns that the tokens of a control name, and,
if the control searches, by how many spans were found and where the first one starts
(`TableSearch.Table.rowOrder_eq_inTurn`).  A comparison by several orders in turn is an order if each
of them is one (`TableSearch.Sorting.ordersAmong_inTurn`).
-/

namespace TableSearch

/-! ## Orders in turn -/

namespace Sorting

variable {α : Type} {order : α → α → Ordering} {orders more : List (α → α → Ordering)}
  {list : List α} {x y : α}

/-- Several orders in turn, each for what those before it leave tied. -/
def inTurn (orders : List (α → α → Ordering)) : α → α → Ordering :=
  orders.foldr compareLex fun _ _ => .eq

theorem inTurn_cons : inTurn (order :: orders) x y = (order x y).then (inTurn orders x y) := rfl

theorem inTurn_append :
    inTurn (orders ++ more) x y = (inTurn orders x y).then (inTurn more x y) := by
  induction orders with
  | nil => rfl
  | cons order rest ih => rw [List.cons_append, inTurn_cons, inTurn_cons, ih, Ordering.then_assoc]

/-- Orders of what elements are turned into are orders of the elements. -/
theorem inTurn_comap {β : Type} {f : β → α} {a b : β} :
    inTurn (orders.map fun order a b => order (f a) (f b)) a b = inTurn orders (f a) (f b) := by
  induction orders with
  | nil => rfl
  | cons order rest ih => rw [List.map_cons, inTurn_cons, inTurn_cons, ih]

namespace OrdersAmong

/-- An order of the elements of a list, turned around, is an order of them. -/
theorem flip (order' : OrdersAmong order list) : OrdersAmong (fun x y => order y x) list where
  swap x member y member' := order'.swap y member' x member
  trans x member y member' z member'' before after :=
    order'.trans z member'' y member' x member after before

/-- An order, and for what it leaves tied another one. -/
theorem lexicographic {order' : α → α → Ordering} (first : OrdersAmong order list)
    (second : OrdersAmong order' list) : OrdersAmong (compareLex order order') list := by
  rw [iff_transCmp] at first second ⊢
  exact inferInstanceAs (Std.TransCmp (compareLex (among order list) (among order' list)))

end OrdersAmong

/-- Several orders in turn are an order if each of them is one. -/
theorem ordersAmong_inTurn (ordered : ∀ order ∈ orders, OrdersAmong order list) :
    OrdersAmong (inTurn orders) list := by
  induction orders with
  | nil => exact ⟨fun _ _ _ _ => rfl, fun _ _ _ _ _ _ _ _ => Ordering.noConfusion⟩
  | cons order rest ih =>
      rw [List.forall_mem_cons] at ordered
      exact ordered.1.lexicographic (ih ordered.2)

end Sorting

/-! ## The criteria of a control -/

namespace Table

variable {ρ : Type} {columns : List (Column ρ)} {control : Control} {row₁ row₂ : ρ}
  {tokens : List Text} {row other : FilteredRow ρ}

/-- The first column that a token names, with the direction that the token gives. -/
def named? (columns : List (Column ρ)) (token : Text) : Option (Column ρ × Direction) :=
  columns.findSome? fun column => (ColumnName.direction? token column.head.name).map (column, ·)

/-- The column that a token names is one of the table. -/
theorem mem_of_named? {token : Text} {column : Column ρ} {direction : Direction}
    (naming : named? columns token = some (column, direction)) : column ∈ columns := by
  obtain ⟨first, member, names⟩ := List.exists_of_findSome?_eq_some naming
  obtain ⟨_, -, same⟩ := Option.map_eq_some_iff.mp names
  cases same
  exact member

/-- The orders of rows that tokens ask for.  A token that names no column asks for none. -/
def columnOrders (columns : List (Column ρ)) (tokens : List Text) : List (ρ → ρ → Ordering) :=
  (tokens.filterMap (named? columns)).map fun naming => naming.1.order (naming.2 == .descending)

/-- The first column that is named orders before all others. -/
theorem columnOrders_of_first {column : Column ρ} {direction : Direction}
    (first : tokens.findSome? (named? columns) = some (column, direction)) :
    ∃ others, columnOrders columns tokens = column.order (direction == .descending) :: others := by
  rw [← List.head?_filterMap] at first
  obtain ⟨rest, named⟩ := List.head?_eq_some_iff.mp first
  rw [columnOrders, named]
  exact ⟨_, rfl⟩

/-- The orders of a search: more spans come first, and then the smaller first start. -/
def relevanceOrders : List (FilteredRow ρ → FilteredRow ρ → Ordering) :=
  [fun row other => compareOn FilteredRow.matchCount other row,
    compareOn fun row => row.firstStart?.getD 0]

/-- The orders that a control asks for. -/
def criteria (columns : List (Column ρ)) (control : Control) :
    List (FilteredRow ρ → FilteredRow ρ → Ordering) :=
  (columnOrders columns control.rowSorting).map (fun order row other =>
    order row.value other.value) ++ if control.isSearch then relevanceOrders else []

/-- A token compares rows in the first column that it names. -/
theorem tokenOrder_eq_named? {token : Text} :
    tokenOrder columns row₁ row₂ token = (named? columns token).elim .eq fun naming =>
      naming.1.order (naming.2 == .descending) row₁ row₂ := by
  unfold tokenOrder named?
  cases columns.findSome? _ <;> rfl

/-- Rows are ordered by the orders that the tokens ask for, in turn. -/
theorem sortOrder_eq_inTurn :
    sortOrder columns row₁ row₂ tokens = Sorting.inTurn (columnOrders columns tokens) row₁ row₂ := by
  induction tokens with
  | nil => rfl
  | cons token rest ih =>
      rw [sortOrder_cons, tokenOrder_eq_named?, ih, columnOrders, columnOrders]
      cases naming : named? columns token with
      | none => rw [List.filterMap_cons_none naming]; rfl
      | some first => rw [List.filterMap_cons_some naming]; rfl

/-- Rows with spans are ordered by the number of spans and then by the first start. -/
theorem relevance_eq_inTurn (starts : row.firstStart? ≠ none) (starts' : other.firstStart? ≠ none) :
    row.relevance other = Sorting.inTurn relevanceOrders row other := by
  obtain ⟨start, known⟩ := Option.ne_none_iff_exists'.mp starts
  obtain ⟨start', known'⟩ := Option.ne_none_iff_exists'.mp starts'
  rw [FilteredRow.relevance, relevanceOrders, Sorting.inTurn_cons, Sorting.inTurn_cons, compareOn,
    compareOn, known, known']
  change _ = Ordering.then _ (Ordering.then _ .eq)
  rw [Ordering.then_eq]
  rfl

/-- **Criteria.** Rows are compared by what a control asks for in turn, if those of a search all have
a span. -/
theorem rowOrder_eq_inTurn
    (starts : control.isSearch = true → row.firstStart? ≠ none ∧ other.firstStart? ≠ none) :
    rowOrder columns control row other = Sorting.inTurn (criteria columns control) row other := by
  rw [rowOrder, criteria, Sorting.inTurn_append, Sorting.inTurn_comap, sortOrder_eq_inTurn]
  by_cases search : control.isSearch = true
  · rw [if_pos search, if_pos search,
      relevance_eq_inTurn (starts search).1 (starts search).2]
  · rw [if_neg search, if_neg search]
    rfl

/-- The criteria of a control are orders if those of the columns are. -/
theorem ordersAmong_criteria {rows : List (FilteredRow ρ)} {values : List ρ}
    (ordered : ∀ column ∈ columns, ∀ reverse, Sorting.OrdersAmong (column.order reverse) values)
    (among : ∀ row ∈ rows, row.value ∈ values) :
    Sorting.OrdersAmong (Sorting.inTurn (criteria columns control)) rows := by
  refine Sorting.ordersAmong_inTurn ?_
  intro order member
  rcases List.mem_append.mp member with sorts | searches
  · obtain ⟨order, asked, rfl⟩ := List.mem_map.mp sorts
    obtain ⟨⟨column, direction⟩, names, rfl⟩ := List.mem_map.mp asked
    obtain ⟨token, -, first⟩ := List.mem_filterMap.mp names
    exact (ordered column (mem_of_named? first) _).comap among
  · split at searches
    · rcases List.mem_cons.mp searches with rfl | last
      · have byCount : Sorting.OrdersAmong (compareOn FilteredRow.matchCount) rows := .of_transCmp
        exact byCount.flip
      · obtain rfl := List.mem_singleton.mp last
        exact .of_transCmp
    · cases searches

end Table

end TableSearch
