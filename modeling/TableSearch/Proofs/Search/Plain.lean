import TableSearch.Search.Row

/-! # The signs of zeros

Two controls that differ in the signs of zeros only are taken as equal by the match cache and by a
controller.  A search does not see the difference (`TableSearch.Control.findRow_plain`), and neither
do the orders of rows and columns.
-/

namespace TableSearch

/-! ## Numbers -/

namespace Double

variable {x y : Double}

theorem unitsAt_zero {negative : Bool} {exponent place : Int} :
    unitsAt negative 0 exponent place = 0 := by
  cases negative <;> simp [unitsAt]

@[simp] theorem plain_plain : x.plain.plain = x.plain := by
  rcases x with _ | negative | ⟨negative, significand, exponent⟩
  · rfl
  · rfl
  · cases significand <;> rfl

@[simp] theorem isNaN_plain : x.plain.isNaN = x.isNaN := by
  unfold plain
  split <;> rfl

/-- The sign of a zero on the left does not matter to a comparison of numbers. -/
@[simp] theorem order?_plain_left : order? x.plain y = order? x y := by
  unfold plain
  split
  · cases y with
    | nan => rfl
    | infinite _ => rfl
    | finite _ _ _ =>
        simp only [order?]
        rw [unitsAt_zero, unitsAt_zero]
  · rfl

/-- The sign of a zero on the right does not matter to a comparison of numbers. -/
@[simp] theorem order?_plain_right : order? x y.plain = order? x y := by
  unfold plain
  split
  · cases x with
    | nan => rfl
    | infinite _ => rfl
    | finite _ _ _ =>
        simp only [order?]
        rw [unitsAt_zero, unitsAt_zero]
  · rfl

@[simp] theorem order_plain_left : order x.plain y = order x y := by
  rw [order, order?_plain_left, isNaN_plain]
  rfl

@[simp] theorem order_plain_right : order x y.plain = order x y := by
  rw [order, order?_plain_right, isNaN_plain]
  rfl

end Double

/-! ## Instants and durations -/

namespace Instant

variable {mine theirs : Instant}

@[simp] theorem plain_plain : mine.plain.plain = mine.plain := by
  cases second : mine.second with
  | none => simp only [plain, second, Option.map_none]
  | some seconds => simp only [plain, second, Option.map_some, Double.plain_plain]

theorem has_plain : mine.plain.has = mine.has := by
  funext field
  cases field with
  | second => exact Option.isSome_map
  | _ => rfl

theorem fields_plain : mine.plain.fields = mine.fields := by
  rw [fields, has_plain, fields]

/-- The sign of a zero does not matter to the order of seconds. -/
theorem secondOrder_plain {mine theirs : Option Double} :
    secondOrder (mine.map Double.plain) theirs = secondOrder mine theirs := by
  cases mine with
  | none => rfl
  | some a =>
      cases theirs with
      | none => rfl
      | some b =>
          rw [Option.map_some, secondOrder, Double.order?_plain_left]
          rfl

theorem orderIn_plain {field : DateField} :
    orderIn mine.plain theirs field = orderIn mine theirs field := by
  cases field with
  | second => exact secondOrder_plain
  | _ => rfl

theorem orderOver_plain {fields : List DateField} :
    orderOver mine.plain theirs fields = orderOver mine theirs fields := by
  induction fields with
  | nil => rfl
  | cons field rest ih => rw [orderOver, orderIn_plain, ih, orderOver]

@[simp] theorem order_plain : mine.plain.order theirs = mine.order theirs := by
  rw [order, fields_plain, orderOver_plain, order]

@[simp] theorem isComparable_plain : mine.plain.isComparable theirs = mine.isComparable theirs := by
  rw [isComparable, fields_plain, isComparable]

end Instant

namespace Duration

variable {mine theirs : Duration}

@[simp] theorem plain_plain : mine.plain.plain = mine.plain := by
  rw [plain, plain, Double.plain_plain]

@[simp] theorem order_plain : mine.plain.order theirs = mine.order theirs := by
  rw [order, plain, Double.order?_plain_left, order]

end Duration

/-! ## Terms -/

namespace Term

variable {read : DateReader} {text : Text}

@[simp] theorem plain_plain {t : Term} : t.plain.plain = t.plain := by
  cases t <;> simp [plain]

theorem overlaps_plain {low high : Double} :
    overlaps low.plain high.plain = overlaps low high := by
  funext found
  simp only [overlaps, Double.order_plain_left, Double.order_plain_right]

variable {low high low' high' : Double}

/-- Ranges that overlap the same numbers report the same ones. -/
theorem numberRuns_congr (same : overlaps low high = overlaps low' high') {offset rounds : Nat} :
    numberRuns low high offset text rounds = numberRuns low' high' offset text rounds := by
  induction rounds generalizing offset text with
  | zero => rfl
  | succ rounds ih =>
      cases text with
      | nil => rfl
      | cons c rest => simp only [numberRuns, ih, same]

/-- Ranges that overlap the same numbers report the same spans. -/
theorem findNumbers_congr (same : overlaps low high = overlaps low' high') :
    findNumbers low high text = findNumbers low' high' text := by
  rw [findNumbers, numberRuns_congr same, findNumbers]

/-- A term finds the same without the signs of zeros. -/
@[simp] theorem find_plain {t : Term} : t.plain.find read text = t.find read text := by
  cases t with
  | numberRange _ low high =>
      rw [plain, find, findNumbers_congr overlaps_plain, find]
  | instant time =>
      have same : isAt time.plain = isAt time := by
        funext found
        rw [isAt, Instant.isComparable_plain, Instant.order_plain, isAt]
      rw [plain, find, same, find]
  | instantRange _ low high =>
      have same : isBetween low.plain high.plain = isBetween low high := by
        funext found
        simp only [isBetween, Instant.isComparable_plain, Instant.order_plain]
      rw [plain, find, same, find]
  | duration length => simp only [plain, find, Duration.order_plain]
  | durationRange _ low high => simp only [plain, find, Duration.order_plain]
  | _ => rfl

end Term

/-! ## Controls -/

namespace Control

variable {env : Environment} {column text : Text} {cells : List Cell}

mutual

@[simp] theorem plain_plain : (control : Control) → control.plain.plain = control.plain
  | term t => by rw [plain, plain, Term.plain_plain]
  | category _ inner => by rw [plain, plain, plain_plain inner]
  | anyOf children | allOf children => by rw [plain, plain, plainAll_plainAll children]
  | emptyCell | predicate _ _ | rowSort _ | columnSort _ | unfiltered => rfl

theorem plainAll_plainAll : (children : List Control) →
    plainAll (plainAll children) = plainAll children
  | [] => rfl
  | child :: rest => by
      rw [plainAll, plainAll, plain_plain child, plainAll_plainAll rest]

end

mutual

/-- A control filters without the signs of zeros if it filters with them. -/
@[simp] theorem isSearch_plain : (control : Control) → control.plain.isSearch = control.isSearch
  | anyOf children => by rw [plain, isSearch, allSearch_plainAll children, isSearch]
  | allOf children => by rw [plain, isSearch, anySearch_plainAll children, isSearch]
  | term _ | category _ _ | emptyCell | predicate _ _ | rowSort _ | columnSort _ | unfiltered => rfl

theorem allSearch_plainAll : (children : List Control) →
    allSearch (plainAll children) = allSearch children
  | [] => rfl
  | child :: rest => by
      rw [plainAll, allSearch, isSearch_plain child, allSearch_plainAll rest, allSearch]

theorem anySearch_plainAll : (children : List Control) →
    anySearch (plainAll children) = anySearch children
  | [] => rfl
  | child :: rest => by
      rw [plainAll, anySearch, isSearch_plain child, anySearch_plainAll rest, anySearch]

end

mutual

/-- The order of rows does not depend on the signs of zeros. -/
@[simp] theorem rowSorting_plain : (control : Control) →
    control.plain.rowSorting = control.rowSorting
  | anyOf children | allOf children => by
      rw [plain, rowSorting, rowSortings_plainAll children, rowSorting]
  | term _ | category _ _ | emptyCell | predicate _ _ | rowSort _ | columnSort _ | unfiltered => rfl

theorem rowSortings_plainAll : (children : List Control) →
    rowSortings (plainAll children) = rowSortings children
  | [] => rfl
  | child :: rest => by
      rw [plainAll, rowSortings, rowSorting_plain child, rowSortings_plainAll rest, rowSortings]

end

mutual

/-- The order of columns does not depend on the signs of zeros. -/
@[simp] theorem columnSorting_plain : (control : Control) →
    control.plain.columnSorting = control.columnSorting
  | anyOf children | allOf children => by
      rw [plain, columnSorting, columnSortings_plainAll children, columnSorting]
  | term _ | category _ _ | emptyCell | predicate _ _ | rowSort _ | columnSort _ | unfiltered => rfl

theorem columnSortings_plainAll : (children : List Control) →
    columnSortings (plainAll children) = columnSortings children
  | [] => rfl
  | child :: rest => by
      rw [plainAll, columnSortings, columnSorting_plain child, columnSortings_plainAll rest,
        columnSortings]

end

mutual

/-- **Cells.** What a control finds in a cell does not depend on the signs of its zeros. -/
@[simp] theorem find_plain : (control : Control) → {general : Bool} →
    control.plain.find env column text general = control.find env column text general
  | term t, general => by rw [plain, find, Term.find_plain, find]
  | category name inner, general => by rw [plain, find, find_plain inner, find]
  | anyOf children, general => by rw [plain, find, findAny_plainAll children, find]
  | allOf children, general => by rw [plain, find, findAll_plainAll children, find]
  | emptyCell, _ | predicate _ _, _ | rowSort _, _ | columnSort _, _ | unfiltered, _ => rfl

/-- What a disjunction finds in a cell does not depend on the signs of zeros. -/
theorem findAny_plainAll : (children : List Control) → {general : Bool} → {found : CellMatch} →
    findAny env column text general found (plainAll children) =
      findAny env column text general found children
  | [], _, _ => rfl
  | child :: rest, general, found => by
      simp only [plainAll, findAny, find_plain child, findAny_plainAll rest]

/-- What a conjunction finds in a cell does not depend on the signs of zeros. -/
theorem findAll_plainAll : (children : List Control) → {general : Bool} → {found : CellMatch} →
    findAll env column text general found (plainAll children) =
      findAll env column text general found children
  | [], _, _ => rfl
  | child :: rest, general, found => by
      simp only [plainAll, findAll, isSearch_plain child, find_plain child, findAll_plainAll rest]

end

@[simp] theorem findCells_plain (control : Control) :
    control.plain.findCells env cells = control.findCells env cells := by
  induction cells with
  | nil => rfl
  | cons cell rest ih => rw [findCells, find_plain, ih, findCells]

mutual

/-- The search of a row does not depend on the signs of zeros. -/
theorem findIn_plain : (control : Control) →
    control.plain.findIn env cells = control.findIn env cells
  | anyOf children => by
      rw [plain, findIn, allSearch_plainAll children, findInAny_plainAll children, findIn]
  | allOf children => by
      rw [plain, findIn, anySearch_plainAll children, findInAll_plainAll children, findIn]
  | term t => by
      have same : (term t).plain.findCells env cells = (term t).findCells env cells :=
        findCells_plain (term t)
      rw [plain] at same
      rw [plain, findIn, same, findIn]
  | category name inner => by
      have same : (category name inner).plain.findCells env cells =
          (category name inner).findCells env cells := findCells_plain (category name inner)
      rw [plain] at same
      rw [plain, findIn, same, findIn]
  | emptyCell | predicate _ _ | rowSort _ | columnSort _ | unfiltered => rfl

/-- The search of a row for a disjunction does not depend on the signs of zeros. -/
theorem findInAny_plainAll : (children : List Control) → {found : RowMatch} →
    findInAny env cells found (plainAll children) = findInAny env cells found children
  | [], _ => rfl
  | child :: rest, found => by
      simp only [plainAll, findInAny, findIn_plain child, findInAny_plainAll rest]

/-- The search of a row for a conjunction does not depend on the signs of zeros. -/
theorem findInAll_plainAll : (children : List Control) → {found : RowMatch} →
    findInAll env cells found (plainAll children) = findInAll env cells found children
  | [], _ => rfl
  | child :: rest, found => by
      simp only [plainAll, findInAll, isSearch_plain child, findIn_plain child,
        findInAll_plainAll rest]

end

/-- **Rows.** What a control finds in a row does not depend on the signs of its zeros. -/
@[simp] theorem findRow_plain {heads : List ColumnHead} {texts : List Text} {control : Control} :
    control.plain.findRow env heads texts = control.findRow env heads texts := by
  rw [findRow, findIn_plain, findRow]

end Control

end TableSearch
