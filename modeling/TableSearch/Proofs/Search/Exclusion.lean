import TableSearch.Proofs.Control.Reparse
import TableSearch.Proofs.Search.Verdict

/-! # Columns that a search leaves alone

What a control finds in a cell depends on the text of the cell only in the columns that the control
heeds (`TableSearch.Control.heeds`), so that two rows with the same texts in those columns are one to
it (`TableSearch.Control.findIn_eq_of_same`).

A control that was read from a directive heeds a column without part in the general search only if it
names the column. Texts in such a column therefore have no influence on a search that does not name
it: `TableSearch.Control.findRow_eq_of_excluded`.
-/

namespace TableSearch

namespace Control

variable {env : Environment} {read : DateReader} {column text text' token directive : Text}
  {general : Bool} {control : Control} {children : List Control} {cells cells' : List Cell}
  {heads : List ColumnHead} {texts texts' : List Text}

/-! ## Cells -/

mutual

/-- Whether what a control finds in the cells of a column may depend on their texts. -/
def heeds (column : Text) (general : Bool) : Control → Bool
  | term _ => general
  | emptyCell => true
  | predicate name _ => decide (name = column)
  | category name inner => ColumnName.startsWith name column && heeds column true inner
  | anyOf children | allOf children => anyHeeds column general children
  | rowSort _ | columnSort _ | unfiltered => false

/-- Whether what one of several controls finds may depend on the texts of a column. -/
def anyHeeds (column : Text) (general : Bool) : List Control → Bool
  | [] => false
  | child :: rest => heeds column general child || anyHeeds column general rest

end

/-- One of several controls heeds a column exactly when some control among them does. -/
theorem anyHeeds_iff :
    anyHeeds column general children = true ↔
      ∃ child ∈ children, child.heeds column general = true := by
  induction children with
  | nil =>
      rw [anyHeeds]
      simp
  | cons child rest ih =>
      rw [anyHeeds, Bool.or_eq_true, ih]
      simp

mutual

/-- **Cells.** A control finds the same in all texts of a column that it does not heed. -/
theorem find_eq_of_not_heeds : (control : Control) → {general : Bool} →
    control.heeds column general = false →
    control.find env column text general = control.find env column text' general
  | term t, general, ignored => by
      rw [heeds] at ignored
      rw [find, find, ignored, if_neg Bool.false_ne_true, if_neg Bool.false_ne_true]
  | emptyCell, general, ignored => by
      rw [heeds] at ignored
      cases ignored
  | predicate name test, general, ignored => by
      rw [heeds, decide_eq_false_iff_not] at ignored
      rw [find, find, if_pos ignored, if_pos ignored]
  | category name inner, general, ignored => by
      rw [heeds] at ignored
      rw [find, find]
      by_cases named : ColumnName.startsWith name column = true
      · rw [named, Bool.true_and] at ignored
        rw [if_pos named, if_pos named]
        exact find_eq_of_not_heeds inner ignored
      · rw [if_neg named, if_neg named]
  | anyOf children, general, ignored => by
      rw [heeds] at ignored
      rw [find, find]
      exact findAny_eq_of_not_heeds children ignored
  | allOf children, general, ignored => by
      rw [heeds] at ignored
      rw [find, find]
      exact findAll_eq_of_not_heeds children ignored
  | rowSort _, general, _ | columnSort _, general, _ | unfiltered, general, _ => by
      rw [find, find]

/-- A disjunction finds the same in any text of a column that none of its parts heeds. -/
theorem findAny_eq_of_not_heeds : (children : List Control) → {general : Bool} →
    {found : CellMatch} → anyHeeds column general children = false →
    findAny env column text general found children = findAny env column text' general found children
  | [], general, found, _ => by
      rw [findAny, findAny]
  | child :: rest, general, found, ignored => by
      rw [anyHeeds, Bool.or_eq_false_iff] at ignored
      rw [findAny, findAny, find_eq_of_not_heeds child ignored.1]
      refine congrArg _ (funext fun answer => ?_)
      exact findAny_eq_of_not_heeds rest ignored.2

/-- A conjunction finds the same in any text of a column that none of its parts heeds. -/
theorem findAll_eq_of_not_heeds : (children : List Control) → {general : Bool} →
    {found : CellMatch} → anyHeeds column general children = false →
    findAll env column text general found children = findAll env column text' general found children
  | [], general, found, _ => by
      rw [findAll, findAll]
  | child :: rest, general, found, ignored => by
      rw [anyHeeds, Bool.or_eq_false_iff] at ignored
      rw [findAll, findAll, find_eq_of_not_heeds child ignored.1]
      have later : ∀ found, findAll env column text general found rest =
          findAll env column text' general found rest :=
        fun _ => findAll_eq_of_not_heeds rest ignored.2
      simp only [later]

end

/-! ## Rows -/

/-- Whether two rows have the same columns, and the same texts in those that a control heeds. -/
def SameFor (control : Control) (cells cells' : List Cell) : Prop :=
  List.Forall₂ (fun cell cell' => cell.head = cell'.head ∧
    (control.heeds cell.head.name cell.head.general = true → cell.text = cell'.text)) cells cells'

/-- Rows that are the same for a control are the same for its parts, which heed no further
columns. -/
theorem SameFor.of_child {child : Control} (same : SameFor control cells cells')
    (heeded : ∀ column general, child.heeds column general = true →
      control.heeds column general = true) : SameFor child cells cells' :=
  List.Forall₂.imp (fun _ _ alike => ⟨alike.1, fun looks => alike.2 (heeded _ _ looks)⟩) same

/-- A control finds the same in the cells of rows that are the same for it. -/
theorem findCells_eq_of_same (same : SameFor control cells cells') :
    control.findCells env cells = control.findCells env cells' := by
  induction same with
  | nil => rfl
  | @cons cell cell' rest rest' alike _ ih =>
      obtain ⟨head, text⟩ := cell
      obtain ⟨head', text'⟩ := cell'
      obtain ⟨rfl, agrees⟩ := alike
      have first : control.find env head.name text head.general =
          control.find env head.name text' head.general := by
        cases looks : control.heeds head.name head.general with
        | true =>
            have shared : text = text' := agrees looks
            rw [shared]
        | false => exact find_eq_of_not_heeds control looks
      rw [findCells, findCells, first, ih]

mutual

/-- **Rows.** A control finds the same in two rows that have the same texts in the columns that it
heeds. -/
theorem findIn_eq_of_same : (control : Control) → SameFor control cells cells' →
    control.findIn env cells = control.findIn env cells'
  | anyOf children, same => by
      have parts : ∀ child ∈ children, SameFor child cells cells' := fun child member =>
        same.of_child fun _ _ looks => anyHeeds_iff.mpr ⟨child, member, looks⟩
      rw [findIn, findIn, findInAny_eq_of_same children parts, same.length_eq]
  | allOf children, same => by
      have parts : ∀ child ∈ children, SameFor child cells cells' := fun child member =>
        same.of_child fun _ _ looks => anyHeeds_iff.mpr ⟨child, member, looks⟩
      rw [findIn, findIn, findInAll_eq_of_same children same.length_eq parts, same.length_eq]
  | term _, same | emptyCell, same | predicate _ _, same | category _ _, same => by
      rw [findIn, findIn, findCells_eq_of_same same]
  | rowSort _, _ | columnSort _, _ | unfiltered, _ => by
      rw [findIn, findIn]

/-- A disjunction finds the same in rows that are the same for each of its parts. -/
theorem findInAny_eq_of_same {found : RowMatch} : (children : List Control) →
    (∀ child ∈ children, SameFor child cells cells') →
    findInAny env cells found children = findInAny env cells' found children
  | [], _ => by
      rw [findInAny, findInAny]
  | child :: rest, parts => by
      rw [List.forall_mem_cons] at parts
      have later : ∀ found, findInAny env cells found rest = findInAny env cells' found rest :=
        fun _ => findInAny_eq_of_same rest parts.2
      simp only [findInAny, findIn_eq_of_same child parts.1, later]

/-- A conjunction finds the same in rows that are the same for each of its parts. -/
theorem findInAll_eq_of_same {found : RowMatch} : (children : List Control) →
    cells.length = cells'.length → (∀ child ∈ children, SameFor child cells cells') →
    findInAll env cells found children = findInAll env cells' found children
  | [], _, _ => by
      rw [findInAll, findInAll]
  | child :: rest, length, parts => by
      rw [List.forall_mem_cons] at parts
      have later : ∀ found, findInAll env cells found rest = findInAll env cells' found rest :=
        fun _ => findInAll_eq_of_same rest length parts.2
      simp only [findInAll, findIn_eq_of_same child parts.1, later, length]

end

/-- Rows with the same texts in the columns that a control heeds are the same for it. -/
theorem sameFor_zipWith (fits : heads.length = texts.length) (length : texts.length = texts'.length)
    (same : ∀ (place : Nat) (head : ColumnHead), heads[place]? = some head →
      control.heeds head.name head.general = true → texts[place]? = texts'[place]?) :
    SameFor control (List.zipWith Cell.mk heads texts) (List.zipWith Cell.mk heads texts') := by
  induction heads generalizing texts texts' with
  | nil => exact .nil
  | cons head heads ih =>
      cases texts with
      | nil => cases fits
      | cons text texts =>
          cases texts' with
          | nil => cases length
          | cons text' texts' =>
              refine .cons ⟨rfl, fun looks => ?_⟩ ?_
              · exact Option.some.inj (same 0 head rfl looks)
              · refine ih (Nat.succ.inj fits) (Nat.succ.inj length) ?_
                intro place other known
                exact same (place + 1) other known

/-! ## Directives -/

mutual

/-- The names of columns that occur in a control. -/
def categoryNames : Control → List Text
  | category name inner => name :: categoryNames inner
  | anyOf children | allOf children => categoryNamesOf children
  | term _ | emptyCell | predicate _ _ | rowSort _ | columnSort _ | unfiltered => []

/-- The names of columns that occur in several controls. -/
def categoryNamesOf : List Control → List Text
  | [] => []
  | child :: rest => categoryNames child ++ categoryNamesOf rest

end

theorem categoryNamesOf_eq_flatMap : categoryNamesOf children = children.flatMap categoryNames :=
  eq_flatMap (by rw [categoryNamesOf]) fun _ _ => by rw [categoryNamesOf]

theorem categoryNames_together :
    (together children).categoryNames = children.flatMap categoryNames :=
  flatMap_together (by rw [categoryNames]) fun _ => by
    rw [categoryNames, categoryNamesOf_eq_flatMap]

/-- Terms are not looked for in a column without part in the general search. -/
theorem heeds_readElement (found : readElement read text = .ok control) :
    control.heeds column false = false := by
  obtain ⟨first, rest, -, rfl⟩ := exists_of_readElement found
  split
  · rw [heeds]
  · rw [heeds, ← Bool.not_eq_true, anyHeeds_iff]
    rintro ⟨child, member, looks⟩
    obtain ⟨t, -, rfl⟩ := List.mem_map.mp member
    rw [heeds] at looks
    cases looks

/-- The control for a token heeds a column without part in the general search only by its name. -/
theorem exists_name_of_heeds (found : readToken read token = .ok (some control))
    (looks : control.heeds column false = true) :
    ∃ name ∈ control.categoryNames, ColumnName.startsWith name column = true := by
  rcases readToken_cases found with ⟨names, rfl | rfl⟩ |
    ⟨name, rest, inner, element, -, -, second, rfl⟩ | alone
  · rw [heeds] at looks
    cases looks
  · rw [heeds] at looks
    cases looks
  · rw [heeds, anyHeeds, heeds, anyHeeds, heeds_readElement second, anyHeeds, Bool.or_false,
      Bool.or_false, Bool.and_eq_true] at looks
    refine ⟨name, ?_, looks.1⟩
    rw [categoryNames, categoryNamesOf, categoryNames]
    exact List.mem_append_left _ List.mem_cons_self
  · rw [heeds_readElement alone] at looks
    cases looks

/-- Controls put together heed the columns that one of them heeds. -/
theorem heeds_together :
    (together children).heeds column general = true ↔
      ∃ child ∈ children, child.heeds column general = true := by
  match children with
  | [] => exact iff_of_false Bool.false_ne_true (by simp)
  | [single] =>
      rw [List.exists_mem_cons_iff]
      simp [together]
  | first :: second :: rest =>
      have joined : together (first :: second :: rest) = allOf (first :: second :: rest) := rfl
      rw [joined, heeds, anyHeeds_iff]

/-- A directive heeds a column without part in the general search only if it names the column. -/
theorem exists_name_of_heeds_directive (accepted : parse read directive = .ok control)
    (looks : control.heeds column false = true) :
    ∃ name ∈ control.categoryNames, ColumnName.startsWith name column = true := by
  obtain ⟨-, rfl⟩ := parse_eq_ok_iff.mp accepted
  obtain ⟨child, member, looks⟩ := heeds_together.mp looks
  obtain ⟨token, -, found⟩ := exists_token_of_mem_readAll member
  obtain ⟨name, inside, named⟩ := exists_name_of_heeds (reading?_eq_some_iff.mp found) looks
  rw [categoryNames_together]
  exact ⟨name, List.mem_flatMap.mpr ⟨child, member, inside⟩, named⟩

/-- **Excluded columns.** Two rows whose texts differ only in columns without part in the general
search, none of which the directive names, are searched with the same result and shown alike. -/
theorem findRow_eq_of_excluded (accepted : parse read directive = .ok control)
    (length : texts.length = texts'.length)
    (apart : ∀ (place : Nat) (head : ColumnHead), heads[place]? = some head →
      texts[place]? ≠ texts'[place]? → head.general = false ∧
        ∀ name ∈ control.categoryNames, ColumnName.startsWith name head.name = false) :
    control.findRow env heads texts = control.findRow env heads texts' ∧
      (control.Shows env heads texts ↔ control.Shows env heads texts') := by
  have found : control.findRow env heads texts = control.findRow env heads texts' := by
    rw [findRow, findRow, length]
    by_cases fits : heads.length = texts'.length
    · rw [if_neg (not_not_intro fits), if_neg (not_not_intro fits)]
      refine findIn_eq_of_same control (sameFor_zipWith (fits.trans length.symm) length ?_)
      intro place head known looks
      by_contra differs
      obtain ⟨excluded, unnamed⟩ := apart place head known differs
      rw [excluded] at looks
      obtain ⟨name, inside, named⟩ := exists_name_of_heeds_directive accepted looks
      rw [unnamed name inside] at named
      cases named
    · rw [if_pos fits, if_pos fits]
  refine ⟨found, ?_⟩
  rw [Shows, Shows, verdict, verdict, found, length]

/-- The column `y` has no part in the general search and is not named by `a z:b`, so that its text does
not matter. -/
theorem findRow_eq_of_excluded_column :
    let env : Environment := ⟨fun _ => none, fun _ _ => false⟩
    let heads : List ColumnHead := [⟨['x'], true⟩, ⟨['y'], false⟩, ⟨['z'], false⟩]
    let texts : List Text := [['a'], ['q'], ['b']]
    let texts' : List Text := [['a'], ['a', 'b'], ['b']]
    ∃ control, parse env.readDate "a z:b".toList = .ok control ∧
      control.findRow env heads texts = .ok (some [some ⟨[⟨0, 1⟩]⟩, none, some ⟨[⟨0, 1⟩]⟩]) ∧
      control.findRow env heads texts = control.findRow env heads texts' := by
  intro env heads texts texts'
  let control : Control := .allOf [.term (.literal ['a']),
    .anyOf [.category ['z'] (.term (.literal ['b'])), .term (.literal "z:b".toList)]]
  have accepted : parse env.readDate "a z:b".toList = .ok control := by decide +kernel
  refine ⟨control, accepted, by decide +kernel, (findRow_eq_of_excluded accepted rfl ?_).1⟩
  intro place head known differs
  match place with
  | 0 => exact (differs rfl).elim
  | 1 =>
      cases known
      exact ⟨rfl, by decide⟩
  | 2 => exact (differs rfl).elim
  | place + 3 => cases known

end Control

end TableSearch
