import TableSearch.CommandLine.Filter
import TableSearch.Proofs.Delimited.Records
import TableSearch.Proofs.Encoding.Utf8
import TableSearch.Proofs.Source.Cells
import TableSearch.Proofs.Table.Transparency
import TableSearch.Proofs.Text.Words

/-! # Delimited text, loaded again

The rows that a filter prints as delimited text are written to be loaded again.  The loader trims and
renames columns, fills up short records and drops what is beyond the last column.

`TableSearch.Filter.toDelimited_reloads_iff`: for columns with distinct trimmed names, the same names
and cells come back exactly if every field survives (`TableSearch.Delimited.Survives`).

Nothing that the loader does adds a carriage return, so none that the reader has lost comes back.
-/

namespace TableSearch

open Delimited

namespace Text

variable {number : Nat}

theorem count_ofNat : (ofNat number).count '\r' = 0 := by
  apply List.count_eq_zero.mpr
  intro member
  exact absurd (Nat.isDigit_of_mem_toDigits (by decide) (by decide) member) (by decide)

end Text

namespace Source

variable {names taken header record : List Text} {rows records : List (List Text)}
  {field base name : Text} {number rounds : Nat}

/-! ## Names of columns -/

/-- A free name has the carriage returns of the name that was wanted. -/
theorem count_freeName : (freeName taken base number rounds).count '\r' = base.count '\r' := by
  have numbered : ∀ {number}, (base ++ '_' :: Text.ofNat number).count '\r' = base.count '\r' := by
    intro number
    rw [List.count_append, List.count_cons, Text.count_ofNat]
    rfl
  induction rounds generalizing number with
  | zero => exact numbered
  | succ rounds ih =>
      rw [freeName]
      split
      · exact ih
      · exact numbered

/-- A column has no more carriage returns in its name than in its field. -/
theorem count_nextName : (nextName names field).count '\r' ≤ field.count '\r' := by
  have bounded : ∀ {base : Text}, base.count '\r' ≤ field.count '\r' →
      (if names.contains base then freeName names base 2 names.length else base).count '\r' ≤
        field.count '\r' := by
    intro base fewer
    split
    · rwa [count_freeName]
    · exact fewer
  unfold nextName wantedName
  apply bounded
  split
  · have column : "column".toList.count '\r' = 0 := by decide
    rw [List.count_append, column, Text.count_ofNat]
    exact Nat.zero_le _
  · exact (Text.trim_sublist _).count_le '\r'

/-- Naming the columns adds no carriage returns. -/
theorem returns_columnNames : returns (columnNames header) ≤ returns header := by
  have later : ∀ names, returns (header.foldl (fun names field => names ++ [nextName names field])
      names) ≤ returns names + returns header := by
    induction header with
    | nil => exact fun _ => Nat.le_refl _
    | cons field header ih =>
        intro names
        have fewer := ih (names ++ [nextName names field])
        have first : (nextName names field).count '\r' ≤ field.count '\r' := count_nextName
        have single : returns [nextName names field] = (nextName names field).count '\r' :=
          returns_cons
        rw [returns_append, single] at fewer
        rw [List.foldl_cons, returns_cons]
        omega
  have whole := later []
  rwa [← columnNames_eq, returns_nil, Nat.zero_add] at whole

/-- A field that is trimmed, not empty and not taken names its column as it is. -/
theorem nextName_self (fresh : field ∉ names) (filled : field ≠ []) (trimmed : field.trim = field) :
    nextName names field = field := by
  simp only [nextName, wantedName, trimmed, List.isEmpty_eq_false_iff.mpr filled, Bool.false_eq_true,
    ↓reduceIte, List.contains_eq_mem, fresh, decide_false]

/-- Distinct names without blanks around them are kept. -/
theorem columnNames_self (distinct : names.Nodup)
    (proper : ∀ name ∈ names, name ≠ [] ∧ name.trim = name) : columnNames names = names := by
  have later : ∀ before, (before ++ names).Nodup →
      names.foldl (fun names field => names ++ [nextName names field]) before =
        before ++ names := by
    induction names with
    | nil =>
        intro before _
        exact (List.append_nil before).symm
    | cons name names ih =>
        intro before fresh
        rw [List.forall_mem_cons] at proper
        have new : name ∉ before := by
          intro member
          exact (List.nodup_append.mp fresh).2.2 name member name List.mem_cons_self rfl
        rw [List.foldl_cons, nextName_self new proper.1.1 proper.1.2,
          ih (List.nodup_cons.mp distinct).2 proper.2, List.append_assoc, List.singleton_append]
        rwa [List.append_assoc, List.singleton_append]
  exact later [] distinct

/-! ## Cells -/

theorem padded_self (fits : record.length = names.length) : padded names record = record := by
  rw [padded, fits, Nat.sub_self, List.replicate_zero, List.append_nil]

/-- Filling up a record adds no carriage returns. -/
theorem returns_padded : returns (padded names record) = returns record := by
  have nothing : ∀ {count : Nat}, returns (List.replicate count []) = 0 := by
    intro count
    rw [returns, List.flatten_replicate_nil]
    rfl
  rw [padded, returns_append, nothing, Nat.add_zero]

/-- Under distinct names the cells of a row are found again. -/
theorem cellText_rowOf (distinct : names.Nodup) :
    names.map (Sheet.cellText (rowOf names record)) = (padded names record).take names.length := by
  refine List.ext_getElem? fun place => ?_
  rw [List.getElem?_map, List.getElem?_take]
  cases named : names[place]? with
  | none => rw [if_neg (Nat.not_lt.mpr (List.getElem?_eq_none_iff.mp named))]; rfl
  | some name =>
      have inside : place < names.length := (List.getElem?_eq_some_iff.mp named).1
      rw [if_pos inside, getElem?_padded inside, Option.map_some, Sheet.cellText,
        (holds_rowOf distinct).cells place name named]
      rfl

/-! ## Sheets -/

/-- The cells of a sheet are those of the records behind the header, as far as there are columns. -/
theorem texts_ofRecords (distinct : (columnNames header).Nodup) :
    (ofRecords name (header :: records)).texts = (records.filter (!·.isEmpty)).map fun record =>
      (padded (columnNames header) record).take (columnNames header).length := by
  rw [ofRecords, Sheet.texts, List.map_map]
  apply List.map_congr_left
  intro record _
  exact cellText_rowOf distinct

/-- A sheet has no more carriage returns in its cells than the records behind the header. -/
theorem returns_texts (distinct : (columnNames header).Nodup) :
    returns (ofRecords name (header :: records)).texts.flatten ≤ returns records.flatten := by
  rw [texts_ofRecords distinct]
  induction records with
  | nil => exact Nat.le_refl _
  | cons record records ih =>
      rw [List.flatten_cons, returns_append, List.filter_cons]
      split
      · rw [List.map_cons, List.flatten_cons, returns_append]
        exact Nat.add_le_add (returns_take_le.trans (Nat.le_of_eq returns_padded)) ih
      · exact Nat.le_add_left_of_le ih

/-- Rows as long as a header of distinct names without blanks around them are the cells of the sheet
that both are. -/
theorem texts_of_fitting (filled : names ≠ []) (distinct : names.Nodup)
    (proper : ∀ name ∈ names, name ≠ [] ∧ name.trim = name)
    (fits : ∀ row ∈ rows, row.length = names.length) :
    (ofRecords name (names :: rows)).texts = rows := by
  have same := columnNames_self distinct proper
  have whole : rows.filter (!·.isEmpty) = rows := by
    apply List.filter_eq_self.mpr
    intro row member
    have long := fits row member
    have some : row ≠ [] := by
      rintro rfl
      exact filled (List.length_eq_zero_iff.mp long.symm)
    rw [List.isEmpty_eq_false_iff.mpr some]
    rfl
  rw [texts_ofRecords (by rwa [same]), whole, same]
  conv_rhs => rw [← List.map_id rows]
  apply List.map_congr_left
  intro row member
  rw [padded_self (fits row member), ← fits row member, List.take_length]
  rfl

/-- Delimited text in UTF-8, loaded with a comma for the delimiter. -/
theorem ofDelimited_encode {path : FilePath} {options : LoadOptions} {text : Text}
    (comma : options.delimiter = [',']) :
    ofDelimited path options .utf8 text.encode =
      match Delimited.read ',' text with
      | .ok records => .ok (ofRecords path.stem records)
      | .error problem => .error (.unreadable path (.delimited problem)) := by
  rw [ofDelimited, comma, Encoding.decodeInPieces_encode]
  rfl

/-- **Loading again.** Rows under distinct names without blanks around them, written and loaded
again, come back exactly if every field survives. -/
theorem reloads_iff {path : FilePath} {options : LoadOptions} (comma : options.delimiter = [','])
    (filled : names ≠ []) (distinct : names.Nodup)
    (proper : ∀ name ∈ names, name ≠ [] ∧ name.trim = name)
    (fits : ∀ row ∈ rows, row.length = names.length) :
    (∃ sheet, ofDelimited path options .utf8 (write (names :: rows)).encode = .ok sheet ∧
        sheet.columns = names ∧ sheet.texts = rows) ↔
      ∀ record ∈ names :: rows, ∀ field ∈ record, Survives field := by
  have solid : ∀ record ∈ names :: rows, record ≠ [] := by
    rw [List.forall_mem_cons]
    refine ⟨filled, ?_⟩
    rintro row member rfl
    exact filled (List.length_eq_zero_iff.mp (fits [] member).symm)
  rw [ofDelimited_encode comma]
  constructor
  · rintro ⟨sheet, loaded, columns, texts⟩
    by_contra spoiled
    have lost : ∃ record ∈ names :: rows, ∃ field ∈ record, ¬Survives field := by
      simpa only [not_forall, exists_prop] using spoiled
    cases answer : Delimited.read ',' (write (names :: rows)) with
    | error problem =>
        rw [answer] at loaded
        cases loaded
    | ok found =>
        rw [answer] at loaded
        cases loaded
        have fewer := returns_lt_of_lost solid lost answer
        match found with
        | [] => exact filled columns.symm
        | header :: records =>
            have named : columnNames header = names := columns
            have first : returns (columnNames header) ≤ returns header := returns_columnNames
            have later : returns (ofRecords path.stem (header :: records)).texts.flatten ≤
                returns records.flatten := returns_texts (by rwa [named])
            rw [named] at first
            rw [texts] at later
            rw [List.flatten_cons, List.flatten_cons, returns_append, returns_append] at fewer
            omega
  · intro survive
    rw [read_write solid survive]
    exact ⟨_, rfl, columnNames_self distinct proper, texts_of_fitting filled distinct proper fits⟩

end Source

namespace Filter

variable {found : Found} {rows : List (List Text)} {options : LoadOptions}

/-- **Delimited text, loaded again.** What is printed for rows whose cells can be written, under
distinct names without blanks around them, gives the same names and the same cells in the same rows
exactly if every field is short enough and no carriage return stands in a field without quotes. -/
theorem toDelimited_reloads_iff (path : FilePath)
    (rendered : found.rows.mapM (fun row => Column.renderAll found.shownColumns row.value) = .ok rows)
    (comma : options.delimiter = [',']) (filled : found.shownColumns ≠ [])
    (distinct : (found.shownColumns.map (·.head.name)).Nodup)
    (proper : ∀ column ∈ found.shownColumns,
      column.head.name ≠ [] ∧ column.head.name.trim = column.head.name) :
    ∃ text, toDelimited found = .ok text ∧
      ((∃ sheet, Source.ofDelimited path options .utf8 text.encode = .ok sheet ∧
          sheet.columns = found.shownColumns.map (·.head.name) ∧ sheet.texts = rows) ↔
        ∀ record ∈ found.shownColumns.map (·.head.name) :: rows, ∀ field ∈ record,
          Survives field) := by
  refine ⟨write (found.shownColumns.map (·.head.name) :: rows), ?_, ?_⟩
  · rw [toDelimited, rendered]
    rfl
  · apply Source.reloads_iff comma
    · rwa [ne_eq, List.map_eq_nil_iff]
    · exact distinct
    · rwa [List.forall_mem_map]
    · intro row member
      obtain ⟨origin, -, known⟩ := exists_of_forall₂ (mapM_eq_ok.mp rendered).flip member
      rw [Table.length_renderAll known, List.length_map]

/-- A cell with a carriage return between two letters does not come back. -/
theorem not_reloaded_of_return :
    let cell : Text := ['a', '\r', 'b']
    let column : Column Record := Record.column ⟨['x'], true⟩ (.name ['x']) Value.sourceCell none
    let row : Record := .object [(['x'], .text cell)]
    let found : Found := ⟨['t'], [.fresh row 1], [column], [0], 1⟩
    let options : LoadOptions := ⟨none, [','], "utf-8".toList⟩
    let path : FilePath := ⟨false, ["t.csv".toList]⟩
    found.rows.mapM (fun row => Column.renderAll found.shownColumns row.value) = .ok [[cell]] ∧
      options.delimiter = [','] ∧ found.shownColumns ≠ [] ∧
      (found.shownColumns.map (·.head.name)).Nodup ∧
      (∀ column ∈ found.shownColumns,
        column.head.name ≠ [] ∧ column.head.name.trim = column.head.name) ∧
      ∃ text, toDelimited found = .ok text ∧
        ¬∃ sheet, Source.ofDelimited path options .utf8 text.encode = .ok sheet ∧
          sheet.columns = found.shownColumns.map (·.head.name) ∧ sheet.texts = [[cell]] := by
  intro cell column row found options path
  have rendered : found.rows.mapM (fun row => Column.renderAll found.shownColumns row.value) =
      .ok [[cell]] := rfl
  have comma : options.delimiter = [','] := rfl
  have filled : found.shownColumns ≠ [] := List.cons_ne_nil _ _
  have distinct : (found.shownColumns.map (·.head.name)).Nodup := by decide
  have proper : ∀ column ∈ found.shownColumns,
      column.head.name ≠ [] ∧ column.head.name.trim = column.head.name := by
    intro other member
    rw [List.mem_singleton.mp member]
    exact ⟨List.cons_ne_nil _ _, by decide⟩
  obtain ⟨text, written, reloads⟩ :=
    toDelimited_reloads_iff path rendered comma filled distinct proper
  refine ⟨rendered, comma, filled, distinct, proper, text, written, ?_⟩
  rw [reloads]
  intro survive
  have gone : Survives cell :=
    survive [cell] (List.mem_cons_of_mem _ List.mem_cons_self) cell List.mem_cons_self
  exact absurd gone (by decide)

end Filter

end TableSearch
