import Mathlib.Data.List.Forall2
import TableSearch.Proofs.Encoding.Utf8
import TableSearch.Proofs.Source.ColumnNames

/-! # The cells of a loaded sheet

`TableSearch.Source.cells_kept`: loading delimited text loses no cell.  Each record that is not
empty is a row, in order, and has each of its fields under the name of its column; only fields beyond
the last column are dropped.

The fields of a row are put under their names one after another, so that a name that occurred twice
would lose a cell.  The names of a header are distinct, so none does.
-/

namespace TableSearch

namespace Value

variable {fields known : List (Text × Value)} {name : Text} {value : Value}

/-- A field with a new name is put behind the others. -/
theorem putField_of_not_mem (new : name ∉ known.map Prod.fst) :
    putField known name value = known ++ [(name, value)] := by
  refine if_neg fun present => new ?_
  obtain ⟨field, member, same⟩ := List.any_eq_true.mp present
  exact List.mem_map.mpr ⟨field, member, beq_iff_eq.mp same⟩

/-- Fields under distinct names stay as they are. -/
theorem fieldsOf_of_nodup (distinct : (fields.map Prod.fst).Nodup) : fieldsOf fields = fields := by
  have later : ∀ known, ((known ++ fields).map Prod.fst).Nodup →
      fields.foldl (fun known field => putField known field.1 field.2) known = known ++ fields := by
    induction fields with
    | nil => exact fun known _ => (List.append_nil known).symm
    | cons field fields ih =>
        intro known distinct'
        have new : field.1 ∉ known.map Prod.fst := by
          rw [List.map_append, List.map_cons, List.nodup_append] at distinct'
          exact fun member => distinct'.2.2 _ member _ List.mem_cons_self rfl
        rw [List.append_cons] at distinct'
        rw [List.foldl_cons, putField_of_not_mem new,
          ih (List.nodup_cons.mp distinct).2 _ distinct']
        exact (List.append_cons known field fields).symm
  exact later [] distinct

end Value

namespace Source

variable {names header record : List Text} {records : List (List Text)} {name : Text} {place : Nat}

/-! ## Rows -/

/-- A record as long as the columns, or longer. -/
def padded (names record : List Text) : List Text :=
  record ++ List.replicate (names.length - record.length) []

theorem length_padded : names.length ≤ (padded names record).length := by
  rw [padded, List.length_append, List.length_replicate]
  omega

/-- Behind the fields of a record come empty ones. -/
theorem getElem?_padded (inside : place < names.length) :
    (padded names record)[place]? = some (record.getD place []) := by
  rw [padded, List.getD_eq_getElem?_getD]
  rcases Nat.lt_or_ge place record.length with within | beyond
  · rw [List.getElem?_append_left within, List.getElem?_eq_getElem within]
    rfl
  · rw [List.getElem?_append_right beyond, List.getElem?_replicate, if_pos (by omega),
      List.getElem?_eq_none beyond]
    rfl

/-- Under distinct names no field of a record takes the place of another. -/
theorem rowOf_eq (distinct : names.Nodup) :
    rowOf names record = names.zip ((padded names record).map .text) := by
  refine Value.fieldsOf_of_nodup ?_
  rwa [List.map_fst_zip]
  rw [List.length_map]
  exact length_padded

/-- What stands under a name is found there. -/
theorem lookup_zip {cells : List Value} {cell : Value} (distinct : names.Nodup)
    (named : names[place]? = some name) (there : cells[place]? = some cell) :
    (names.zip cells).lookup name = some cell := by
  induction names generalizing place cells with
  | nil => cases named
  | cons first names ih =>
      obtain ⟨fresh, distinct⟩ := List.nodup_cons.mp distinct
      match cells, place with
      | [], _ => cases there
      | _ :: _, 0 =>
          cases named
          cases there
          rw [List.zip_cons_cons, List.lookup_cons, beq_self_eq_true]
      | _ :: cells, place + 1 =>
          have apart : (name == first) = false := by
            rw [beq_eq_false_iff_ne]
            rintro rfl
            exact fresh (List.mem_of_getElem? named)
          rw [List.zip_cons_cons, List.lookup_cons, apart]
          exact ih distinct named there

/-- Whether a row has exactly the given names, and under each of them the field of a record that
stands in its place, or nothing if the record is too short. -/
structure Holds (names record : List Text) (row : List (Text × Value)) : Prop where
  keys : row.map Prod.fst = names
  cells : ∀ place name, names[place]? = some name →
    row.lookup name = some (.text (record.getD place []))

/-- A row has each field of its record under the name of the column, if no two names are the
same. -/
theorem holds_rowOf (distinct : names.Nodup) : Holds names record (rowOf names record) := by
  rw [rowOf_eq distinct]
  constructor
  · rw [List.map_fst_zip]
    rw [List.length_map]
    exact length_padded
  · intro place name named
    refine lookup_zip distinct named ?_
    have inside : place < names.length := (List.getElem?_eq_some_iff.mp named).1
    rw [List.getElem?_map, getElem?_padded inside]
    rfl

/-! ## Sheets -/

/-- Whether a sheet has the records behind a header: the names of the header, and a row for each
record that is not empty. -/
structure HoldsAll (header : List Text) (records : List (List Text)) (sheet : Sheet) : Prop where
  columns : sheet.columns = columnNames header
  rows : List.Forall₂ (Holds sheet.columns) (records.filter (!·.isEmpty)) sheet.rows

theorem holdsAll_ofRecords : HoldsAll header records (ofRecords name (header :: records)) where
  columns := rfl
  rows := by
    refine List.forall₂_map_right_iff.mpr (List.forall₂_same.mpr fun record _ => ?_)
    exact holds_rowOf (names_columnNames header).distinct

/-- The delimiter that a text is read with: the given one, else the one that it suggests, else that
of its suffix. -/
def delimiterOf (path : FilePath) (options : LoadOptions) (text : Text) : Char :=
  options.delimiter.head?.getD
    ((Delimited.guess? (text.take sampleLength)).getD (suffixDelimiter path.suffix))

/-- A decoded text is read as records, if the delimiter is one character or is to be found out. -/
theorem ofDelimited_of_decoded {path : FilePath} {options : LoadOptions} {encoding : Encoding}
    {bytes : List UInt8} {text : Text} (single : options.delimiter.length ≤ 1)
    (decoded : encoding.decodeInPieces bytes = .ok text) :
    ofDelimited path options encoding bytes =
      match Delimited.read (delimiterOf path options text) text with
      | .ok records => .ok (ofRecords path.stem records)
      | .error problem => .error (.unreadable path (.delimited problem)) := by
  rw [ofDelimited, if_neg (Nat.not_lt.mpr single), decoded]
  rfl

/-- **Loading.** A header gives as many names as it has fields, all different and none empty; and
whatever records come behind it, a sheet is loaded that has a row for each record that is not empty,
with each field under the name of its column. -/
theorem cells_kept (header : List Text) (records : List (List Text)) :
    Names header (columnNames header) ∧
      (∀ name, HoldsAll header records (ofRecords name (header :: records))) ∧
      ∀ (path : FilePath) (options : LoadOptions) (encoding : Encoding) (bytes : List UInt8)
        (text : Text), options.delimiter.length ≤ 1 → encoding.decodeInPieces bytes = .ok text →
        Delimited.read (delimiterOf path options text) text = .ok (header :: records) →
        ∃ sheet, ofDelimited path options encoding bytes = .ok sheet ∧
          HoldsAll header records sheet := by
  refine ⟨names_columnNames header, fun _ => holdsAll_ofRecords, ?_⟩
  intro path options encoding bytes text single decoded read
  refine ⟨ofRecords path.stem (header :: records), ?_, holdsAll_ofRecords⟩
  rw [ofDelimited_of_decoded single decoded, read]

/-- Names that are repeated, missing or taken by another name; a record that is too short, an empty
one and one that is too long. -/
theorem cells_kept_of_repeated_names :
    let path : FilePath := ⟨false, ["t.csv".toList]⟩
    let options : LoadOptions := ⟨none, [','], "utf-8".toList⟩
    let text : Text := "a,a_2,a,,column4\n1,2\n\n3,4,5,6,7,8\n".toList
    let header := ["a".toList, "a_2".toList, "a".toList, [], "column4".toList]
    let records := [[['1'], ['2']], [], [['3'], ['4'], ['5'], ['6'], ['7'], ['8']]]
    options.delimiter.length ≤ 1 ∧ Encoding.utf8.decodeInPieces text.encode = .ok text ∧
      Delimited.read (delimiterOf path options text) text = .ok (header :: records) ∧
      columnNames header = ["a".toList, "a_2".toList, "a_3".toList, "column4".toList,
        "column4_2".toList] ∧
      ∃ sheet, ofDelimited path options .utf8 text.encode = .ok sheet ∧
        HoldsAll header records sheet := by
  intro path options text header records
  have single : options.delimiter.length ≤ 1 := Nat.le_refl 1
  have decoded : Encoding.utf8.decodeInPieces text.encode = .ok text :=
    Encoding.decodeInPieces_encode
  have read : Delimited.read (delimiterOf path options text) text = .ok (header :: records) := by
    decide +kernel
  refine ⟨single, decoded, read, by decide +kernel, ?_⟩
  exact (cells_kept header records).2.2 path options .utf8 text.encode text single decoded read

end Source

end TableSearch
