import TableSearch.Proofs.Answers
import TableSearch.Proofs.Encoding.Utf8
import TableSearch.Proofs.Source.FileTree
import TableSearch.Proofs.Toml.Document
import TableSearch.Settings.File

/-! # Settings that were saved

`TableSearch.Settings.load_save`: settings that were checked are saved to every path where a file
can be written, and loaded from there as they were, without a warning.  Only the path that they come
from is new.

The writer of documents and the styles belong to the host, of which nothing is known but that it reads
back what it writes and knows the style that replaces the others (`TableSearch.SettingsHost.Lawful`).
The host of the command line is such a host (`TableSearch.SettingsHost.standard_lawful`).

A setting that is not in the file is one whose default is empty and that is empty itself, and the
check has nothing left to replace.
-/

namespace TableSearch

/-! ## Hosts -/

namespace SettingsHost

/-- Whether the bytes of a file are read as a document. -/
def Reads (host : SettingsHost) (bytes : List UInt8) (document : Toml.Table) : Prop :=
  ∃ text, Encoding.utf8.decode bytes = .ok text ∧ Toml.read host.room text = .ok document

/-- Whether a value is read back from what is written for it, where it is the only one. -/
def ReadsBack (host : SettingsHost) (value : Toml.Setting) : Prop :=
  ∀ header name, Toml.IsName header → Toml.IsName name →
    host.Reads (host.write [(header, [(name, value)])]) (Toml.tableOf [(header, [(name, value)])])

/-- What a host is known to do. -/
structure Lawful (host : SettingsHost) : Prop where
  bool : ∀ value, host.ReadsBack (.bool value)
  text : ∀ value, host.ReadsBack (.text value)
  texts : ∀ items, host.ReadsBack (.texts items)
  /-- Values that are read back one by one are read back together. -/
  sections : ∀ sections, Toml.IsWritable host.ReadsBack sections →
    host.Reads (host.write sections) (Toml.tableOf sections)
  /-- The style that replaces a malformed one is known. -/
  style : host.style Settings.defaults.highlightStyle = .known

end SettingsHost

namespace Settings

variable {host : SettingsHost} {settings checked : Settings} {warnings : List SettingsWarning}

/-! ## The check -/

/-- Whether settings can be used as they are, if the style that replaces malformed ones can be. -/
structure Usable (host : SettingsHost) (settings : Settings) : Prop where
  rows : 0 ≤ settings.maxRows
  style : host.style settings.highlightStyle = .known ∨
    settings.highlightStyle = defaults.highlightStyle
  delimiter : settings.delimiter.length ≤ 1

/-- The check has nothing to replace in settings that can be used, and nothing to warn of. -/
theorem Usable.check_eq (usable : settings.Usable host)
    (known : host.style defaults.highlightStyle = .known) :
    settings.check host = .ok (settings, []) := by
  have described : host.style settings.highlightStyle = .known := by
    rcases usable.style with described | replaced
    · exact described
    · rwa [replaced]
  have styled : settings.checkStyle host = .ok (settings, []) := by
    rw [checkStyle, described]
  have delimited : settings.checkDelimiter = (settings, []) :=
    if_neg (Nat.not_lt.mpr usable.delimiter)
  rw [check, if_neg (Int.not_lt.mpr usable.rows), styled]
  change Except.ok (settings.checkDelimiter.1, [] ++ settings.checkDelimiter.2) = _
  rw [delimited]
  rfl

/-- The check of the style leaves a style that is known or the default, and changes nothing else. -/
theorem style_of_checkStyle (known : settings.checkStyle host = .ok (checked, warnings)) :
    (host.style checked.highlightStyle = .known ∨
        checked.highlightStyle = defaults.highlightStyle) ∧
      checked.maxRows = settings.maxRows ∧ checked.encoding = settings.encoding := by
  rw [checkStyle] at known
  split at known
  case h_1 described =>
    cases known
    exact ⟨.inl described, rfl, rfl⟩
  case h_2 =>
    cases known
    exact ⟨.inr rfl, rfl, rfl⟩
  case h_3 => cases known

/-- The check of the delimiter leaves at most one character, and changes nothing else. -/
theorem delimiter_of_checkDelimiter (known : settings.checkDelimiter = (checked, warnings)) :
    checked.delimiter.length ≤ 1 ∧ checked.highlightStyle = settings.highlightStyle ∧
      checked.maxRows = settings.maxRows ∧ checked.encoding = settings.encoding := by
  rw [checkDelimiter] at known
  split_ifs at known with long
  · cases known
    exact ⟨Nat.zero_le 1, rfl, rfl, rfl⟩
  · cases known
    exact ⟨Nat.not_lt.mp long, rfl, rfl, rfl⟩

/-- Settings that were checked can be used; their encoding and number of rows are as before. -/
theorem usable_of_check (known : settings.check host = .ok (checked, warnings)) :
    checked.Usable host ∧ checked.maxRows = settings.maxRows ∧ checked.encoding = settings.encoding := by
  rw [check] at known
  split_ifs at known with negative
  · cases known
  · obtain ⟨⟨styled, first⟩, found, last⟩ := bind_eq_ok.mp known
    obtain ⟨style, rows, encoding⟩ := style_of_checkStyle found
    cases delimited : styled.checkDelimiter with
    | mk cut more =>
        obtain ⟨delimiter, styled', rows', encoding'⟩ := delimiter_of_checkDelimiter delimited
        dsimp only at last
        rw [delimited] at last
        cases last
        rw [rows] at rows'
        refine ⟨⟨?_, ?_, delimiter⟩, rows', encoding'.trans encoding⟩
        · rw [rows']
          exact Int.not_lt.mp negative
        · rwa [styled']

/-! ## The document -/

theorem name_isName (setting : Setting) : Toml.IsName setting.name.toList := by
  cases setting <;> exact ⟨by decide, List.all_eq_true.mp (by decide)⟩

theorem sectionName_isName (setting : Setting) : Toml.IsName setting.sectionName.toList := by
  cases setting <;> exact ⟨by decide, List.all_eq_true.mp (by decide)⟩

/-- The settings of the display are a section that can be written, if the host reads the largest
number of rows back. -/
theorem isSection_displayFields (lawful : host.Lawful)
    (readable : host.ReadsBack (.int settings.maxRows)) :
    Toml.IsSection host.ReadsBack settings.displayFields where
  named := List.forall_mem_cons.mpr ⟨name_isName .coloredOutput, List.forall_mem_cons.mpr
    ⟨name_isName .highlightStyle, List.forall_mem_singleton.mpr (name_isName .maxRows)⟩⟩
  values := List.forall_mem_cons.mpr ⟨lawful.bool _, List.forall_mem_cons.mpr
    ⟨lawful.text _, List.forall_mem_singleton.mpr readable⟩⟩
  distinct := show [Setting.coloredOutput.name.toList, Setting.highlightStyle.name.toList,
    Setting.maxRows.name.toList].Nodup by decide

/-- The settings of the input are a section that can be written. -/
theorem isSection_inputFields (lawful : host.Lawful) :
    Toml.IsSection host.ReadsBack settings.inputFields where
  named := List.forall_mem_cons.mpr
    ⟨name_isName .delimiter, List.forall_mem_singleton.mpr (name_isName .encoding)⟩
  values := List.forall_mem_cons.mpr
    ⟨lawful.text _, List.forall_mem_singleton.mpr (lawful.text _)⟩
  distinct := show [Setting.delimiter.name.toList, Setting.encoding.name.toList].Nodup by decide

/-- The settings of the search are a section that can be written, whichever of them are there. -/
theorem isSection_searchFields (lawful : host.Lawful) :
    Toml.IsSection host.ReadsBack settings.searchFields where
  named := by
    refine List.forall_mem_append.mpr ⟨?_, ?_⟩
    · split_ifs
      · exact List.forall_mem_nil _
      · exact List.forall_mem_singleton.mpr (name_isName .excludedColumns)
    · split_ifs
      · exact List.forall_mem_nil _
      · exact List.forall_mem_singleton.mpr (name_isName .defaultDirective)
  values := by
    refine List.forall_mem_append.mpr ⟨?_, ?_⟩ <;> split_ifs
    · exact List.forall_mem_nil _
    · exact List.forall_mem_singleton.mpr (lawful.texts _)
    · exact List.forall_mem_nil _
    · exact List.forall_mem_singleton.mpr (lawful.text _)
  distinct := by
    have apart : [Setting.excludedColumns.name.toList,
        Setting.defaultDirective.name.toList].Nodup := by decide
    rw [searchFields]
    split_ifs
    · exact List.nodup_nil
    · exact List.nodup_singleton _
    · exact List.nodup_singleton _
    · exact apart

/-- Settings are sections that can be written, if the host reads the largest number of rows back:
all other values are truth values, texts and lists of texts. -/
theorem isWritable_sections (lawful : host.Lawful)
    (readable : host.ReadsBack (.int settings.maxRows)) :
    Toml.IsWritable host.ReadsBack settings.sections := by
  have apart : ["display".toList, "input".toList, "search".toList].Nodup := by decide
  rw [sections]
  split_ifs
  · exact {
      named := List.forall_mem_cons.mpr ⟨sectionName_isName .maxRows,
        List.forall_mem_singleton.mpr (sectionName_isName .encoding)⟩
      parts := List.forall_mem_cons.mpr ⟨isSection_displayFields lawful readable,
        List.forall_mem_singleton.mpr (isSection_inputFields lawful)⟩
      distinct := (List.sublist_append_left _ ["search".toList]).nodup apart }
  · exact {
      named := List.forall_mem_cons.mpr ⟨sectionName_isName .maxRows, List.forall_mem_cons.mpr
        ⟨sectionName_isName .encoding,
          List.forall_mem_singleton.mpr (sectionName_isName .excludedColumns)⟩⟩
      parts := List.forall_mem_cons.mpr ⟨isSection_displayFields lawful readable, List.forall_mem_cons.mpr
        ⟨isSection_inputFields lawful,
          List.forall_mem_singleton.mpr (isSection_searchFields lawful)⟩⟩
      distinct := apart }

/-! ## The settings of the document -/

variable {document part : Toml.Table} {α : Type}

/-- A setting is read from the table that its section is, or from an empty one if the section is not
there. -/
theorem read?_of_part (setting : Setting) (value? : Toml.Value → Option α)
    (present : (document.lookup setting.sectionName.toList).getD (.table []) = .table part) :
    read? document setting value? =
      match part.lookup setting.name.toList with
      | none => .ok none
      | some value =>
        match value? value with
        | some found => .ok (some found)
        | none => .error (.unfit setting) := by
  rw [read?]
  simp only [present, Toml.Value.field?, bind, Except.bind]
  cases part.lookup setting.name.toList with
  | none => rfl
  | some value => cases value? value <;> rfl

/-- A list of texts is read as that list. -/
theorem texts?_value (items : List Text) :
    (Toml.Setting.texts items).value.texts? = some items := by
  change (items.map Toml.Value.text).mapM Toml.Value.text? = some items
  induction items with
  | nil => rfl
  | cons item items ih =>
      rw [List.map_cons, List.mapM_cons, ih]
      rfl

/-- The section of the search is left out exactly when it has no fields, so that looking it up gives
its fields in any case. -/
theorem searchFields_part :
    ((Toml.tableOf settings.sections).lookup "search".toList).getD (.table []) =
      .table (Toml.fieldsOf settings.searchFields) := by
  rw [sections]
  split_ifs with empty
  · rw [List.isEmpty_iff.mp empty]
    rfl
  · rfl

/-- The columns to be left out are written unless there are none. -/
theorem lookup_excludedColumns :
    (Toml.fieldsOf settings.searchFields).lookup Setting.excludedColumns.name.toList =
      if settings.excludedColumns = [] then none
      else some (Toml.Setting.texts settings.excludedColumns).value := by
  rw [searchFields]
  cases settings.excludedColumns with
  | nil => cases settings.defaultDirective <;> rfl
  | cons column columns => rfl

/-- The directive to begin with is written unless it is empty. -/
theorem lookup_defaultDirective :
    (Toml.fieldsOf settings.searchFields).lookup Setting.defaultDirective.name.toList =
      if settings.defaultDirective = [] then none else some (.text settings.defaultDirective) := by
  rw [searchFields]
  cases settings.defaultDirective with
  | nil => cases settings.excludedColumns <;> rfl
  | cons c directive => cases settings.excludedColumns <;> rfl

/-- A list of columns that is not in the file is empty, like its default. -/
theorem read?_excludedColumns : ∃ found,
    read? (Toml.tableOf settings.sections) .excludedColumns (·.texts?) = .ok found ∧
      found.getD defaults.excludedColumns = settings.excludedColumns := by
  rw [read?_of_part .excludedColumns _ searchFields_part, lookup_excludedColumns]
  split_ifs with empty
  · exact ⟨none, rfl, empty.symm⟩
  · refine ⟨some settings.excludedColumns, ?_, rfl⟩
    simp only [texts?_value]

/-- A directive that is not in the file is empty, like its default. -/
theorem read?_defaultDirective : ∃ found,
    read? (Toml.tableOf settings.sections) .defaultDirective (·.text?) = .ok found ∧
      found.getD defaults.defaultDirective = settings.defaultDirective := by
  rw [read?_of_part .defaultDirective _ searchFields_part, lookup_defaultDirective]
  split_ifs with empty
  · exact ⟨none, rfl, empty.symm⟩
  · exact ⟨some settings.defaultDirective, rfl, rfl⟩

/-- The settings that are written are read again. -/
theorem ofDocument_sections {path : FilePath} (encoded : settings.encoding ≠ []) :
    ofDocument (Toml.tableOf settings.sections) path =
      .ok { settings with source := some path } := by
  have display : ((Toml.tableOf settings.sections).lookup "display".toList).getD (.table []) =
      .table (Toml.fieldsOf settings.displayFields) := rfl
  have input : ((Toml.tableOf settings.sections).lookup "input".toList).getD (.table []) =
      .table (Toml.fieldsOf settings.inputFields) := rfl
  have coloredOutput : read? (Toml.tableOf settings.sections) .coloredOutput (·.bool?) =
      .ok (some settings.coloredOutput) := read?_of_part .coloredOutput _ display
  have highlightStyle : read? (Toml.tableOf settings.sections) .highlightStyle (·.text?) =
      .ok (some settings.highlightStyle) := read?_of_part .highlightStyle _ display
  have maxRows : read? (Toml.tableOf settings.sections) .maxRows (·.int?) =
      .ok (some settings.maxRows) := read?_of_part .maxRows _ display
  have delimiter : read? (Toml.tableOf settings.sections) .delimiter (·.text?) =
      .ok (some settings.delimiter) := read?_of_part .delimiter _ input
  have encoding : read? (Toml.tableOf settings.sections) .encoding
      (fun value => value.text?.filter (!·.isEmpty)) = .ok (some settings.encoding) := by
    obtain ⟨first, more, whole⟩ := List.exists_cons_of_ne_nil encoded
    rw [read?_of_part .encoding _ input, inputFields, whole]
    rfl
  obtain ⟨columns, excludedColumns, columns_eq⟩ := @read?_excludedColumns settings
  obtain ⟨directive, defaultDirective, directive_eq⟩ := @read?_defaultDirective settings
  simp only [ofDocument, coloredOutput, highlightStyle, maxRows, delimiter, encoding,
    excludedColumns, defaultDirective, bind, Except.bind, columns_eq, directive_eq]
  rfl

/-! ## Saving and loading -/

/-- A lawful host reads the settings that it has written, with the path as the place that they come
from. -/
theorem ofBytes_sections {path : FilePath} (lawful : host.Lawful)
    (readable : host.ReadsBack (.int settings.maxRows)) (encoded : settings.encoding ≠ []) :
    ofBytes host path (host.write settings.sections) = .ok { settings with source := some path } := by
  obtain ⟨text, decoded, read⟩ := lawful.sections _ (isWritable_sections lawful readable)
  simp only [ofBytes, decoded, Except.mapError, bind, Except.bind, read, ofDocument_sections encoded]

/-- The path of a settings file starts at the root and never leads upwards. -/
theorem absolute_of_findSettings {tree : FileTree} {path : Option FilePath} {target : FilePath}
    (located : tree.findSettings path = .ok target) :
    target.isAbsolute = true ∧ FilePath.up ∉ target.parts := by
  rw [FileTree.findSettings] at located
  split at located
  case h_1 => cases located; exact ⟨rfl, FilePath.up_notMem_climb⟩
  case h_2 => cases located

/-- **Saving and loading.** Settings that were checked are saved to every path where a file can be
written, and what is loaded from there differs from them in the path that it comes from alone. -/
theorem load_save {tree : FileTree} {path : Option FilePath} {target : FilePath}
    (lawful : host.Lawful) (readable : host.ReadsBack (.int settings.maxRows))
    (known : settings.check host = .ok (checked, warnings)) (encoded : settings.encoding ≠ [])
    (located : tree.findSettings (path <|> checked.source) = .ok target)
    (writable : tree.Writable target) :
    ∃ after, tree.saveSettings host checked path = .ok after ∧
      after.loadSettings host (path <|> checked.source) =
        .ok ({ checked with source := some target }, []) := by
  obtain ⟨usable, rows, encoding⟩ := usable_of_check known
  rw [← rows] at readable
  have kept : ({ checked with source := some target } : Settings).Usable host :=
    ⟨usable.rows, usable.style, usable.delimiter⟩
  obtain ⟨absolute, still⟩ := absolute_of_findSettings located
  generalize written : host.write checked.sections = bytes
  refine ⟨tree.withFile target.parts bytes, ?_, ?_⟩
  · rw [FileTree.saveSettings, located, written]
    exact congrArg (Except.mapError _) (FileTree.write_eq writable)
  · -- A file that is written moves neither the home nor the working directory.
    have same : (tree.withFile target.parts bytes).findSettings (path <|> checked.source) =
        .ok target := located
    have found : (tree.withFile target.parts bytes).find? target = some (.file (.bytes bytes)) :=
      writable.find?_withFile absolute still
    have parsed : ofBytes host target bytes = .ok { checked with source := some target } := by
      rw [← written]
      refine ofBytes_sections lawful readable ?_
      rwa [encoding]
    simp only [FileTree.loadSettings, same, found, FileContent.toBytes, parsed, bind, Except.bind,
      kept.check_eq lawful.style]

end Settings

/-! ## The host of the command line -/

namespace SettingsHost

variable {value : Toml.Setting} {sections : List (Text × List (Text × Toml.Setting))}
  {document : Toml.Table}

/-- The host of the command line reads bytes that it has written as the document that the reader
makes of the written text. -/
theorem standard_reads_iff : standard.Reads (standard.write sections) document ↔
    Toml.read standard.room (Toml.write sections) = .ok document := by
  have decoded : Encoding.utf8.decode (standard.write sections) = .ok (Toml.write sections) :=
    Encoding.decode_encode
  constructor
  · rintro ⟨text, other, read⟩
    cases decoded.symm.trans other
    exact read
  · exact fun read => ⟨_, decoded, read⟩

/-- The command line reads every value back but integers with more digits than it converts. -/
theorem standard_readsBack_iff : standard.ReadsBack value ↔ value.IsShort := by
  have roomy : Toml.listRoom ≤ standard.room := by decide
  constructor
  · intro back
    have plain : Toml.IsName ['a'] := ⟨by decide, List.forall_mem_singleton.mpr rfl⟩
    cases value with
    | int number =>
        by_contra long
        have read := standard_reads_iff.mp (back _ _ plain plain)
        rw [Toml.read_long plain plain long] at read
        cases read
    | text value => trivial
    | bool value => trivial
    | texts items => trivial
  · exact fun short header name headed named => standard_reads_iff.mpr
      (Toml.read_write roomy (Toml.isWritable_singleton headed named short))

theorem words_highlightStyle : Settings.defaults.highlightStyle.words =
    ["bold".toList, "black".toList, "on".toList, "yellow".toList] := by
  decide

theorem ofText_highlightStyle :
    ∃ style, Style.ofText Settings.defaults.highlightStyle = .ok style := by
  have named : Settings.defaults.highlightStyle.trim ≠ "none".toList := by decide
  rw [Style.ofText, if_neg named, words_highlightStyle]
  exact ⟨_, rfl⟩

theorem style_standard : standard.style = knownStyle := rfl

theorem knownStyle_highlightStyle : knownStyle Settings.defaults.highlightStyle = .known := by
  obtain ⟨style, described⟩ := ofText_highlightStyle
  rw [knownStyle, described]

/-- The host of the command line reads back what it writes: truth values, texts and lists of texts
always, and whole sections whenever it reads each of their values. -/
theorem standard_lawful : standard.Lawful where
  bool _ := standard_readsBack_iff.mpr trivial
  text _ := standard_readsBack_iff.mpr trivial
  texts _ := standard_readsBack_iff.mpr trivial
  sections sections whole := standard_reads_iff.mpr
    (Toml.read_write (by decide) (whole.mono fun _ => standard_readsBack_iff.mp))
  style := style_standard ▸ knownStyle_highlightStyle

end SettingsHost

namespace Settings

/-- A delimiter that the check takes out stays out, and the other settings come back. -/
theorem load_save_of_long_delimiter :
    let host := SettingsHost.standard
    let tree : FileTree := ⟨.ofText "/work".toList, .ofText "/home/user".toList, []⟩
    let path : FilePath := .ofText "~/nested/config.toml".toList
    let settings : Settings :=
      { defaults with
        coloredOutput := false, maxRows := 50, delimiter := "||".toList,
        excludedColumns := ["notes".toList], defaultDirective := "sort:-date".toList }
    let checked : Settings := { settings with delimiter := [] }
    host.Lawful ∧ host.ReadsBack (.int settings.maxRows) ∧
      settings.check host = .ok (checked, [.longDelimiter "||".toList]) ∧
      ∃ after, tree.saveSettings host checked (some path) = .ok after ∧
        after.loadSettings host (some path) =
          .ok ({ checked with
            source := some (.ofText "/home/user/nested/config.toml".toList) }, []) := by
  intro host tree path settings checked
  have readable : host.ReadsBack (.int settings.maxRows) :=
    SettingsHost.standard_readsBack_iff.mpr (by decide)
  have known : settings.check host = .ok (checked, [.longDelimiter "||".toList]) := by
    have described : host.style settings.highlightStyle = .known :=
      SettingsHost.standard_lawful.style
    have styled : settings.checkStyle host = .ok (settings, []) := by
      rw [checkStyle, described]
    rw [check, if_neg (by decide), styled]
    rfl
  exact ⟨SettingsHost.standard_lawful, readable, known,
    load_save SettingsHost.standard_lawful readable known (by decide) rfl
      (FileTree.write_isOk_iff.mp ⟨tree.withFile _ [], rfl⟩)⟩

end Settings

end TableSearch
