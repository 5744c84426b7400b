import TableSearch.Proofs.Settings.RoundTrip

/-! # Settings files that cannot be used

A settings file that cannot be used should be reported as such: it is malformed, or one of its
settings has a value that it cannot have.  `TableSearch.Settings.isReport_loadSettings_iff` says for
which files this is so, and for which something else comes out: those that are no text, hold an
integer with too many digits or values that are nested too deeply, have something else than a table for
a section, or describe a style at which the library of styles fails.  It holds for every host: nothing is
assumed of the styles that are known or of the room for values.

The settings are read one after another and the first problem ends the reading, so a section that is
no table does no harm behind a setting that is refused.
-/

namespace TableSearch

/-! ## Reports -/

/-- Whether an error says what is wrong with a settings file. -/
def SettingsError.IsReported : SettingsError → Prop
  | malformed _ _ | unfit _ | negativeRows => True
  | _ => False

namespace Settings

/-- Whether what comes of a settings file is settings that can be used and name an encoding, or an
error that says what is wrong with the file. -/
def IsReport (host : SettingsHost) :
    Except SettingsError (Settings × List SettingsWarning) → Prop
  | .ok (settings, _) => settings.Usable host ∧ settings.encoding ≠ []
  | .error problem => problem.IsReported

end Settings

/-! ## The values of a document -/

namespace Toml

/-- Whether something that is no table gets in the way when a name is looked up in it. -/
inductive Hides (name : Text) : Value → Prop where
  | text {value : Text} (inside : value.includes name = true) : Hides name (.text value)
  | list {items : List Value} (member : .text name ∈ items) : Hides name (.list items)
  | int (value : Int) : Hides name (.int value)
  | float (value : Double) : Hides name (.float value)
  | bool (value : Bool) : Hides name (.bool value)
  | moment (kind : MomentKind) (written : Text) : Hides name (.moment kind written)

namespace Value

/-- A list has a name among its texts exactly when the text with this name is an item. -/
theorem any_isName_iff {name : Text} {items : List Value} :
    (items.any fun
      | text value => value == name
      | _ => false) = true ↔ .text name ∈ items := by
  rw [List.any_eq_true]
  constructor
  · rintro ⟨item, member, same⟩
    cases item with
    | text value => rwa [← beq_iff_eq.mp same]
    | _ => cases same
  · exact fun member => ⟨_, member, beq_self_eq_true name⟩

/-- What is not a table either hides a name or has nothing under it. -/
theorem field?_cases (name : Text) {part : Value} (noTable : ∀ fields, part ≠ .table fields) :
    ¬Hides name part ∧ part.field? name = .ok none ∨
      Hides name part ∧ ∃ problem, part.field? name = .error problem ∧ ¬problem.IsReported := by
  cases part with
  | table fields => exact absurd rfl (noTable fields)
  | text value =>
      rw [field?]
      split_ifs with inside
      · exact .inr ⟨.text inside, _, rfl, not_false⟩
      · refine .inl ⟨fun hides => ?_, rfl⟩
        cases hides with
        | text inside' => exact inside inside'
  | list items =>
      rw [field?]
      split_ifs with inside
      · exact .inr ⟨.list (any_isName_iff.mp inside), _, rfl, not_false⟩
      · refine .inl ⟨fun hides => ?_, rfl⟩
        cases hides with
        | list member => exact inside (any_isName_iff.mpr member)
  | int value => exact .inr ⟨.int value, _, rfl, not_false⟩
  | float value => exact .inr ⟨.float value, _, rfl, not_false⟩
  | bool value => exact .inr ⟨.bool value, _, rfl, not_false⟩
  | moment kind written => exact .inr ⟨.moment kind written, _, rfl, not_false⟩

end Value

end Toml

/-! ## The settings of a document -/

namespace Setting

/-- The settings in the order in which they are read. -/
def all : List Setting :=
  [coloredOutput, highlightStyle, maxRows, delimiter, encoding, excludedColumns, defaultDirective]

theorem mem_all (setting : Setting) : setting ∈ all := by
  cases setting <;> decide

/-- The value of a setting in a document; there is none in a section that is no table. -/
def value? (setting : Setting) (document : Toml.Table) : Option Toml.Value :=
  match document.lookup setting.sectionName.toList with
  | some (.table fields) => fields.lookup setting.name.toList
  | _ => none

theorem value?_of_table {setting : Setting} {document fields : Toml.Table}
    (present : document.lookup setting.sectionName.toList = some (.table fields)) :
    setting.value? document = fields.lookup setting.name.toList := by
  rw [value?, present]

/-- A section that is no table has no values of settings. -/
theorem value?_of_no_table {setting : Setting} {document : Toml.Table}
    (noTable : ∀ fields, document.lookup setting.sectionName.toList ≠ some (.table fields)) :
    setting.value? document = none := by
  rw [value?]
  split
  case h_1 fields present => exact absurd present (noTable fields)
  case h_2 => rfl

/-- Whether a setting can have a value. -/
def Accepts : Setting → Toml.Value → Prop
  | coloredOutput, value => ∃ isOn, value = .bool isOn
  | highlightStyle, value | delimiter, value | defaultDirective, value => ∃ text, value = .text text
  | maxRows, value => ∃ number, value = .int number
  | encoding, value => ∃ text : Text, text ≠ [] ∧ value = .text text
  | excludedColumns, value => ∃ texts : List Text, value = .list (texts.map .text)

/-- Whether a document has a value for a setting that the setting cannot have. -/
def Unfit (setting : Setting) (document : Toml.Table) : Prop :=
  ∃ value, setting.value? document = some value ∧ ¬setting.Accepts value

/-- Whether what a document has for the section of a setting hides the name of the setting. -/
def Obstructed (setting : Setting) (document : Toml.Table) : Prop :=
  ∃ part, document.lookup setting.sectionName.toList = some part ∧
    Toml.Hides setting.name.toList part

/-- A setting with a value stands in a table, so nothing hides it. -/
theorem Unfit.not_obstructed {setting : Setting} {document : Toml.Table}
    (unfit : setting.Unfit document) : ¬setting.Obstructed document := by
  rintro ⟨part, present, hides⟩
  obtain ⟨value, found, -⟩ := unfit
  rw [value?, present] at found
  cases hides <;> cases found

end Setting

namespace Toml.Value

theorem exists_bool? {value : Value} : (∃ isOn, value.bool? = some isOn) ↔
    ∃ isOn, value = .bool isOn := by
  cases value <;> simp [bool?]

theorem int?_eq_some {value : Value} {number : Int} :
    value.int? = some number ↔ value = .int number := by
  cases value <;> simp [int?]

theorem exists_int? {value : Value} : (∃ number, value.int? = some number) ↔
    ∃ number, value = .int number := by
  simp only [int?_eq_some]

theorem text?_eq_some {value : Value} {text : Text} :
    value.text? = some text ↔ value = .text text := by
  cases value <;> simp [text?]

theorem exists_text? {value : Value} : (∃ text, value.text? = some text) ↔
    ∃ text, value = .text text := by
  simp only [text?_eq_some]

theorem exists_text?_nonempty {value : Value} :
    (∃ text, value.text?.filter (!·.isEmpty) = some text) ↔
      ∃ text : Text, text ≠ [] ∧ value = .text text := by
  simp [Option.filter_eq_some_iff, text?_eq_some, and_comm]

/-- Items that are all read as texts are those texts. -/
theorem texts_of_mapM {items : List Value} {texts : List Text}
    (found : items.mapM text? = some texts) : items = texts.map .text := by
  induction items generalizing texts with
  | nil =>
      cases found
      rfl
  | cons item items ih =>
      rw [List.mapM_cons] at found
      obtain ⟨text, first, later⟩ := Option.bind_eq_some_iff.mp found
      obtain ⟨more, others, ⟨⟩⟩ := Option.bind_eq_some_iff.mp later
      rw [text?_eq_some.mp first, ih others, List.map_cons]

/-- Only lists of texts are read as such. -/
theorem exists_texts? {value : Value} : (∃ texts, value.texts? = some texts) ↔
    ∃ texts : List Text, value = .list (texts.map .text) := by
  constructor
  · rintro ⟨texts, found⟩
    cases value with
    | list items => exact ⟨texts, congrArg list (texts_of_mapM found)⟩
    | _ => cases found
  · rintro ⟨texts, rfl⟩
    exact ⟨texts, Settings.texts?_value texts⟩

end Toml.Value

namespace Settings

variable {α β : Type} {host : SettingsHost} {document : Toml.Table} {setting : Setting} {rest order : List Setting}
  {value? : Toml.Value → Option α} {settings : Settings} {last : β}
  {answer : Except SettingsError β} {problem : SettingsError} {path : FilePath}

/-! ## The reading of one setting -/

/-- Reading a setting whose section hides it fails, and the failure is none that is reported. -/
theorem read?_of_obstructed (value? : Toml.Value → Option α)
    (obstructed : setting.Obstructed document) :
    ∃ problem, read? document setting value? = .error problem ∧ ¬problem.IsReported := by
  obtain ⟨part, present, hides⟩ := obstructed
  have noTable : ∀ fields, part ≠ .table fields := by
    rintro fields rfl
    cases hides
  obtain ⟨clear, -⟩ | ⟨-, problem, found, unreported⟩ :=
    Toml.Value.field?_cases setting.name.toList noTable
  · exact absurd hides clear
  · refine ⟨problem, ?_, unreported⟩
    rw [read?, present, Option.getD_some, found]
    rfl

/-- A setting that nothing hides is read from its value, and refused as unfit if the value is of the
wrong kind. -/
theorem read?_of_not_obstructed (clear : ¬setting.Obstructed document) :
    read? document setting value? =
      match setting.value? document with
      | none => .ok none
      | some value =>
        match value? value with
        | some found => .ok (some found)
        | none => .error (.unfit setting) := by
  by_cases table : ∃ fields, document.lookup setting.sectionName.toList = some (.table fields)
  · obtain ⟨fields, present⟩ := table
    rw [Setting.value?_of_table present]
    exact read?_of_part setting value? (by rw [present, Option.getD_some])
  · rw [not_exists] at table
    rw [Setting.value?_of_no_table table]
    cases present : document.lookup setting.sectionName.toList with
    | none => exact read?_of_part setting value? (by rw [present, Option.getD_none])
    | some part =>
        have noTable : ∀ fields, part ≠ .table fields := fun fields same =>
          table fields (present.trans (congrArg some same))
        obtain ⟨-, found⟩ | ⟨hides, -⟩ :=
          Toml.Value.field?_cases setting.name.toList noTable
        · rw [read?, present, Option.getD_some, found]
          rfl
        · exact absurd ⟨part, present, hides⟩ clear

/-! ## The reading of all settings -/

/-- Whether each obstructed setting of a list stands behind an unfit one. -/
def Guarded (document : Toml.Table) (order : List Setting) : Prop :=
  ∀ setting ∈ order, setting.Obstructed document →
    ∃ earlier : Setting, [earlier, setting].Sublist order ∧ earlier.Unfit document

/-- An unfit setting that is read first keeps all others from being read. -/
theorem guarded_cons_of_unfit (unfit : setting.Unfit document) :
    Guarded document (setting :: rest) := by
  intro later member obstructed
  refine ⟨setting, List.cons_sublist_cons.mpr (List.singleton_sublist.mpr ?_), unfit⟩
  rcases List.mem_cons.mp member with rfl | member
  · exact absurd obstructed unfit.not_obstructed
  · exact member

/-- An obstructed setting that is read first has no unfit one in front of it. -/
theorem not_guarded_cons_of_obstructed (obstructed : setting.Obstructed document)
    (distinct : setting ∉ rest) : ¬Guarded document (setting :: rest) := by
  intro guarded
  obtain ⟨earlier, before, -⟩ := guarded setting List.mem_cons_self obstructed
  rcases List.cons_sublist_cons'.mp before with before | ⟨-, before⟩
  · exact distinct (before.subset (List.mem_cons_of_mem _ (List.mem_singleton_self _)))
  · exact distinct (List.singleton_sublist.mp before)

/-- A setting that is read without a problem neither guards the others nor needs a guard. -/
theorem guarded_cons_iff (fit : ¬setting.Unfit document) (clear : ¬setting.Obstructed document) :
    Guarded document (setting :: rest) ↔ Guarded document rest := by
  constructor
  · intro guarded later member obstructed
    obtain ⟨earlier, before, unfit⟩ :=
      guarded later (List.mem_cons_of_mem setting member) obstructed
    rcases List.cons_sublist_cons'.mp before with before | ⟨rfl, -⟩
    · exact ⟨earlier, before, unfit⟩
    · exact absurd unfit fit
  · intro guarded later member obstructed
    rcases List.mem_cons.mp member with rfl | member
    · exact absurd obstructed clear
    · obtain ⟨earlier, before, unfit⟩ := guarded later member obstructed
      exact ⟨earlier, before.cons setting, unfit⟩

/-- What comes of reading settings one after another: the first that is unfit or obstructed ends the
reading, and without one it comes to the last answer. -/
inductive ReadsInTurn (document : Toml.Table) (last : β) :
    List Setting → Except SettingsError β → Prop where
  | done : ReadsInTurn document last [] (.ok last)
  | unfit {setting : Setting} {rest : List Setting} (unfit : setting.Unfit document) :
      ReadsInTurn document last (setting :: rest) (.error (.unfit setting))
  | obstructed {setting : Setting} {rest : List Setting} {problem : SettingsError}
      (obstructed : setting.Obstructed document) (unreported : ¬problem.IsReported) :
      ReadsInTurn document last (setting :: rest) (.error problem)
  | next {setting : Setting} {rest : List Setting} {answer : Except SettingsError β}
      (fit : ¬setting.Unfit document) (clear : ¬setting.Obstructed document)
      (later : ReadsInTurn document last rest answer) :
      ReadsInTurn document last (setting :: rest) answer

/-- One setting more: it is read first, and what it gives goes into the rest of the reading. -/
theorem ReadsInTurn.bind {next : Option α → Except SettingsError β}
    (accepts : ∀ value, (∃ found, value? value = some found) ↔ setting.Accepts value)
    (later : ReadsInTurn document last rest (next ((setting.value? document).bind value?))) :
    ReadsInTurn document last (setting :: rest) (read? document setting value? >>= next) := by
  by_cases obstructed : setting.Obstructed document
  · obtain ⟨problem, found, unreported⟩ := read?_of_obstructed value? obstructed
    rw [found]
    exact .obstructed obstructed unreported
  · rw [read?_of_not_obstructed obstructed]
    cases present : setting.value? document with
    | none =>
        have fit : ¬setting.Unfit document := by
          rintro ⟨value, found, -⟩
          cases present.symm.trans found
        rw [present] at later
        exact .next fit obstructed later
    | some value =>
        cases known : value? value with
        | none =>
            simp only [known]
            refine .unfit ⟨value, present, fun accepted => ?_⟩
            obtain ⟨found, taken⟩ := (accepts value).mpr accepted
            cases known.symm.trans taken
        | some found =>
            have fit : ¬setting.Unfit document := by
              rintro ⟨other, same, refused⟩
              cases present.symm.trans same
              exact refused ((accepts value).mp ⟨found, known⟩)
            rw [present, Option.bind_some, known] at later
            simp only [known]
            exact .next fit obstructed later

/-- The reading comes to its end, or to an error where something is unfit or obstructed. -/
theorem ReadsInTurn.ok_or_error (reads : ReadsInTurn document last order answer) :
    (answer = .ok last ∧ ∀ setting ∈ order, ¬setting.Unfit document ∧
      ¬setting.Obstructed document) ∨
    ∃ problem, answer = .error problem ∧
      ∃ setting ∈ order, setting.Unfit document ∨ setting.Obstructed document := by
  induction reads with
  | done => exact .inl ⟨rfl, List.forall_mem_nil _⟩
  | unfit unfit => exact .inr ⟨_, rfl, _, List.mem_cons_self, .inl unfit⟩
  | obstructed obstructed => exact .inr ⟨_, rfl, _, List.mem_cons_self, .inr obstructed⟩
  | next fit clear _ ih =>
      obtain ⟨found, good⟩ | ⟨problem, found, setting, member, bad⟩ := ih
      · exact .inl ⟨found, List.forall_mem_cons.mpr ⟨⟨fit, clear⟩, good⟩⟩
      · exact .inr ⟨problem, found, setting, List.mem_cons_of_mem _ member, bad⟩

/-- An error of the reading is reported if and only if obstructed settings stand behind unfit ones
only. -/
theorem ReadsInTurn.isReported_iff (reads : ReadsInTurn document last order (.error problem))
    (distinct : order.Nodup) : problem.IsReported ↔ Guarded document order := by
  generalize outcome : Except.error problem = answer at reads
  induction reads with
  | done => cases outcome
  | unfit unfit =>
      cases outcome
      exact iff_of_true trivial (guarded_cons_of_unfit unfit)
  | obstructed obstructed unreported =>
      cases outcome
      exact iff_of_false unreported
        (not_guarded_cons_of_obstructed obstructed (List.nodup_cons.mp distinct).1)
  | next fit clear _ ih =>
      rw [guarded_cons_iff fit clear]
      exact ih (List.nodup_cons.mp distinct).2 outcome

/-- The settings that the values of a document stand for; the others have their defaults. -/
def ofValues (document : Toml.Table) (source : FilePath) : Settings where
  coloredOutput :=
    ((Setting.coloredOutput.value? document).bind (·.bool?)).getD defaults.coloredOutput
  highlightStyle :=
    ((Setting.highlightStyle.value? document).bind (·.text?)).getD defaults.highlightStyle
  maxRows := ((Setting.maxRows.value? document).bind (·.int?)).getD defaults.maxRows
  delimiter := ((Setting.delimiter.value? document).bind (·.text?)).getD defaults.delimiter
  encoding :=
    ((Setting.encoding.value? document).bind fun value =>
      value.text?.filter (!·.isEmpty)).getD defaults.encoding
  excludedColumns :=
    ((Setting.excludedColumns.value? document).bind (·.texts?)).getD defaults.excludedColumns
  defaultDirective :=
    ((Setting.defaultDirective.value? document).bind (·.text?)).getD defaults.defaultDirective
  source := some source

/-- The settings of a document are read in turn. -/
theorem readsInTurn_ofDocument (document : Toml.Table) (path : FilePath) :
    ReadsInTurn document (ofValues document path) Setting.all (ofDocument document path) := by
  open Toml.Value in
  exact .bind (fun _ => exists_bool?) <| .bind (fun _ => exists_text?) <|
    .bind (fun _ => exists_int?) <| .bind (fun _ => exists_text?) <|
    .bind (fun _ => exists_text?_nonempty) <| .bind (fun _ => exists_texts?) <|
    .bind (fun _ => exists_text?) .done

/-! ## The check of the settings -/

/-- A style at which the library fails stops the check of settings with a possible number of rows. -/
theorem check_of_failed {wording : String} (rows : 0 ≤ settings.maxRows)
    (failed : host.style settings.highlightStyle = .failed wording) :
    settings.check host = .error (.style wording) := by
  have styled : settings.checkStyle host = .error (.style wording) := by
    rw [checkStyle, failed]
  rw [check, if_neg (Int.not_lt.mpr rows), styled]
  rfl

/-- The check refuses a negative number of rows, or the library fails at the style. -/
theorem check_eq_error (known : settings.check host = .error problem) :
    problem = .negativeRows ∨ 0 ≤ settings.maxRows ∧ ∃ wording,
      host.style settings.highlightStyle = .failed wording ∧ problem = .style wording := by
  rw [check] at known
  split_ifs at known with negative
  · cases known
    exact .inl rfl
  · refine .inr ⟨Int.not_lt.mp negative, ?_⟩
    cases styled : settings.checkStyle host with
    | ok result =>
        rw [styled] at known
        cases known
    | error other =>
        rw [styled] at known
        cases known
        rw [checkStyle] at styled
        split at styled
        case h_1 => cases styled
        case h_2 => cases styled
        case h_3 wording failed =>
          cases styled
          exact ⟨wording, failed, rfl⟩

/-- The check ends in a report unless the rows are fine and the library fails at the style. -/
theorem isReport_check_iff (encoded : settings.encoding ≠ []) :
    IsReport host (settings.check host) ↔ (0 ≤ settings.maxRows →
      ∀ wording, host.style settings.highlightStyle ≠ .failed wording) := by
  constructor
  · intro reported rows wording failed
    rw [check_of_failed rows failed] at reported
    exact reported
  · intro styled
    cases known : settings.check host with
    | ok result =>
        obtain ⟨usable, -, encoding⟩ := usable_of_check known
        exact ⟨usable, encoding ▸ encoded⟩
    | error problem =>
        obtain rfl | ⟨rows, wording, failed, rfl⟩ := check_eq_error known
        · trivial
        · exact absurd failed (styled rows wording)

/-- Settings that are read from a document name an encoding: an empty name counts as missing. -/
theorem encoding_ofValues : (ofValues document path).encoding ≠ [] := by
  change Option.getD _ defaults.encoding ≠ []
  cases found : (Setting.encoding.value? document).bind fun value =>
      value.text?.filter (!·.isEmpty) with
  | none => decide
  | some text =>
      obtain ⟨value, -, nonempty⟩ := Option.bind_eq_some_iff.mp found
      simpa using (Option.filter_eq_some_iff.mp nonempty).2

/-- The largest number of rows is negative only if the document says so. -/
theorem maxRows_ofValues_nonneg_iff : 0 ≤ (ofValues document path).maxRows ↔
    ∀ rows, Setting.maxRows.value? document = some (.int rows) → 0 ≤ rows := by
  change 0 ≤ Option.getD _ (0 : Int) ↔ _
  cases Setting.maxRows.value? document with
  | none => simp
  | some value => cases value <;> simp [Toml.Value.int?]

/-- The style that a document describes; one that is not there, or is no text, is the default. -/
def describedStyle (document : Toml.Table) : Text :=
  ((Setting.highlightStyle.value? document).bind (·.text?)).getD defaults.highlightStyle

/-! ## Reports of settings files -/

/-- Whether every problem of a document is one that is reported. -/
structure Orderly (host : SettingsHost) (document : Toml.Table) : Prop where
  /-- No section that hides a setting is reached. -/
  sections : Guarded document Setting.all
  /-- The library of styles does not fail at a style that is reached. -/
  style : (∀ setting : Setting, ¬setting.Unfit document) →
    (∀ rows, Setting.maxRows.value? document = some (.int rows) → 0 ≤ rows) →
    ∀ wording, host.style (describedStyle document) ≠ .failed wording

/-- What comes of a document is a report exactly when every problem of the document is one that is
reported. -/
theorem isReport_check_ofDocument_iff :
    IsReport host (ofDocument document path >>= check host) ↔ Orderly host document := by
  have distinct : Setting.all.Nodup := by decide
  have reads := readsInTurn_ofDocument document path
  obtain ⟨found, good⟩ | ⟨problem, found, setting, -, bad⟩ := reads.ok_or_error
  · have guarded : Guarded document Setting.all := fun setting member obstructed =>
      absurd obstructed (good setting member).2
    rw [found]
    change IsReport host ((ofValues document path).check host) ↔ _
    rw [isReport_check_iff encoding_ofValues, maxRows_ofValues_nonneg_iff]
    exact ⟨fun styled => ⟨guarded, fun _ => styled⟩,
      fun orderly => orderly.style fun setting => (good setting setting.mem_all).1⟩
  · rw [found] at reads ⊢
    change problem.IsReported ↔ _
    rw [reads.isReported_iff distinct]
    refine ⟨fun guarded => ⟨guarded, fun fit => ?_⟩, Orderly.sections⟩
    -- Without an unfit setting nothing guards the obstructed one.
    rcases bad with unfit | obstructed
    · exact absurd unfit (fit setting)
    · obtain ⟨earlier, -, unfit⟩ := guarded setting setting.mem_all obstructed
      exact absurd unfit (fit earlier)

/-- Whether a text is read as a document, or is none. -/
structure Reads (answer : Except Toml.ReadError Toml.Table) : Prop where
  short : ∀ digits, answer ≠ .error (.longInteger digits)
  shallow : answer ≠ .error .tooDeep

/-- Whether the bytes of a settings file are a text whose problems are all reported. -/
def IsReadable (host : SettingsHost) (bytes : List UInt8) : Prop :=
  ∃ text, Encoding.utf8.decode bytes = .ok text ∧ Reads (Toml.read host.room text) ∧
    ∀ document, Toml.read host.room text = .ok document → Orderly host document

/-- A text that is read as a document is read. -/
theorem reads_of_document {document : Toml.Table} : Reads (.ok document) where
  short _ failed := by cases failed
  shallow failed := by cases failed

/-- A text that is refused for its form is no document. -/
theorem reads_of_malformed {problem : Toml.Problem} {offset : Nat} :
    Reads (.error (.malformed problem offset)) where
  short _ failed := by cases failed
  shallow failed := by cases failed

/-- What comes of the bytes of a file is a report exactly when they are a text whose problems are all
reported. -/
theorem isReport_check_ofBytes_iff {bytes : List UInt8} :
    IsReport host (ofBytes host path bytes >>= check host) ↔ IsReadable host bytes := by
  rw [ofBytes]
  cases decoded : Encoding.utf8.decode bytes with
  | error error =>
      refine iff_of_false not_false ?_
      rintro ⟨text, known, -⟩
      cases decoded.symm.trans known
  | ok text =>
      have only : IsReadable host bytes ↔ Reads (Toml.read host.room text) ∧
          ∀ document, Toml.read host.room text = .ok document → Orderly host document := by
        constructor
        · rintro ⟨other, known, readable⟩
          cases decoded.symm.trans known
          exact readable
        · exact fun readable => ⟨text, decoded, readable⟩
      rw [only]
      simp only [Except.mapError, bind, Except.bind]
      cases known : Toml.read host.room text with
      | ok document =>
          refine isReport_check_ofDocument_iff.trans ⟨fun orderly => ⟨reads_of_document, ?_⟩,
            fun readable => readable.2 document rfl⟩
          intro other same
          cases same
          exact orderly
      | error error =>
          cases error with
          | malformed problem offset =>
              refine iff_of_true trivial ⟨reads_of_malformed, ?_⟩
              intro document failed
              cases failed
          | longInteger digits =>
              exact iff_of_false not_false fun readable => readable.1.short digits rfl
          | tooDeep => exact iff_of_false not_false fun readable => readable.1.shallow rfl

/-- **Reports of settings files.** What is loaded from a file with any bytes is settings that can be
used or an error that says what is wrong with the file, if and only if the bytes are a text, its
reading ends neither at an integer with too many digits nor at values that are nested too deeply, no
section that hides a setting is reached, and the library of styles does not fail at a style that is
reached. -/
theorem isReport_loadSettings_iff {tree : FileTree} {named : Option FilePath} {bytes : List UInt8}
    (located : tree.findSettings named = .ok path)
    (present : tree.find? path = some (.file (.bytes bytes))) :
    IsReport host (tree.loadSettings host named) ↔ IsReadable host bytes := by
  have loaded : tree.loadSettings host named = ofBytes host path bytes >>= check host := by
    rw [FileTree.loadSettings, located]
    simp only [bind, Except.bind, present]
    rfl
  rw [loaded, isReport_check_ofBytes_iff]

/-- A document may have a number where a section should be. -/
theorem exists_number_section : ∃ document,
    Toml.read SettingsHost.standard.room "display = 5\n".toList = .ok document ∧
      document.lookup "display".toList = some (.int 5) := by
  have known : ((Toml.read SettingsHost.standard.room "display = 5\n".toList).toOption.bind
      (·.lookup "display".toList)).bind (·.int?) = some 5 := by decide +kernel
  cases read : Toml.read SettingsHost.standard.room "display = 5\n".toList with
  | error problem =>
      rw [read] at known
      cases known
  | ok document =>
      rw [read] at known
      obtain ⟨value, found, number⟩ := Option.bind_eq_some_iff.mp known
      rw [Toml.Value.int?_eq_some] at number
      exact ⟨document, rfl, found.trans (congrArg some number)⟩

/-- A number in the place of the first section is not reported. -/
theorem not_reported_of_number_section :
    let text : Text := "display = 5\n".toList
    let path : FilePath := .ofText "/work/config.toml".toList
    let tree : FileTree :=
      ⟨.ofText "/work".toList, .ofText "/home/user".toList,
        [(path.parts, .file (.bytes text.encode))]⟩
    tree.findSettings (some path) = .ok path ∧
      tree.find? path = some (.file (.bytes text.encode)) ∧
      ¬IsReport .standard (tree.loadSettings .standard (some path)) := by
  intro text path tree
  have located : tree.findSettings (some path) = .ok path := rfl
  have present : tree.find? path = some (.file (.bytes text.encode)) := rfl
  refine ⟨located, present, ?_⟩
  rw [isReport_loadSettings_iff located present]
  rintro ⟨other, decoded, -, orderly⟩
  rw [Encoding.decode_encode] at decoded
  cases decoded
  obtain ⟨document, read, there⟩ := exists_number_section
  obtain ⟨earlier, before, -⟩ :=
    (orderly document read).sections .coloredOutput (Setting.mem_all _) ⟨_, there, .int 5⟩
  -- Nothing is read before the first setting.
  revert before
  cases earlier <;> decide

end Settings

end TableSearch
