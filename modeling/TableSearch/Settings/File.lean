import TableSearch.Settings.Basic

/-! # Settings files

`FileTree.loadSettings` reads settings from a file, and `FileTree.saveSettings` writes them to one.
-/

namespace TableSearch

/-! ## Reading -/

namespace Toml

namespace MomentKind

/-- The name of a kind of moment inside a message. -/
def name : MomentKind → String
  | dateTime => "datetime.datetime"
  | date => "datetime.date"
  | time => "datetime.time"

end MomentKind

namespace Value

/-- The value under a name in what stands for a section.  In a text or a list the name may occur,
but nothing can be under it. -/
def field? (name : Text) : Value → Except SettingsError (Option Value)
  | table fields => .ok (fields.lookup name)
  | text value => if value.includes name then .error .insideText else .ok none
  | list items =>
    let isName : Value → Bool
      | text value => value == name
      | _ => false
    if items.any isName then .error .insideList else .ok none
  | int _ => .error (.unsearchable "int")
  | float _ => .error (.unsearchable "float")
  | bool _ => .error (.unsearchable "bool")
  | moment kind _ => .error (.unsearchable kind.name)

/-- The text that a value is. -/
def text? : Value → Option Text
  | text value => some value
  | _ => none

/-- The truth value that a value is. -/
def bool? : Value → Option Bool
  | bool value => some value
  | _ => none

/-- The integer that a value is. -/
def int? : Value → Option Int
  | int value => some value
  | _ => none

/-- The texts that a value lists. -/
def texts? : Value → Option (List Text)
  | list items => items.mapM text?
  | _ => none

end Value

end Toml

namespace Settings

/-- The value of a setting in a document, if it is there. -/
def read? {α : Type} (document : Toml.Table) (setting : Setting)
    (value? : Toml.Value → Option α) : Except SettingsError (Option α) := do
  let part := (document.lookup setting.sectionName.toList).getD (.table [])
  match ← part.field? setting.name.toList with
  | none => return none
  | some value =>
    match value? value with
    | some found => return some found
    | none => throw (.unfit setting)

/-- The settings that a document gives; the others have their defaults. -/
def ofDocument (document : Toml.Table) (source : FilePath) : Except SettingsError Settings := do
  let coloredOutput ← read? document .coloredOutput (·.bool?)
  let highlightStyle ← read? document .highlightStyle (·.text?)
  let maxRows ← read? document .maxRows (·.int?)
  let delimiter ← read? document .delimiter (·.text?)
  let encoding ← read? document .encoding fun value => value.text?.filter (!·.isEmpty)
  let excludedColumns ← read? document .excludedColumns (·.texts?)
  let defaultDirective ← read? document .defaultDirective (·.text?)
  return {
    coloredOutput := coloredOutput.getD defaults.coloredOutput
    highlightStyle := highlightStyle.getD defaults.highlightStyle
    maxRows := maxRows.getD defaults.maxRows
    delimiter := delimiter.getD defaults.delimiter
    encoding := encoding.getD defaults.encoding
    excludedColumns := excludedColumns.getD defaults.excludedColumns
    defaultDirective := defaultDirective.getD defaults.defaultDirective
    source := some source }

/-- The settings that the bytes of a file give. -/
def ofBytes (host : SettingsHost) (path : FilePath) (bytes : List UInt8) :
    Except SettingsError Settings := do
  let text ← (Encoding.utf8.decode bytes).mapError .bytes
  match Toml.read host.room text with
  | .ok document => ofDocument document path
  | .error (.longInteger digits) => throw (.longInteger digits)
  | .error .tooDeep => throw .tooDeep
  | .error error => throw (.malformed path (error.message text))

end Settings

namespace FileTree

/-- The path of the settings file if none is named. -/
def settingsPath (tree : FileTree) : FilePath :=
  ⟨true, tree.home.parts ++ [".config".toList, "table-control".toList, "config.toml".toList]⟩

/-- The absolute path of a settings file. -/
def findSettings (tree : FileTree) (path : Option FilePath) : Except SettingsError FilePath :=
  match (path.getD tree.settingsPath).expandHome? tree.home with
  | some path => .ok (tree.resolve path)
  | none => .error .unknownHome

/-- The settings in a file, and what is wrong with them.  Without the file they are the defaults. -/
def loadSettings (tree : FileTree) (host : SettingsHost) (path : Option FilePath) :
    Except SettingsError (Settings × List SettingsWarning) := do
  let path ← tree.findSettings path
  match tree.find? path with
  | none =>
    let (settings, warnings) ← Settings.defaults.check host
    return (settings, .noFile path :: warnings)
  | some .directory => throw (.file (.isADirectory path))
  | some (.file content) => (← Settings.ofBytes host path content.toBytes).check host

end FileTree

/-! ## Writing -/

namespace Settings

/-- A setting under its name. -/
def field (setting : Setting) (value : Toml.Setting) : Text × Toml.Setting :=
  (setting.name.toList, value)

/-- The fields of the section for what is shown. -/
def displayFields (settings : Settings) : List (Text × Toml.Setting) :=
  [field .coloredOutput (.bool settings.coloredOutput),
    field .highlightStyle (.text settings.highlightStyle),
    field .maxRows (.int settings.maxRows)]

/-- The fields of the section for sources. -/
def inputFields (settings : Settings) : List (Text × Toml.Setting) :=
  [field .delimiter (.text settings.delimiter), field .encoding (.text settings.encoding)]

/-- The fields of the section for the search; what is empty is left out. -/
def searchFields (settings : Settings) : List (Text × Toml.Setting) :=
  (if settings.excludedColumns.isEmpty then []
    else [field .excludedColumns (.texts settings.excludedColumns)]) ++
  (if settings.defaultDirective.isEmpty then []
    else [field .defaultDirective (.text settings.defaultDirective)])

/-- The sections of a settings file.  The one for the search is left out if there is nothing in it. -/
def sections (settings : Settings) : List (Text × List (Text × Toml.Setting)) :=
  [("display".toList, settings.displayFields), ("input".toList, settings.inputFields)] ++
    (if settings.searchFields.isEmpty then [] else [("search".toList, settings.searchFields)])

end Settings

namespace FileTree

/-- The tree with settings written to a file: the one named, else the one that they come from, else
the default one. -/
def saveSettings (tree : FileTree) (host : SettingsHost) (settings : Settings)
    (path : Option FilePath) : Except SettingsError FileTree := do
  let path ← tree.findSettings (path <|> settings.source)
  (tree.write path (host.write settings.sections)).mapError .file

end FileTree

end TableSearch
