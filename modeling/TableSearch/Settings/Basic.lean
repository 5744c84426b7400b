import TableSearch.Settings.Host
import TableSearch.Source.FileTree
import TableSearch.Toml.Reader

/-! # Settings

What a settings file says.  `Settings.check` replaces settings that cannot be used, with a warning,
and refuses a negative number of rows.
-/

namespace TableSearch

/-- The settings of the program. -/
structure Settings where
  coloredOutput : Bool
  highlightStyle : Text
  /-- How many rows are printed at most; zero stands for all. -/
  maxRows : Int
  /-- The delimiter of delimited text; without one it is guessed. -/
  delimiter : Text
  encoding : Text
  /-- The columns that plain search terms skip. -/
  excludedColumns : List Text
  /-- What is searched for when nothing is asked for. -/
  defaultDirective : Text
  /-- The file that the settings come from. -/
  source : Option FilePath
deriving DecidableEq, Repr

/-- A setting of a file. -/
inductive Setting where
  | coloredOutput
  | highlightStyle
  | maxRows
  | delimiter
  | encoding
  | excludedColumns
  | defaultDirective
deriving DecidableEq, Repr

namespace Setting

/-- The section that a setting belongs to. -/
def sectionName : Setting → String
  | coloredOutput | highlightStyle | maxRows => "display"
  | delimiter | encoding => "input"
  | excludedColumns | defaultDirective => "search"

/-- The name of a setting in its section. -/
def name : Setting → String
  | coloredOutput => "colored_output"
  | highlightStyle => "highlight_style"
  | maxRows => "max_rows"
  | delimiter => "delimiter"
  | encoding => "encoding"
  | excludedColumns => "excluded_columns"
  | defaultDirective => "default_directive"

/-- The name of a setting with its section. -/
def key (setting : Setting) : String :=
  setting.sectionName ++ "." ++ setting.name

/-- What the value of a setting has to be. -/
def requirement : Setting → String
  | coloredOutput => "must be a boolean"
  | highlightStyle | delimiter | defaultDirective => "must be a string"
  | maxRows => "must be an integer"
  | encoding => "must be a non-empty string"
  | excludedColumns => "must be a list of strings"

end Setting

/-- Something that is wrong with settings and does not stop the program. -/
inductive SettingsWarning where
  | noFile (path : FilePath)
  | notAStyle (text : Text)
  | longDelimiter (text : Text)
deriving DecidableEq, Repr

/-- Why settings cannot be used. -/
inductive SettingsError where
  /-- The file is no TOML; the detail says why. -/
  | malformed (path : FilePath) (detail : String)
  /-- A setting has a value that it cannot have. -/
  | unfit (setting : Setting)
  | negativeRows
  /-- The bytes of the file are no text. -/
  | bytes (error : DecodeError)
  /-- An integer of the file has too many digits. -/
  | longInteger (digits : Nat)
  /-- The values of the file are nested too deeply. -/
  | tooDeep
  /-- What stands for a section cannot be searched for a name. -/
  | unsearchable (kind : String)
  /-- What stands for a section is a text that the name of a setting occurs in. -/
  | insideText
  /-- What stands for a section is a list that the name of a setting is in. -/
  | insideList
  /-- The library of styles fails, and not because of the wording of a style. -/
  | style (wording : String)
  | file (error : FileError)
  | unknownHome
deriving DecidableEq, Repr

namespace Settings

/-- The settings without a file. -/
def defaults : Settings where
  coloredOutput := true
  highlightStyle := "bold black on yellow".toList
  maxRows := 0
  delimiter := []
  encoding := "utf-8".toList
  excludedColumns := []
  defaultDirective := []
  source := none

end Settings

namespace SettingsWarning

/-- The wording of a warning. -/
def message : SettingsWarning → String
  | noFile path =>
    "No config file found at " ++ path.text.toString ++
      ". Using defaults. Create config with: table-control init-config"
  | notAStyle text =>
    "display.highlight_style=" ++ text.quoted.toString ++ " is not a valid style, using " ++
      Settings.defaults.highlightStyle.quoted.toString
  | longDelimiter text =>
    "input.delimiter=" ++ text.quoted.toString ++
      " is longer than one character, delimiter will be guessed"

end SettingsWarning

namespace SettingsError

/-- The wording of an error. -/
def message : SettingsError → String
  | malformed path detail => "Invalid config at " ++ path.text.toString ++ ": " ++ detail
  | unfit setting =>
    "Invalid config value for '" ++ setting.key ++ "': " ++ setting.requirement
  | negativeRows => "Invalid config value for '" ++ Setting.maxRows.key ++ "': must be >= 0"
  | bytes error => error.message
  | longInteger digits => PatternError.tooManyDigits digits
  | tooDeep => Toml.ReadError.nestingMessage
  | unsearchable kind => "argument of type '" ++ kind ++ "' is not iterable"
  | insideText => "string indices must be integers, not 'str'"
  | insideList => "list indices must be integers or slices, not str"
  | style wording => wording
  | file error => error.message
  | unknownHome => "Could not determine home directory."

end SettingsError

namespace Settings

/-- The settings with an unknown style replaced. -/
def checkStyle (host : SettingsHost) (settings : Settings) :
    Except SettingsError (Settings × List SettingsWarning) :=
  match host.style settings.highlightStyle with
  | .known => .ok (settings, [])
  | .malformed =>
    .ok ({ settings with highlightStyle := defaults.highlightStyle },
      [.notAStyle settings.highlightStyle])
  | .failed wording => .error (.style wording)

/-- The settings with a delimiter of several characters left out. -/
def checkDelimiter (settings : Settings) : Settings × List SettingsWarning :=
  if 1 < settings.delimiter.length then
    ({ settings with delimiter := [] }, [.longDelimiter settings.delimiter])
  else (settings, [])

/-- Settings that can be used, and what had to be changed for that. -/
def check (host : SettingsHost) (settings : Settings) :
    Except SettingsError (Settings × List SettingsWarning) := do
  if settings.maxRows < 0 then throw .negativeRows
  let (settings, styleWarnings) ← settings.checkStyle host
  let (settings, delimiterWarnings) := settings.checkDelimiter
  return (settings, styleWarnings ++ delimiterWarnings)

end Settings

end TableSearch
