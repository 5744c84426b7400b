import TableSearch.CommandLine.Session

/-! # Creating a settings file

The file lists every setting with its default and a comment.
-/

namespace TableSearch

namespace InitConfig

/-- The content of a new settings file. -/
def content : String :=
  "# table-control configuration\n#\n# Default location: ~/.config/table-control/config.toml\n" ++
  "# All settings are optional; the values below are the defaults.\n\n[display]\n" ++
  "# Use colors in terminal output (also disabled by --no-color or NO_COLOR)\n" ++
  "colored_output = true\n\n# Rich style used to highlight the matched parts of cells\n" ++
  "highlight_style = \"bold black on yellow\"\n\n" ++
  "# Maximum number of rows printed by `filter` (0 = unlimited)\nmax_rows = 0\n\n[input]\n" ++
  "# Field delimiter for delimited text files.\n" ++
  "# Leave empty to guess from the file extension and contents.\ndelimiter = \"\"\n\n" ++
  "# Text encoding of CSV/TSV/JSON sources\nencoding = \"utf-8\"\n\n[search]\n" ++
  "# Columns that plain search terms skip.\n" ++
  "# They can still be searched by name, e.g. `notes:urgent`.\nexcluded_columns = []\n\n" ++
  "# Directive applied when `filter` is run without one, e.g. \"sort:name\"\n" ++
  "default_directive = \"\"\n"

/-- The exit code if no file has been created. -/
def failureCode : Nat := 1

/-- A step that writes the file to an absolute path. -/
def writeTo (path : FilePath) : Step Unit :=
  Step.andThen Step.files fun files =>
    match files.write path (Text.encode content.toList) with
    | .ok files =>
      Step.all
        [Step.setFiles files,
          Step.success ("Created config file: ".toList ++ path.text),
          Step.info "Edit this file to customize your settings.".toList]
    | .error error =>
      Step.andThen (Step.error ("Failed to write config file: " ++ error.message).toList) fun _ =>
        Step.stop (.exit failureCode)

/-- The command.  A file that is there is only replaced if that is asked for. -/
def run (force : Bool) (output : Option FilePath) : Step Unit :=
  Step.andThen Step.files fun files =>
    Step.andThen (Step.ofExcept .settings (files.findSettings output)) fun path =>
      if (files.find? path).isSome && !force then
        Step.all
          [Step.error ("Config file already exists: ".toList ++ path.text),
            Step.hint "Use --force to overwrite".toList, Step.stop (.exit failureCode)]
      else writeTo path

end InitConfig

end TableSearch
