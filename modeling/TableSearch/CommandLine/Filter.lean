import TableSearch.CommandLine.Request
import TableSearch.CommandLine.Session
import TableSearch.Control.Printer
import TableSearch.Delimited.Writer
import TableSearch.Instant.English
import TableSearch.Output.Grid
import TableSearch.Output.Theme
import TableSearch.Table.Filter

/-! # Filtering a source

The rows of a source that match a directive, printed as a grid, as JSON or as delimited text.
-/

namespace TableSearch

namespace Filter

/-- What a search in a source needs to know: dates are English, and there are no named tests. -/
def environment : Environment := ⟨English.readDate, fun _ _ => false⟩

/-- The exit code for a request that contradicts itself. -/
def usageCode : Nat := 1

/-- The exit code for a source that cannot be read. -/
def sourceCode : Nat := 2

/-- What a filter has to work with. -/
structure Context where
  settings : Settings
  verbose : Bool
  debug : Bool
  /-- Whether the grid is printed in colors. -/
  colored : Bool

/-- Rows that have been filtered, with the columns in both orders. -/
structure Found where
  name : Text
  rows : List (FilteredRow Record)
  columns : List (Column Record)
  /-- The places of the columns in the order in which they are shown. -/
  order : List Nat
  /-- How many rows match, before the limit. -/
  total : Nat

namespace Found

/-- The columns in the order in which they are shown. -/
def shownColumns (found : Found) : List (Column Record) :=
  found.order.filterMap (found.columns[·]?)

end Found

/-! ## The directive and the source -/

/-- The directive that a request gives, or the default one. -/
def directive (context : Context) (request : FilterRequest) : Text :=
  match request.directiveOption with
  | some directive => directive
  | none =>
    if request.directive.isEmpty then context.settings.defaultDirective
    else Text.join [' '] request.directive

/-- A step that loads the source.  A source that cannot be read ends the run. -/
def loadSource (context : Context) (request : FilterRequest) : Step Sheet :=
  Step.andThen Step.files fun files =>
    let options : LoadOptions :=
      ⟨request.table, context.settings.delimiter, context.settings.encoding⟩
    match files.load .standard request.source options with
    | .ok sheet => Step.done sheet
    | .error error =>
      match error with
      | .notFound _ | .unsupported .. | .unreadable .. =>
        Step.andThen (Step.error error.message.toList) fun _ => Step.stop (.exit sourceCode)
      | _ => Step.stop (.failure (.load error))

/-- A step that prints a message if the run is verbose. -/
def verbosely (context : Context) (message : Text) : Step Unit :=
  if context.verbose then Step.info message else Step.done ()

/-- A step that prints a message to the errors if the run is watched. -/
def watched (context : Context) (message : Text) : Step Unit :=
  if context.debug then
    Step.printError (Step.styled "warning" "\\[DEBUG]".toList ++ ' ' :: message)
  else Step.done ()

/-- How many rows are printed, if that is limited. -/
def limit (context : Context) (request : FilterRequest) : Option Nat :=
  match request.limit with
  | some limit => some limit
  | none => if 0 < context.settings.maxRows then some context.settings.maxRows.toNat else none

/-- A step that finds the rows of a sheet. -/
def find (context : Context) (sheet : Sheet) (control : Control) : Step Found :=
  let columns := Sheet.columnsOf sheet.columns context.settings.excludedColumns
  let rows := sheet.rows.map Record.object
  Step.andThen
    (Step.ofExcept .table (Table.apply environment columns control Record.keyByPlace .empty rows).1)
    fun found =>
      let nameOf (column : Column Record × Nat) : Text := column.1.head.name
      let order := (Table.orderColumns nameOf control columns.zipIdx).map Prod.snd
      Step.done ⟨sheet.name, found, columns, order, found.length⟩

/-- A step that keeps as many rows as may be printed. -/
def keep (context : Context) (request : FilterRequest) (found : Found) : Step Found :=
  match limit context request with
  | none => Step.done found
  | some limit =>
    if limit < found.total then
      Step.andThen
        (verbosely context ("Showing ".toList ++ Text.ofNat limit ++ " of ".toList ++
          Text.ofNat found.total ++ " matching rows".toList))
        fun _ => Step.done { found with rows := found.rows.take limit }
    else Step.done found

/-! ## Printing -/

/-- The rows with their cells under the names of the columns, as JSON. -/
def toJson (found : Found) : Except TableError Text := do
  let rows ← found.rows.mapM fun row => do
    let fields ← found.shownColumns.mapM fun column => do
      return (column.head.name, ← row.value.get (.name column.head.name))
    return Value.object (Value.fieldsOf fields)
  return Json.writeLines (.list rows)

/-- The rows under their names, as delimited text. -/
def toDelimited (found : Found) : Except TableError Text := do
  let rows ← found.rows.mapM fun row => Column.renderAll found.shownColumns row.value
  return Delimited.write (found.shownColumns.map (·.head.name) :: rows)

/-- The cells of a row in the order in which they are shown, with the places of the matches. -/
def gridCells (found : Found) (row : FilteredRow Record) :
    Except TableError (List (Text × List Span)) :=
  found.order.mapM fun place => do
    match found.columns[place]? with
    | none => return ([], [])
    | some column =>
      return (← column.render row.value,
        ((row.found[place]?).bind id).elim [] fun spans => spans.spans)

/-- A cell as it is shown.  With a style the matches wear it; without one the text is markup. -/
def gridCell (style : Option Text) (text : Text) (spans : List Span) :
    Except MarkupError StyledText :=
  match style with
  | none => Markup.read text
  | some style =>
    return StyledText.library.highlight text
      (spans.map fun span => ((span.start : Int), (span.stop : Int))) style

/-- The rows in a grid.  The markup is read column by column. -/
def toGrid (found : Found) (style : Option Text) : Except Failure Grid := do
  let cells ← (found.rows.mapM (gridCells found)).mapError Failure.table
  let readColumn (column : Column Record) (place : Nat) :
      Except MarkupError (StyledText × List StyledText) := do
    let head ← Markup.read column.head.name
    return (head, ← (cells.filterMap (·[place]?)).mapM fun (text, spans) =>
      gridCell style text spans)
  let columns ← (found.shownColumns.zipIdx.mapM fun (column, place) =>
    readColumn column place).mapError Failure.markup
  return Grid.ofColumns columns cells.length

/-- How wide a grid may be. -/
def gridWidth : Nat := 1000

/-- The title of a grid: how many rows it has, and how many there are. -/
def title (found : Found) : Text :=
  let shown := found.rows.length
  found.name ++ ": ".toList ++ Text.ofNat shown ++
    (if shown < found.total then " of ".toList ++ Text.ofNat found.total else []) ++ " rows".toList

/-- A step that prints a grid under its title, or that there are no rows. -/
def printGrid (context : Context) (request : FilterRequest) (found : Found) : Step Unit :=
  if found.rows.isEmpty then
    Step.info ("No matching rows in ".toList ++ found.name ++ " for: ".toList ++
      directive context request)
  else
    let style := if request.noHighlight then none else some context.settings.highlightStyle
    Step.all
      [Step.info (title found),
        Step.andThen (Step.ofExcept id (toGrid found style)) fun grid =>
          Step.write (grid.render Theme.style context.colored gridWidth)]

/-- A step that prints the rows. -/
def print (context : Context) (request : FilterRequest) (found : Found) : Step Unit :=
  match request.format with
  | .table => printGrid context request found
  | .json =>
    Step.andThen (Step.ofExcept .table (toJson found)) fun text => Step.write (text ++ ['\n'])
  | .csv => Step.andThen (Step.ofExcept .table (toDelimited found)) Step.write

/-! ## The command -/

/-- A step that does what is asked for with one directive. -/
def search (context : Context) (request : FilterRequest) (sheet : Sheet) : Step Unit :=
  Step.andThen
    (Step.ofExcept .directive (Control.parse environment.readDate (directive context request)))
    fun control =>
      Step.andThen (verbosely context ("Directive: ".toList ++ control.text)) fun _ =>
        Step.andThen (find context sheet control) fun found =>
          let names := found.shownColumns.map (·.head.name)
          Step.andThen
            (watched context ("Column order: ".toList ++ Text.join ", ".toList names))
            fun _ => Step.andThen (keep context request found) (print context request)

/-- The command. -/
def run (context : Context) (request : FilterRequest) : Step Unit :=
  if !request.directive.isEmpty && request.directiveOption.isSome then
    Step.andThen
      (Step.error
        "Give the directive either as arguments or with --directive, not both".toList)
      fun _ => Step.stop (.exit usageCode)
  else Step.andThen (loadSource context request) (search context request)

end Filter

end TableSearch
