import TableSearch.Number.Double
import TableSearch.Output.Layout

/-! # Grids

A grid is a table with lines around its cells and a heavy head.  `Grid.render` makes every column as
wide as its widest cell, and narrower where the grid would be wider than it may be.  What still does
not fit is cut off.
-/

namespace TableSearch

/-- A table of styled texts under a head. -/
structure Grid where
  head : List StyledText
  rows : List (List StyledText)

namespace Grid

/-- A grid of columns that each have a cell in the head and as many cells below it as there are
rows. -/
def ofColumns (columns : List (StyledText × List StyledText)) (rows : Nat) : Grid :=
  ⟨columns.map Prod.fst,
    (List.range rows).map fun row => columns.filterMap fun column => column.2[row]?⟩

/-! ## Widths -/

/-- The blanks on each side of a cell. -/
def padding : Nat := 1

/-- How wide a cell is, inside a limit. -/
def cellWidth (limit : Nat) (cell : StyledText) : Nat :=
  min (cell.width + 2 * padding) limit

/-- The cells of each column, the head first. -/
def columns (grid : Grid) : List (List StyledText) :=
  (List.range grid.head.length).map fun place =>
    (grid.head :: grid.rows).filterMap (·[place]?)

/-- How wide the widest cell of a column is, inside a limit. -/
def columnWidth (limit : Nat) (cells : List StyledText) : Nat :=
  (cells.map (cellWidth limit)).foldl max 0

/-- Widths that are smaller by an excess in all, which is spread evenly. -/
def reduce (excess : Nat) : List Nat → List Nat
  | [] => []
  | width :: rest =>
    let share := min width (Double.roundDiv excess (rest.length + 1))
    (width - share) :: reduce (excess - share) rest

/-- How wide the columns are if the grid may have a width. -/
def widths (grid : Grid) (limit : Nat) : List Nat :=
  let limit := limit - (grid.head.length + 1)
  let wanted := grid.columns.map fun cells => max 1 (columnWidth limit cells)
  if limit < total wanted then
    List.zipWith columnWidth (reduce (total wanted - limit) wanted) grid.columns
  else wanted

/-! ## Lines -/

/-- The lines of a cell with blanks on both sides; there are none where nothing else fits. -/
def cellLines (styleOf : Text → Style) (width : Nat) (cell : StyledText) : List (List Run) :=
  let blank : Run := ⟨List.replicate padding ' ', Style.plain⟩
  if width ≤ 2 * padding then []
  else (cell.lay styleOf (width - 2 * padding)).map fun runs =>
    Run.fill width (blank :: runs ++ [blank])

/-- The corners and lines of a grid: left end, line, crossing and right end. -/
structure Rule where
  left : Char
  line : Char
  crossing : Char
  right : Char

/-- The line above the head. -/
def top : Rule := ⟨'┏', '━', '┳', '┓'⟩

/-- The line below the head. -/
def belowHead : Rule := ⟨'┡', '━', '╇', '┩'⟩

/-- The line below the last row. -/
def bottom : Rule := ⟨'└', '─', '┴', '┘'⟩

/-- A horizontal line. -/
def ruleLine (rule : Rule) (widths : List Nat) : List Run :=
  [⟨rule.left :: Text.join [rule.crossing] (widths.map (List.replicate · rule.line)) ++
    [rule.right], Style.plain⟩]

/-- The lines of the cells of a row, as many for each as the highest of them has.  The cells of the
head stand at the bottom and wear its style.  A row in which no cell has room is a line of blanks.
-/
def rowCells (styleOf : Text → Style) (isHead : Bool) (widths : List Nat)
    (cells : List StyledText) : List (List (List Run)) :=
  let headStyle := if isHead then styleOf "column.header".toList else Style.plain
  let laid := (widths.zip cells).map fun (width, cell) =>
    (width, (cellLines styleOf width cell).map (Run.overlay headStyle))
  let height := (laid.map (·.2.length)).foldl max 0
  laid.map fun (width, lines) =>
    let blanks : Text := List.replicate width ' '
    let missing : List (List Run) := List.replicate (height - lines.length) [⟨blanks, headStyle⟩]
    if height = 0 then [[⟨blanks, Style.plain⟩]]
    else if isHead then missing ++ lines else lines ++ missing

/-- The lines of a row. -/
def row (styleOf : Text → Style) (isHead : Bool) (widths : List Nat) (cells : List StyledText) :
    List (List Run) :=
  let bar : Run := ⟨if isHead then ['┃'] else ['│'], Style.plain⟩
  let laid := rowCells styleOf isHead widths cells
  (List.range ((laid.map List.length).foldl max 0)).map fun line =>
    bar :: laid.flatMap fun lines => lines[line]?.getD [] ++ [bar]

/-- The lines of a grid. -/
def lines (styleOf : Text → Style) (limit : Nat) (grid : Grid) : List (List Run) :=
  if grid.head.isEmpty then [[]]
  else
    let widths := grid.widths limit
    ruleLine top widths :: row styleOf true widths grid.head ++
      ruleLine belowHead widths ::
      grid.rows.flatMap (row styleOf false widths) ++ [ruleLine bottom widths]

/-- The text of a grid whose lines are cut at a width. -/
def render (styleOf : Text → Style) (colored : Bool) (limit : Nat) (grid : Grid) : Text :=
  (grid.lines styleOf limit).flatMap fun line =>
    Run.paint colored (Run.cut limit line) ++ ['\n']

end Grid

end TableSearch
