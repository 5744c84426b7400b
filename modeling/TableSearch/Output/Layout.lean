import TableSearch.Output.Markup

/-! # Laying out styled text

A `Run` is a text in one style, and a line is a list of runs.  `StyledText.lay` puts the lines of a
styled text into a cell of a given width.
-/

namespace TableSearch

/-- A text in one style. -/
structure Run where
  text : Text
  style : Style
deriving DecidableEq, Repr

namespace Text

/-- The start of a wider text that fills a width, found by halving between two places.  A wide
character that does not fit any more leaves a blank.  Of the characters without a width that follow,
those stay that the halving meets. -/
def startBetween (width first last : Nat) (text : Text) : Text :=
  let middle := (first + last) / 2
  let start : Text := text.take (middle + 1)
  let size := Text.width start
  let isWide := (start.getLast?.map CharClass.width) == some 2
  if size = width + 1 && isWide then start.take middle ++ [' ']
  else if size = width then start
  else if width < size then if middle < last then startBetween width first middle text else start
  else if first < middle then startBetween width middle last text
  else start
termination_by last - first
decreasing_by all_goals omega

/-- A wider text cut to a width. -/
def fit (width : Nat) (text : Text) : Text :=
  if width = 0 then []
  else if text.width = width then text
  else startBetween width 0 text.length text

/-- The lines that all line breaks of a text make; a break at its end begins none. -/
def brokenLines (text : Text) : List Text :=
  let isBreak (c : Char) : Bool :=
    (10 ≤ c.toNat && c.toNat ≤ 13) || (28 ≤ c.toNat && c.toNat ≤ 30) ||
      c.toNat == 0x85 || c.toNat == 0x2028 || c.toNat == 0x2029
  let pieces := (text.foldl (fun (done : List Text × Text) c =>
    if isBreak c then (done.2.reverse :: done.1, []) else (done.1, c :: done.2)) ([], []))
  ((if pieces.2.isEmpty then [] else [pieces.2.reverse]) ++ pieces.1).reverse

end Text

namespace Run

/-- How many columns of the terminal runs fill. -/
def width (runs : List Run) : Nat :=
  total (runs.map (·.text.width))

/-- Runs on top of a style. -/
def overlay (style : Style) (runs : List Run) : List Run :=
  runs.map fun run => { run with style := style.overlay run.style }

/-- The first runs of wider ones. -/
def cutWider (limit : Nat) : List Run → List Run
  | [] => []
  | run :: rest =>
    let size := run.text.width
    if size < limit then run :: cutWider (limit - size) rest
    else [{ run with text := Text.fit limit run.text }]

/-- Runs that are no wider than a limit. -/
def cut (limit : Nat) (runs : List Run) : List Run :=
  if limit < width runs then cutWider limit runs else runs

/-- Runs cut to a width, or filled up to it with blanks. -/
def fill (size : Nat) (runs : List Run) : List Run :=
  if width runs < size then runs ++ [⟨List.replicate (size - width runs) ' ', Style.plain⟩]
  else cut size runs

/-- The text of runs, with the codes of their styles if colors are shown. -/
def paint (colored : Bool) (runs : List Run) : Text :=
  runs.flatMap fun run => if colored then run.style.paint run.text else run.text

end Run

namespace StyledText

/-- How many columns the widest line of a text fills. -/
def width (shown : StyledText) : Nat :=
  ((Text.brokenLines shown.text).map Text.width).foldl max 0

/-- The parts of the ranges of a text that lie between two places. -/
def rangesBetween (shown : StyledText) (start stop : Nat) : List StyledRange :=
  shown.ranges.filterMap fun range =>
    let first : Nat := max range.start.toNat start
    let last : Nat := min range.stop.toNat stop
    if first < last then some ⟨first, last, range.style⟩ else none

/-- The ranges with other places. -/
def moveRanges (move : Nat → Nat) (ranges : List StyledRange) : List StyledRange :=
  ranges.map fun range => ⟨move range.start.toNat, move range.stop.toNat, range.style⟩

/-- The part of a text between two places, with the parts of its ranges. -/
def slice (shown : StyledText) (start stop : Nat) : StyledText :=
  ⟨(shown.text.take stop).drop start,
    moveRanges (· - start) (shown.rangesBetween start stop)⟩

/-- The lines of a text from a place on, with the given lengths. -/
def slices (shown : StyledText) (start : Nat) : List Nat → List StyledText
  | [] => []
  | length :: rest =>
    shown.slice start (start + length) :: shown.slices (start + length + 1) rest

/-- The lines of a text.  A single line keeps also the ranges without a character. -/
def lines (shown : StyledText) : List StyledText :=
  match shown.text.splitOn '\n' with
  | [_] => [shown]
  | pieces => shown.slices 0 (pieces.map List.length)

/-- How wide the steps of tabulators are. -/
def tabWidth : Nat := 8

/-- For each character of a text how many characters it becomes when tabulators are blanks, from a
column on. -/
def expansion (column : Nat) : Text → List Nat
  | [] => []
  | c :: rest =>
    if c = '\t' then
      let count := tabWidth - column % tabWidth
      count :: expansion (column + count) rest
    else 1 :: expansion (column + CharClass.width c) rest

/-- The places after the tabulators of a text, and both of its ends. -/
def tabStops (text : Text) : List Nat :=
  0 :: (text.zipIdx.filterMap fun (c, place) => if c = '\t' then some (place + 1) else none) ++
    [text.length]

/-- The text with blanks in place of tabulators, after each of which its ranges begin anew. -/
def expandTabs (shown : StyledText) : StyledText :=
  if shown.text.contains '\t' then
    let sizes := expansion 0 shown.text
    let stops := tabStops shown.text
    ⟨(shown.text.zip sizes).flatMap fun (c, size) =>
        if c = '\t' then List.replicate size ' ' else [c],
      moveRanges (fun place => total (sizes.take place))
        ((stops.zip stops.tail).flatMap fun (start, stop) => shown.rangesBetween start stop)⟩
  else shown

/-- The text cut at a place; nothing changes if it is no longer. -/
def cut (shown : StyledText) (length : Nat) : StyledText :=
  if shown.text.length ≤ length then shown
  else
    ⟨shown.text.take length, shown.ranges.filterMap fun range =>
      if range.start < (length : Int) then some { range with stop := min range.stop length }
      else none⟩

/-- The text without the blanks at its end that are beyond a length. -/
def dropEndBlanks (shown : StyledText) (length : Nat) : StyledText :=
  let blanks := (shown.text.reverse.takeWhile CharClass.isBlank).length
  shown.cut (shown.text.length - min blanks (shown.text.length - length))

/-- The mark of a text that has been cut. -/
def ellipsis : Char := '…'

/-- The text with other characters; the ranges stay inside it. -/
def replaceText (shown : StyledText) (text : Text) : StyledText :=
  { shown.cut text.length with text }

/-- A line that fills a width exactly: filled up with blanks, or cut with a mark at its end. -/
def fill (shown : StyledText) (width : Nat) : StyledText :=
  let size := Text.width shown.text
  if width < size then shown.replaceText (Text.fit (width - 1) shown.text ++ [ellipsis])
  else { shown with text := shown.text ++ List.replicate (width - size) ' ' }

/-- The text as it is printed without styles: with blanks in place of tabulators. -/
def printed (shown : StyledText) : Text :=
  Text.join ['\n'] (shown.lines.map fun line => line.expandTabs.text)

/-! ## Runs -/

/-- The places at which a range begins or ends, in order. -/
def marks (shown : StyledText) : List Nat :=
  let places := shown.ranges.flatMap fun range => [range.start.toNat, range.stop.toNat]
  ((0 :: shown.text.length :: places).mergeSort fun a b => a ≤ b).eraseDups

/-- The run between two marks: the ranges around it apply in their order. -/
def runBetween (styleOf : Text → Style) (shown : StyledText) (start stop : Nat) : Run :=
  let around := shown.ranges.filter fun range =>
    range.start ≤ (start : Int) && (stop : Int) ≤ range.stop
  ⟨(shown.text.take stop).drop start,
    around.foldl (fun style range => style.overlay (styleOf range.style)) Style.plain⟩

/-- The runs of a line. -/
def runs (styleOf : Text → Style) (shown : StyledText) : List Run :=
  let marks := shown.marks
  (marks.zip (marks.drop 1)).map fun (start, stop) => shown.runBetween styleOf start stop

/-- The lines of a text in a cell of a width. -/
def lay (styleOf : Text → Style) (shown : StyledText) (width : Nat) : List (List Run) :=
  shown.lines.map fun line =>
    Run.fill width
      (runs styleOf (((line.expandTabs).dropEndBlanks width).fill width))

end StyledText

end TableSearch
