import TableSearch.CommandLine.Session
import TableSearch.Control.Printer
import TableSearch.Output.Outline

/-! # Explaining a directive

The tree of a control with a line for each node, its written form, and the order it asks for.
-/

namespace TableSearch

namespace Explain

/-- A node name in its style. -/
def nodeName (name : String) : Text :=
  Step.styled "control.node" name.toList

/-- A text in the style of values. -/
def value (text : Text) : Text :=
  Step.styled "control.value" text

/-- Names in the style of orders. -/
def names (tokens : List Text) : Text :=
  Text.join ", ".toList tokens

/-- The markup that describes a term. -/
def describeTerm (term : Term) : Text :=
  let esc := Markup.escape
  let between (low high : Text) : Text := value (low ++ " to ".toList ++ high)
  match term with
  | .literal _ => nodeName "Literal" ++ ' ' :: value (esc term.text)
  | .wildcard _ parts =>
    nodeName "WildcardSequence" ++ ' ' ::
      value (esc (Text.join " → ".toList (parts.map Text.quoted)))
  | .regex pattern => nodeName "Regex" ++ ' ' :: value ('/' :: esc pattern.source ++ ['/'])
  | .digitRange _ low high => nodeName "IntRange" ++ ' ' :: between low high
  | .numberRange _ low high =>
    nodeName "FloatRange" ++ ' ' :: between low.briefText high.briefText
  | .instant time =>
    let fields := (DateField.all.filter time.has).map DateField.name
    nodeName "DatePoint" ++ ' ' :: value (esc time.text) ++ " (".toList ++ names fields ++ [')']
  | .instantRange _ low high =>
    nodeName "DateRange" ++ ' ' :: between (esc low.text) (esc high.text)
  | .duration length =>
    nodeName "DurationPoint" ++ ' ' :: value (esc length.text) ++ " (".toList ++
      length.seconds.briefText ++ ['s', ')']
  | .durationRange _ low high =>
    nodeName "DurationRange" ++ ' ' :: between (esc low.text) (esc high.text)
  | .unknown => nodeName "Unknown" ++ ' ' :: value (esc term.text)

/-- The markup that describes a control, without its parts. -/
def describe : Control → Text
  | .term term => describeTerm term
  | .emptyCell => nodeName "Empty" ++ " (empty cells)".toList
  | .predicate column test =>
    nodeName "Predicate" ++ ' ' :: value (Markup.escape (Control.text (.predicate column test)))
  | .category name _ => nodeName "Category" ++ " column ".toList ++ value (Markup.escape name)
  | .anyOf children =>
    nodeName "Or" ++ " (any of ".toList ++ Text.ofNat children.length ++ [')']
  | .allOf _ => nodeName "AllOf" ++ " (every term must match)".toList
  | .rowSort tokens =>
    nodeName "RowSort" ++ ' ' :: Step.styled "control.sort" (names (tokens.map Markup.escape))
  | .columnSort tokens =>
    nodeName "ColumnSort" ++ ' ' :: Step.styled "control.sort" (names (tokens.map Markup.escape))
  | .unfiltered => nodeName "Default" ++ " (no filter, no sort)".toList

mutual

/-- The tree of a control. -/
def outline (control : Control) : Except MarkupError Outline := do
  let label ← (Markup.read (describe control)).map StyledText.printed
  let children ←
    match control with
    | .anyOf children | .allOf children => outlines children
    | .category _ inner => (outline inner).map ([·])
    | _ => pure []
  return .node label children

/-- The trees of several controls. -/
def outlines : List Control → Except MarkupError (List Outline)
  | [] => .ok []
  | control :: rest => do return (← outline control) :: (← outlines rest)

end

/-- The lines that explain a control. -/
def run (control : Control) : Step Unit :=
  let order (title : String) (tokens : List Text) : Step Unit :=
    if tokens.isEmpty then Step.done ()
    else
      Step.print (title.toList ++
        Step.styled "control.sort" (Markup.escape (Text.join ", ".toList tokens)))
  Step.all
    [Step.andThen (Step.ofExcept .markup (outline control)) fun tree => Step.write tree.render,
      Step.print ("Canonical: ".toList ++ value (Markup.escape control.text)),
      Step.print ("Filters rows: ".toList ++ (if control.isSearch then "yes" else "no").toList),
      order "Row sort: " control.rowSorting,
      order "Column order: " control.columnSorting]

end Explain

end TableSearch
