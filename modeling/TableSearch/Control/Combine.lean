import TableSearch.Control.Basic
import TableSearch.Control.ColumnName

/-! # Combining controls

Conjunction and disjunction of controls, and the change of a control by a click on the head of a
column.
-/

namespace TableSearch

namespace Control

/-- The controls that a conjunction with this one consists of. -/
def conjuncts : Control → List Control
  | allOf children => children
  | unfiltered => []
  | control => [control]

/-- A control that shows a row only when every one of several controls shows it. -/
def conjoin (controls : List Control) : Control :=
  match controls.flatMap conjuncts with
  | [] => .unfiltered
  | [single] => single
  | several => .allOf several

/-- The controls that a disjunction with this one consists of. -/
def disjuncts : Control → List Control
  | anyOf children => children
  | unfiltered => []
  | control => [control]

/-- A control that shows a row when one of several controls shows it.  One that filters nothing
makes the others pointless. -/
def disjoin (controls : List Control) : Control :=
  let children := controls.flatMap disjuncts
  if controls.contains .unfiltered && children.any isSearch then .unfiltered
  else
    match children with
    | [] => .unfiltered
    | [single] => single
    | several => .anyOf several

/-- Tokens with those turned around that name a column. -/
def flipTokens (column : Text) (tokens : List Text) : List Text :=
  tokens.map fun token => if ColumnName.isNamedBy token column then ColumnName.flip token else token

mutual

/-- A control with the order by a column turned around.  If nothing orders by it, the column becomes
the first to order by, unless the control is a part of another one. -/
def toggleSort (column : Text) (root : Bool) : Control → Control
  | unfiltered => .rowSort [ColumnName.sortToken column]
  | rowSort tokens =>
    if tokens.any (ColumnName.isNamedBy · column) then .rowSort (flipTokens column tokens)
    else if root then .rowSort (ColumnName.sortToken column :: tokens)
    else .rowSort tokens
  | anyOf children =>
    let toggled := toggleSorts column children
    if toggled ≠ children then .anyOf toggled
    else if root then conjoin [.rowSort [ColumnName.sortToken column], .anyOf children]
    else .anyOf children
  | allOf children =>
    let toggled := toggleSorts column children
    if toggled ≠ children then .allOf toggled
    else if root then conjoin [.rowSort [ColumnName.sortToken column], .allOf children]
    else .allOf children
  | control =>
    if root then conjoin [.rowSort [ColumnName.sortToken column], control] else control

/-- Controls that are parts of another one, with the order by a column turned around. -/
def toggleSorts (column : Text) : List Control → List Control
  | [] => []
  | child :: rest => toggleSort column false child :: toggleSorts column rest

end

end Control

end TableSearch
