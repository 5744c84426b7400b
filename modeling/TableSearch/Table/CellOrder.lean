import TableSearch.Number.Scan
import TableSearch.Number.Natural

/-! # The order of cells

Cells of a column are ordered by their texts.  A cell without text stands last in both directions.
Texts that begin with a number are ordered by it, and then by what follows; all others in natural
order.
-/

namespace TableSearch

namespace CellOrder

/-- An order turned around if asked. -/
def directed (reverse : Bool) (answer : Ordering) : Ordering :=
  if reverse then answer.swap else answer

/-- The texts behind two numbers, without a dash that both begin with. -/
def dropSharedDash : Text → Text → Text × Text
  | '-' :: rest₁, '-' :: rest₂ => (rest₁, rest₂)
  | rest₁, rest₂ => (rest₁, rest₂)

/-- Whether a text begins with a dash. -/
def isDashed (text : Text) : Bool :=
  text.head? == some '-'

/-- The order of two texts; the number bounds how many numbers are passed. -/
def orderFrom (reverse : Bool) : Nat → Text → Text → Ordering
  | 0, _, _ => .eq
  | rounds + 1, text₁, text₂ =>
    if text₁.isEmpty then if text₂.isEmpty then .eq else .gt
    else if text₂.isEmpty then .lt
    else if isDashed text₁ && !isDashed text₂ then directed reverse .lt
    else if isDashed text₂ && !isDashed text₁ then directed reverse .gt
    else if text₁ = text₂ then .eq
    else
      match FoundNumber.scan text₁, FoundNumber.scan text₂ with
      | some number₁, some number₂ =>
        match Double.order number₁.low number₂.low with
        | .eq =>
          match text₁.drop number₁.length, text₂.drop number₂.length with
          | [], [] => .eq
          | [], _ :: _ => directed reverse .lt
          | _ :: _, [] => directed reverse .gt
          | rest₁, rest₂ =>
            let (rest₁, rest₂) := dropSharedDash rest₁ rest₂
            orderFrom reverse rounds rest₁ rest₂
        | answer => directed reverse answer
      | _, _ => directed reverse (Text.naturalOrder text₁ text₂)

/-- The order of two cell texts. -/
def order (reverse : Bool) (text₁ text₂ : Text) : Ordering :=
  orderFrom reverse (text₁.length + 1) text₁ text₂

/-- The order of two cells that may be missing. -/
def orderCells (reverse : Bool) : Option Text → Option Text → Ordering
  | none, none => .eq
  | none, some _ => .gt
  | some _, none => .lt
  | some text₁, some text₂ => order reverse text₁ text₂

end CellOrder

end TableSearch
