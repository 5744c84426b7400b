import TableSearch.Text.Basic

/-! # Positions

The line and the column of an offset, both counted from 1.
-/

namespace TableSearch

namespace Text

/-- The line of an offset. -/
def lineAt (text : Text) (offset : Nat) : Nat :=
  ((text.take offset).filter (· == '\n')).length + 1

/-- The column of an offset in its line. -/
def columnAt (text : Text) (offset : Nat) : Nat :=
  ((text.take offset).reverse.takeWhile (· ≠ '\n')).length + 1

end Text

end TableSearch
