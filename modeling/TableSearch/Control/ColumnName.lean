import TableSearch.Text.Case

/-! # Column names

A column is named by the beginning of its name.  Letter case does not count, and blanks inside the
name may be left out.  A token of an ordering may carry a sign that gives the direction.
-/

namespace TableSearch

/-- A direction in which rows can be ordered. -/
inductive Direction where
  | ascending
  | descending
deriving DecidableEq, Repr

namespace ColumnName

/-- Whether two characters are the same letter in some case. -/
def sameLetter (c d : Char) : Bool :=
  c == d || CharCase.lowerForm c == CharCase.lowerForm d

/-- Whether a column name starts with a text. -/
def startsWith : Text → Text → Bool
  | [], _ => true
  | _ :: _, [] => false
  | c :: typed, d :: name =>
    if sameLetter c d then startsWith typed name
    else if CharClass.isBlank d && !CharClass.isBlank c then startsWith (c :: typed) name
    else false

/-- The direction in which a token orders a column, if it names the column.  A sign is a part of the
name if the name has it. -/
def direction? (token name : Text) : Option Direction :=
  match token with
  | [] => none
  | c :: rest =>
    if startsWith token name then some .ascending
    else if rest.isEmpty || !startsWith rest name then none
    else if c = '-' then some .descending
    else if c = '+' then some .ascending
    else none

/-- Whether a token names a column. -/
def isNamedBy (token name : Text) : Bool :=
  (direction? token name).isSome

/-- The token that names a column in an ordering. -/
def sortToken (name : Text) : Text :=
  name.lower.filter (· ≠ ' ')

/-- A token with the direction turned around. -/
def flip : Text → Text
  | '-' :: rest => rest
  | '+' :: rest => '-' :: rest
  | token => '-' :: token

end ColumnName

end TableSearch
