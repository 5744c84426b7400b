import TableSearch.Text.Case

/-! # Tokens of a directive

A directive is cut into tokens at blanks.  A token that begins with a double quote runs to the next
one and may hold blanks; a quote anywhere else is plain text.  Tokens are in lower case.
-/

namespace TableSearch

/-- A token of a directive as it was typed. -/
inductive Token where
  /-- The text behind an opening quote, up to the next quote or the end. -/
  | quoted (inside : Text)
  /-- A run of characters without blanks that does not begin with a quote. -/
  | word (text : Text)
deriving DecidableEq, Repr

namespace Token

/-- The text of a token in lower case. -/
def text : Token → Text
  | quoted inside => inside.lower
  | word text => text.lower

/-- The tokens of a directive from left to right. -/
def scan (directive : Text) : List Token :=
  match directive with
  | [] => []
  | '"' :: rest =>
    quoted (rest.takeWhile (· ≠ '"')) :: scan ((rest.dropWhile (· ≠ '"')).drop 1)
  | c :: rest =>
    if CharClass.isBlank c then scan rest
    else
      word (c :: rest.takeWhile (!CharClass.isBlank ·)) ::
        scan (rest.dropWhile (!CharClass.isBlank ·))
termination_by directive.length
decreasing_by
  · have := (List.dropWhile_sublist (l := rest) (· ≠ '"')).length_le
    simp only [List.length_drop, List.length_cons]
    omega
  · simp
  · have := (List.dropWhile_sublist (l := rest) (!CharClass.isBlank ·)).length_le
    simp only [List.length_cons]
    omega

end Token

/-- The tokens of a directive in lower case, empty ones left out. -/
def splitTokens (directive : Text) : List Text :=
  ((Token.scan directive).map Token.text).filter (!·.isEmpty)

end TableSearch
