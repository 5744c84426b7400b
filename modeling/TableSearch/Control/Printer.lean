import TableSearch.Text.Class
import TableSearch.Control.Basic

/-! # Writing a control

The directive that a control is written as.  A token that holds a blank is written between double
quotes.  Of the children of a combination that are written alike only the first is kept, and a
control without a written form is left out.
-/

namespace TableSearch

namespace Text

/-- A token between double quotes if it holds a blank. -/
def quoteToken (text : Text) : Text :=
  if text.any CharClass.isBlank then '"' :: text ++ ['"'] else text

/-- A token without a double quote at its start and one at its end. -/
def unquoteToken (text : Text) : Text :=
  if 2 ≤ text.length && text.head? == some '"' && text.getLast? == some '"' then
    (text.drop 1).dropLast
  else text

/-- The first occurrences of the texts of a list, empty ones left out. -/
def firstOccurrences (seen : List Text) : List Text → List Text
  | [] => seen.reverse
  | text :: rest =>
    if text.isEmpty || seen.contains text then firstOccurrences seen rest
    else firstOccurrences (text :: seen) rest

end Text

namespace Term

/-- The written form of a term. -/
def text : Term → Text
  | literal text => text.quoteToken
  | wildcard text _ => text.quoteToken
  | regex pattern => Text.quoteToken ('\\' :: pattern.source)
  | digitRange text _ _ => text
  | numberRange text _ _ => text
  | instant time => time.text.quoteToken
  | instantRange text _ _ => text.quoteToken
  | duration length => length.text.quoteToken
  | durationRange text _ _ => text.quoteToken
  | unknown => "<unknown>".toList

end Term

namespace Control

mutual

/-- The written form of a control. -/
def text : Control → Text
  | term t => t.text
  | emptyCell => []
  | predicate _ _ => []
  | category name inner => Text.quoteToken (name ++ ':' :: (text inner).unquoteToken)
  | anyOf children => Text.join [' '] (Text.firstOccurrences [] (texts children))
  | allOf children => Text.join [' '] (Text.firstOccurrences [] (texts children))
  | rowSort tokens => Text.quoteToken ("sort:".toList ++ Text.join [','] tokens)
  | columnSort tokens => Text.quoteToken ("columns:".toList ++ Text.join [','] tokens)
  | unfiltered => []

/-- The written forms of several controls. -/
def texts : List Control → List Text
  | [] => []
  | child :: rest => text child :: texts rest

end

end Control

end TableSearch
