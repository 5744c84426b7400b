import TableSearch.Number.Scan
import TableSearch.Number.Natural
import TableSearch.Instant.Scan
import TableSearch.Control.Token
import TableSearch.Control.Basic

/-! # Reading a directive

Every token of a directive becomes a control, and a row has to satisfy all of them.  A token is read
in every way that fits: as plain text, and as a range of digits, a number, a date, a duration, a
wildcard or a pattern.  A reading that does not fit is left out.

Reading fails only where a pattern has an impossible repetition or a duration an unknown unit.
-/

namespace TableSearch

/-- Why a directive or a term could not be read. -/
inductive DirectiveError where
  /-- A literal has to have some text. -/
  | emptyLiteral
  /-- A pattern cannot be used. -/
  | pattern (problem : PatternError)
  /-- A duration has a unit that is not known. -/
  | unit (problem : UnknownUnit)
deriving DecidableEq, Repr

namespace DirectiveError

/-- The wording of a failure. -/
def message : DirectiveError → String
  | emptyLiteral => "Cannot make an empty literal matcher"
  | pattern problem => problem.message
  | unit problem => problem.message

end DirectiveError

namespace Term

/-- The literal for a text. -/
def ofLiteral (text : Text) : Except DirectiveError Term :=
  if text.isEmpty then .error .emptyLiteral else .ok (.literal text)

/-- The pattern that a text writes. -/
def ofPattern (source : Text) : Except DirectiveError Term :=
  match Pattern.ofText source with
  | .ok pattern => .ok (.regex pattern)
  | .error problem => .error (.pattern problem)

/-- The range between two runs of digits, whichever is the lower. -/
def ofDigits (text low high : Text) : Term :=
  if Text.naturalOrder low high = .gt then .digitRange text high low
  else .digitRange text low high

/-- The range between two numbers, whichever is the lower. -/
def ofNumbers (text : Text) (low high : Double) : Term :=
  if low.isAbove high then .numberRange text high low else .numberRange text low high

/-- Two runs of digits with a dash between them. -/
def readDigitRange? (text : Text) : Option Term :=
  let low := text.takeWhile CharClass.isDecimal
  match text.dropWhile CharClass.isDecimal with
  | '-' :: high =>
    if low.isEmpty || high.isEmpty || !high.all CharClass.isDecimal then none
    else some (ofDigits text low high)
  | _ => none

/-- A number, or two numbers with a dash between them. -/
def readNumberRange? (text : Text) : Option Term :=
  match FoundNumber.scan text with
  | none => none
  | some low =>
    match text.drop low.length with
    | [] => some (ofNumbers text low.low low.high)
    | '-' :: rest =>
      (FoundNumber.scanWhole rest).map fun high => ofNumbers text low.low high.high
    | _ => none

/-- The offsets of the dashes of a text, those nearest to the middle first. -/
def dashes (text : Text) : List Nat :=
  let places := (List.range text.length).filter fun i => text[i]? = some '-'
  let distance (i : Nat) : Nat := ((2 * i : Int) - text.length).natAbs
  places.mergeSort fun i j => distance i ≤ distance j

/-- A date, or two dates with a dash between them. -/
def readInstant? (read : DateReader) (text : Text) : Option Term :=
  match Instant.readWhole? read text with
  | some time => some (.instant time)
  | none =>
    (dashes text).findSome? fun dash => do
      let low ← Instant.readWhole? read (text.take dash)
      let high ← Instant.readWhole? read (text.drop (dash + 1))
      return .instantRange text low high

/-- The duration that a text is as a whole. -/
def readDurationWhole? (text : Text) : Except DirectiveError (Option Duration) :=
  match Duration.readWhole? text with
  | .ok found => .ok found
  | .error problem => .error (.unit problem)

/-- A duration, or two durations around the first dash. -/
def readDuration? (text : Text) : Except DirectiveError (Option Term) :=
  match Text.indexOf? '-' text with
  | some (dash + 1) => do
    let low ← readDurationWhole? (text.take (dash + 1))
    let high ← readDurationWhole? (text.drop (dash + 2))
    match low, high with
    | some low, some high => return some (.durationRange text low high)
    | _, _ => return none
  | _ => do
    let found ← readDurationWhole? text
    return found.map .duration

/-- Parts with stars between them.  The first star may not be the first or the last character. -/
def readWildcard? (text : Text) : Option Term :=
  match Text.indexOf? '*' text with
  | none => none
  | some star =>
    if star = 0 || text.length ≤ star + 1 then none
    else some (.wildcard text ((Text.splitOn '*' text).filter (!·.isEmpty)))

/-- A pattern after a backslash.  A malformed pattern is no reading. -/
def readPattern? : Text → Except DirectiveError (Option Term)
  | '\\' :: c :: rest =>
    match ofPattern (c :: rest) with
    | .ok term => .ok (some term)
    | .error (.pattern .malformed) => .ok none
    | .error problem => .error problem
  | _ => .ok none

/-- All readings of a token, plain text first. -/
def readings (read : DateReader) (text : Text) : Except DirectiveError (List Term) := do
  let literal ← ofLiteral text
  let duration ← readDuration? text
  let pattern ← readPattern? text
  return literal ::
    [readDigitRange? text, readNumberRange? text, readInstant? read text, duration,
      readWildcard? text, pattern].filterMap id

end Term

namespace Control

/-- The control for a token as it stands: its readings, one of which has to match. -/
def readElement (read : DateReader) (text : Text) : Except DirectiveError Control := do
  match ← Term.readings read text with
  | [single] => return .term single
  | several => return .anyOf (several.map .term)

/-- The keyword before the tokens that order rows. -/
def rowSortKeyword : Text := "sort".toList

/-- The keyword before the tokens that order columns. -/
def columnSortKeyword : Text := "columns".toList

/-- The names of a list with commas between them. -/
def splitNames (text : Text) : List Text :=
  (Text.splitOn ',' text).filter (!·.isEmpty)

/-- An ordering by the names of a list, if there are any. -/
def ordering? (make : List Text → Control) (text : Text) : Option Control :=
  let names := splitNames text
  if names.isEmpty then none else some (make names)

/-- The control for a token.  A token with a colon is an ordering, or a search in the columns it
names; the latter is also looked for as it stands.  An ordering without names says nothing. -/
def readToken (read : DateReader) (token : Text) : Except DirectiveError (Option Control) :=
  match Text.indexOf? ':' token with
  | none | some 0 => return some (← readElement read token)
  | some colon => do
    let name := token.take colon
    let rest := token.drop (colon + 1)
    if name = rowSortKeyword then return ordering? .rowSort rest
    else if name = columnSortKeyword then return ordering? .columnSort rest
    else
      let inner ← if rest.isEmpty then pure emptyCell else readElement read rest
      return some (.anyOf [.category name inner, ← readElement read token])

/-- Several controls that a row has to satisfy together. -/
def together : List Control → Control
  | [] => .unfiltered
  | [single] => single
  | several => .allOf several

/-- The control that a directive writes. -/
def parse (read : DateReader) (directive : Text) : Except DirectiveError Control := do
  return together ((← (splitTokens directive).mapM (readToken read)).filterMap id)

end Control

end TableSearch
