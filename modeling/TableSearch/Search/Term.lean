import TableSearch.Pattern.Matcher
import TableSearch.Number.Scan
import TableSearch.Number.Natural
import TableSearch.Search.Basic

/-! # Looking for a term in a cell

`Term.find` returns the spans of a cell text that a term matches.
-/

namespace TableSearch

namespace Term

/-! ## Literals and wildcards -/

/-- Where the first occurrence of a list starts at or after an offset; the list to search begins at
that offset. -/
def occurrence? (needle : List Text) (offset : Nat) : List Text → Option Nat
  | [] => if needle.isEmpty then some offset else none
  | unit :: rest =>
    if needle.isPrefixOf (unit :: rest) then some offset else occurrence? needle (offset + 1) rest

/-- The successive occurrences of a list, which has at least one unit. -/
def occurrences (needle : List Text) (units : List Text) (offset : Nat) : Nat → List Span
  | 0 => []
  | rounds + 1 =>
    match occurrence? needle offset (units.drop offset) with
    | none => []
    | some start =>
      ⟨start, start + needle.length⟩ :: occurrences needle units (start + needle.length) rounds

/-- Every occurrence of a text in another one, in any case. -/
def findLiteral (needle text : Text) : SpanSet :=
  .ofList (occurrences needle.fold text.fold 0 (text.length + 1))

/-- Where several lists occur one after another, the first of them at or after an offset. -/
def chain? (units : List Text) (offset : Nat) : List (List Text) → Option Span
  | [] => none
  | part :: parts =>
    match occurrence? part offset (units.drop offset) with
    | none => none
    | some start =>
      match parts with
      | [] => some ⟨start, start + part.length⟩
      | next :: rest =>
        (chain? units (start + part.length) (next :: rest)).map fun later => ⟨start, later.stop⟩

/-- The successive chains of several lists. -/
def chains (parts : List (List Text)) (units : List Text) (offset : Nat) : Nat → List Span
  | 0 => []
  | rounds + 1 =>
    match chain? units offset parts with
    | none => []
    | some span => span :: chains parts units span.stop rounds

/-- Every run of text from the first of several parts to the last, in any case.  Without parts the
whole text matches. -/
def findWildcard (parts : List Text) (text : Text) : SpanSet :=
  match parts.filter (!·.isEmpty) with
  | [] => .ofList [⟨0, text.length⟩]
  | pieces => .ofList (chains (pieces.map Text.fold) text.fold 0 (text.length + 1))

/-! ## Patterns -/

/-- Every match of a pattern that is not empty. -/
def findPattern (pattern : Pattern) (text : Text) : SpanSet :=
  .ofList ((pattern.node.findAll text).filter fun span => span.start < span.stop)

/-! ## Digits and numbers -/

/-- Whether a run of digits lies between two others: by length, and at an equal length by code
points. -/
def digitsWithin (low high digits : Text) : Bool :=
  low.length ≤ digits.length && digits.length ≤ high.length
    && !(digits.length == low.length && Text.order digits low == .lt)
    && !(digits.length == high.length && Text.order digits high == .gt)

/-- The maximal runs of ASCII digits that lie between two others; the text begins at an offset. -/
def digitRuns (low high : Text) (offset : Nat) (text : Text) : List Span :=
  match text with
  | [] => []
  | c :: rest =>
    if isDigit c then
      let run := c :: rest.takeWhile isDigit
      let later := digitRuns low high (offset + run.length) (rest.dropWhile isDigit)
      if digitsWithin low high run then ⟨offset, offset + run.length⟩ :: later else later
    else digitRuns low high (offset + 1) rest
termination_by text.length
decreasing_by
  · have := (List.dropWhile_sublist (l := rest) isDigit).length_le
    simp only [List.length_cons]
    omega
  · simp

/-- Every maximal run of digits between two others. -/
def findDigits (low high text : Text) : SpanSet :=
  .ofList (digitRuns low high 0 text)

/-- Whether a found number and a range share more than an end; a range of one value may share just
that. -/
def overlaps (low high : Double) (found : FoundNumber) : Bool :=
  let point := Double.order low high == .eq
  let reaches (answer wanted : Ordering) : Bool := answer == wanted || (answer == .eq && point)
  reaches (Double.order found.high low) .gt && reaches (Double.order found.low high) .lt

/-- The numbers of a text from left to right that a range overlaps; the text begins at an offset. -/
def numberRuns (low high : Double) (offset : Nat) (text : Text) : Nat → List Span
  | 0 => []
  | rounds + 1 =>
    match text with
    | [] => []
    | _ :: rest =>
      match FoundNumber.scan text with
      | none => numberRuns low high (offset + 1) rest rounds
      | some found =>
        let later := numberRuns low high (offset + found.length) (text.drop found.length) rounds
        if overlaps low high found then ⟨offset, offset + found.length⟩ :: later else later

/-- Every number that a range overlaps. -/
def findNumbers (low high : Double) (text : Text) : SpanSet :=
  .ofList (numberRuns low high 0 text (text.length + 1))

/-! ## Dates and durations -/

/-- The accepted instants of a text from left to right.  An instant starts at a letter or digit that
none stands before. -/
def instantRuns (read : DateReader) (accepts : Instant → Bool) (offset : Nat)
    (previous : Option Char) (text : Text) : Nat → List Span
  | 0 => []
  | rounds + 1 =>
    match text with
    | [] => []
    | c :: rest =>
      let onward : Unit → List Span := fun _ =>
        instantRuns read accepts (offset + 1) (some c) rest rounds
      if CharClass.isAlphanumeric c && !previous.any CharClass.isAlphanumeric then
        match (Instant.scan? read text).filter accepts with
        | some time =>
          ⟨offset, offset + time.text.length⟩ ::
            instantRuns read accepts (offset + time.text.length) time.text.getLast?
              (text.drop time.text.length) rounds
        | none => onward ()
      else onward ()

/-- Every accepted instant. -/
def findInstants (read : DateReader) (accepts : Instant → Bool) (text : Text) : SpanSet :=
  .ofList (instantRuns read accepts 0 none text (text.length + 1))

/-- Whether an instant agrees with another one in every field of the other. -/
def isAt (time found : Instant) : Bool :=
  time.isComparable found && time.order found == .eq

/-- Whether an instant lies between two others, each taken at its own precision. -/
def isBetween (low high found : Instant) : Bool :=
  low.isComparable found && high.isComparable found
    && low.order found != .gt && high.order found != .lt

/-- The whole text, if it is an accepted duration with blanks around it. -/
def findDuration (accepts : Duration → Bool) (text : Text) : Except SearchError SpanSet :=
  match Duration.readWhole? text.trim with
  | .error problem => .error (.unit problem)
  | .ok found => .ok (if found.any accepts then .ofList [⟨0, text.length⟩] else .empty)

/-! ## All terms -/

/-- The spans of a cell text that a term matches. -/
def find (read : DateReader) (text : Text) : Term → Except SearchError SpanSet
  | literal needle => .ok (findLiteral needle text)
  | wildcard _ parts => .ok (findWildcard parts text)
  | regex pattern => .ok (findPattern pattern text)
  | digitRange _ low high => .ok (findDigits low high text)
  | numberRange _ low high => .ok (findNumbers low high text)
  | instant time => .ok (findInstants read (isAt time) text)
  | instantRange _ low high => .ok (findInstants read (isBetween low high) text)
  | duration length => findDuration (fun found => length.order found == .eq) text
  | durationRange _ low high =>
    findDuration (fun found => low.order found != .gt && high.order found != .lt) text
  | unknown => .error .unknownTerm

end Term

end TableSearch
