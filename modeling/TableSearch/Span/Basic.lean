import TableSearch.Text.Basic

/-! # Spans and span sets

A span is a half-open range of offsets in a text.  A span set is a sorted list of spans in which
overlapping spans have been merged; spans that only touch stay apart, and an empty span stays as
long as it does not lie inside another one.
-/

namespace TableSearch

/-- The offsets from `start` up to, but not including, `stop`. -/
structure Span where
  start : Nat
  stop : Nat
deriving DecidableEq, Repr

namespace Span

/-- The order of spans by start, then by end. -/
def precedes (s t : Span) : Bool :=
  s.start < t.start || (s.start == t.start && s.stop < t.stop)

/-- The number of offsets. -/
def length (s : Span) : Nat :=
  s.stop - s.start

end Span

/-- Why a span was refused: it starts below zero or ends before it starts. -/
structure InvalidSpan where
  start : Int
  stop : Int
deriving DecidableEq, Repr

namespace InvalidSpan

/-- The wording of the refusal. -/
def message (refused : InvalidSpan) : String :=
  "Invalid span: [" ++ (Text.ofInt refused.start).toString ++ ", " ++
    (Text.ofInt refused.stop).toString ++ ")"

end InvalidSpan

/-- A set of spans, as the list that a reader goes through from left to right. -/
structure SpanSet where
  spans : List Span
deriving DecidableEq, Repr

namespace SpanSet

/-- The set without spans. -/
def empty : SpanSet := ⟨[]⟩

/-- A span put before the spans that follow it, swallowing those that start inside it. -/
def absorb (s : Span) : List Span → List Span
  | [] => [s]
  | t :: rest =>
    if t.start < s.stop then absorb ⟨s.start, max s.stop t.stop⟩ rest
    else if t = s then t :: rest
    else s :: t :: rest

/-- The set with one more span: it is merged with the span to its left, if that one reaches into
it, and then with the spans to its right that start inside it. -/
def insert (set : SpanSet) (s : Span) : SpanSet :=
  let before := set.spans.takeWhile (·.precedes s)
  let after := set.spans.dropWhile (·.precedes s)
  match before.getLast? with
  | some left =>
    if s.start < left.stop then
      ⟨before.dropLast ++ absorb ⟨left.start, max s.stop left.stop⟩ after⟩
    else ⟨before ++ absorb s after⟩
  | none => ⟨absorb s after⟩

/-- The union of two sets. -/
def union (set other : SpanSet) : SpanSet :=
  other.spans.foldl insert set

/-- The set of the given spans. -/
def ofList (spans : List Span) : SpanSet :=
  spans.foldl insert empty

/-- The set with one more span, refused unless `0 ≤ start ≤ stop`. -/
def add? (set : SpanSet) (start stop : Int) : Except InvalidSpan SpanSet :=
  if start < 0 || stop < start then .error ⟨start, stop⟩
  else .ok (set.insert ⟨start.toNat, stop.toNat⟩)

/-- The set with more spans, up to the first refused one; that one ends the run. -/
def addAll (set : SpanSet) : List (Int × Int) → SpanSet × Option InvalidSpan
  | [] => (set, none)
  | (start, stop) :: rest =>
    match set.add? start stop with
    | .ok larger => larger.addAll rest
    | .error refused => (set, some refused)

/-- The number of spans. -/
def size (set : SpanSet) : Nat :=
  set.spans.length

/-- Whether there are no spans. -/
def isEmpty (set : SpanSet) : Bool :=
  set.spans.isEmpty

/-- Where the earliest span starts. -/
def firstStart? (set : SpanSet) : Option Nat :=
  set.spans.head?.map (·.start)

/-- The written form: the spans as half-open intervals. -/
def text (set : SpanSet) : Text :=
  "SpanSet(".toList ++
    Text.join ", ".toList (set.spans.map fun s =>
      '[' :: Text.ofNat s.start ++ ", ".toList ++ Text.ofNat s.stop ++ [')']) ++ [')']

end SpanSet

end TableSearch
