import TableSearch.Number.Double

/-! # Instants

A date or a time of day as it was typed: only the fields that the text gives are set.  Two instants
are compared over the fields of the first, from the year down to the second.

A `Resolution` is what a reading of a text says.  A reading fills in the fields that the text leaves
open, so it is made twice, from two different times: `Instant.ofResolution?` keeps the fields in
which both agree, together with the text.
-/

namespace TableSearch

/-- The fields of an instant. -/
inductive DateField where
  | year
  | month
  | day
  | hour
  | minute
  | second
deriving DecidableEq, Repr

namespace DateField

/-- The fields from the most to the least significant. -/
def all : List DateField := [year, month, day, hour, minute, second]

/-- The name of a field. -/
def name : DateField → Text
  | year => "year".toList
  | month => "month".toList
  | day => "day".toList
  | hour => "hour".toList
  | minute => "minute".toList
  | second => "second".toList

end DateField

/-- A date or a time of day, with the text it was read from. -/
structure Instant where
  text : Text
  year : Option Int
  month : Option Int
  day : Option Int
  hour : Option Int
  minute : Option Int
  second : Option Double
deriving DecidableEq, Repr

namespace Instant

/-- Whether a field is set. -/
def has (instant : Instant) : DateField → Bool
  | .year => instant.year.isSome
  | .month => instant.month.isSome
  | .day => instant.day.isSome
  | .hour => instant.hour.isSome
  | .minute => instant.minute.isSome
  | .second => instant.second.isSome

/-- The fields that are set, from the most to the least significant. -/
def fields (instant : Instant) : List DateField :=
  DateField.all.filter instant.has

/-- The order of two whole numbers; equal unless both are there. -/
def wholeOrder (mine theirs : Option Int) : Ordering :=
  match mine, theirs with
  | some a, some b => compare a b
  | _, _ => .eq

/-- The order of two numbers of seconds; equal unless both are there.  What is not a number differs
from everything and stands above. -/
def secondOrder (mine theirs : Option Double) : Ordering :=
  match mine, theirs with
  | some a, some b => (Double.order? a b).getD .gt
  | _, _ => .eq

/-- The order of two instants in one field. -/
def orderIn (mine theirs : Instant) : DateField → Ordering
  | .year => wholeOrder mine.year theirs.year
  | .month => wholeOrder mine.month theirs.month
  | .day => wholeOrder mine.day theirs.day
  | .hour => wholeOrder mine.hour theirs.hour
  | .minute => wholeOrder mine.minute theirs.minute
  | .second => secondOrder mine.second theirs.second

/-- The order of two instants over the given fields, up to the first that the second one lacks. -/
def orderOver (mine theirs : Instant) : List DateField → Ordering
  | [] => .eq
  | field :: rest =>
    if theirs.has field then (orderIn mine theirs field).then (orderOver mine theirs rest) else .eq

/-- The order of two instants over the fields of the first. -/
def order (mine theirs : Instant) : Ordering :=
  orderOver mine theirs mine.fields

/-- The instant without the sign of a zero. -/
def plain (instant : Instant) : Instant :=
  { instant with second := instant.second.map Double.plain }

/-- Whether the second instant sets every field that the first one sets, and there are some. -/
def isComparable (mine theirs : Instant) : Bool :=
  !mine.fields.isEmpty && mine.fields.all theirs.has

end Instant

/-- A date with a time of day. -/
structure Moment where
  year : Nat
  month : Nat
  day : Nat
  hour : Nat
  minute : Nat
  second : Nat
  microsecond : Nat
deriving DecidableEq, Repr

namespace Moment

/-- The seconds with their fraction. -/
def seconds (moment : Moment) : Double :=
  (Double.ofNat moment.second).add (Double.ofRatio false moment.microsecond 1000000)

end Moment

/-- How precise a reading is. -/
inductive Precision where
  | year
  | month
  | week
  | day
  | time
  | unknown
deriving DecidableEq, Repr

namespace Precision

/-- The fields that a reading of a precision may have been given. -/
def fields : Precision → List DateField
  | year => [.year]
  | month => [.year, .month]
  | week | day => [.year, .month, .day]
  | time => [.year, .month, .day, .hour, .minute, .second]
  | unknown => []

end Precision

/-- What a reading of a text says: the moments that it means when the parts it leaves open are taken
from two times that have no part in common, and how precise it is. -/
structure Resolution where
  first : Moment
  second : Moment
  precision : Precision
deriving DecidableEq, Repr

namespace Resolution

/-- A field of the text: one that the precision allows and in which both moments agree. -/
def given? (found : Resolution) (field : DateField) (part : Moment → Nat) : Option Nat :=
  if field ∈ found.precision.fields ∧ part found.first = part found.second then
    some (part found.first)
  else none

end Resolution

namespace Instant

/-- The instant that a text writes, given its resolution.  Seconds count only if they are
`written`.  None if no field is given. -/
def ofResolution? (text : Text) (written : Bool) (found : Resolution) : Option Instant :=
  let instant : Instant :=
    { text
      year := (found.given? .year (·.year)).map Int.ofNat
      month := (found.given? .month (·.month)).map Int.ofNat
      day := (found.given? .day (·.day)).map Int.ofNat
      hour := (found.given? .hour (·.hour)).map Int.ofNat
      minute := (found.given? .minute (·.minute)).map Int.ofNat
      second :=
        if written then (found.given? .second (·.second)).map fun _ => found.first.seconds
        else none }
  if instant.fields.isEmpty then none else some instant

end Instant

end TableSearch
