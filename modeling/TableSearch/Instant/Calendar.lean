import TableSearch.Text.Basic

/-! # The calendar

Lengths of months, and the days that exist when a part of the date is unknown.
-/

namespace TableSearch

namespace Calendar

/-- Whether a year has a 29th of February. -/
def isLeap (year : Nat) : Bool :=
  year % 4 == 0 && (year % 100 != 0 || year % 400 == 0)

/-- The number of days of a month; 0 if there is no such month. -/
def daysOfMonth (year month : Nat) : Nat :=
  match month with
  | 1 | 3 | 5 | 7 | 8 | 10 | 12 => 31
  | 4 | 6 | 9 | 11 => 30
  | 2 => if isLeap year then 29 else 28
  | _ => 0

/-- Whether some date has the given parts: an unknown year may be a leap year, and an unknown month
may have 31 days. -/
def exists? (year month day : Option Nat) : Bool :=
  let year := year.getD 2004
  let month := month.getD 3
  let day := day.getD 1
  1 ≤ year && year ≤ 9999 && 1 ≤ day && day ≤ daysOfMonth year month

end Calendar

end TableSearch
