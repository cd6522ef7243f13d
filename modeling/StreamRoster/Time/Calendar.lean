/-!
# The Calendar

Dates of the proleptic Gregorian calendar, with a year zero and negative
years before it, and the steps from a date to the days around it.

## Main definitions

* `Calendar.daysIn`: The length of a month.
* `Date`: A year, a month and a day.
* `Date.next`, `Date.previous`: The days around a date.
-/

namespace StreamRoster

namespace Calendar

/-- Whether a year has a 29 February. -/
def isLeap (year : Int) : Bool :=
  year % 4 = 0 && (year % 100 ≠ 0 || year % 400 = 0)

/-- The length of a month, which is a number from 1 to 12. -/
def daysIn (year : Int) (month : Nat) : Nat :=
  if month = 2 then (if isLeap year then 29 else 28)
  else if month = 4 || month = 6 || month = 9 || month = 11 then 30
  else 31

/-- The first year that dates may have. -/
def firstYear : Int := -262143

/-- The last year that dates may have. -/
def lastYear : Int := 262142

end Calendar

/-- A year, a month and a day. -/
structure Date where
  year : Int
  month : Nat
  day : Nat
  deriving DecidableEq, Repr

namespace Date

/-- Whether a date is on the calendar. -/
def isValid (d : Date) : Bool :=
  Calendar.firstYear ≤ d.year && d.year ≤ Calendar.lastYear && 1 ≤ d.month && d.month ≤ 12
    && 1 ≤ d.day && d.day ≤ Calendar.daysIn d.year d.month

/-- The day after a date. -/
def next (d : Date) : Date :=
  if d.day < Calendar.daysIn d.year d.month then { d with day := d.day + 1 }
  else if d.month < 12 then { d with month := d.month + 1, day := 1 }
  else { year := d.year + 1, month := 1, day := 1 }

/-- The day before a date. -/
def previous (d : Date) : Date :=
  if 1 < d.day then { d with day := d.day - 1 }
  else if 1 < d.month then
    { d with month := d.month - 1, day := Calendar.daysIn d.year (d.month - 1) }
  else { year := d.year - 1, month := 12, day := 31 }

end Date

end StreamRoster
