/-!
# Calendar dates

Dates of the Gregorian calendar, carried back before its introduction and with a year zero.  The
weekday comes from the number of days since the first day of year one, which was a Monday.
-/

namespace FlightRule

/-- The days of the week. -/
inductive Weekday where
  | monday
  | tuesday
  | wednesday
  | thursday
  | friday
  | saturday
  | sunday
deriving DecidableEq, Repr

namespace Weekday

/-- The number of days from Monday. -/
def index : Weekday → Nat
  | monday => 0
  | tuesday => 1
  | wednesday => 2
  | thursday => 3
  | friday => 4
  | saturday => 5
  | sunday => 6

/-- The days in order from Monday. -/
def all : List Weekday := [monday, tuesday, wednesday, thursday, friday, saturday, sunday]

/-- The day that a number of days from some Monday falls on. -/
def ofDays (days : Int) : Weekday :=
  match (days % 7).toNat with
  | 0 => monday
  | 1 => tuesday
  | 2 => wednesday
  | 3 => thursday
  | 4 => friday
  | 5 => saturday
  | _ => sunday

theorem index_lt (day : Weekday) : day.index < 7 := by
  cases day <;> decide

end Weekday

namespace Date

/-- A year with a 29th of February: every fourth, but of the centuries only every fourth. -/
def isLeap (year : Int) : Bool :=
  year % 4 == 0 && (year % 100 != 0 || year % 400 == 0)

/-- The number of days of a month, and zero for a number that is no month. -/
def daysInMonth (year : Int) (month : Nat) : Nat :=
  match month with
  | 1 | 3 | 5 | 7 | 8 | 10 | 12 => 31
  | 4 | 6 | 9 | 11 => 30
  | 2 => if isLeap year then 29 else 28
  | _ => 0

/-- The years that dates may have. -/
def isYear (year : Int) : Bool :=
  decide (-262143 ≤ year) && decide (year ≤ 262142)

end Date

/-- A date of the Gregorian calendar. -/
structure Date where
  year : Int
  month : Nat
  day : Nat
  /-- The year is one that dates may have. -/
  year_valid : Date.isYear year = true
  /-- Days count from one. -/
  day_pos : 1 ≤ day
  /-- The month has the day. -/
  day_le : day ≤ Date.daysInMonth year month
deriving DecidableEq, Repr

namespace Date

/-- The date with the given year, month and day, if there is one. -/
def ofParts? (year : Int) (month day : Nat) : Option Date :=
  if valid : isYear year = true ∧ 1 ≤ day ∧ day ≤ daysInMonth year month then
    some ⟨year, month, day, valid.1, valid.2.1, valid.2.2⟩
  else none

/-- The number of days of the year before the given month. -/
def daysBeforeMonth (year : Int) : (month : Nat) → Nat
  | 0 => 0
  | earlier + 1 => daysBeforeMonth year earlier + daysInMonth year earlier

/-- The number of days from the first day of year one. -/
def daysFromYearOne (date : Date) : Int :=
  let years := date.year - 1
  years * 365 + years / 4 - years / 100 + years / 400 +
    (daysBeforeMonth date.year date.month + (date.day - 1) : Nat)

/-- The weekday of a date. -/
def weekday (date : Date) : Weekday :=
  Weekday.ofDays date.daysFromYearOne

end Date

end FlightRule
