/-!
# Dates of the Gregorian calendar

Days of the years 1 to 9999 in the calendar extended backwards, named by month
and day or by ISO week. `isDate` and `isWeekDate` say which names denote a day.
-/

namespace SchemaDesk.Calendar

/-- A year divisible by four is a leap year, except for centuries not divisible by 400. -/
def isLeapYear (year : Nat) : Bool :=
  year % 4 = 0 && (year % 100 ≠ 0 || year % 400 = 0)

/-- The number of days of a month; there are none outside the twelve months. -/
def monthLength (year month : Nat) : Nat :=
  match month with
  | 1 | 3 | 5 | 7 | 8 | 10 | 12 => 31
  | 4 | 6 | 9 | 11 => 30
  | 2 => if isLeapYear year then 29 else 28
  | _ => 0

/-- The last year that dates reach. -/
def lastYear : Nat := 9999

/-- The year, month and day denote a day. -/
def isDate (year month day : Nat) : Bool :=
  1 ≤ year && year ≤ lastYear && 1 ≤ day && day ≤ monthLength year month

/-- The number of days before the first of January of a year, counted from the year 1. -/
def daysBeforeYear (year : Nat) : Nat :=
  let past := year - 1
  past * 365 + past / 4 - past / 100 + past / 400

/-- The weekday of the first of January, where Monday is 0. -/
def firstWeekday (year : Nat) : Nat :=
  daysBeforeYear year % 7

/-- A year has 53 weeks if it begins on a Thursday, or on a Wednesday and is a leap year. -/
def weeksInYear (year : Nat) : Nat :=
  if firstWeekday year = 3 || (firstWeekday year = 2 && isLeapYear year) then 53 else 52

/-- The number of days before the Monday of week 1, which is the week of the year's first Thursday.
The Monday may lie in the year before. -/
def daysBeforeFirstWeek (year : Nat) : Int :=
  let weekday := firstWeekday year
  (daysBeforeYear year : Int) - weekday + (if weekday > 3 then 7 else 0)

/-- The year, week and weekday denote a day that no year outside the range holds. -/
def isWeekDate (year week weekday : Nat) : Bool :=
  1 ≤ year && year ≤ lastYear && 1 ≤ week && week ≤ weeksInYear year && 1 ≤ weekday &&
    weekday ≤ 7 &&
    daysBeforeFirstWeek year + (week - 1) * 7 + (weekday - 1) < daysBeforeYear (lastYear + 1)

/-- A day of a month is a day of its calendar year. -/
theorem isDate_iff (year month day : Nat) :
    isDate year month day = true ↔
      1 ≤ year ∧ year ≤ lastYear ∧ 1 ≤ day ∧ day ≤ monthLength year month := by
  simp [isDate, and_assoc]

/-- There is no day outside the twelve months. -/
theorem monthLength_eq_zero_of_not_month (year month : Nat) (outside : month = 0 ∨ 12 < month) :
    monthLength year month = 0 := by
  unfold monthLength
  split <;> omega

end SchemaDesk.Calendar
