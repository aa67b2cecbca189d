import Mathlib.Tactic.IntervalCases
import SchemaDesk.Calendar.Date

/-!
# The rules of the calendar

The lengths of the twelve months by the rules of the calendar, as a list. A
year, month and day denote a day exactly if the month is one of the twelve and
has that day.
-/

namespace SchemaDesk.Calendar

/-- Four divides a leap year, and a hundred only if four hundred does. -/
def IsLeap (year : Nat) : Prop :=
  4 ∣ year ∧ (100 ∣ year → 400 ∣ year)

instance : DecidablePred IsLeap :=
  fun year => inferInstanceAs (Decidable (4 ∣ year ∧ (100 ∣ year → 400 ∣ year)))

/-- The lengths of the twelve months of a year. -/
def monthLengths (year : Nat) : List Nat :=
  [31, if IsLeap year then 29 else 28, 31, 30, 31, 30, 31, 31, 30, 31, 30, 31]

/-- The year, month and day denote a day of the calendar, which begins with the year 1. -/
structure IsCalendarDay (year month day : Nat) : Prop where
  begun : 1 ≤ year
  isMonth : 1 ≤ month ∧ month ≤ 12
  isDay : 1 ≤ day ∧ ∃ length, (monthLengths year)[month - 1]? = some length ∧ day ≤ length

theorem isLeapYear_iff (year : Nat) : isLeapYear year = true ↔ IsLeap year := by
  simp only [isLeapYear, IsLeap, Bool.and_eq_true, Bool.or_eq_true, decide_eq_true_eq,
    Nat.dvd_iff_mod_eq_zero]
  omega

/-- The months of a year are as long as the list says. -/
theorem getElem?_monthLengths {year month : Nat} (first : 1 ≤ month) (last : month ≤ 12) :
    (monthLengths year)[month - 1]? = some (monthLength year month) := by
  have february : (if IsLeap year then 29 else 28) = if isLeapYear year then 29 else 28 := by
    simp only [isLeapYear_iff]
  rw [monthLengths, february]
  interval_cases month <;> rfl

/-- Up to the last year, the test accepts the days of the calendar. -/
theorem isDate_iff_isCalendarDay {year : Nat} (reached : year ≤ lastYear) (month day : Nat) :
    isDate year month day = true ↔ IsCalendarDay year month day := by
  rw [isDate_iff]
  constructor
  · rintro ⟨begun, -, first, last⟩
    have month : 1 ≤ month ∧ month ≤ 12 := by
      by_contra outside
      rw [monthLength_eq_zero_of_not_month year month (by omega)] at last
      omega
    exact ⟨begun, month, first, _, getElem?_monthLengths month.1 month.2, last⟩
  · rintro ⟨begun, month, first, length, listed, last⟩
    obtain rfl := Option.some.inj (listed.symm.trans (getElem?_monthLengths month.1 month.2))
    exact ⟨begun, reached, first, last⟩

end SchemaDesk.Calendar
