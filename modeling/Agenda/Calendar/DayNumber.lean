import Agenda.Calendar.Date

/-! # Day numbers and weekdays

Each date has a day number, which grows by one from day to day, so that shifting by days and
finding weekdays are integer arithmetic. Day 1 is January 1 of year 1, a Monday.
-/

namespace Agenda

/-- The days from day 1 up to the start of a year; negative before year 1. -/
def daysBeforeYear (year : Int) : Int :=
  365 * (year - 1) + (year - 1) / 4 - (year - 1) / 100 + (year - 1) / 400

/-- The days of the year that come before a month. -/
def daysBeforeMonth (year : Int) : Nat → Nat
  | 0 => 0
  | month + 1 => daysBeforeMonth year month + daysInMonth year month

/-- The year of a day number. Four hundred years have 146097 days, so dividing comes within one
year of the answer. -/
def yearOfDay (n : Int) : Int :=
  let guess := n * 400 / 146097 + 1
  if n ≤ daysBeforeYear guess then guess - 1
  else if daysBeforeYear (guess + 1) < n then guess + 1
  else guess

/-- The weekday of a day number, from Monday = 1 to Sunday = 7. -/
def weekdayOfDay (n : Int) : Nat :=
  ((n - 1) % 7).toNat + 1

namespace Date

def dayNumber (d : Date) : Int :=
  daysBeforeYear d.year + daysBeforeMonth d.year d.month + d.day

/-- The date with this day number, unless it lies outside the calendar. -/
def ofDayNumber? (n : Int) : Option Date := do
  let year := yearOfDay n
  let dayOfYear := (n - daysBeforeYear year).toNat
  let month ← (List.range' 1 12).find? fun m => dayOfYear ≤ daysBeforeMonth year (m + 1)
  ofYmd? year month (dayOfYear - daysBeforeMonth year month)

def addDays? (d : Date) (days : Int) : Option Date :=
  ofDayNumber? (d.dayNumber + days)

def weekday (d : Date) : Nat :=
  weekdayOfDay d.dayNumber

end Date

end Agenda
