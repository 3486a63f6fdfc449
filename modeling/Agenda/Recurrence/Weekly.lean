import Agenda.Calendar.DayNumber

/-! # Weekdays

Next dates on listed weekdays, worked out on day numbers. From the first listed weekday on or
after the task's date the search goes on week by week, so it stays on that weekday.
-/

namespace Agenda.Recurrence

/-- The days from a weekday to the nearest listed one, the same day included. `days` is strictly
increasing; past its last day the next week begins. -/
def daysToWeekday (days : List Nat) (weekday : Nat) : Nat :=
  match days.find? (weekday ≤ ·) with
  | some day => day - weekday
  | none => 7 - weekday + days.headD 0

/-- The nearest day on or after `start` that falls on a listed weekday. -/
def nearestListed (days : List Nat) (start : Int) : Int :=
  start + daysToWeekday days (weekdayOfDay start)

theorem le_nearestListed (days : List Nat) (start : Int) : start ≤ nearestListed days start := by
  unfold nearestListed
  omega

/-- Go on from week to week until the day is not before `now`. -/
def weeklyFrom (now : Int) (days : List Nat) (day : Int) : Int :=
  if day < now then weeklyFrom now days (nearestListed days (day + 7)) else day
termination_by (now - day).toNat
decreasing_by
  have := le_nearestListed days (day + 7)
  omega

/-- The next date on a listed weekday, unless it lies past the end of the calendar. -/
def weekly? (now anchor : Date) (days : List Nat) : Option Date :=
  Date.ofDayNumber? (weeklyFrom now.dayNumber days (nearestListed days anchor.dayNumber))

end Agenda.Recurrence
