import Agenda.Calendar.DayNumber

/-! # Fixed intervals

Next dates that lie a fixed number of days, or of years, after one another: from the date that a
task had, step by step, to the first that is not before the reference day.
-/

namespace Agenda.Recurrence

/-- The number of steps of `n` days, at least one, that take a date `behind` days before the
reference day to that day or past it. -/
def stepsToCatchUp (behind n : Int) : Int :=
  if behind ≤ n then 1 else (behind + n - 1) / n

/-- The first of the dates `anchor + n`, `anchor + 2n`, … that is not before `now`. -/
def everyDays? (now anchor : Date) (n : Nat) : Option Date :=
  anchor.addDays? (stepsToCatchUp (now.dayNumber - anchor.dayNumber) n * n)

/-- Step from year to year until the date is not before `now`. -/
def yearlyFrom? (now date : Date) : Option Date :=
  if _ : date < now then
    match _ : date.addYears? 1 with
    | some next => yearlyFrom? now next
    | none => none
  else
    some date
termination_by (now.year + 1 - date.year).toNat
decreasing_by
  have := Date.year_of_addYears? ‹date.addYears? 1 = some next›
  have := Date.year_le_of_lt ‹date < now›
  omega

/-- The first anniversary of `anchor` that is not before `now`. A leap day becomes March 1 in the
first step and stays there. -/
def yearly? (now anchor : Date) : Option Date :=
  (anchor.addYears? 1).bind (yearlyFrom? now)

end Agenda.Recurrence
