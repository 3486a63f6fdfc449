import Agenda.Recurrence.NextDate

/-! # Chains of dates

The dates that a task has one after another when it is done again and again.
-/

namespace Agenda

/-- Up to `count` next dates, each counted from the one before, and the error that ended them early.
With `follow` the reference day moves along to each date that can be stored. -/
def dueDates (rule : String) (follow : Bool) : Nat → Date → String → List String × Option Error
  | 0, _, _ => ([], none)
  | count + 1, now, anchor =>
    match nextDate now anchor rule with
    | .ok date =>
      let now := if follow then (Date.ofText? date).getD now else now
      let (dates, error) := dueDates rule follow count now date
      (date :: dates, error)
    | .error error => ([], some error)

end Agenda
