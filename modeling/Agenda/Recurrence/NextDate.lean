import Agenda.Calendar.DateText
import Agenda.Recurrence.Interval
import Agenda.Recurrence.Monthly
import Agenda.Recurrence.Weekly
import Agenda.Rule.Parser

/-! # The next date of a task

From the reference day, the date that a task has and its rule to the date it has next. The typed
entry checks the rule first; the textual one reads date and rule, which checks them.
-/

namespace Agenda

namespace Recurrence

/-- The next date by a rule within range. -/
def occurrence (now anchor : Date) (rule : Rule) : Except Error Date :=
  match rule with
  | .once => .ok anchor
  | .everyDays n => Error.dateOverflow.whenNone (everyDays? now anchor n)
  | .yearly => Error.dateOverflow.whenNone (yearly? now anchor)
  | .weekly [] => .error (.noOccurrence rule.text)
  | .weekly days => Error.dateOverflow.whenNone (weekly? now anchor days)
  | .monthly codes allowed =>
    (Error.noOccurrence rule.text).whenNone (monthly? now anchor codes allowed)

end Recurrence

/-- The next date by any rule, refused where a number of the rule is out of range. -/
def nextOccurrence (now anchor : Date) (rule : Rule) : Except Error Date := do
  Recurrence.occurrence now anchor (← rule.validated)

/-- The stored form of the next date, from a stored date and the text of a rule. -/
def nextDate (now : Date) (anchor rule : String) : Except Error String := do
  let anchor ← Date.read anchor
  let rule ← Rule.ofText rule
  let next ← Recurrence.occurrence now anchor rule
  return next.text

end Agenda
