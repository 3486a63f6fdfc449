import Agenda.Recurrence.NextDate
import Agenda.Text.Blank

/-! # Tasks

A task as it is stored: texts throughout, of which the date is empty or in the stored form and the
repeat text is empty for a task that does not come back. Adding a task settles its date, completing
one deletes it or moves it on, and an edited one is checked before it is stored.
-/

namespace Agenda

/-- A task as it is stored. -/
structure Task where
  id : String := ""
  date : String := ""
  title : String := ""
  comment : String := ""
  repeatText : String := ""
  deriving Repr, DecidableEq

/-- What becomes of a task that was done. -/
inductive Completion
  /-- It is deleted. -/
  | delete
  /-- It is due again on the date. -/
  | reschedule (date : String)
  deriving Repr, DecidableEq

namespace Task

def isRecurring (task : Task) : Bool :=
  !task.repeatText.isEmpty

def rule (task : Task) : Except Error Rule :=
  Rule.ofText task.repeatText

/-- The next date of a task; its failure is blamed on the repeat text. -/
def nextDate (task : Task) (today : Date) : Except Error String :=
  match Agenda.nextDate today task.date task.repeatText with
  | .ok date => .ok date
  | .error cause => .error (.malformedRepeat cause)

/-- What doing the task means for it. -/
def complete (task : Task) (today : Date) : Except Error Completion :=
  if task.isRecurring then do
    let date ← task.nextDate today
    return .reschedule date
  else
    return .delete

/-- The task after a completion. Only its date may change. -/
def apply (task : Task) : Completion → Task
  | .delete => task
  | .reschedule date => { task with date }

/-- The date that a new task gets: none in the past, and that of today if it has none. A task
that comes back catches up with today. -/
def settledDate (task : Task) (today : Date) : Except Error String := do
  let date ← Date.read task.date
  if date < today then
    if task.isRecurring then task.nextDate today else return today.text
  else
    return date.text

/-- A new task with its date settled, or why it is refused and the task as it stands then: an
empty date is filled in first and stays. -/
def normalize (task : Task) (today : Date) : Except Error Unit × Task :=
  if Blank.isBlankText task.title then
    (.error .missingTitle, task)
  else
    let dated := if task.date.isEmpty then { task with date := today.text } else task
    match dated.settledDate today with
    | .ok date => (.ok (), { dated with date })
    | .error error => (.error error, dated)

/-- Check an edited task: it needs an identifier, a title, a date and a rule that gives a next
date. -/
def validateUpdate (task : Task) (today : Date) : Except Error Unit := do
  if Blank.isBlankText task.id then
    throw .missingId
  if Blank.isBlankText task.title then
    throw .missingTitle
  let _ ← Date.read task.date
  let _ ← task.nextDate today

end Task

end Agenda
