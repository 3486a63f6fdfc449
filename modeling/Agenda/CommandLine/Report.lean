import Agenda.CommandLine.Directory
import Agenda.Task.Basic

/-! # Reports

What the program says besides its results: that a task was prepared or completed, why a command
failed, and that settings were left out. Some words are coloured.
-/

namespace Agenda.CommandLine

def yellow (text : String) : String :=
  s!"\x1b[33m{text}\x1b[39m"

def green (text : String) : String :=
  s!"\x1b[32m{text}\x1b[39m"

/-- Why a command fails. -/
inductive Failure
  /-- An argument that must not be empty is. -/
  | emptyArgument
  /-- A task, a date or a rule is refused. -/
  | refused (error : Error)
  /-- A rule gives no next date. -/
  | noNextDate (rule : String) (error : Error)
  | unreadable (what : String) (cause : ReadFailure)
  | notTask
  | notTaskList (path : String)
  deriving Repr, DecidableEq

namespace Failure

/-- The sentence for an error of the library, which a purpose introduces unless it speaks for
itself. -/
def refusal (purpose : String) : Error → String
  | .malformedRepeat cause => s!"repeat rule is malformed: {yellow cause.message}"
  | .invalidRuleValue field token => s!"invalid {field.description} value: '{yellow token}'"
  | .missingTitle => Error.missingTitle.message
  | .missingId => Error.missingId.message
  | .invalidDate text => (Error.invalidDate text).message
  | error => purpose ++ error.message

def message : Failure → String
  | emptyArgument => "--now, --date and --repeat are all required"
  | refused error => refusal "" error
  | noNextDate rule error => refusal s!"cannot compute next date for rule '{rule}': " error
  | unreadable what cause => s!"failed to read {what}: {cause.message}"
  | notTask => "task is not valid JSON"
  | notTaskList path => s!"'{path}' is not a JSON array of tasks"

def report (failure : Failure) : String :=
  s!"\x1b[31;1mError:\x1b[0m {failure.message}\n"

end Failure

def addedReport (task : Task) : String :=
  if task.isRecurring then
    s!"\x1b[32;1m✓\x1b[0m Recurring task '{task.title}' due {yellow task.date}" ++
      s!" ({task.repeatText})\n"
  else
    s!"\x1b[32;1m✓\x1b[0m Task '{task.title}' due {yellow task.date}\n"

def completedReport (task : Task) : Completion → String
  | .delete => s!"Completed task: '{green task.title}'\n"
  | .reschedule date => s!"Completed task: '{green task.title}', next due {yellow date}\n"

def settingsReport : String :=
  "\x1b[1m\x1b[33mWarning:\x1b[39m\x1b[0m ignoring configuration: it cannot be read\n"

end Agenda.CommandLine
