import Agenda.CommandLine.Arguments
import Agenda.CommandLine.Report
import Agenda.Settings.Settings
import Agenda.Store
import Agenda.Table
import Agenda.Task.Record

/-! # Running a command

A run of the program as a function: from its arguments and what it finds around it to what it
prints. Results go to the standard output and reports to the error output, and a command that fails
prints no result.
-/

namespace Agenda.CommandLine

/-- What a run of the program finds around it. -/
structure Surroundings where
  /-- The current day. -/
  today : Date
  environment : Environment := []
  stdin : Except ReadFailure String := .ok ""
  /-- The directories above the working directory, the nearest one first. -/
  parents : List String := []
  /-- The content of the file at a path. -/
  read : String → Except ReadFailure String
  /-- Whether there is a file at a path, even if it cannot be read. -/
  isFile : String → Bool := fun path =>
    match read path with
    | .ok _ | .error .denied | .error .notText => true
    | .error _ => false

/-- What a run of the program leaves behind. -/
structure Outcome where
  status : Nat
  stdout : String := ""
  stderr : String := ""
  deriving Repr, DecidableEq

/-- What a command prints: a result and a report. -/
structure Printed where
  stdout : String
  stderr : String := ""
  deriving Repr, DecidableEq

def usageText : String :=
  "Usage: sked [--today <YYYYMMDD>] <COMMAND>\n\nCommands:\n" ++
  "  next    --now <DATE> --date <DATE> --repeat <RULE>\n" ++
  "  add     --title <TITLE> [--date <DATE>] [--comment <TEXT>] [--repeat <RULE>]\n" ++
  "  done    <TASK>\n" ++
  "  check   <TASK>\n" ++
  "  search  [QUERY] --input <FILE> [--json] [--limit <N>]\n"

def versionText : String := "sked 0.1.0\n"

def referenceDay (around : Surroundings) : Option String → Except Failure Date
  | none => .ok around.today
  | some text =>
    match Date.read text with
    | .ok date => .ok date
    | .error error => .error (.refused error)

/-- Where a task is to be read from. -/
inductive Source
  | stdin
  | inline (text : String)
  | file (path : String)
  deriving Repr, DecidableEq

namespace Source

/-- The source that an argument names: a dash for the standard input, an object for itself, and
otherwise a file. -/
def ofArgument (argument : String) : Source :=
  if argument == "-" then stdin
  else if (Blank.trimStart argument.toList).head? == some '\x7b' then inline argument
  else file argument

def text (around : Surroundings) : Source → Except Failure String
  | stdin =>
    match around.stdin with
    | .ok text => .ok text
    | .error cause => .error (.unreadable "task from stdin" cause)
  | inline text => .ok text
  | file path =>
    match around.read path with
    | .ok text => .ok text
    | .error cause => .error (.unreadable s!"task file '{path}'" cause)

end Source

def readTask (around : Surroundings) (argument : String) : Except Failure Task := do
  let text ← (Source.ofArgument argument).text around
  match Task.ofJsonText? text with
  | some task => return task
  | none => throw .notTask

def readTasks (around : Surroundings) (path : String) : Except Failure (List Task) :=
  match around.read path with
  | .error cause => .error (.unreadable s!"task list '{path}'" cause)
  | .ok text =>
    match Task.listOfJsonText? text with
    | some tasks => .ok tasks
    | none => .error (.notTaskList path)

def next (now date rule : String) : Except Failure Printed :=
  if now.isEmpty || date.isEmpty || rule.isEmpty then .error .emptyArgument
  else
    match Date.read now with
    | .error error => .error (.refused error)
    | .ok now =>
      match nextDate now date rule with
      | .error error => .error (.noNextDate rule error)
      | .ok next => .ok { stdout := next ++ "\n" }

def add (today : Date) (task : Task) : Except Failure Printed :=
  match task.normalize today with
  | (.error error, _) => .error (.refused error)
  | (.ok (), task) => .ok { stdout := task.json ++ "\n", stderr := addedReport task }

def done (today : Date) (task : Task) : Except Failure Printed :=
  match task.complete today with
  | .error error => .error (.refused error)
  | .ok completion =>
    .ok { stdout := completion.json ++ "\n", stderr := completedReport task completion }

def check (today : Date) (task : Task) : Except Failure Printed :=
  match task.validateUpdate today with
  | .error error => .error (.refused error)
  | .ok () => .ok { stdout := "ok\n" }

def foundJson (tasks : List Task) : String :=
  String.ofList
    (Json.Value.object [(.ofString "tasks", .array (tasks.map Task.toSortedJson))]).render

def search (tasks : List Task) (query : String) (json : Bool) (limit : Nat) : Printed :=
  let found := select tasks (Query.ofText? query) limit
  { stdout := (if json then foundJson found else Table.render found) ++ "\n" }

def Invocation.perform (around : Surroundings) (settings : Settings) (invocation : Invocation) :
    Except Failure Printed :=
  match invocation.command with
  | .next now date rule => next now date rule
  | .add title date comment repeatText => do
    let today ← referenceDay around invocation.today
    add today
      { title, date := date.getD "", comment := comment.getD "",
        repeatText := repeatText.getD "" }
  | .done source => do
    let today ← referenceDay around invocation.today
    done today (← readTask around source)
  | .check source => do
    let today ← referenceDay around invocation.today
    check today (← readTask around source)
  | .search query input json limit => do
    let tasks ← readTasks around input
    return search tasks query json (limit.getD settings.listLimit)

/-- The text of the file with the settings, if there is such a file. -/
def readSettingsFile (around : Surroundings) : Except ReadFailure (Option String) :=
  match (Settings.places around.environment around.parents).find? around.isFile with
  | some path => (around.read path).map some
  | none => .ok none

/-- The settings of a run, and the report if they cannot be read. A file that is there and cannot be
read puts all settings out of force, those in variables as well. -/
def loadSettings (around : Surroundings) : Settings × String :=
  match readSettingsFile around with
  | .error _ => ({}, settingsReport)
  | .ok file =>
    match Settings.load? around.environment file with
    | some settings => (settings, "")
    | none => ({}, settingsReport)

def run (around : Surroundings) (arguments : List String) : Outcome :=
  match Invocation.ofArguments arguments with
  | .error .usage => { status := 2, stderr := usageText }
  | .error .help => { status := 0, stdout := usageText }
  | .error .version => { status := 0, stdout := versionText }
  | .ok invocation =>
    let (settings, warning) := loadSettings around
    match invocation.perform around settings with
    | .ok printed => ⟨0, printed.stdout, warning ++ printed.stderr⟩
    | .error failure => ⟨1, "", warning ++ failure.report⟩

/-- The source of the task that a run reads, if it reads one. -/
def taskSource? (arguments : List String) : Option Source :=
  match Invocation.ofArguments arguments with
  | .ok ⟨_, .done argument⟩ => some (.ofArgument argument)
  | .ok ⟨_, .check argument⟩ => some (.ofArgument argument)
  | _ => none

/-- The path of the list of tasks that a run reads, if it reads one. -/
def taskListPath? (arguments : List String) : Option String :=
  match Invocation.ofArguments arguments with
  | .ok ⟨_, .search _ path _ _⟩ => some path
  | _ => none

def paths (environment : Environment) (parents arguments : List String) : List String :=
  let task :=
    match taskSource? arguments with
    | some (.file path) => [path]
    | _ => []
  Settings.places environment parents ++ task ++ (taskListPath? arguments).toList

end Agenda.CommandLine
