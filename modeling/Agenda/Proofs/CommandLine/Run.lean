import Mathlib.Tactic
import Agenda.CommandLine.Run
import Agenda.Proofs.Task.Accepted

/-! # What a run prints

A run whose arguments are understood succeeds exactly when its command does, and then prints what
the command prints. When each command succeeds and what it prints is said once, by cases, so that
facts about all runs are proved by cases on the command.
-/

namespace Agenda.CommandLine

variable {around : Surroundings} {arguments : List String}

theorem exists_perform_of_run {invocation : Invocation}
    (h : Invocation.ofArguments arguments = .ok invocation)
    (succeeds : (run around arguments).status = 0) :
    ∃ printed, invocation.perform around (loadSettings around).1 = .ok printed ∧
      (run around arguments).stdout = printed.stdout := by
  simp only [run, h] at succeeds ⊢
  cases performed : invocation.perform around (loadSettings around).1 with
  | error failure => simp [performed] at succeeds
  | ok printed => exact ⟨printed, rfl, rfl⟩

theorem run_of_perform {invocation : Invocation} {printed : Printed}
    (h : Invocation.ofArguments arguments = .ok invocation)
    (performed : invocation.perform around (loadSettings around).1 = .ok printed) :
    run around arguments = ⟨0, printed.stdout, (loadSettings around).2 ++ printed.stderr⟩ := by
  simp only [run, h, performed]

theorem run_of_failure {invocation : Invocation} {failure : Failure}
    (h : Invocation.ofArguments arguments = .ok invocation)
    (performed : invocation.perform around (loadSettings around).1 = .error failure) :
    run around arguments = ⟨1, "", (loadSettings around).2 ++ failure.report⟩ := by
  simp only [run, h, performed]

theorem status_eq_one_of_ne_zero {invocation : Invocation}
    (h : Invocation.ofArguments arguments = .ok invocation)
    (fails : (run around arguments).status ≠ 0) : (run around arguments).status = 1 := by
  cases performed : invocation.perform around (loadSettings around).1 with
  | error failure => rw [run_of_failure h performed]
  | ok printed => exact absurd (by rw [run_of_perform h performed]) fails

theorem referenceDay_some_eq_ok_iff {text : String} {today : Date} :
    referenceDay around (some text) = .ok today ↔ Date.read text = .ok today := by
  unfold referenceDay
  split
  · next absent => cases absent
  · next given =>
      cases given
      split
      · next date read => simp [read]
      · next error unread => simp [unread]

theorem readTasks_eq_ok_iff {path : String} {tasks : List Task} :
    readTasks around path = .ok tasks ↔
      ∃ content, around.read path = .ok content ∧ Task.listOfJsonText? content = some tasks := by
  unfold readTasks
  split
  · next unread => simp [unread]
  · next content read =>
      split
      · next decoded => simp [read, decoded]
      · next undecoded => simp [read, undecoded]

theorem next_eq_ok_iff {now date rule : String} {printed : Printed} :
    next now date rule = .ok printed ↔
      rule ≠ "" ∧ ∃ today text, Date.read now = .ok today ∧ nextDate today date rule = .ok text ∧
        printed = { stdout := text ++ "\n" } := by
  have noDate (text : String) (today : Date) (h : Date.read text = .ok today) : text ≠ "" := by
    rintro rfl
    cases h
  unfold next
  split
  · next empty =>
      simp only [Bool.or_eq_true, String.isEmpty_iff] at empty
      simp only [reduceCtorEq, false_iff, not_and, not_exists]
      rintro hasRule today text read counted -
      obtain ⟨due, -, -, readDate, -⟩ := nextDate_eq_ok_iff.mp counted
      rcases empty with (empty | empty) | empty
      · exact noDate now today read empty
      · exact noDate date due readDate empty
      · exact hasRule empty
  · next notEmpty =>
      simp only [Bool.or_eq_true, String.isEmpty_iff, not_or] at notEmpty
      split
      · next unread => simp [unread]
      · next today read =>
          split
          · next refused => simp [read, refused]
          · next text counted => simp [read, counted, notEmpty.2, eq_comm]

theorem add_eq_ok_iff {today : Date} {task : Task} {printed : Printed} :
    add today task = .ok printed ↔
      ∃ settled, task.normalize today = (.ok (), settled) ∧
        printed = { stdout := settled.json ++ "\n", stderr := addedReport settled } := by
  unfold add
  split
  · next refused => simp [refused]
  · next settled accepted => simp [accepted, eq_comm]

theorem done_eq_ok_iff {today : Date} {task : Task} {printed : Printed} :
    done today task = .ok printed ↔
      ∃ completion, task.complete today = .ok completion ∧
        printed =
          { stdout := completion.json ++ "\n", stderr := completedReport task completion } := by
  unfold done
  split
  · next refused => simp [refused]
  · next completion completes => simp [completes, eq_comm]

theorem check_eq_ok_iff {today : Date} {task : Task} {printed : Printed} :
    check today task = .ok printed ↔
      task.validateUpdate today = .ok () ∧ printed = { stdout := "ok\n" } := by
  unfold check
  split
  · next refused => simp [refused]
  · next accepted => simp [accepted, eq_comm]

/-- The task that the options for a new task describe. -/
def describedTask (title : String) (date comment repeatText : Option String) : Task :=
  { title, date := date.getD "", comment := comment.getD "", repeatText := repeatText.getD "" }

/-- When a command succeeds and what it prints then. -/
inductive Succeeds (around : Surroundings) (settings : Settings) : Invocation → Printed → Prop
  | next {today? : Option String} {now date rule text : String} {today : Date}
      (hasRule : rule ≠ "") (read : Date.read now = .ok today)
      (counted : nextDate today date rule = .ok text) :
    Succeeds around settings ⟨today?, .next now date rule⟩ { stdout := text ++ "\n" }
  | add {today? date comment repeatText : Option String} {title : String} {today : Date}
      {settled : Task} (day : referenceDay around today? = .ok today)
      (accepted : (describedTask title date comment repeatText).normalize today =
        (.ok (), settled)) :
    Succeeds around settings ⟨today?, .add title date comment repeatText⟩
      { stdout := settled.json ++ "\n", stderr := addedReport settled }
  | done {today? : Option String} {argument : String} {today : Date} {task : Task}
      {completion : Completion} (day : referenceDay around today? = .ok today)
      (read : readTask around argument = .ok task)
      (completes : task.complete today = .ok completion) :
    Succeeds around settings ⟨today?, .done argument⟩
      { stdout := completion.json ++ "\n", stderr := completedReport task completion }
  | check {today? : Option String} {argument : String} {today : Date} {task : Task}
      (day : referenceDay around today? = .ok today)
      (read : readTask around argument = .ok task)
      (accepted : task.validateUpdate today = .ok ()) :
    Succeeds around settings ⟨today?, .check argument⟩ { stdout := "ok\n" }
  | search {today? : Option String} {query input : String} {json : Bool} {limit : Option Nat}
      {tasks : List Task} (read : readTasks around input = .ok tasks) :
    Succeeds around settings ⟨today?, .search query input json limit⟩
      (search tasks query json (limit.getD settings.listLimit))

theorem perform_eq_ok_iff {settings : Settings} {invocation : Invocation} {printed : Printed} :
    invocation.perform around settings = .ok printed ↔
      Succeeds around settings invocation printed := by
  constructor
  · intro performed
    obtain ⟨today?, command⟩ := invocation
    cases command with
    | next now date rule =>
        obtain ⟨hasRule, today, text, read, counted, rfl⟩ := next_eq_ok_iff.mp performed
        exact .next hasRule read counted
    | add title date comment repeatText =>
        obtain ⟨today, day, added⟩ := Error.bind_eq_ok_iff.mp performed
        obtain ⟨settled, accepted, rfl⟩ := add_eq_ok_iff.mp added
        exact .add day accepted
    | done argument =>
        obtain ⟨today, day, rest⟩ := Error.bind_eq_ok_iff.mp performed
        obtain ⟨task, read, completed⟩ := Error.bind_eq_ok_iff.mp rest
        obtain ⟨completion, completes, rfl⟩ := done_eq_ok_iff.mp completed
        exact .done day read completes
    | check argument =>
        obtain ⟨today, day, rest⟩ := Error.bind_eq_ok_iff.mp performed
        obtain ⟨task, read, checked⟩ := Error.bind_eq_ok_iff.mp rest
        obtain ⟨accepted, rfl⟩ := check_eq_ok_iff.mp checked
        exact .check day read accepted
    | search query input json limit =>
        obtain ⟨tasks, read, found⟩ := Error.bind_eq_ok_iff.mp performed
        cases found
        exact .search read
  · intro succeeds
    cases succeeds with
    | next hasRule read counted => exact next_eq_ok_iff.mpr ⟨hasRule, _, _, read, counted, rfl⟩
    | add day accepted =>
        exact Error.bind_eq_ok_iff.mpr ⟨_, day, add_eq_ok_iff.mpr ⟨_, accepted, rfl⟩⟩
    | done day read completes =>
        exact Error.bind_eq_ok_iff.mpr ⟨_, day, Error.bind_eq_ok_iff.mpr
          ⟨_, read, done_eq_ok_iff.mpr ⟨_, completes, rfl⟩⟩⟩
    | check day read accepted =>
        exact Error.bind_eq_ok_iff.mpr ⟨_, day, Error.bind_eq_ok_iff.mpr
          ⟨_, read, check_eq_ok_iff.mpr ⟨accepted, rfl⟩⟩⟩
    | search read => exact Error.bind_eq_ok_iff.mpr ⟨_, read, rfl⟩

/-- A run succeeds and prints a line. -/
def Prints (outcome : Outcome) (line : String) : Prop :=
  outcome.status = 0 ∧ outcome.stdout = line ++ "\n"

theorem prints_iff {invocation : Invocation} {line : String}
    (h : Invocation.ofArguments arguments = .ok invocation) :
    Prints (run around arguments) line ↔
      ∃ printed, Succeeds around (loadSettings around).1 invocation printed ∧
        printed.stdout = line ++ "\n" := by
  constructor
  · rintro ⟨succeeds, stdout⟩
    obtain ⟨printed, performed, same⟩ := exists_perform_of_run h succeeds
    exact ⟨printed, perform_eq_ok_iff.mp performed, same.symm.trans stdout⟩
  · rintro ⟨printed, succeeds, stdout⟩
    rw [run_of_perform h (perform_eq_ok_iff.mpr succeeds)]
    exact ⟨rfl, stdout⟩

end Agenda.CommandLine
