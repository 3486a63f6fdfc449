import Mathlib.Tactic
import Agenda.Proofs.CommandLine.Arguments
import Agenda.Proofs.CommandLine.Run
import Agenda.Proofs.Task.Record

/-! # A printed task stands for itself

What `add` prints is the text of the task it has prepared. Given to another command, on the standard
input or as an argument, with or without the end of the line, it is read as exactly that task.
-/

namespace Agenda.CommandLine

variable {around : Surroundings} {arguments : List String}

section Add

variable {today? : Option String} {title : String} {date comment repeatText : Option String}

theorem perform_add (around : Surroundings) (settings : Settings) :
    Invocation.perform around settings ⟨today?, .add title date comment repeatText⟩ =
      (referenceDay around today?).bind (add · (describedTask title date comment repeatText)) :=
  rfl

theorem perform_add_eq_ok {settings : Settings} {printed : Printed}
    (h : Invocation.perform around settings ⟨today?, .add title date comment repeatText⟩ =
      .ok printed) :
    ∃ today, referenceDay around today? = .ok today ∧
      add today (describedTask title date comment repeatText) = .ok printed :=
  Error.bind_eq_ok_iff.mp h

theorem run_add {today : Date} {settled : Task}
    (h : Invocation.ofArguments arguments = .ok ⟨today?, .add title date comment repeatText⟩)
    (day : referenceDay around today? = .ok today)
    (accepted : (describedTask title date comment repeatText).normalize today = (.ok (), settled)) :
    run around arguments =
      ⟨0, settled.json ++ "\n", (loadSettings around).2 ++ addedReport settled⟩ := by
  have performed : Invocation.perform around (loadSettings around).1
      ⟨today?, .add title date comment repeatText⟩ =
        .ok { stdout := settled.json ++ "\n", stderr := addedReport settled } := by
    rw [perform_add, day]
    exact add_eq_ok_iff.mpr ⟨settled, accepted, rfl⟩
  rw [run_of_perform h performed]

end Add

/-- An argument hands a text over: on the standard input or by itself. -/
def HandsOver (around : Surroundings) (argument text : String) : Prop :=
  (argument = "-" ∧ around.stdin = .ok text) ∨ argument = text

/-- An argument stands for a task: the commands that read a task take it for their argument and do
what they do with that task. -/
structure StandsFor (around : Surroundings) (argument : String) (task : Task) : Prop where
  read : readTask around argument = .ok task
  done_arguments : Invocation.ofArguments ["done", argument] = .ok ⟨none, .done argument⟩
  check_arguments : Invocation.ofArguments ["check", argument] = .ok ⟨none, .check argument⟩
  perform_done (settings : Settings) (today? : Option String) :
    Invocation.perform around settings ⟨today?, .done argument⟩ =
      (referenceDay around today?).bind (done · task)
  perform_check (settings : Settings) (today? : Option String) :
    Invocation.perform around settings ⟨today?, .check argument⟩ =
      (referenceDay around today?).bind (check · task)

theorem exists_toList_json (task : Task) : ∃ rest, task.json.toList = '\x7b' :: rest := by
  rw [Task.json, String.toList_ofList, Task.toJson, Json.Value.render]
  exact ⟨_, rfl⟩

theorem Source.ofArgument_of_brace {argument : String} {rest : List Char}
    (h : argument.toList = '\x7b' :: rest) : Source.ofArgument argument = .inline argument := by
  have notDash : argument ≠ "-" := by
    rintro rfl
    cases h
  have brace : (Blank.trimStart argument.toList).head? = some '\x7b' := by
    rw [h]
    rfl
  simp [Source.ofArgument, notDash, brace]

theorem text_of_handsOver {argument text : String} {rest : List Char}
    (h : HandsOver around argument text) (brace : text.toList = '\x7b' :: rest) :
    (Source.ofArgument argument).text around = .ok text := by
  rcases h with ⟨rfl, stdin⟩ | rfl
  · simp [Source.ofArgument, Source.text, stdin]
  · rw [Source.ofArgument_of_brace brace, Source.text]

theorem plain_of_handsOver {argument text : String} {rest : List Char}
    (h : HandsOver around argument text) (brace : text.toList = '\x7b' :: rest) :
    Shape.ofArgument argument = .plain := by
  rcases h with ⟨rfl, -⟩ | rfl
  · rfl
  · rw [Shape.ofArgument, brace]
    rfl

theorem ofArguments_done {argument : String} (h : Shape.ofArgument argument = .plain) :
    Invocation.ofArguments ["done", argument] = .ok ⟨none, .done argument⟩ :=
  ofArguments_of_scan (by decide) (by decide) (Grammar.scan_onlyOperand h rfl (by decide)) rfl

theorem ofArguments_check {argument : String} (h : Shape.ofArgument argument = .plain) :
    Invocation.ofArguments ["check", argument] = .ok ⟨none, .check argument⟩ :=
  ofArguments_of_scan (by decide) (by decide) (Grammar.scan_onlyOperand h rfl (by decide)) rfl

/-- An argument that is no option gives a task: itself, on the standard input or in a file. -/
structure GivesTask (around : Surroundings) (argument : String) (task : Task) : Prop where
  plain : Shape.ofArgument argument = .plain
  read : readTask around argument = .ok task

theorem GivesTask.standsFor {argument : String} {task : Task}
    (h : GivesTask around argument task) : StandsFor around argument task where
  read := h.read
  done_arguments := ofArguments_done h.plain
  check_arguments := ofArguments_check h.plain
  perform_done settings today? := by
    simp only [Invocation.perform, h.read]
    rfl
  perform_check settings today? := by
    simp only [Invocation.perform, h.read]
    rfl

theorem givesTask_of_handsOver {argument text : String} {rest : List Char} {task : Task}
    (h : HandsOver around argument text) (brace : text.toList = '\x7b' :: rest)
    (asTask : Task.ofJsonText? text = some task) : GivesTask around argument task := by
  refine ⟨plain_of_handsOver h brace, ?_⟩
  simp only [readTask, text_of_handsOver h brace, bind, Except.bind, asTask]
  rfl

theorem givesTask_json (around : Surroundings) (task : Task) :
    GivesTask around task.json task := by
  obtain ⟨rest, brace⟩ := exists_toList_json task
  exact givesTask_of_handsOver (.inr rfl) brace task.ofJsonText?_json

/-- The text of a task hands the task over, with or without the end of the line. -/
theorem standsFor_json {argument text : String} {task : Task} (h : HandsOver around argument text)
    (text_eq : text = task.json ++ "\n" ∨ text = task.json) : StandsFor around argument task := by
  obtain ⟨rest, brace⟩ := exists_toList_json task
  rcases text_eq with rfl | rfl
  · have line : (task.json ++ "\n").toList = '\x7b' :: (rest ++ "\n".toList) := by
      rw [String.toList_append, brace, List.cons_append]
    exact (givesTask_of_handsOver h line
      (task.ofJsonText?_json_append "\n" (by simp [Json.isBlank]))).standsFor
  · exact (givesTask_of_handsOver h brace task.ofJsonText?_json).standsFor

end Agenda.CommandLine

namespace Agenda

open CommandLine

/-- A task and a completion are read back from the text they are written as, so what comes of
    reading a text and writing it again is the same when that is done once more. In particular `add`
    prints a text that stands for exactly the task it has prepared, be it given to a later `done` or
    `check` on the standard input or as an argument, with the end of the line or without. -/
theorem written_records_are_read_back :
    (∀ task : Task, Task.ofJsonText? task.json = some task) ∧
      (∀ completion : Completion, Completion.ofJsonText? completion.json = some completion) ∧
      (∀ text written : String, (Task.ofJsonText? text).map Task.json = some written →
        (Task.ofJsonText? written).map Task.json = some written) ∧
      (∀ text written : String, (Completion.ofJsonText? text).map Completion.json = some written →
        (Completion.ofJsonText? written).map Completion.json = some written) ∧
      ∀ (around : Surroundings) (arguments : List String) (today? : Option String)
        (title : String) (date comment repeatText : Option String),
        Invocation.ofArguments arguments = .ok ⟨today?, .add title date comment repeatText⟩ →
        (run around arguments).status = 0 →
        ∃ today settled, referenceDay around today? = .ok today ∧
          (describedTask title date comment repeatText).normalize today = (.ok (), settled) ∧
          (run around arguments).stdout = settled.json ++ "\n" ∧
          ∀ (later : Surroundings) (argument text : String), HandsOver later argument text →
            text = (run around arguments).stdout ∨ text = settled.json →
            StandsFor later argument settled := by
  refine ⟨Task.ofJsonText?_json, Completion.ofJsonText?_json, ?_, ?_, ?_⟩
  · intro text written again
    obtain ⟨task, -, rfl⟩ := Option.map_eq_some_iff.mp again
    rw [Task.ofJsonText?_json, Option.map_some]
  · intro text written again
    obtain ⟨completion, -, rfl⟩ := Option.map_eq_some_iff.mp again
    rw [Completion.ofJsonText?_json, Option.map_some]
  · intro around arguments today? title date comment repeatText parsed succeeds
    obtain ⟨printed, performed, stdout_eq⟩ := exists_perform_of_run parsed succeeds
    obtain ⟨today, day, added⟩ := perform_add_eq_ok performed
    obtain ⟨settled, accepted, rfl⟩ := add_eq_ok_iff.mp added
    refine ⟨today, settled, day, accepted, stdout_eq, fun later argument text given text_eq => ?_⟩
    rw [stdout_eq] at text_eq
    exact standsFor_json given text_eq

/-- An object that reads as a task and as a completion, and a task that is added with a title of
quotes, a backslash, control characters and characters of up to four bytes. -/
theorem hard_title_is_read_back :
    let object := "\x7b \"date\":\"\\u00320240101\",\"action\":\"reschedule\"\x7d"
    let dated := "\x7b\"date\":\"20240101\",\"title\":\"\"\x7d"
    let moved := "\x7b\"action\":\"reschedule\",\"date\":\"20240101\"\x7d"
    let around : Surroundings :=
      { today := ⟨2024, 1, 10, by decide, by decide⟩, read := fun _ => .error .missing }
    let title := "say \"hi\" \\ \x01\n\té😀"
    let settled : Task := { date := "20240110", title, repeatText := "w 1" }
    let printed := "\x7b\"date\":\"20240110\"," ++
      "\"title\":\"say \\\"hi\\\" \\\\ \\u0001\\n\\té😀\",\"repeat\":\"w 1\"\x7d\n"
    ((Task.ofJsonText? object).map Task.json = some dated ∧
        (Task.ofJsonText? dated).map Task.json = some dated) ∧
      ((Completion.ofJsonText? object).map Completion.json = some moved ∧
        (Completion.ofJsonText? moved).map Completion.json = some moved) ∧
      (run around ["add", "--title", title, "--repeat=w 1"]).stdout = printed ∧
      StandsFor { around with stdin := .ok printed } "-" settled ∧
      StandsFor around printed settled := by
  intro object dated moved
  have asTask : (Task.ofJsonText? object).map Task.json = some dated := by cbv
  have asCompletion : (Completion.ofJsonText? object).map Completion.json = some moved := by cbv
  intro around title settled printed
  have parsed : Invocation.ofArguments ["add", "--title", title, "--repeat=w 1"] =
      .ok ⟨none, .add title none none (some "w 1")⟩ := by cbv
  have accepted : (describedTask title none none (some "w 1")).normalize around.today =
      (.ok (), settled) := by
    have titled : Blank.isBlankText title = false := by cbv
    have dated : ((describedTask title none none (some "w 1")).dated around.today).settledDate
        around.today = .ok "20240110" := by cbv
    exact Task.normalize_eq_ok_iff.mpr ⟨titled, "20240110", dated, rfl⟩
  have printed_eq : settled.json ++ "\n" = printed := by cbv
  obtain ⟨-, -, tasks, completions, runs⟩ := written_records_are_read_back
  obtain ⟨today, found, day, same, stdout_eq, stands⟩ :=
    runs around ["add", "--title", title, "--repeat=w 1"] none title none none (some "w 1") parsed
      (by rw [run_add parsed rfl accepted])
  cases day
  rw [accepted] at same
  cases same
  rw [printed_eq] at stdout_eq
  refine ⟨⟨asTask, tasks object dated asTask⟩,
    ⟨asCompletion, completions object moved asCompletion⟩, stdout_eq, ?_, ?_⟩
  · exact stands { around with stdin := .ok printed } "-" printed (.inl ⟨rfl, rfl⟩)
      (.inl stdout_eq.symm)
  · exact stands around printed printed (.inr rfl) (.inl stdout_eq.symm)

end Agenda
