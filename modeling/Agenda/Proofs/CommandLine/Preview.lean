import Mathlib.Tactic
import Agenda.Proofs.CommandLine.Arguments
import Agenda.Proofs.CommandLine.PrintedTask

/-! # A preview is what happens

Four commands count next dates: one shows the next date by a rule, and the others complete, check
and add a task with this rule. Each of them checks other things in another order and prints its
result in another form, but they all succeed together and all arrive at the same date.
-/

namespace Agenda

namespace CommandLine

variable {around : Surroundings}

def previewArguments (now date rule : String) : List String :=
  ["next", optionText "now" now, optionText "date" date, optionText "repeat" rule]

def doneArguments (today argument : String) : List String :=
  ["done", optionText "today" today, argument]

def checkArguments (today argument : String) : List String :=
  ["check", optionText "today" today, argument]

def addArguments (today title date rule : String) : List String :=
  ["add", optionText "today" today, optionText "title" title, optionText "date" date,
    optionText "repeat" rule]

theorem ofArguments_preview (now date rule : String) :
    Invocation.ofArguments (previewArguments now date rule) = .ok ⟨none, .next now date rule⟩ := by
  have scanned : (commandGrammar "next").scan {}
      [optionText "now" now, optionText "date" date, optionText "repeat" rule] =
        .ok (⟨[("repeat", rule), ("date", date), ("now", now)], []⟩, none) := by
    rw [Grammar.scan_optionText (by decide) rfl rfl, Grammar.scan_optionText (by decide) rfl rfl,
      Grammar.scan_optionText (by decide) rfl rfl]
    rfl
  exact ofArguments_of_scan (by decide) (by decide) scanned rfl

theorem scan_todayAndOperand {grammar : Grammar} {argument : String}
    (h : Shape.ofArgument argument = .plain) (today : String)
    (found : grammar.switches.find? (·.name == "today") = some { name := "today" })
    (noCommands : grammar.commands = []) (fits : 0 < grammar.operands) :
    grammar.scan {} [optionText "today" today, argument] =
      .ok (⟨[("today", today)], [argument]⟩, none) := by
  rw [Grammar.scan_optionText (by decide) found rfl]
  exact Grammar.scan_onlyOperand h noCommands fits

theorem ofArguments_doneArguments {argument : String} (h : Shape.ofArgument argument = .plain)
    (today : String) :
    Invocation.ofArguments (doneArguments today argument) = .ok ⟨some today, .done argument⟩ :=
  ofArguments_of_scan (by decide) (by decide) (scan_todayAndOperand h today rfl rfl (by decide)) rfl

theorem ofArguments_checkArguments {argument : String} (h : Shape.ofArgument argument = .plain)
    (today : String) :
    Invocation.ofArguments (checkArguments today argument) =
      .ok ⟨some today, .check argument⟩ :=
  ofArguments_of_scan (by decide) (by decide) (scan_todayAndOperand h today rfl rfl (by decide)) rfl

theorem ofArguments_addArguments (today title date rule : String) :
    Invocation.ofArguments (addArguments today title date rule) =
      .ok ⟨some today, .add title (some date) none (some rule)⟩ := by
  have scanned : (commandGrammar "add").scan {}
      [optionText "today" today, optionText "title" title, optionText "date" date,
        optionText "repeat" rule] =
      .ok (⟨[("repeat", rule), ("date", date), ("title", title), ("today", today)], []⟩, none) := by
    rw [Grammar.scan_optionText (by decide) rfl rfl, Grammar.scan_optionText (by decide) rfl rfl,
      Grammar.scan_optionText (by decide) rfl rfl, Grammar.scan_optionText (by decide) rfl rfl]
    rfl
  exact ofArguments_of_scan (by decide) (by decide) scanned rfl

/-- On a day and from a date, both given as texts, a rule has a next date. -/
def CountsTo (now date rule text : String) : Prop :=
  ∃ today, Date.read now = .ok today ∧ nextDate today date rule = .ok text

variable {now date rule : String}

theorem prints_preview_iff (around : Surroundings) (hasRule : rule ≠ "") {text : String} :
    Prints (run around (previewArguments now date rule)) text ↔ CountsTo now date rule text := by
  rw [prints_iff (ofArguments_preview now date rule)]
  constructor
  · rintro ⟨_, succeeds, stdout⟩
    cases succeeds with
    | next _ read counted =>
        rw [String.append_left_inj] at stdout
        exact ⟨_, read, stdout ▸ counted⟩
  · rintro ⟨today, read, counted⟩
    exact ⟨_, .next hasRule read counted, rfl⟩

theorem preview_succeeds_iff (around : Surroundings) (hasRule : rule ≠ "") :
    (run around (previewArguments now date rule)).status = 0 ↔
      ∃ text, CountsTo now date rule text := by
  simp only [← prints_preview_iff around hasRule]
  constructor
  · intro succeeds
    obtain ⟨_, performed, stdout⟩ := exists_perform_of_run (ofArguments_preview now date rule) succeeds
    cases perform_eq_ok_iff.mp performed with
    | next => exact ⟨_, succeeds, stdout⟩
  · rintro ⟨text, succeeds, -⟩
    exact succeeds

variable {argument : String} {task : Task}

/-- Completing a task that comes back prints the day it is moved to. -/
theorem prints_done_iff (given : GivesTask around argument task)
    (recurring : task.isRecurring = true) {text : String} :
    Prints (run around (doneArguments now argument)) (Completion.reschedule text).json ↔
      CountsTo now task.date task.repeatText text := by
  rw [prints_iff (ofArguments_doneArguments given.plain now)]
  constructor
  · rintro ⟨_, succeeds, stdout⟩
    cases succeeds with
    | done day read completes =>
        rw [given.read] at read
        cases read
        rw [String.append_left_inj] at stdout
        obtain rfl := Completion.json_injective stdout
        obtain ⟨_, counted, same⟩ := (Task.complete_eq_ok_iff recurring).mp completes
        cases same
        exact ⟨_, referenceDay_some_eq_ok_iff.mp day, counted⟩
  · rintro ⟨today, read, counted⟩
    have completes := (Task.complete_eq_ok_iff recurring).mpr ⟨text, counted, rfl⟩
    exact ⟨_, .done (referenceDay_some_eq_ok_iff.mpr read) given.read completes, rfl⟩

theorem prints_check_iff (given : GivesTask around argument task)
    (hasId : Blank.isBlankText task.id = false) (hasTitle : Blank.isBlankText task.title = false) :
    Prints (run around (checkArguments now argument)) "ok" ↔
      ∃ text, CountsTo now task.date task.repeatText text := by
  rw [prints_iff (ofArguments_checkArguments given.plain now)]
  constructor
  · rintro ⟨_, succeeds, -⟩
    cases succeeds with
    | check day read accepted =>
        rw [given.read] at read
        cases read
        obtain ⟨-, -, _, text, -, counted⟩ := Task.validateUpdate_eq_ok_iff.mp accepted
        exact ⟨text, _, referenceDay_some_eq_ok_iff.mp day, counted⟩
  · rintro ⟨text, today, read, counted⟩
    obtain ⟨due, -, -, readDue, -⟩ := nextDate_eq_ok_iff.mp counted
    have accepted := Task.validateUpdate_eq_ok_iff.mpr ⟨hasId, hasTitle, due, text, readDue, counted⟩
    exact ⟨_, .check (referenceDay_some_eq_ok_iff.mpr read) given.read accepted, rfl⟩

theorem prints_add_iff {title : String} (hasRule : rule ≠ "")
    (hasTitle : Blank.isBlankText title = false) {today due : Date} (readNow : Date.read now = .ok today)
    (readDate : Date.read date = .ok due) (overdue : due < today) {settled : Task} :
    Prints (run around (addArguments now title date rule)) settled.json ↔
      ∃ text, CountsTo now date rule text ∧
        settled = { title, date := text, repeatText := rule } := by
  have recurring : (describedTask title (some date) none (some rule)).isRecurring = true := by
    simpa [Task.isRecurring, describedTask] using hasRule
  have accepts : (describedTask title (some date) none (some rule)).normalize today =
      (.ok (), settled) ↔ Blank.isBlankText title = false ∧
        ∃ text, nextDate today date rule = .ok text ∧
          settled = { title, date := text, repeatText := rule } :=
    Task.normalize_overdue_eq_ok_iff recurring readDate overdue
  rw [prints_iff (ofArguments_addArguments now title date rule)]
  constructor
  · rintro ⟨_, succeeds, stdout⟩
    cases succeeds with
    | add day accepted =>
        rw [String.append_left_inj] at stdout
        obtain rfl := Task.json_injective stdout
        rw [referenceDay_some_eq_ok_iff, readNow] at day
        cases day
        obtain ⟨-, text, counted, same⟩ := accepts.mp accepted
        exact ⟨text, ⟨today, readNow, counted⟩, same⟩
  · rintro ⟨text, ⟨_, read, counted⟩, same⟩
    rw [readNow] at read
    cases read
    have accepted := accepts.mpr ⟨hasTitle, text, counted, same⟩
    exact ⟨_, .add (referenceDay_some_eq_ok_iff.mpr readNow) accepted, rfl⟩

end CommandLine

open CommandLine

/-- Showing the next date by a rule and completing a task with this date and this rule arrive at the
    same date, and checking the task finds it fine exactly if there is one. An overdue task that is
    added is given this date, so adding it fails where there is no next date to show. -/
theorem preview_is_what_happens (around : Surroundings) (now date rule id title comment : String)
    (hasRule : rule ≠ "") (hasId : Blank.isBlankText id = false)
    (hasTitle : Blank.isBlankText title = false) :
    let task : Task := { id, date, title, comment, repeatText := rule }
    let preview := run around (previewArguments now date rule)
    GivesTask around task.json task ∧
      (∀ argument, GivesTask around argument task →
        (∀ text, Prints preview text ↔
          Prints (run around (doneArguments now argument)) (Completion.reschedule text).json) ∧
        (preview.status = 0 ↔ Prints (run around (checkArguments now argument)) "ok")) ∧
      ∀ today due, Date.read now = .ok today → Date.read date = .ok due → due < today →
        (∀ text, Prints preview text ↔ ∃ added : Task, added.date = text ∧
          Prints (run around (addArguments now title date rule)) added.json) ∧
        (preview.status ≠ 0 → (run around (addArguments now title date rule)).status = 1) := by
  intro task preview
  have recurring : task.isRecurring = true := by
    simpa [Task.isRecurring, task] using hasRule
  refine ⟨givesTask_json around task, fun argument given => ⟨fun text => ?_, ?_⟩,
    fun today due readNow readDate overdue => ?_⟩
  · rw [prints_preview_iff around hasRule, prints_done_iff given recurring]
  · rw [preview_succeeds_iff around hasRule, prints_check_iff given hasId hasTitle]
  · have addPrints (added : Task) :
        Prints (run around (addArguments now title date rule)) added.json ↔
          ∃ text, CountsTo now date rule text ∧
            added = { title, date := text, repeatText := rule } :=
      prints_add_iff hasRule hasTitle readNow readDate overdue
    have same (text : String) : Prints preview text ↔ ∃ added : Task, added.date = text ∧
        Prints (run around (addArguments now title date rule)) added.json := by
      simp only [addPrints]
      rw [prints_preview_iff around hasRule]
      constructor
      · intro counts
        exact ⟨_, rfl, text, counts, rfl⟩
      · rintro ⟨_, rfl, text, counts, rfl⟩
        exact counts
    refine ⟨same, fun noPreview => ?_⟩
    have parsed := ofArguments_addArguments now title date rule
    refine status_eq_one_of_ne_zero parsed fun succeeds => noPreview ?_
    obtain ⟨_, performed, stdout⟩ := exists_perform_of_run parsed succeeds
    cases perform_eq_ok_iff.mp performed with
    | @add _ _ _ _ _ _ settled => exact ((same settled.date).mpr ⟨settled, rfl, succeeds, stdout⟩).1

/-- A task for the last day of each month that is two months late, and one whose day no month has. -/
theorem lastDay_preview_is_what_happens :
    let around : Surroundings :=
      { today := ⟨2024, 1, 1, by decide, by decide⟩, read := fun _ => .error .missing }
    let rent : Task := { id := "7", date := "20231231", title := "rent", repeatText := "m -1" }
    Prints (run around (previewArguments "20240210" "20231231" "m -1")) "20240229" ∧
      Prints (run around (doneArguments "20240210" rent.json))
        "\x7b\"action\":\"reschedule\",\"date\":\"20240229\"\x7d" ∧
      Prints (run around (checkArguments "20240210" rent.json)) "ok" ∧
      (∃ added : Task, added.date = "20240229" ∧
        Prints (run around (addArguments "20240210" "rent" "20231231" "m -1")) added.json) ∧
      (run around (addArguments "20240210" "rent" "20231231" "m 32")).status = 1 := by
  intro around rent
  have hasId : Blank.isBlankText "7" = false := by cbv
  have hasTitle : Blank.isBlankText "rent" = false := by cbv
  have readNow : Date.read "20240210" = .ok ⟨2024, 2, 10, by decide, by decide⟩ := by cbv
  have readDate : Date.read "20231231" = .ok ⟨2023, 12, 31, by decide, by decide⟩ := by cbv
  have counted : nextDate ⟨2024, 2, 10, by decide, by decide⟩ "20231231" "m -1" =
      .ok "20240229" := by cbv
  have refused : Rule.ofText "m 32" = .error (.invalidRuleValue .monthDay "32") := by cbv
  have moved : (Completion.reschedule "20240229").json =
      "\x7b\"action\":\"reschedule\",\"date\":\"20240229\"\x7d" := by cbv
  have preview : Prints (run around (previewArguments "20240210" "20231231" "m -1")) "20240229" :=
    (prints_preview_iff around (by decide)).mpr ⟨_, readNow, counted⟩
  have noPreview : (run around (previewArguments "20240210" "20231231" "m 32")).status ≠ 0 := by
    rw [ne_eq, preview_succeeds_iff around (by decide)]
    rintro ⟨text, today, -, counted⟩
    obtain ⟨due, rule, next, -, parsed, -⟩ := nextDate_eq_ok_iff.mp counted
    rw [refused] at parsed
    cases parsed
  obtain ⟨given, agree, late⟩ := preview_is_what_happens around "20240210" "20231231" "m -1" "7"
    "rent" "" (by decide) hasId hasTitle
  obtain ⟨completes, accepts⟩ := agree rent.json given
  obtain ⟨adds, -⟩ := late _ _ readNow readDate (by decide)
  obtain ⟨-, -, neverLate⟩ := preview_is_what_happens around "20240210" "20231231" "m 32" "7"
    "rent" "" (by decide) hasId hasTitle
  obtain ⟨-, refuses⟩ := neverLate _ _ readNow readDate (by decide)
  exact ⟨preview, moved ▸ (completes _).mp preview, accepts.mp preview.1, (adds _).mp preview,
    refuses noPreview⟩

end Agenda
