import Mathlib.Tactic
import Agenda.Proofs.Recurrence.Preview
import Agenda.Proofs.Task.Accepted

/-! # Settling the date of a new task

A new task is refused for the lack of a title, for a date that cannot be read, or because it is
overdue and its rule gives no next date, in this order, and then it stays as it was. The date that
an accepted one gets has not passed, and settling it again changes nothing until it has.
-/

namespace Agenda

namespace Task

variable {task settled left : Task} {today due : Date} {error : Error}

theorem isRecurring_iff : task.isRecurring = true ↔ task.repeatText ≠ "" := by
  simp [isRecurring]

theorem nextDate_eq_error_iff :
    task.nextDate today = .error error ↔
      ∃ cause, Agenda.nextDate today task.date task.repeatText = .error cause ∧
        error = .malformedRepeat cause := by
  unfold nextDate
  split
  · next ok => simp [ok]
  · next fails => simp [fails, eq_comm]

/-- Why a new task is refused. -/
inductive Refused (task : Task) (today : Date) : Error → Prop
  | untitled (blank : Blank.trim task.title.toList = []) : Refused task today .missingTitle
  | misdated (titled : Blank.trim task.title.toList ≠ []) (given : task.date ≠ "")
      (unread : ¬ ∃ due, Date.read task.date = .ok due) :
      Refused task today (.invalidDate task.date)
  | uncounted {due : Date} {cause : Error} (titled : Blank.trim task.title.toList ≠ [])
      (read : Date.read task.date = .ok due) (overdue : due < today)
      (recurring : task.repeatText ≠ "")
      (fails : Agenda.nextDate today task.date task.repeatText = .error cause) :
      Refused task today (.malformedRepeat cause)

theorem settledDate_eq_error_iff :
    task.settledDate today = .error error ↔
      ((¬ ∃ due, Date.read task.date = .ok due) ∧ error = .invalidDate task.date) ∨
        ∃ due, Date.read task.date = .ok due ∧ due < today ∧ task.repeatText ≠ "" ∧
          ∃ cause, Agenda.nextDate today task.date task.repeatText = .error cause ∧
            error = .malformedRepeat cause := by
  rw [settledDate, Error.bind_eq_error_iff]
  refine or_congr ?_ (exists_congr fun due => and_congr_right fun _ => ?_)
  · rw [Date.read]
    cases Date.ofText? task.date <;> simp [Error.whenNone, eq_comm]
  · rw [← nextDate_eq_error_iff, ← isRecurring_iff]
    split
    · next overdue =>
        split
        · next recurring => simp [overdue, recurring]
        · next oneOff => simp [oneOff, pure, Except.pure]
    · next notPast => simp [notPast, pure, Except.pure]

theorem settledDate_dated_of_empty (storable : today.IsStorable) (empty : task.date = "") :
    (task.dated today).settledDate today = .ok today.text := by
  have filledIn : (task.dated today).date = today.text := by simp [dated, empty]
  refine settledDate_eq_ok_iff.mpr ⟨today, ?_, ?_⟩
  · rw [filledIn]
    exact Date.read_eq_ok_iff.mpr ⟨rfl, storable⟩
  · rw [if_neg (lt_irrefl today)]

/-- A task whose date was filled in is not refused any more, so a refused one is left as it was. -/
theorem normalize_eq_error_iff_refused (storable : today.IsStorable) :
    task.normalize today = (.error error, left) ↔ task.Refused today error ∧ left = task := by
  rw [normalize_eq_error_iff]
  constructor
  · rintro (⟨blank, rfl, rfl⟩ | ⟨notBlank, fails, rfl⟩)
    · exact ⟨.untitled (Blank.isBlankText_iff.mp blank), rfl⟩
    · have titled := Blank.isBlankText_eq_false_iff.mp notBlank
      have given : task.date ≠ "" := by
        intro empty
        rw [settledDate_dated_of_empty storable empty] at fails
        cases fails
      rw [dated_of_given given] at fails ⊢
      obtain ⟨unread, rfl⟩ | ⟨due, read, overdue, recurring, cause, uncounted, rfl⟩ :=
        settledDate_eq_error_iff.mp fails
      · exact ⟨.misdated titled given unread, rfl⟩
      · exact ⟨.uncounted titled read overdue recurring uncounted, rfl⟩
  · rintro ⟨refused, eq⟩
    have leaves (titled : Blank.trim task.title.toList ≠ []) (given : task.date ≠ "")
        (fails : task.settledDate today = .error error) :
        Blank.isBlankText task.title = false ∧
          (task.dated today).settledDate today = .error error ∧ left = task.dated today := by
      rw [dated_of_given given]
      exact ⟨Blank.isBlankText_eq_false_iff.mpr titled, fails, eq⟩
    cases refused with
    | untitled blank => exact .inl ⟨Blank.isBlankText_iff.mpr blank, rfl, eq⟩
    | misdated titled given unread =>
        exact .inr (leaves titled given (settledDate_eq_error_iff.mpr (.inl ⟨unread, rfl⟩)))
    | uncounted titled read overdue recurring fails =>
        refine .inr (leaves titled (Date.ne_empty_of_read read) ?_)
        exact settledDate_eq_error_iff.mpr (.inr ⟨_, read, overdue, recurring, _, fails, rfl⟩)

theorem normalize_error_iff (storable : today.IsStorable) :
    (task.normalize today).1 = .error error ↔ task.Refused today error := by
  constructor
  · intro h
    exact ((normalize_eq_error_iff_refused storable).mp (Prod.ext h rfl)).1
  · intro refused
    rw [(normalize_eq_error_iff_refused storable).mpr ⟨refused, rfl⟩]

/-- A new task is refused for exactly three reasons, each of which excludes the next: it has no title
    but blanks, or else a date is given that cannot be read, or else it is overdue and its rule gives
    no next date. A refused task is left as it was, and of an accepted one only the date changes. -/
theorem normalize_refuses_for_its_reasons (task : Task) {today : Date}
    (storable : today.IsStorable) :
    ((task.normalize today).1 = .error .missingTitle ↔ Blank.trim task.title.toList = []) ∧
      (∀ text, (task.normalize today).1 = .error (.invalidDate text) ↔
        Blank.trim task.title.toList ≠ [] ∧ task.date ≠ "" ∧
          (¬ ∃ due, Date.read task.date = .ok due) ∧ text = task.date) ∧
      (∀ cause, (task.normalize today).1 = .error (.malformedRepeat cause) ↔
        Blank.trim task.title.toList ≠ [] ∧ ∃ due, Date.read task.date = .ok due ∧ due < today ∧
          task.repeatText ≠ "" ∧ Agenda.nextDate today task.date task.repeatText = .error cause) ∧
      ((task.normalize today).1 = .ok () ∨ (task.normalize today).1 = .error .missingTitle ∨
        (task.normalize today).1 = .error (.invalidDate task.date) ∨
        ∃ cause, (task.normalize today).1 = .error (.malformedRepeat cause)) ∧
      (∀ error, (task.normalize today).1 = .error error → (task.normalize today).2 = task) ∧
      ((task.normalize today).1 = .ok () →
        ∃ date, (task.normalize today).2 = { task with date }) := by
  have error_iff (error : Error) :
      (task.normalize today).1 = .error error ↔ task.Refused today error :=
    normalize_error_iff storable
  refine ⟨?_, fun text => ?_, fun cause => ?_, ?_, fun error refused => ?_, fun accepted => ?_⟩
  · rw [error_iff]
    constructor
    · rintro ⟨blank⟩
      exact blank
    · exact .untitled
  · rw [error_iff]
    constructor
    · intro refused
      cases refused with
      | misdated titled given unread => exact ⟨titled, given, unread, rfl⟩
    · rintro ⟨titled, given, unread, rfl⟩
      exact .misdated titled given unread
  · rw [error_iff]
    constructor
    · intro refused
      cases refused with
      | uncounted titled read overdue recurring fails =>
          exact ⟨titled, _, read, overdue, recurring, fails⟩
    · rintro ⟨titled, due, read, overdue, recurring, fails⟩
      exact .uncounted titled read overdue recurring fails
  · cases outcome : (task.normalize today).1 with
    | ok => exact .inl rfl
    | error error =>
        cases (error_iff error).mp outcome with
        | untitled => exact .inr (.inl rfl)
        | misdated => exact .inr (.inr (.inl rfl))
        | uncounted => exact .inr (.inr (.inr ⟨_, rfl⟩))
  · exact ((normalize_eq_error_iff_refused storable).mp (Prod.ext refused rfl)).2
  · obtain ⟨-, date, -, eq⟩ := normalize_eq_ok_iff.mp (Prod.ext accepted rfl)
    exact ⟨date, eq⟩

/-- A rule with a missing and an impossible day, on an overdue task and on one without a date. -/
theorem broken_rule_is_refused_when_overdue :
    let today : Date := ⟨2024, 6, 1, by decide, by decide⟩
    let task : Task := { title := "rent", date := "20240131", repeatText := "m 1,,40" }
    let cause : Error := .invalidRuleValue .monthDay ""
    let undated : Task := { title := "rent", repeatText := "m 1,,40" }
    today.IsStorable ∧
      ((task.normalize today).1 = .error (.malformedRepeat cause) ∧
        (task.normalize today).2 = task) ∧
      (undated.normalize today).1 = .ok () ∧
        ∃ date, (undated.normalize today).2 = { undated with date } := by
  intro today task cause undated
  have storable : today.IsStorable := by decide
  have titled : Blank.trim task.title.toList ≠ [] :=
    Blank.isBlankText_eq_false_iff.mp (by cbv)
  have read : Date.read task.date = .ok ⟨2024, 1, 31, by decide, by decide⟩ := by cbv
  have uncounted : Agenda.nextDate today task.date task.repeatText = .error cause := by cbv
  have accepted : (undated.normalize today).1 = .ok () := by cbv
  obtain ⟨-, -, refuses, -, unchanged, -⟩ := normalize_refuses_for_its_reasons task storable
  obtain ⟨-, -, -, -, -, redated⟩ := normalize_refuses_for_its_reasons undated storable
  have refused := (refuses cause).mpr ⟨titled, _, read, by decide, by decide, uncounted⟩
  exact ⟨storable, ⟨refused, unchanged _ refused⟩, accepted, redated accepted⟩

theorem exists_current_of_nextDate {date : String} (recurring : task.isRecurring = true)
    (h : task.nextDate today = .ok date) : ∃ due : Date, date = due.text ∧ today ≤ due := by
  obtain ⟨due, rule, next, -, parsed, found, rfl⟩ :=
    Agenda.nextDate_eq_ok_iff.mp (nextDate_eq_ok_iff.mp h)
  have isChecked := (Rule.isChecked_of_ofText parsed).1
  have notOnce : rule ≠ .once :=
    mt (Rule.eq_empty_iff_of_ofText parsed).mp (isRecurring_iff.mp recurring)
  exact ⟨next, rfl, (Recurrence.notReached_of_occurrence isChecked notOnce found).le⟩

theorem exists_current_of_settledDate {date : String} (h : task.settledDate today = .ok date) :
    ∃ due : Date, date = due.text ∧ today ≤ due ∧ 0 ≤ due.year := by
  obtain ⟨due, read, settled⟩ := settledDate_eq_ok_iff.mp h
  have notNegative := (Date.read_eq_ok_iff.mp read).2.1
  split at settled
  · next overdue =>
      have later {d : Date} (current : today ≤ d) : 0 ≤ d.year :=
        notNegative.trans (Date.year_le_of_lt (lt_of_lt_of_le overdue current))
      split at settled
      · next recurring =>
          obtain ⟨next, eq, current⟩ := exists_current_of_nextDate recurring settled
          exact ⟨next, eq, current, later current⟩
      · exact ⟨today, settled, le_rfl, later le_rfl⟩
  · next notPast => exact ⟨due, settled, not_lt.mp notPast, notNegative⟩

theorem normalize_of_current (titled : Blank.isBlankText task.title = false)
    (read : Date.read task.date = .ok due) (current : today ≤ due) :
    task.normalize today = (.ok (), task) := by
  refine normalize_eq_ok_iff.mpr ⟨titled, due.text, ?_, ?_⟩
  · rw [dated_of_given (Date.ne_empty_of_read read)]
    exact settledDate_eq_ok_iff.mpr ⟨due, read, by rw [if_neg (not_lt.mpr current)]⟩
  · rw [(Date.read_eq_ok_iff.mp read).1]

/-- The date of an accepted task is that of a day from the reference day on. As long as this day can
    be stored and has not passed, the task is accepted again and stays as it is. -/
theorem settled_date_is_current_and_stays (h : task.normalize today = (.ok (), settled)) :
    ∃ due : Date, settled.date = due.text ∧ today ≤ due ∧
      (due.year ≤ 9999 → ∀ later : Date, later ≤ due →
        settled.normalize later = (.ok (), settled)) := by
  obtain ⟨titled, date, settles, rfl⟩ := normalize_eq_ok_iff.mp h
  obtain ⟨due, rfl, current, notNegative⟩ := exists_current_of_settledDate settles
  refine ⟨due, rfl, current, fun inRange later notPassed => ?_⟩
  have read : Date.read due.text = .ok due := Date.read_eq_ok_iff.mpr ⟨rfl, notNegative, inRange⟩
  exact normalize_of_current titled read notPassed

/-- A task for leap days from the year 0, settled in 2021 and again on the next leap day. -/
theorem ancient_leapDay_is_settled_once :
    let today : Date := ⟨2021, 3, 1, by decide, by decide⟩
    let leapDay : Date := ⟨2024, 2, 29, by decide, by decide⟩
    let task : Task := { title := "leap", date := "00000229", repeatText := "m 29 2" }
    let settled : Task := { task with date := "20240229" }
    task.normalize today = (.ok (), settled) ∧ settled.date = leapDay.text ∧ today ≤ leapDay ∧
      leapDay.year ≤ 9999 ∧ settled.normalize leapDay = (.ok (), settled) := by
  intro today leapDay task settled
  have accepted : task.normalize today = (.ok (), settled) := by cbv
  have inRange : leapDay.year ≤ 9999 := by decide
  have text : settled.date = leapDay.text := by cbv
  obtain ⟨due, eq, current, stays⟩ := settled_date_is_current_and_stays accepted
  obtain rfl := Date.eq_of_text_eq (by decide) (text.symm.trans eq)
  exact ⟨accepted, text, current, inRange, stays inRange leapDay le_rfl⟩

end Task

end Agenda
