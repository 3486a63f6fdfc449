import Mathlib.Tactic
import Agenda.Proofs.Task.Complete
import Agenda.Proofs.Text.Blank

/-! # Tasks that are accepted

When a new task gets its date and which one, and when an edited task passes its check. Both need a
title, and neither changes anything but the date.
-/

namespace Agenda

theorem Date.ne_empty_of_read {text : String} {d : Date} (read : Date.read text = .ok d) :
    text ≠ "" := by
  rintro rfl
  cases read

namespace Task

variable {task settled : Task} {today : Date}

/-- The task with a date: its own, or today if it has none. -/
def dated (task : Task) (today : Date) : Task :=
  if task.date.isEmpty then { task with date := today.text } else task

theorem dated_of_given (given : task.date ≠ "") (today : Date) : task.dated today = task := by
  simp [dated, given]

theorem settledDate_eq_ok_iff {date : String} :
    task.settledDate today = .ok date ↔
      ∃ due, Date.read task.date = .ok due ∧
        if due < today then
          if task.isRecurring then task.nextDate today = .ok date else date = today.text
        else
          date = due.text := by
  rw [settledDate, Error.bind_eq_ok_iff]
  refine exists_congr fun due => and_congr_right fun _ => ?_
  split
  · split
    · rfl
    · simp [pure, Except.pure, eq_comm]
  · simp [pure, Except.pure, eq_comm]

theorem withDate_dated (task : Task) (today : Date) (date : String) :
    { task.dated today with date } = { task with date } := by
  unfold dated
  split <;> rfl

theorem normalize_eq (task : Task) (today : Date) :
    task.normalize today =
      if Blank.isBlankText task.title then (.error .missingTitle, task)
      else
        match (task.dated today).settledDate today with
        | .ok date => (.ok (), { task.dated today with date })
        | .error error => (.error error, task.dated today) := rfl

theorem normalize_eq_ok_iff :
    task.normalize today = (.ok (), settled) ↔
      Blank.isBlankText task.title = false ∧
        ∃ date, (task.dated today).settledDate today = .ok date ∧ settled = { task with date } := by
  rw [normalize_eq]
  split
  · next blank => simp [blank]
  · next notBlank =>
      split
      · next date settles => simp [notBlank, settles, withDate_dated, eq_comm]
      · next error fails => simp [fails]

/-- A new task that is refused for anything but its title is left with a date filled in. -/
theorem normalize_eq_error_iff {error : Error} {left : Task} :
    task.normalize today = (.error error, left) ↔
      (Blank.isBlankText task.title = true ∧ error = .missingTitle ∧ left = task) ∨
        (Blank.isBlankText task.title = false ∧
          (task.dated today).settledDate today = .error error ∧ left = task.dated today) := by
  rw [normalize_eq]
  split
  · next blank => simp [blank, eq_comm]
  · next notBlank =>
      split
      · next date settles => simp [notBlank, settles]
      · next error fails => simp [notBlank, fails, eq_comm]

theorem normalize_overdue_eq_ok_iff {due : Date} (recurring : task.isRecurring = true)
    (read : Date.read task.date = .ok due) (overdue : due < today) :
    task.normalize today = (.ok (), settled) ↔
      Blank.isBlankText task.title = false ∧
        ∃ date, Agenda.nextDate today task.date task.repeatText = .ok date ∧
          settled = { task with date } := by
  have settles (date : String) :
      (task.dated today).settledDate today = .ok date ↔ task.nextDate today = .ok date := by
    rw [dated_of_given (Date.ne_empty_of_read read)]
    simp [settledDate_eq_ok_iff, read, overdue, recurring]
  simp only [normalize_eq_ok_iff, settles, nextDate_eq_ok_iff]

/-- An edited task passes its check if it has an identifier, a title, a date that can be read, and
a rule that counts a next date from it. -/
theorem validateUpdate_eq_ok_iff :
    task.validateUpdate today = .ok () ↔
      Blank.isBlankText task.id = false ∧ Blank.isBlankText task.title = false ∧
        ∃ due text, Date.read task.date = .ok due ∧
          Agenda.nextDate today task.date task.repeatText = .ok text := by
  simp only [validateUpdate]
  split
  · next blank => simp [blank, throw, throwThe, MonadExceptOf.throw, bind, Except.bind]
  · next hasId =>
      split
      · next blank => simp [blank, throw, throwThe, MonadExceptOf.throw, bind, Except.bind]
      · next titled =>
          rw [Bool.not_eq_true] at hasId titled
          simp only [hasId, titled, true_and, Error.bind_eq_ok_iff, nextDate_eq_ok_iff]
          constructor
          · rintro ⟨due, read, text, counted, -⟩
            exact ⟨due, text, read, counted⟩
          · rintro ⟨due, text, read, counted⟩
            exact ⟨due, read, text, counted, rfl⟩

end Task

end Agenda
