import Mathlib.Tactic
import Agenda.Task.Basic
import Agenda.Proofs.Recurrence.NextDate

/-! # Completing a task

A task that does not come back is deleted. One that does is rescheduled to the next date, counted
by its rule from its date; of the task itself only the date changes.
-/

namespace Agenda.Task

theorem complete_of_oneOff {task : Task} (h : task.isRecurring = false) (today : Date) :
    task.complete today = .ok .delete := by
  simp only [complete, h, Bool.false_eq_true, if_false]
  rfl

theorem complete_of_recurring {task : Task} (h : task.isRecurring = true) (today : Date) :
    task.complete today = (task.nextDate today).map .reschedule := by
  simp only [complete, h, if_true]
  rfl

theorem nextDate_eq_ok_iff {task : Task} {today : Date} {text : String} :
    task.nextDate today = .ok text ↔
      Agenda.nextDate today task.date task.repeatText = .ok text := by
  unfold nextDate
  split
  · next eq => rw [eq]
  · next eq => simp [eq]

theorem complete_eq_ok_iff {task : Task} (h : task.isRecurring = true) {today : Date}
    {completion : Completion} :
    task.complete today = .ok completion ↔
      ∃ text, Agenda.nextDate today task.date task.repeatText = .ok text ∧
        completion = .reschedule text := by
  simp only [← nextDate_eq_ok_iff, complete_of_recurring h]
  cases task.nextDate today with
  | error => simp [Except.map]
  | ok text => simp [Except.map, eq_comm]

@[simp] theorem apply_repeatText (task : Task) (completion : Completion) :
    (task.apply completion).repeatText = task.repeatText := by
  cases completion <;> rfl

@[simp] theorem apply_isRecurring (task : Task) (completion : Completion) :
    (task.apply completion).isRecurring = task.isRecurring := by
  rw [isRecurring, isRecurring, apply_repeatText]

theorem complete_eq_ok_iff_occurrence {task : Task} (h : task.isRecurring = true) {today : Date}
    {completion : Completion} :
    task.complete today = .ok completion ↔
      ∃ due rule next, Date.read task.date = .ok due ∧ task.rule = .ok rule ∧
        Recurrence.occurrence today due rule = .ok next ∧ completion = .reschedule next.text := by
  simp only [complete_eq_ok_iff h, Agenda.nextDate_eq_ok_iff, rule]
  constructor
  · rintro ⟨_, ⟨due, rule, next, read, parsed, found, rfl⟩, eq⟩
    exact ⟨due, rule, next, read, parsed, found, eq⟩
  · rintro ⟨due, rule, next, read, parsed, found, eq⟩
    exact ⟨_, ⟨due, rule, next, read, parsed, found, rfl⟩, eq⟩

theorem apply_apply_reschedule (task : Task) (completion : Completion) (text : String) :
    (task.apply completion).apply (.reschedule text) = task.apply (.reschedule text) := by
  cases completion <;> rfl

theorem isStorable_of_complete {task : Task} (recurring : task.isRecurring = true) {today due : Date}
    {completion : Completion} (due_eq : task.date = due.text)
    (h : task.complete today = .ok completion) : due.IsStorable := by
  obtain ⟨date, -, -, read, -⟩ := (complete_eq_ok_iff_occurrence recurring).mp h
  rw [due_eq] at read
  obtain ⟨same, storable⟩ := Date.read_eq_ok_iff.mp read
  rwa [Date.eq_of_text_eq storable same] at storable

end Agenda.Task
