import Mathlib
import Agenda.Proofs.Task.Accepted

/-! # A task that was accepted can always be completed

Whether a rule gives a next date depends neither on the reference day nor on the date it is counted
from. So a task that passed the check once stays completable, as long as its date can be read.
-/

namespace Agenda

theorem Date.hasRoom_of_isStorable {d : Date} (h : d.IsStorable) : d.HasRoom := by
  have := h.2
  simp only [HasRoom]
  omega

/-- Of two reference days with storable dates, both give a next date or both give the same error. -/
theorem nextDate_same_outcome (anchor rule : String) {now later : Date} (nowRoom : now.HasRoom)
    (laterRoom : later.HasRoom) :
    (∃ date laterDate, nextDate now anchor rule = .ok date ∧
        nextDate later anchor rule = .ok laterDate) ∨
      ∃ error, nextDate now anchor rule = .error error ∧
        nextDate later anchor rule = .error error := by
  cases read : Date.read anchor with
  | error error =>
      refine Or.inr ⟨error, ?_, ?_⟩ <;> rw [nextDate, read] <;> rfl
  | ok due =>
      cases parsed : Rule.ofText rule with
      | error error =>
          refine Or.inr ⟨error, ?_, ?_⟩ <;> rw [nextDate, read, parsed] <;> rfl
      | ok checked =>
          obtain ⟨isChecked, hasDays⟩ := Rule.isChecked_of_ofText parsed
          have room := Date.hasRoom_of_isStorable (Date.read_eq_ok_iff.mp read).2
          rw [nextDate_of_read read parsed, nextDate_of_read read parsed]
          rcases Recurrence.occurrence_everywhere_or_nowhere isChecked hasDays with
            everywhere | ⟨error, nowhere⟩
          · obtain ⟨date, found⟩ := everywhere now due nowRoom room
            obtain ⟨laterDate, laterFound⟩ := everywhere later due laterRoom room
            rw [found, laterFound]
            exact Or.inl ⟨_, _, rfl, rfl⟩
          · rw [nowhere now due, nowhere later due]
            exact Or.inr ⟨error, rfl, rfl⟩

namespace Task

/-- One task becomes another when it is completed any number of times, each time on any day. -/
inductive Reaches (task : Task) : Task → Prop
  | start : Reaches task task
  | complete {current : Task} {today : Date} {completion : Completion} (run : Reaches task current)
      (done : current.complete today = .ok completion) : Reaches task (current.apply completion)

/-- The task's rule gives a next date from wherever there is room for one. -/
def HasNextDates (task : Task) : Prop :=
  ∃ checked, Rule.ofText task.repeatText = .ok checked ∧
    ∀ now anchor : Date, now.HasRoom → anchor.HasRoom →
      ∃ next, Recurrence.occurrence now anchor checked = .ok next

/-- What every completion keeps: the date is the stored form of a date with no negative year, and
    the rule gives next dates. -/
structure Completable (task : Task) : Prop where
  dated : ∃ due : Date, task.date = due.text ∧ 0 ≤ due.year
  hasNextDates : task.HasNextDates

theorem hasNextDates_of_nextDate {task : Task} {today : Date} {text : String}
    (h : Agenda.nextDate today task.date task.repeatText = .ok text) : task.HasNextDates := by
  obtain ⟨due, checked, next, -, parsed, found, -⟩ := Agenda.nextDate_eq_ok_iff.mp h
  obtain ⟨isChecked, hasDays⟩ := Rule.isChecked_of_ofText parsed
  rcases Recurrence.occurrence_everywhere_or_nowhere isChecked hasDays with
    everywhere | ⟨error, nowhere⟩
  · exact ⟨checked, parsed, everywhere⟩
  · rw [nowhere today due] at found
    cases found

theorem completable_of_validateUpdate {task : Task} {today : Date}
    (h : task.validateUpdate today = .ok ()) :
    task.Completable ∧ ∃ due : Date, task.date = due.text ∧ due.IsStorable := by
  obtain ⟨-, -, due, text, read, counted⟩ := validateUpdate_eq_ok_iff.mp h
  obtain ⟨eq, storable⟩ := Date.read_eq_ok_iff.mp read
  exact ⟨⟨⟨due, eq.symm, storable.1⟩, hasNextDates_of_nextDate counted⟩, due, eq.symm, storable⟩

theorem Completable.apply {task : Task} (h : task.Completable) {today : Date}
    {completion : Completion} (done : task.complete today = .ok completion) :
    (task.apply completion).Completable := by
  refine ⟨?_, by simpa only [HasNextDates, apply_repeatText] using h.hasNextDates⟩
  cases recurring : task.isRecurring with
  | false =>
      rw [complete_of_oneOff recurring] at done
      cases done
      exact h.dated
  | true =>
      obtain ⟨due, rule, next, read, parsed, found, rfl⟩ :=
        (complete_eq_ok_iff_occurrence recurring).mp done
      have storable := (Date.read_eq_ok_iff.mp read).2
      have forward :=
        Recurrence.year_le_of_occurrence (Rule.isChecked_of_ofText parsed).1 found
      exact ⟨next, rfl, storable.1.trans forward⟩

theorem Reaches.completable {task current : Task} (run : task.Reaches current)
    (h : task.Completable) : current.Completable := by
  induction run with
  | start => exact h
  | complete _ done ih => exact ih.apply done

theorem Completable.exists_complete {task : Task} (h : task.Completable) {due now : Date}
    (due_eq : task.date = due.text) (storable : due.IsStorable) (nowRoom : now.HasRoom) :
    ∃ completion, task.complete now = .ok completion := by
  cases recurring : task.isRecurring with
  | false => exact ⟨.delete, complete_of_oneOff recurring now⟩
  | true =>
      obtain ⟨checked, parsed, everywhere⟩ := h.hasNextDates
      obtain ⟨next, found⟩ := everywhere now due nowRoom (Date.hasRoom_of_isStorable storable)
      have read := Date.read_eq_ok_iff.mpr ⟨due_eq.symm, storable⟩
      exact ⟨.reschedule next.text, (complete_eq_ok_iff_occurrence recurring).mpr
        ⟨due, checked, next, read, parsed, found, rfl⟩⟩

end Task

/-- Whether there is a next date depends on the reference day no more than the error does if there
    is none. So an accepted task can be completed on any day up to the year 262000, and so can every
    task that it becomes by completions on any days at all, until its date has passed the year
    9999. -/
theorem accepted_stays_completable :
    (∀ (anchor rule : String) (now later : Date), now.year ≤ 262000 → later.year ≤ 262000 →
        (∃ date laterDate, nextDate now anchor rule = .ok date ∧
            nextDate later anchor rule = .ok laterDate) ∨
          ∃ error, nextDate now anchor rule = .error error ∧
            nextDate later anchor rule = .error error) ∧
      ∀ (task : Task) (today : Date), task.validateUpdate today = .ok () →
        (∀ now : Date, now.year ≤ 262000 → ∃ completion, task.complete now = .ok completion) ∧
          ∀ current, task.Reaches current →
            ∃ due : Date, current.date = due.text ∧ 0 ≤ due.year ∧
              (due.year ≤ 9999 → ∀ now : Date, now.year ≤ 262000 →
                ∃ completion, current.complete now = .ok completion) := by
  refine ⟨fun anchor rule now later nowRoom laterRoom => ?_, fun task today accepted => ?_⟩
  · exact nextDate_same_outcome anchor rule nowRoom laterRoom
  · obtain ⟨completable, due, due_eq, storable⟩ := Task.completable_of_validateUpdate accepted
    refine ⟨fun now nowRoom => completable.exists_complete due_eq storable nowRoom,
      fun current run => ?_⟩
    have still := run.completable completable
    obtain ⟨currentDue, currentEq, notNegative⟩ := still.dated
    exact ⟨currentDue, currentEq, notNegative, fun notPassed now nowRoom =>
      still.exists_complete currentEq ⟨notNegative, notPassed⟩ nowRoom⟩

/-- A task for leap days, accepted in 1900, done in 2050 and then in 1996. -/
theorem leapDay_task_stays_completable :
    let early : Date := ⟨1900, 1, 1, by decide, by decide⟩
    let late : Date := ⟨2050, 3, 1, by decide, by decide⟩
    let again : Date := ⟨1996, 7, 1, by decide, by decide⟩
    let task : Task := { id := "1", title := "leap", date := "20240229", repeatText := "m 29 2" }
    let current : Task := { task with date := "20520229" }
    ((∃ date laterDate, nextDate early "20240229" "m 29 2" = .ok date ∧
          nextDate late "20240229" "m 29 2" = .ok laterDate) ∨
        ∃ error, nextDate early "20240229" "m 29 2" = .error error ∧
          nextDate late "20240229" "m 29 2" = .error error) ∧
      task.validateUpdate early = .ok () ∧ (∃ completion, task.complete again = .ok completion) ∧
      task.Reaches current ∧ ∃ completion, current.complete again = .ok completion := by
  intro early late again task current
  obtain ⟨same, completable⟩ := accepted_stays_completable
  have accepted : task.validateUpdate early = .ok () := by cbv
  have done : task.complete late = .ok (.reschedule "20520229") := by cbv
  have run : task.Reaches current := .complete .start done
  obtain ⟨now, later⟩ := completable task early accepted
  obtain ⟨due, due_eq, -, completes⟩ := later current run
  have read : Date.ofText? due.text = some ⟨2052, 2, 29, by decide, by decide⟩ := by
    rw [← due_eq]
    cbv
  obtain rfl := Date.eq_of_ofText?_text read
  exact ⟨same _ _ early late (by decide) (by decide), accepted, now again (by decide), run,
    completes (by decide) again (by decide)⟩

end Agenda
