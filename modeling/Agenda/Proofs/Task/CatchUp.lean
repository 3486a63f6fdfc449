import Mathlib
import Agenda.Proofs.Task.Complete

/-! # Catching up in several steps

A date that is completed again and again, each time on a day after the date before, ends where a
single completion on the last of these days leads.
-/

namespace Agenda

/-- Dates that a rule gives one after another, from a first date. Each is counted from the one
    before on a reference day that has passed that one. `CatchesUp rule anchor today date` says that
    such a run ended on the reference day `today` with `date`. -/
inductive CatchesUp (rule : Rule) (anchor : Date) : Date → Date → Prop
  | first {today date : Date} (counted : nextOccurrence today anchor rule = .ok date) :
      CatchesUp rule anchor today date
  | again {today later date next : Date} (run : CatchesUp rule anchor today date)
      (passed : date < later) (counted : nextOccurrence later date rule = .ok next) :
      CatchesUp rule anchor later next

/-- The same for a task that is done again and again, each time after the day it was due. -/
inductive Task.CatchesUp (task : Task) : Date → Task → Prop
  | first {today : Date} {completion : Completion} (done : task.complete today = .ok completion) :
      CatchesUp task today (task.apply completion)
  | again {today later due : Date} {current : Task} {completion : Completion}
      (run : CatchesUp task today current) (due_eq : current.date = due.text) (passed : due < later)
      (done : current.complete later = .ok completion) :
      CatchesUp task later (current.apply completion)

theorem nextOccurrence_of_passed {rule : Rule} {now later anchor next : Date}
    (h : nextOccurrence now anchor rule = .ok next) (passed : next < later) :
    nextOccurrence later next rule = nextOccurrence later anchor rule := by
  obtain ⟨checked, validated, counted⟩ := nextOccurrence_eq_ok_iff.mp h
  rw [nextOccurrence_of_validated validated, nextOccurrence_of_validated validated]
  exact Recurrence.occurrence_of_passed (isChecked_of_validated validated) counted passed

theorem CatchesUp.eq_single {rule : Rule} {anchor today date : Date}
    (run : CatchesUp rule anchor today date) : nextOccurrence today anchor rule = .ok date := by
  induction run with
  | first counted => exact counted
  | again _ passed counted ih => rwa [nextOccurrence_of_passed ih passed] at counted

theorem nextDate_of_passed {now later next : Date} {anchor rule : String}
    (h : nextDate now anchor rule = .ok next.text) (storable : next.IsStorable)
    (passed : next < later) : nextDate later next.text rule = nextDate later anchor rule := by
  obtain ⟨due, checked, counted, read, parsed, found, eq⟩ := nextDate_eq_ok_iff.mp h
  obtain rfl := Date.eq_of_text_eq storable eq.symm
  rw [nextDate_of_read read parsed,
    nextDate_of_read (Date.read_eq_ok_iff.mpr ⟨rfl, storable⟩) parsed,
    Recurrence.occurrence_of_passed (Rule.isChecked_of_ofText parsed).1 found passed]

namespace Task

/-- Doing a task again after the day it was due then is like doing it then for the first time. -/
theorem complete_of_passed {task : Task} {today later due : Date} {completion : Completion}
    (h : task.complete today = .ok completion) (due_eq : (task.apply completion).date = due.text)
    (storable : due.IsStorable) (passed : due < later) :
    (task.apply completion).complete later = task.complete later := by
  cases recurring : task.isRecurring with
  | false =>
      rw [complete_of_oneOff recurring, complete_of_oneOff (by simpa using recurring)]
  | true =>
      obtain ⟨text, counted, rfl⟩ := (complete_eq_ok_iff recurring).mp h
      obtain rfl : text = due.text := due_eq
      have same : (task.apply (.reschedule due.text)).nextDate later = task.nextDate later := by
        simp only [nextDate, apply, nextDate_of_passed counted storable passed]
      rw [complete_of_recurring recurring, complete_of_recurring (by simpa using recurring), same]

theorem CatchesUp.eq_single {task current : Task} {today : Date} (run : task.CatchesUp today current) :
    ∃ completion, task.complete today = .ok completion ∧ current = task.apply completion := by
  induction run with
  | first done => exact ⟨_, done, rfl⟩
  | @again today later due current completion _ due_eq passed done ih =>
      obtain ⟨before, doneBefore, rfl⟩ := ih
      cases recurring : task.isRecurring with
      | false =>
          rw [complete_of_oneOff recurring] at doneBefore ⊢
          cases doneBefore
          rw [apply, complete_of_oneOff recurring] at done
          cases done
          exact ⟨.delete, rfl, rfl⟩
      | true =>
          have recurringNow : (task.apply before).isRecurring = true := by simpa using recurring
          have storable := isStorable_of_complete recurringNow due_eq done
          rw [complete_of_passed doneBefore due_eq storable passed] at done
          obtain ⟨text, -, rfl⟩ := (complete_eq_ok_iff recurring).mp done
          exact ⟨.reschedule text, done, apply_apply_reschedule task before text⟩

end Task

/-- Catching up in several steps is catching up in one: a next date that was passed over can stand
    for the date it was counted from, and a run of completions ends where its last one would lead
    from the start. -/
theorem catchUp_in_steps_eq_single (rule : Rule) (anchor : Date) (task : Task) :
    (∀ now later next, nextOccurrence now anchor rule = .ok next → next < later →
        nextOccurrence later next rule = nextOccurrence later anchor rule) ∧
      (∀ today date, CatchesUp rule anchor today date →
        nextOccurrence today anchor rule = .ok date) ∧
      ∀ today current, task.CatchesUp today current →
        ∃ completion, task.complete today = .ok completion ∧ current = task.apply completion :=
  ⟨fun _ _ _ counted passed => nextOccurrence_of_passed counted passed,
    fun _ _ run => run.eq_single, fun _ _ run => run.eq_single⟩

/-- A yearly task due on a leap day, done in 2026 and again in 2029. -/
theorem catchUp_leapDay_in_two_steps :
    let leapDay : Date := ⟨2024, 2, 29, by decide, by decide⟩
    let early : Date := ⟨2026, 1, 1, by decide, by decide⟩
    let march : Date := ⟨2026, 3, 1, by decide, by decide⟩
    let late : Date := ⟨2029, 5, 5, by decide, by decide⟩
    let reached : Date := ⟨2030, 3, 1, by decide, by decide⟩
    let task : Task := { date := leapDay.text, repeatText := "y" }
    let done : Task := { task with date := reached.text }
    (nextOccurrence early leapDay .yearly = .ok march ∧ march < late ∧
        nextOccurrence late march .yearly = nextOccurrence late leapDay .yearly) ∧
      (CatchesUp .yearly leapDay late reached ∧
        nextOccurrence late leapDay .yearly = .ok reached) ∧
      task.CatchesUp late done ∧
        ∃ completion, task.complete late = .ok completion ∧ done = task.apply completion := by
  intro leapDay early march late reached task done
  have counted : nextOccurrence early leapDay .yearly = .ok march := by cbv
  have countedAgain : nextOccurrence late march .yearly = .ok reached := by cbv
  have passed : march < late := by decide
  have doneEarly : task.complete early = .ok (.reschedule march.text) := by cbv
  have doneLate : (task.apply (.reschedule march.text)).complete late =
      .ok (.reschedule reached.text) := by cbv
  have run : CatchesUp .yearly leapDay late reached := .again (.first counted) passed countedAgain
  have taskRun : task.CatchesUp late done := .again (.first doneEarly) rfl passed doneLate
  obtain ⟨single, dates, tasks⟩ := catchUp_in_steps_eq_single .yearly leapDay task
  exact ⟨⟨counted, passed, single early late march counted passed⟩, ⟨run, dates late reached run⟩,
    taskRun, tasks late done taskRun⟩

end Agenda
