import Mathlib.Tactic
import Agenda.Store
import Agenda.Proofs.Task.Settled

/-! # What every reachable store holds

A task comes into the store by being added or edited, and changes when it is done. Each way has
checks of its own, and after each of them a stored task has a title and the date of an existing
day. Adding a task and completing one leave all of it but the date as it was.
-/

namespace Agenda

namespace Task

variable {task settled original : Task} {today : Date}

/-- What every stored task has: a title that is not blank, and the text of a date for its date. -/
structure IsStored (task : Task) : Prop where
  titled : Blank.trim task.title.toList ≠ []
  dated : ∃ due : Date, task.date = due.text

/-- A task is another one but for the date. -/
def IsRedated (task original : Task) : Prop :=
  ∃ date, task = { original with date }

theorem IsRedated.refl (task : Task) : task.IsRedated task :=
  ⟨task.date, rfl⟩

theorem IsRedated.trans {first : Task} (h : task.IsRedated original)
    (before : original.IsRedated first) : task.IsRedated first := by
  obtain ⟨date, rfl⟩ := h
  obtain ⟨_, rfl⟩ := before
  exact ⟨date, rfl⟩

theorem isStored_of_normalize (h : task.normalize today = (.ok (), settled)) :
    settled.IsStored := by
  obtain ⟨titled, date, hasDate, rfl⟩ := normalize_eq_ok_iff.mp h
  obtain ⟨due, eq, -⟩ := exists_current_of_settledDate hasDate
  exact ⟨Blank.isBlankText_eq_false_iff.mp titled, due, eq⟩

theorem isRedated_of_normalize (h : task.normalize today = (.ok (), settled)) :
    settled.IsRedated task := by
  obtain ⟨-, date, -, eq⟩ := normalize_eq_ok_iff.mp h
  exact ⟨date, eq⟩

theorem isStored_of_validateUpdate (h : task.validateUpdate today = .ok ()) :
    task.IsStored := by
  obtain ⟨-, titled, due, -, read, -⟩ := validateUpdate_eq_ok_iff.mp h
  exact ⟨Blank.isBlankText_eq_false_iff.mp titled, due, (Date.read_eq_ok_iff.mp read).1.symm⟩

theorem IsStored.reschedule {date : String} (h : task.IsStored)
    (done : task.complete today = .ok (.reschedule date)) :
    (task.apply (.reschedule date)).IsStored := by
  refine ⟨h.titled, ?_⟩
  cases recurring : task.isRecurring with
  | false =>
      rw [complete_of_oneOff recurring] at done
      cases done
  | true =>
      obtain ⟨-, -, next, -, -, -, eq⟩ := (complete_eq_ok_iff_occurrence recurring).mp done
      cases eq
      exact ⟨next, rfl⟩

end Task

/-- The task that a step brings into the store. -/
def Step.given? : Step → Option Task
  | .add task => some task
  | .edit _ task => some task
  | _ => none

namespace Store

/-- What a step makes of the store, one case for each way it can end. -/
inductive Becomes (store : Store) : Step → Store → Prop
  | dayPassed (date : Date) : Becomes store (.setToday date) { store with today := date }
  | added {task settled : Task} (accepted : task.normalize store.today = (.ok (), settled)) :
    Becomes store (.add task) { store with tasks := store.tasks ++ [settled] }
  | notAdded {task left : Task} {error : Error}
      (refused : task.normalize store.today = (.error error, left)) :
    Becomes store (.add task) store
  | deleted {index : Nat} {task : Task} (stored : store.tasks[index]? = some task)
      (done : task.complete store.today = .ok .delete) :
    Becomes store (.done index) { store with tasks := store.tasks.eraseIdx index }
  | rescheduled {index : Nat} {task : Task} {date : String}
      (stored : store.tasks[index]? = some task)
      (done : task.complete store.today = .ok (.reschedule date)) :
    Becomes store (.done index)
      { store with tasks := store.tasks.set index (task.apply (.reschedule date)) }
  | notDone {index : Nat} {task : Task} {error : Error}
      (stored : store.tasks[index]? = some task)
      (refused : task.complete store.today = .error error) :
    Becomes store (.done index) store
  | nothingToDo {index : Nat} (missing : store.tasks[index]? = none) :
    Becomes store (.done index) store
  | edited {index : Nat} {replaced task : Task} (stored : store.tasks[index]? = some replaced)
      (accepted : task.validateUpdate store.today = .ok ()) :
    Becomes store (.edit index task) { store with tasks := store.tasks.set index task }
  | notEdited {index : Nat} {replaced task : Task} {error : Error}
      (stored : store.tasks[index]? = some replaced)
      (refused : task.validateUpdate store.today = .error error) :
    Becomes store (.edit index task) store
  | nothingToEdit {index : Nat} {task : Task} (missing : store.tasks[index]? = none) :
    Becomes store (.edit index task) store
  | searched (query : Option Query) (limit : Nat) : Becomes store (.search query limit) store

theorem becomes_step (store : Store) (step : Step) : store.Becomes step (store.step step).1 := by
  cases step with
  | setToday date => exact .dayPassed date
  | add task =>
      simp only [Store.step]
      split
      · next accepted => exact .added accepted
      · next refused => exact .notAdded refused
  | done index =>
      simp only [Store.step]
      split
      · next task stored =>
          split
          · next completion done =>
              cases completion with
              | delete => exact .deleted stored done
              | reschedule date => exact .rescheduled stored done
          · next refused => exact .notDone stored refused
      · next missing => exact .nothingToDo missing
  | edit index task =>
      simp only [Store.step]
      split
      · next replaced stored =>
          split
          · next accepted => exact .edited stored accepted
          · next refused => exact .notEdited stored refused
      · next missing => exact .nothingToEdit missing
  | search query limit => exact .searched query limit

/-- One step keeps every stored task titled and dated. -/
theorem Becomes.isStored {store after : Store} {step : Step} (h : store.Becomes step after)
    (stored : ∀ task ∈ store.tasks, task.IsStored) : ∀ task ∈ after.tasks, task.IsStored := by
  intro task member
  cases h with
  | added accepted =>
      rcases List.mem_append.mp member with old | new
      · exact stored task old
      · rw [List.mem_singleton.mp new]
        exact Task.isStored_of_normalize accepted
  | deleted => exact stored task (List.mem_of_mem_eraseIdx member)
  | rescheduled found done =>
      rcases List.mem_or_eq_of_mem_set member with old | rfl
      · exact stored task old
      · exact (stored _ (List.mem_of_getElem? found)).reschedule done
  | edited _ accepted =>
      rcases List.mem_or_eq_of_mem_set member with old | rfl
      · exact stored task old
      · exact Task.isStored_of_validateUpdate accepted
  | dayPassed | notAdded | notDone | nothingToDo | notEdited | nothingToEdit | searched =>
      exact stored task member

/-- After one step a task is, but for the date, one that was stored or one that the step brought. -/
theorem Becomes.origin {store after : Store} {step : Step} (h : store.Becomes step after) :
    ∀ task ∈ after.tasks,
      ∃ original, task.IsRedated original ∧
        (original ∈ store.tasks ∨ step.given? = some original) := by
  intro task member
  have unchanged (old : task ∈ store.tasks) : ∃ original, task.IsRedated original ∧
      (original ∈ store.tasks ∨ step.given? = some original) :=
    ⟨task, .refl task, .inl old⟩
  cases h with
  | added accepted =>
      rcases List.mem_append.mp member with old | new
      · exact unchanged old
      · rw [List.mem_singleton.mp new]
        exact ⟨_, Task.isRedated_of_normalize accepted, .inr rfl⟩
  | deleted => exact unchanged (List.mem_of_mem_eraseIdx member)
  | rescheduled found =>
      rcases List.mem_or_eq_of_mem_set member with old | rfl
      · exact unchanged old
      · exact ⟨_, ⟨_, rfl⟩, .inl (List.mem_of_getElem? found)⟩
  | edited =>
      rcases List.mem_or_eq_of_mem_set member with old | rfl
      · exact unchanged old
      · exact ⟨_, .refl _, .inr rfl⟩
  | dayPassed | notAdded | notDone | nothingToDo | notEdited | nothingToEdit | searched =>
      exact unchanged member

theorem run_cons (store : Store) (step : Step) (rest : List Step) :
    (store.run (step :: rest)).1 = ((store.step step).1.run rest).1 := rfl

theorem run_isStored (steps : List Step) {store : Store}
    (stored : ∀ task ∈ store.tasks, task.IsStored) :
    ∀ task ∈ (store.run steps).1.tasks, task.IsStored := by
  induction steps generalizing store with
  | nil => exact stored
  | cons step rest ih =>
      rw [run_cons]
      exact ih ((store.becomes_step step).isStored stored)

theorem run_origin (steps : List Step) (store : Store) :
    ∀ task ∈ (store.run steps).1.tasks,
      ∃ original, task.IsRedated original ∧
        (original ∈ store.tasks ∨ ∃ step ∈ steps, step.given? = some original) := by
  induction steps generalizing store with
  | nil => exact fun task member => ⟨task, .refl task, .inl member⟩
  | cons step rest ih =>
      intro task member
      obtain ⟨current, redated, known | ⟨later, among, brought⟩⟩ :=
        ih (store.step step).1 task member
      · obtain ⟨original, before, stored | brought⟩ :=
          (store.becomes_step step).origin current known
        · exact ⟨original, redated.trans before, .inl stored⟩
        · exact ⟨original, redated.trans before, .inr ⟨step, List.mem_cons_self, brought⟩⟩
      · exact ⟨current, redated, .inr ⟨later, List.mem_cons_of_mem step among, brought⟩⟩

end Store

/-- Whatever steps are taken from an empty store, on whatever days, every task in it has a title
    that is not blank and the text of an existing day for its date, and is but for the date one that
    some step brought. Adding appends the task with its date settled, doing a task removes it or
    moves its date, and editing puts the new task in place of the old one; where a task is refused
    or there is none, nothing changes. -/
theorem reachable_tasks_are_titled_and_dated :
    (∀ (today : Date) (steps : List Step), ∀ task ∈ (Store.run { today } steps).1.tasks,
        Blank.trim task.title.toList ≠ [] ∧ (∃ due : Date, task.date = due.text) ∧
          ∃ step ∈ steps, ∃ original date, step.given? = some original ∧
            task = { original with date }) ∧
      (∀ (store : Store) (task : Task),
        (∃ date, task.normalize store.today = (.ok (), { task with date }) ∧
            (store.step (.add task)).1.tasks = store.tasks ++ [{ task with date }]) ∨
          ∃ error left, task.normalize store.today = (.error error, left) ∧
            (store.step (.add task)).1 = store) ∧
      (∀ (store : Store) (index : Nat),
        (∃ task, store.tasks[index]? = some task ∧ task.complete store.today = .ok .delete ∧
            (store.step (.done index)).1.tasks = store.tasks.eraseIdx index) ∨
          (∃ task date, store.tasks[index]? = some task ∧
            task.complete store.today = .ok (.reschedule date) ∧
            (store.step (.done index)).1.tasks = store.tasks.set index { task with date }) ∨
          (∃ task error, store.tasks[index]? = some task ∧
            task.complete store.today = .error error ∧ (store.step (.done index)).1 = store) ∨
          (store.tasks[index]? = none ∧ (store.step (.done index)).1 = store)) ∧
      ∀ (store : Store) (index : Nat) (task : Task),
        (∃ replaced, store.tasks[index]? = some replaced ∧
            task.validateUpdate store.today = .ok () ∧
            (store.step (.edit index task)).1.tasks = store.tasks.set index task) ∨
          (∃ replaced error, store.tasks[index]? = some replaced ∧
            task.validateUpdate store.today = .error error ∧
            (store.step (.edit index task)).1 = store) ∨
          (store.tasks[index]? = none ∧ (store.step (.edit index task)).1 = store) := by
  refine ⟨fun today steps task member => ?_, fun store task => ?_, fun store index => ?_,
    fun store index task => ?_⟩
  · have stored := Store.run_isStored steps (by simp) task member
    obtain ⟨original, ⟨date, eq⟩, known | ⟨step, among, brought⟩⟩ :=
      Store.run_origin steps _ task member
    · cases known
    · exact ⟨stored.titled, stored.dated, step, among, original, date, brought, eq⟩
  · generalize after_eq : (store.step (.add task)).1 = after
    cases after_eq ▸ store.becomes_step (.add task) with
    | added accepted =>
        obtain ⟨date, rfl⟩ := Task.isRedated_of_normalize accepted
        exact .inl ⟨date, accepted, rfl⟩
    | notAdded refused => exact .inr ⟨_, _, refused, rfl⟩
  · generalize after_eq : (store.step (.done index)).1 = after
    cases after_eq ▸ store.becomes_step (.done index) with
    | deleted stored done => exact .inl ⟨_, stored, done, rfl⟩
    | rescheduled stored done => exact .inr (.inl ⟨_, _, stored, done, rfl⟩)
    | notDone stored refused => exact .inr (.inr (.inl ⟨_, _, stored, refused, rfl⟩))
    | nothingToDo missing => exact .inr (.inr (.inr ⟨missing, rfl⟩))
  · generalize after_eq : (store.step (.edit index task)).1 = after
    cases after_eq ▸ store.becomes_step (.edit index task) with
    | edited stored accepted => exact .inl ⟨_, stored, accepted, rfl⟩
    | notEdited stored refused => exact .inr (.inl ⟨_, _, stored, refused, rfl⟩)
    | nothingToEdit missing => exact .inr (.inr ⟨missing, rfl⟩)

/-- An overdue monthly task is added and done later, another one is edited, and one that does not
    come back is done and so removed. A task without a title is refused, and so are an edit with a
    date that does not exist and a task that is not there. -/
theorem monthly_task_keeps_its_texts :
    let start : Date := ⟨2024, 2, 10, by decide, by decide⟩
    let later : Date := ⟨2024, 4, 2, by decide, by decide⟩
    let rent : Task :=
      { id := "1", title := "rent", date := "20240131", comment := "flat", repeatText := "m -1" }
    let phone : Task := { id := "2", title := "phone", date := "20240405", repeatText := "d 7" }
    let steps : List Step :=
      [.add rent, .add { title := " \t" }, .add { title := "call" }, .add { title := "mail" },
        .setToday later, .edit 1 { id := "2", title := "phone", date := "20240230" },
        .edit 1 phone, .done 0, .done 2, .done 5]
    let moved : Task := { rent with date := "20240430" }
    (Store.run { today := start } steps).1.tasks = [moved, phone] ∧
      ∀ task ∈ [moved, phone],
        Blank.trim task.title.toList ≠ [] ∧ (∃ due : Date, task.date = due.text) ∧
          ∃ step ∈ steps, ∃ original date, step.given? = some original ∧
            task = { original with date } := by
  intro start later rent phone steps moved
  have final : (Store.run { today := start } steps).1.tasks = [moved, phone] := by cbv
  refine ⟨final, ?_⟩
  rw [← final]
  exact reachable_tasks_are_titled_and_dated.1 start steps

end Agenda
