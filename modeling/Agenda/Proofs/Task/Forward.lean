import Mathlib
import Agenda.Proofs.Task.Complete

/-! # Where completing moves a task

Completing an overdue task moves it forward. A task that is not overdue moves forward too, unless
its rule still has a date up to the one that it has: the weekday that it is due on, or a listed day
of the month that it is due in. Then it moves to that date, and not forward.
-/

namespace Agenda

namespace Recurrence

/-- The date that a rule still has, from the reference day on and no later than the one that the
    task has. A weekly rule counts from the task's own day, a monthly one from the start of its
    month, and the other rules always move on. -/
inductive StillDue (today due : Date) : Rule → Date → Prop
  | weekday {days : List Nat} (notPassed : today ≤ due) (listed : due.weekday ∈ days) :
      StillDue today due (.weekly days) due
  | monthDay {codes : List Int} {allowed : List Nat} {d : Date} (isMatch : Matches codes allowed d)
      (month : Month.ofDate d = Month.ofDate due) (after : today < d)
      (least : ∀ e, Matches codes allowed e → Month.ofDate e = Month.ofDate due → today < e → d ≤ e)
      (le : d ≤ due) : StillDue today due (.monthly codes allowed) d

namespace StillDue

variable {today due d : Date} {rule : Rule}

theorem le (h : StillDue today due rule d) : d ≤ due := by
  cases h with
  | weekday => exact le_rfl
  | monthDay _ _ _ _ le => exact le

theorem not_overdue (h : StillDue today due rule d) : ¬ due < today := by
  cases h with
  | weekday notPassed => exact not_lt.mpr notPassed
  | monthDay _ _ after _ le => exact (lt_of_lt_of_le after le).not_gt

end StillDue

theorem weekly?_stillDue_or_lt {days : List Nat} (week : IncreasingIn 1 7 days)
    (nonempty : days ≠ []) {today due next : Date} (h : weekly? today due days = some next) :
    (StillDue today due (.weekly days) next ∨ due < next) ∧
      ∀ d, StillDue today due (.weekly days) d → next = d := by
  obtain ⟨le, same⟩ := weekly?_eq_anchor_iff week nonempty h
  constructor
  · by_cases stays : next = due
    · obtain ⟨notPassed, listed⟩ := same.mp stays
      rw [stays]
      exact Or.inl (.weekday notPassed listed)
    · exact Or.inr (lt_of_le_of_ne le (Ne.symm stays))
  · rintro d still
    cases still with
    | weekday notPassed listed => exact same.mpr ⟨notPassed, listed⟩

theorem monthly?_stillDue_or_lt {codes : List Int} {allowed : List Nat}
    (numbers : IncreasingIn 1 12 allowed) {today due next : Date}
    (h : monthly? today due codes allowed = some next) :
    (StillDue today due (.monthly codes allowed) next ∨ due < next) ∧
      ∀ d, StillDue today due (.monthly codes allowed) d → next = d := by
  obtain ⟨⟨isMatch, after, months⟩, least⟩ := monthly?_spec numbers h
  have sameMonth (le : next ≤ due) : Month.ofDate next = Month.ofDate due :=
    Month.ofDate_eq_of_index_eq (le_antisymm (Month.index_ofDate_le le) months)
  constructor
  · by_cases le : next ≤ due
    · refine Or.inl (.monthDay isMatch (sameMonth le) after ?_ le)
      intro e eMatch eMonth eAfter
      exact least e ⟨eMatch, eAfter, by rw [eMonth]⟩
    · exact Or.inr (not_le.mp le)
  · rintro d still
    cases still with
    | monthDay dMatch dMonth dAfter dLeast le =>
        have nextLe := least d ⟨dMatch, dAfter, by rw [dMonth]⟩
        have month := sameMonth (le_trans nextLe le)
        exact le_antisymm nextLe (dLeast next isMatch month after)

/-- Either a rule still has a date, and this is the next one, or the next date is a later one. -/
theorem occurrence_stillDue_or_lt {rule : Rule} (checked : rule.IsChecked)
    (recurring : rule ≠ .once) {today due next : Date} (h : occurrence today due rule = .ok next) :
    (StillDue today due rule next ∨ due < next) ∧ ∀ d, StillDue today due rule d → next = d := by
  cases occurrence_eq_ok_iff.mp h with
  | once => exact absurd rfl recurring
  | everyDays found =>
      have forward := lt_of_everyDays? (Nat.lt_of_succ_le checked.1) found
      exact ⟨Or.inr forward, fun _ still => by cases still⟩
  | yearly found =>
      have forward := lt_of_yearly? found
      exact ⟨Or.inr forward, fun _ still => by cases still⟩
  | weekly nonempty found => exact weekly?_stillDue_or_lt checked nonempty found
  | monthly found => exact monthly?_stillDue_or_lt checked.2 found

end Recurrence

/-- Completing a recurring task that has a date reschedules it to the date that its rule still has,
    or, when there is none, strictly forward. In particular an overdue task moves forward. -/
theorem complete_stays_due_or_moves_forward {task : Task} {today due : Date} {text : String}
    (stored : Date.ofText? task.date = some due) (recurring : task.repeatText ≠ "")
    (done : task.complete today = .ok (.reschedule text)) :
    ∃ rule next, task.rule = .ok rule ∧ text = next.text ∧
      (due < next ↔ ∀ d, ¬ Recurrence.StillDue today due rule d) ∧
      (∀ d, Recurrence.StillDue today due rule d → next = d) ∧
      (due < today → due < next) := by
  have comesBack : task.isRecurring = true := by simpa [Task.isRecurring] using recurring
  obtain ⟨date, rule, next, read, parsed, found, eq⟩ :=
    (Task.complete_eq_ok_iff_occurrence comesBack).mp done
  cases eq
  rw [Date.read, stored] at read
  cases read
  have notOnce : rule ≠ .once := by
    rintro rfl
    exact recurring ((Rule.eq_empty_iff_of_ofText parsed).mp rfl)
  obtain ⟨either, only⟩ :=
    Recurrence.occurrence_stillDue_or_lt (Rule.isChecked_of_ofText parsed).1 notOnce found
  have forward_iff : due < next ↔ ∀ d, ¬ Recurrence.StillDue today due rule d := by
    constructor
    · intro forward d still
      have le := still.le
      rw [← only d still] at le
      exact absurd forward (not_lt.mpr le)
    · intro none
      exact either.resolve_left (none next)
  exact ⟨rule, next, parsed, rfl, forward_iff, only,
    fun overdue => forward_iff.mpr fun _ still => still.not_overdue overdue⟩

/-- A task for Wednesdays, done two days before the Wednesday that it is due on. -/
theorem complete_weekly_stays_due :
    let monday : Date := ⟨2024, 1, 1, by decide, by decide⟩
    let wednesday : Date := ⟨2024, 1, 3, by decide, by decide⟩
    let task : Task := { date := "20240103", repeatText := "w 3" }
    task.complete monday = .ok (.reschedule "20240103") ∧
      ∃ rule next, task.rule = .ok rule ∧ "20240103" = next.text ∧
        (wednesday < next ↔ ∀ d, ¬ Recurrence.StillDue monday wednesday rule d) ∧
        (∀ d, Recurrence.StillDue monday wednesday rule d → next = d) ∧
        (wednesday < monday → wednesday < next) := by
  intro monday wednesday task
  have stored : Date.ofText? task.date = some wednesday := by cbv
  have done : task.complete monday = .ok (.reschedule "20240103") := by cbv
  exact ⟨done, complete_stays_due_or_moves_forward stored (by decide) done⟩

/-- Not every completion moves a task forward: a task for Wednesdays stays on its Wednesday, and a
    task for the fifth of the month even moves back within the month that it is due in. -/
theorem complete_not_always_forward :
    let newYear : Date := ⟨2024, 1, 1, by decide, by decide⟩
    ¬ (∀ (task : Task) (today due : Date) (text : String), Date.ofText? task.date = some due →
        task.repeatText ≠ "" → task.complete today = .ok (.reschedule text) →
        ∃ next : Date, text = next.text ∧ due < next) ∧
      Task.complete { date := "20240103", repeatText := "w 3" } newYear =
        .ok (.reschedule "20240103") ∧
      Task.complete { date := "20240520", repeatText := "m 5" } newYear =
        .ok (.reschedule "20240505") := by
  intro newYear
  have weekly : Task.complete { date := "20240103", repeatText := "w 3" } newYear =
      .ok (.reschedule "20240103") := by cbv
  refine ⟨fun always => ?_, weekly, by cbv⟩
  let wednesday : Date := ⟨2024, 1, 3, by decide, by decide⟩
  have stored : Date.ofText? "20240103" = some wednesday := by cbv
  have text : wednesday.text = "20240103" := (Date.text_of_ofText? stored).1
  obtain ⟨next, eq, forward⟩ := always _ newYear wednesday _ stored (by decide) weekly
  have same : wednesday = next := Date.eq_of_text_eq (by decide) (text.trans eq)
  exact absurd forward (not_lt.mpr same.ge)

end Agenda
