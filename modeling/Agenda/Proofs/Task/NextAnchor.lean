import Mathlib
import Agenda.Proofs.Calendar.StoredForm
import Agenda.Proofs.Task.Completable

/-! # Next dates as dates to count from

A next date is stored as a text and counted from in its turn. How many years ahead it can lie
depends on the kind of the rule. Up to the year 9999 its text is read back and serves as well as
the one before; past that year it is written with a sign, which no reader takes.
-/

namespace Agenda

/-- The most years by which a next date lies past both the reference day and the date that it is
counted from. -/
def Rule.yearsAhead : Rule → Int
  | .once => 0
  | .everyDays _ => 2
  | .yearly | .weekly _ => 1
  | .monthly _ _ => 8

theorem daysBeforeYear_add_le (year : Int) (years : Nat) :
    daysBeforeYear year + 365 * years ≤ daysBeforeYear (year + years) := by
  induction years with
  | zero => simp
  | succ years ih =>
      have length : 365 ≤ daysInYear (year + years) := by
        unfold daysInYear
        split <;> decide
      rw [Nat.cast_succ, ← add_assoc, daysBeforeYear_succ]
      omega

theorem Date.year_le_of_dayNumber_le (a b : Date) (years : Nat)
    (h : b.dayNumber ≤ a.dayNumber + 365 * years) : b.year ≤ a.year + years := by
  have before := a.dayNumber_bounds.2
  have after := b.dayNumber_bounds.1
  by_contra past
  have more := daysBeforeYear_add_le (a.year + 1) years
  have later := daysBeforeYear_mono (show a.year + 1 + years ≤ b.year by omega)
  omega

namespace Recurrence

variable {now anchor next : Date}

theorem year_le_of_everyDays? {n : Nat} (pos : 0 < n) (le : n ≤ 400)
    (h : everyDays? now anchor n = some next) : next.year ≤ max anchor.year now.year + 2 := by
  have reached := everyDays?_eq_some_iff.mp h
  have far := stepsToCatchUp_mul_le (now.dayNumber - anchor.dayNumber) (n := n) (by omega)
  rcases le_total now.dayNumber anchor.dayNumber with early | late
  · have := anchor.year_le_of_dayNumber_le next 2 (by omega)
    omega
  · have := now.year_le_of_dayNumber_le next 2 (by omega)
    omega

theorem year_le_of_weekly? {days : List Nat} (week : IncreasingIn 1 7 days) (nonempty : days ≠ [])
    (h : weekly? now anchor days = some next) : next.year ≤ max anchor.year now.year + 1 := by
  have reached := weekly?_eq_some_iff.mp h
  have near := nearestListed_lt week nonempty anchor.dayNumber
  have bound := weeklyFrom_le week nonempty now.dayNumber (nearestListed days anchor.dayNumber)
  rcases le_total now.dayNumber anchor.dayNumber with early | late
  · have := anchor.year_le_of_dayNumber_le next 1 (by omega)
    omega
  · have := now.year_le_of_dayNumber_le next 1 (by omega)
    omega

theorem year_le_of_monthly? {codes : List Int} {allowed : List Nat}
    (numbers : IncreasingIn 1 12 allowed) (h : monthly? now anchor codes allowed = some next) :
    next.year ≤ max anchor.year now.year + 8 := by
  obtain ⟨isCandidate, least⟩ := monthly?_spec numbers h
  exact year_le_of_first_candidate isCandidate least

/-- How far each kind of rule can carry a date beyond both dates that it is given. -/
theorem year_le_yearsAhead {rule : Rule} (checked : rule.IsChecked)
    (h : occurrence now anchor rule = .ok next) :
    next.year ≤ max anchor.year now.year + rule.yearsAhead := by
  cases occurrence_eq_ok_iff.mp h with
  | once => simp [Rule.yearsAhead]
  | everyDays found =>
      exact year_le_of_everyDays? (Nat.lt_of_succ_le checked.1) checked.2 found
  | yearly found => exact year_le_of_yearly? found
  | weekly nonempty found => exact year_le_of_weekly? checked nonempty found
  | monthly found => exact year_le_of_monthly? checked.2 found

end Recurrence

/-- A date text from which a rule can go on: it is read, and the rule has a next date from there on
every day that can be stored itself. -/
structure ServesAsAnchor (rule text : String) : Prop where
  read : ∃ d, Date.read text = .ok d
  hasNextDates : ∀ today : Date, today.IsStorable → ∃ next, nextDate today text rule = .ok next

theorem Date.read_text_iff {d : Date} (notNegative : 0 ≤ d.year) :
    (∃ e, Date.read d.text = .ok e) ↔ d.year ≤ 9999 := by
  constructor
  · rintro ⟨e, read⟩
    obtain ⟨same, storable⟩ := Date.read_eq_ok_iff.mp read
    rw [← Date.eq_of_text_eq storable same]
    exact storable.2
  · exact fun notPast => ⟨d, Date.read_eq_ok_iff.mpr ⟨rfl, notNegative, notPast⟩⟩

theorem servesAsAnchor_of_nextDate {now next : Date} {anchor rule text : String}
    (h : nextDate now anchor rule = .ok text) (storable : next.IsStorable) :
    ServesAsAnchor rule next.text := by
  have read : Date.read next.text = .ok next := Date.read_eq_ok_iff.mpr ⟨rfl, storable⟩
  refine ⟨⟨next, read⟩, fun today todayStorable => ?_⟩
  have counted : ({ date := anchor, repeatText := rule } : Task).HasNextDates :=
    Task.hasNextDates_of_nextDate h
  obtain ⟨checked, parsed, everywhere⟩ := counted
  obtain ⟨later, found⟩ := everywhere today next (Date.hasRoom_of_isStorable todayStorable)
    (Date.hasRoom_of_isStorable storable)
  exact ⟨later.text, nextDate_eq_ok_iff.mpr ⟨next, checked, later, read, parsed, found, rfl⟩⟩

/-- A next date can be stored and counted from exactly when it has not passed the year 9999, and
from a later one there is never a next date. It lies no more years ahead than its rule can carry
it. A task that is rescheduled to it has a date that is read under the same condition. -/
theorem next_date_serves_up_to_year_9999 {now : Date} {anchor rule text : String}
    (h : nextDate now anchor rule = .ok text) :
    ∃ due checked next, Date.read anchor = .ok due ∧ Rule.ofText rule = .ok checked ∧
      Recurrence.occurrence now due checked = .ok next ∧ next.text = text ∧
      next.year ≤ max due.year now.year + checked.yearsAhead ∧
      (ServesAsAnchor rule text ↔ next.year ≤ 9999) ∧
      (9999 < next.year → ∀ today, nextDate today text rule = .error (.invalidDate text)) ∧
      ∀ task : Task, task.isRecurring = true → task.date = anchor → task.repeatText = rule →
        ∃ completion, task.complete now = .ok completion ∧
          ((∃ d, Date.read (task.apply completion).date = .ok d) ↔ next.year ≤ 9999) := by
  obtain ⟨due, checked, next, read, parsed, found, rfl⟩ := nextDate_eq_ok_iff.mp h
  have isChecked := (Rule.isChecked_of_ofText parsed).1
  have notNegative : 0 ≤ next.year :=
    (Date.read_eq_ok_iff.mp read).2.1.trans (Recurrence.year_le_of_occurrence isChecked found)
  have read_iff := Date.read_text_iff notNegative
  refine ⟨due, checked, next, read, parsed, found, rfl,
    Recurrence.year_le_yearsAhead isChecked found, ?_, fun past today => ?_, ?_⟩
  · exact ⟨fun serves => read_iff.mp serves.read,
      fun notPast => servesAsAnchor_of_nextDate h ⟨notNegative, notPast⟩⟩
  · cases readNext : Date.read next.text with
    | ok e => exact absurd (read_iff.mp ⟨e, readNext⟩) (not_le.mpr past)
    | error error =>
        obtain rfl := (Date.read_eq_error_iff.mp readNext).2
        rw [nextDate, readNext]
        rfl
  · rintro task recurring rfl rfl
    exact ⟨.reschedule next.text, (Task.complete_eq_ok_iff recurring).mpr ⟨_, h, rfl⟩, read_iff⟩

/-- A task for leap days, done in the year 9991: the last but one of the leap days that can be
    stored comes next. -/
theorem leapDay_serves_near_year_9999 :
    let today : Date := ⟨9991, 6, 1, by decide, by decide⟩
    let next : Date := ⟨9992, 2, 29, by decide, by decide⟩
    let task : Task := { title := "leap", date := "99880229", repeatText := "m 29 2" }
    nextDate today task.date task.repeatText = .ok next.text ∧
      (ServesAsAnchor task.repeatText next.text ↔ next.year ≤ 9999) ∧
      ServesAsAnchor task.repeatText next.text ∧
      ∃ completion, task.complete today = .ok completion ∧
        ∃ d, Date.read (task.apply completion).date = .ok d := by
  intro today next task
  have counted : nextDate today task.date task.repeatText = .ok next.text := by cbv
  obtain ⟨due, rule, date, -, -, -, text, -, serves, -, done⟩ :=
    next_date_serves_up_to_year_9999 counted
  obtain rfl : next = date := Date.eq_of_text_eq (by decide) text.symm
  obtain ⟨completion, completed, read⟩ := done task rfl rfl rfl
  exact ⟨counted, serves, serves.mpr (by decide), completion, completed, read.mpr (by decide)⟩

/-- Not every next date can be stored: the day after the last day of the year 9999 is counted, but
    nothing can be counted from it. -/
theorem newYear_10000_does_not_serve :
    let last : Date := ⟨9999, 12, 31, by decide, by decide⟩
    ¬ (∀ (now : Date) (anchor rule text : String), now.IsStorable →
        nextDate now anchor rule = .ok text → ∃ d, Date.read text = .ok d) ∧
      nextDate last "99991231" "d 1" = .ok "+100000101" ∧
      Date.read "+100000101" = .error (.invalidDate "+100000101") := by
  intro last
  have counted : nextDate last "99991231" "d 1" = .ok "+100000101" := by cbv
  have refused : Date.read "+100000101" = .error (.invalidDate "+100000101") := by cbv
  refine ⟨fun always => ?_, counted, refused⟩
  obtain ⟨d, read⟩ := always last "99991231" "d 1" _ (by decide) counted
  rw [refused] at read
  cases read

end Agenda
