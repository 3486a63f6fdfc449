import Mathlib.Tactic
import Agenda.Proofs.Recurrence.NextDate

/-! # The next date of a yearly rule

It is the anniversary in the first year after that of the task's date in which it is not before the
reference day. Only the end of the calendar can keep it from being reached.
-/

namespace Agenda

/-- A yearly rule leads to the anniversary in the first year after that of the task's date in which
    it is not before the reference day, and fails exactly when that year lies past the end of the
    calendar. The anniversary of a leap day is March 1, and so no leap day comes up again. -/
theorem yearly_next_is_first_anniversary (now anchor : Date) :
    ∃ (a : YearDay) (year : Int),
      (a.month, a.day) = (if anchor.IsLeapDay then (3, 1) else (anchor.month, anchor.day)) ∧
      IsLeast {y | anchor.year < y ∧ a.NotBefore y now} year ∧
      (∀ next, nextOccurrence now anchor .yearly = .ok next ↔
        next.year = year ∧ next.month = a.month ∧ next.day = a.day) ∧
      (∀ error, nextOccurrence now anchor .yearly = .error error ↔
        error = .dateOverflow ∧ lastYear < year) ∧
      ∀ next, nextOccurrence now anchor .yearly = .ok next → ¬ next.IsLeapDay := by
  have counted : nextOccurrence now anchor .yearly =
      Error.dateOverflow.whenNone (Recurrence.yearly? now anchor) := rfl
  have isFirst := anchor.anniversary.firstYearFrom_isLeast now anchor.year
  rw [Recurrence.yearly?_eq] at counted
  generalize max (anchor.year + 1) (anchor.anniversary.firstYearFrom now) = year at *
  have ok_iff (next : Date) : nextOccurrence now anchor .yearly = .ok next ↔
      anchor.anniversary.inYear? year = some next := by
    rw [counted, Error.whenNone_eq_ok_iff]
  refine ⟨anchor.anniversary, year, anchor.anniversary_parts, isFirst, fun next => ?_,
    fun error => ?_, fun next found => ?_⟩
  · rw [ok_iff, YearDay.inYear?_eq_some_iff]
  · have from_ := anchor.year_mem.1
    have after := isFirst.1.1
    have past : ¬ (firstYear ≤ year ∧ year ≤ lastYear) ↔ lastYear < year := by omega
    rw [counted, Error.whenNone_eq_error_iff, YearDay.inYear?_eq_none_iff, past]
  · exact Date.not_isLeapDay_of_inYear? ((ok_iff next).mp found)

example :
    nextOccurrence ⟨1904, 2, 29, by decide, by decide⟩ ⟨1896, 2, 29, by decide, by decide⟩ .yearly =
      .ok ⟨1904, 3, 1, by decide, by decide⟩ := by cbv

end Agenda
