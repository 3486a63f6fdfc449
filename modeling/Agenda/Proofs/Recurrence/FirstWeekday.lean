import Mathlib.Tactic
import Agenda.Proofs.Recurrence.NextDate

/-! # The next date of a weekly rule

The first listed day from the task's date on decides the weekday. From there the loop goes on by
whole weeks, so that no other listed weekday comes up, and it stops at the first of these days that
is not before the reference day. Days are counted on past the end of the calendar, where a next
date is missing.
-/

namespace Agenda

open Recurrence

section Accepted

variable {days : List Nat} {checked : Rule} (accepted : (Rule.weekly days).validated = .ok checked)
include accepted

theorem increasingIn_of_accepted_weekly : IncreasingIn 1 7 (ascending days) := by
  have isChecked := isChecked_of_validated accepted
  rwa [(Rule.validated_eq_ok_iff.mp accepted).2] at isChecked

theorem nextOccurrence_weekly (nonempty : days ≠ []) (now anchor : Date) :
    nextOccurrence now anchor (.weekly days) =
      Error.dateOverflow.whenNone (weekly? now anchor (ascending days)) := by
  obtain rfl := (Rule.validated_eq_ok_iff.mp accepted).2
  rw [nextOccurrence_of_validated accepted]
  exact occurrence_weekly (mt ascending_eq_nil_iff.mp nonempty) now anchor

end Accepted

/-- A weekly rule within range leads from the first listed day on or after the task's date to the
    first day whole weeks after that one which is not before the reference day, and so to the same
    weekday. It fails exactly when one of these two days lies past the end of the calendar. -/
theorem weekly_next_keeps_first_weekday {days : List Nat} {checked : Rule}
    (accepted : (Rule.weekly days).validated = .ok checked) (nonempty : days ≠ [])
    (now anchor : Date) :
    ∃ first target : Int,
      IsLeast {day | anchor.dayNumber ≤ day ∧ weekdayOfDay day ∈ days} first ∧
      IsLeast {day | now.dayNumber ≤ day ∧ ∃ weeks : Nat, day = first + 7 * weeks} target ∧
      (∀ next, nextOccurrence now anchor (.weekly days) = .ok next ↔ next.dayNumber = target) ∧
      (∀ next, nextOccurrence now anchor (.weekly days) = .ok next →
        next.weekday = weekdayOfDay first) ∧
      ∀ error, nextOccurrence now anchor (.weekly days) = .error error ↔
        error = .dateOverflow ∧
          (Date.last.dayNumber < first ∨ Date.last.dayNumber < target) := by
  have week := increasingIn_of_accepted_weekly accepted
  have some_listed := mt ascending_eq_nil_iff.mp nonempty
  have isFirst := nearestListed_isLeast week some_listed anchor.dayNumber
  have isTarget := weeklyFrom_isLeast week now.dayNumber isFirst.1.2
  have fromAnchor := isFirst.1.1
  have counted := nextOccurrence_weekly accepted nonempty now anchor
  rw [weekly?] at counted
  generalize nearestListed (ascending days) anchor.dayNumber = first at *
  generalize weeklyFrom now.dayNumber (ascending days) first = target at *
  obtain ⟨weeks, eq⟩ := isTarget.1.2
  have ok_iff (next : Date) :
      nextOccurrence now anchor (.weekly days) = .ok next ↔ next.dayNumber = target := by
    rw [counted, Error.whenNone_eq_ok_iff, Date.ofDayNumber?_eq_some_iff]
  simp only [mem_ascending] at isFirst
  refine ⟨first, target, isFirst, isTarget, ok_iff, fun next found => ?_, fun error => ?_⟩
  · rw [Date.weekday, (ok_iff next).mp found, eq, weekdayOfDay_add_weeks]
  · have past : Date.last.dayNumber < target ↔
        Date.last.dayNumber < first ∨ Date.last.dayNumber < target := by omega
    rw [counted, Error.whenNone_eq_error_iff, Date.ofDayNumber?_eq_none_iff (d := anchor) (by omega)]
    exact and_congr_right fun _ => past

/-- Wednesdays and Fridays, counted from a Monday: on the Friday the next Wednesday comes up and not
    the Friday itself. From the last Wednesday of the calendar there is no next one. -/
theorem friday_leads_to_wednesday :
    let days : List Nat := [5, 3]
    let rule : Rule := .weekly days
    let monday : Date := ⟨2024, 1, 1, by decide, by decide⟩
    let friday : Date := ⟨2024, 1, 5, by decide, by decide⟩
    let wednesday : Date := ⟨2024, 1, 10, by decide, by decide⟩
    let lastWednesday : Date := ⟨262142, 12, 26, by decide, by decide⟩
    rule.validated = .ok (.weekly [3, 5]) ∧ days ≠ [] ∧
      (nextOccurrence friday monday rule = .ok wednesday ∧ ∃ first target : Int,
        IsLeast {day | monday.dayNumber ≤ day ∧ weekdayOfDay day ∈ days} first ∧
        IsLeast {day | friday.dayNumber ≤ day ∧ ∃ weeks : Nat, day = first + 7 * weeks} target ∧
        wednesday.dayNumber = target ∧ wednesday.weekday = weekdayOfDay first) ∧
      (nextOccurrence Date.last lastWednesday rule = .error .dateOverflow ∧ ∃ first target : Int,
        IsLeast {day | lastWednesday.dayNumber ≤ day ∧ weekdayOfDay day ∈ days} first ∧
        IsLeast {day | Date.last.dayNumber ≤ day ∧ ∃ weeks : Nat, day = first + 7 * weeks} target ∧
        (Date.last.dayNumber < first ∨ Date.last.dayNumber < target)) := by
  intro days rule monday friday wednesday lastWednesday
  have accepted : rule.validated = .ok (.weekly [3, 5]) := by cbv
  have nonempty : days ≠ [] := by decide
  have counted : nextOccurrence friday monday rule = .ok wednesday := by cbv
  have refused : nextOccurrence Date.last lastWednesday rule = .error .dateOverflow := by cbv
  obtain ⟨first, target, isFirst, isTarget, ok_iff, kept, -⟩ :=
    weekly_next_keeps_first_weekday accepted nonempty friday monday
  obtain ⟨first', target', isFirst', isTarget', -, -, fails⟩ :=
    weekly_next_keeps_first_weekday accepted nonempty Date.last lastWednesday
  refine ⟨accepted, nonempty, ⟨counted, first, target, isFirst, isTarget, ?_, ?_⟩, refused, first',
    target', isFirst', isTarget', ?_⟩
  · exact (ok_iff wednesday).mp counted
  · exact kept wednesday counted
  · exact ((fails .dateOverflow).mp refused).2

end Agenda
