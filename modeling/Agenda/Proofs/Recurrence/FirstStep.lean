import Mathlib.Tactic
import Agenda.Proofs.Recurrence.NextDate

/-! # The next date of a rule for every so many days

It lies whole intervals after the task's date, at least one, and is the first such day that is not
before the reference day. As for weekly rules, days are counted on past the end of the calendar.
-/

namespace Agenda

/-- A rule for every `n` days leads to the first day whole intervals after the task's date, at least
    one of them, that is not before the reference day. It fails exactly when this day lies past the
    end of the calendar. -/
theorem everyDays_next_is_first_step {n : Nat} (pos : 1 ≤ n) (le : n ≤ 400) (now anchor : Date) :
    ∃ target : Int,
      IsLeast {day | now.dayNumber ≤ day ∧ ∃ k : Nat, 1 ≤ k ∧ day = anchor.dayNumber + k * n}
        target ∧
      (∀ next, nextOccurrence now anchor (.everyDays n) = .ok next ↔ next.dayNumber = target) ∧
      ∀ error, nextOccurrence now anchor (.everyDays n) = .error error ↔
        error = .dateOverflow ∧ Date.last.dayNumber < target := by
  have isFirst := Recurrence.isLeast_of_stepsToCatchUp now.dayNumber anchor.dayNumber pos
  have accepted : (Rule.everyDays n).validated = .ok (.everyDays n) :=
    validated_of_isChecked ⟨pos, le⟩
  have counted : nextOccurrence now anchor (.everyDays n) =
      Error.dateOverflow.whenNone (Recurrence.everyDays? now anchor n) :=
    nextOccurrence_of_validated accepted
  rw [Recurrence.everyDays?, Date.addDays?] at counted
  generalize anchor.dayNumber +
    Recurrence.stepsToCatchUp (now.dayNumber - anchor.dayNumber) n * n = target at *
  refine ⟨target, isFirst, fun next => ?_, fun error => ?_⟩
  · rw [counted, Error.whenNone_eq_ok_iff, Date.ofDayNumber?_eq_some_iff]
  · obtain ⟨-, k, -, eq⟩ := isFirst.1
    have forward : anchor.dayNumber ≤ target := by
      rw [eq]
      exact Int.le_add_of_nonneg_right (by positivity)
    rw [counted, Error.whenNone_eq_error_iff, Date.ofDayNumber?_eq_none_iff forward]

/-- Ten days after ten days across a leap day, up to the reference day itself, and through the whole
    calendar: eight days at a time lead to its last day, and 400 at a time past it. -/
theorem leapDay_is_stepped_over :
    let january : Date := ⟨2024, 1, 31, by decide, by decide⟩
    let march : Date := ⟨2024, 3, 1, by decide, by decide⟩
    let first : Date := ⟨-262143, 1, 1, by decide, by decide⟩
    (nextOccurrence march january (.everyDays 10) = .ok march ∧
      IsLeast {day | march.dayNumber ≤ day ∧ ∃ k : Nat, 1 ≤ k ∧ day = january.dayNumber + k * 10}
        march.dayNumber) ∧
      (nextOccurrence Date.last first (.everyDays 8) = .ok Date.last ∧
        IsLeast {day | Date.last.dayNumber ≤ day ∧ ∃ k : Nat, 1 ≤ k ∧ day = first.dayNumber + k * 8}
          Date.last.dayNumber) ∧
      nextOccurrence Date.last first (.everyDays 400) = .error .dateOverflow ∧
      ∃ target : Int,
        IsLeast {day | Date.last.dayNumber ≤ day ∧
          ∃ k : Nat, 1 ≤ k ∧ day = first.dayNumber + k * 400} target ∧
        Date.last.dayNumber < target := by
  intro january march first
  have counted : nextOccurrence march january (.everyDays 10) = .ok march := by cbv
  have across : nextOccurrence Date.last first (.everyDays 8) = .ok Date.last := by cbv
  have refused : nextOccurrence Date.last first (.everyDays 400) = .error .dateOverflow := by cbv
  obtain ⟨target, isFirst, ok_iff, -⟩ :=
    everyDays_next_is_first_step (n := 10) (by decide) (by decide) march january
  obtain ⟨target', isFirst', ok_iff', -⟩ :=
    everyDays_next_is_first_step (n := 8) (by decide) (by decide) Date.last first
  obtain ⟨past, isPast, -, fails⟩ :=
    everyDays_next_is_first_step (n := 400) (by decide) (by decide) Date.last first
  obtain rfl := (ok_iff march).mp counted
  obtain rfl := (ok_iff' Date.last).mp across
  exact ⟨⟨counted, isFirst⟩, ⟨across, isFirst'⟩, refused, past, isPast, ((fails _).mp refused).2⟩

end Agenda
