import Mathlib.Tactic
import Agenda.Proofs.Recurrence.NextDate

/-! # The next date of a monthly rule

It is the first match after the reference day that lies in no month before that of the task's date.
A task's date from long ago thus counts no more than the reference day, and a match on the
reference day itself is passed over. The month that closes the calendar is out of reach, because
the end of a month is found by way of the month after it.
-/

namespace Agenda

open Recurrence

variable {codes : List Int} {allowed : List Nat} {now anchor next d : Date}

section Accepted

variable {checked : Rule} (accepted : (Rule.monthly codes allowed).validated = .ok checked)
include accepted

theorem nextOccurrence_monthly (now anchor : Date) :
    nextOccurrence now anchor (.monthly codes allowed) =
      (Error.noOccurrence checked.text).whenNone
        (monthly? now anchor (ascending codes) (ascending allowed)) := by
  obtain rfl := (Rule.validated_eq_ok_iff.mp accepted).2
  rw [nextOccurrence_of_validated accepted]
  rfl

theorem nextOccurrence_eq_monthly? :
    nextOccurrence now anchor (.monthly codes allowed) = .ok next ↔
      monthly? now anchor (ascending codes) (ascending allowed) = some next := by
  rw [nextOccurrence_monthly accepted, Error.whenNone_eq_ok_iff]

theorem increasingIn_of_accepted : IncreasingIn 1 12 (ascending allowed) := by
  have isChecked := isChecked_of_validated accepted
  rw [(Rule.validated_eq_ok_iff.mp accepted).2] at isChecked
  exact isChecked.2

end Accepted

theorem isCandidate_ascending_iff :
    IsCandidate now anchor (ascending codes) (ascending allowed) d ↔
      Matches codes allowed d ∧ now < d ∧
        (anchor.year < d.year ∨ anchor.year = d.year ∧ anchor.month ≤ d.month) := by
  rw [IsCandidate, matches_ascending_iff,
    Month.index_le_iff (Month.isNumbered_ofDate anchor) (Month.isNumbered_ofDate d)]
  rfl

/-- A monthly rule gives a date exactly when its numbers are within range and the date is the first
    match that is after the reference day and in no month before that of the task's date, save for
    the month that closes the calendar. Every rule that is read from a text or given by a check has
    its numbers within range. -/
theorem monthly_next_is_first_match (codes : List Int) (allowed : List Nat)
    (now anchor next : Date) :
    nextOccurrence now anchor (.monthly codes allowed) = .ok next ↔
      (∃ checked, (Rule.monthly codes allowed).validated = .ok checked) ∧
      IsLeast {d | Matches codes allowed d ∧ now < d ∧
        (anchor.year < d.year ∨ anchor.year = d.year ∧ anchor.month ≤ d.month)} next ∧
      ¬ (next.year = lastYear ∧ next.month = 12) := by
  have found_iff {checked : Rule}
      (accepted : (Rule.monthly codes allowed).validated = .ok checked) :
      nextOccurrence now anchor (.monthly codes allowed) = .ok next ↔ _ :=
    (nextOccurrence_eq_monthly? accepted).trans
      (monthly?_eq_some_iff (increasingIn_of_accepted accepted))
  simp only [isCandidate_ascending_iff, Month.year_following_ofDate_le_iff] at found_iff
  constructor
  · intro counted
    obtain ⟨checked, accepted, -⟩ := nextOccurrence_eq_ok_iff.mp counted
    exact ⟨⟨checked, accepted⟩, (found_iff accepted).mp counted⟩
  · rintro ⟨⟨checked, accepted⟩, isFirst⟩
    exact (found_iff accepted).mpr isFirst

example :
    nextOccurrence ⟨2024, 12, 30, by decide, by decide⟩ ⟨2020, 5, 5, by decide, by decide⟩
      (.monthly [-2] [1, 12]) = .ok ⟨2025, 1, 30, by decide, by decide⟩ := by cbv

end Agenda
