import Mathlib.Tactic
import Agenda.Proofs.Recurrence.NextDate

/-! # Next dates and the reference day

The next date of a task can be asked for on any day before the task is done. As the days go by the
answer stays the same until it is reached, and it never moves back.
-/

namespace Agenda

/-- The reference day has not come to a next date yet. A monthly rule goes on from the day itself,
the other rules only from the day after. -/
def Rule.NotReached (today date : Date) : Rule → Prop
  | .monthly _ _ => today < date
  | _ => today ≤ date

namespace Rule

variable {rule : Rule} {today date : Date}

theorem notReached_of_lt (h : today < date) : rule.NotReached today date := by
  cases rule with
  | monthly => exact h
  | _ => exact h.le

theorem NotReached.le (h : rule.NotReached today date) : today ≤ date := by
  cases rule with
  | monthly => exact le_of_lt h
  | _ => exact h

theorem normalized_notReached_iff :
    rule.normalized.NotReached today date ↔ rule.NotReached today date := by
  cases rule <;> rfl

end Rule

namespace Recurrence

variable {rule : Rule} {now later anchor date laterDate : Date}

theorem notReached_of_occurrence (checked : rule.IsChecked) (recurring : rule ≠ .once)
    (h : occurrence now anchor rule = .ok date) : rule.NotReached now date := by
  cases occurrence_eq_ok_iff.mp h with
  | once => exact absurd rfl recurring
  | everyDays found => exact now_le_of_everyDays? (Nat.lt_of_succ_le checked.1) found
  | yearly found => exact now_le_of_yearly? found
  | weekly _ found => exact now_le_of_weekly? found
  | monthly found => exact (monthly?_spec checked.2 found).1.2.1

theorem occurrence_of_notReached (checked : rule.IsChecked)
    (h : occurrence now anchor rule = .ok date) (le : now ≤ later)
    (notReached : rule.NotReached later date) : occurrence later anchor rule = .ok date := by
  rw [occurrence_eq_ok_iff]
  cases occurrence_eq_ok_iff.mp h with
  | once => exact .once
  | everyDays found =>
      exact .everyDays
        (everyDays?_of_notReached (Nat.lt_of_succ_le checked.1) found le notReached)
  | yearly found => exact .yearly (yearly?_of_notReached found le notReached)
  | weekly nonempty found => exact .weekly nonempty (weekly?_of_notReached found le notReached)
  | monthly found => exact .monthly (monthly?_of_notReached checked.2 found le notReached)

theorem occurrence_mono (checked : rule.IsChecked) (le : now ≤ later)
    (h : occurrence now anchor rule = .ok date)
    (laterFound : occurrence later anchor rule = .ok laterDate) : date ≤ laterDate := by
  -- Either the later day has not come to the first date, or it has and its own lies ahead of it.
  by_cases ahead : later < date
  · have same := occurrence_of_notReached checked h le (Rule.notReached_of_lt ahead)
    rw [laterFound] at same
    cases same
    exact le_rfl
  · by_cases recurring : rule = .once
    · subst recurring
      cases h
      cases laterFound
      exact le_rfl
    · have laterAhead := notReached_of_occurrence checked recurring laterFound
      exact (not_lt.mp ahead).trans laterAhead.le

end Recurrence

/-- The next date does not move back while the reference day goes on, and it stays the same until
    the reference day reaches it. -/
theorem preview_is_monotone_and_stable {rule : Rule} {anchor now later : Date} (le : now ≤ later) :
    (∀ date laterDate, nextOccurrence now anchor rule = .ok date →
        nextOccurrence later anchor rule = .ok laterDate → date ≤ laterDate) ∧
      ∀ date, nextOccurrence now anchor rule = .ok date → rule.NotReached later date →
        nextOccurrence later anchor rule = .ok date := by
  constructor
  · intro date laterDate h laterFound
    obtain ⟨checked, validated, found⟩ := nextOccurrence_eq_ok_iff.mp h
    rw [nextOccurrence_of_validated validated] at laterFound
    exact Recurrence.occurrence_mono (isChecked_of_validated validated) le found laterFound
  · intro date h notReached
    obtain ⟨checked, validated, found⟩ := nextOccurrence_eq_ok_iff.mp h
    obtain rfl := (Rule.validated_eq_ok_iff.mp validated).2
    rw [nextOccurrence_of_validated validated]
    exact Recurrence.occurrence_of_notReached (isChecked_of_validated validated) found le
      (Rule.normalized_notReached_iff.mpr notReached)

/-- Days of the month, asked for on one of them, on a day in between and on the next one, and
    Mondays up to the Monday itself. -/
theorem monthDay_preview_is_monotone_and_stable :
    let tenths : Rule := .monthly [20, 10] []
    let mondays : Rule := .weekly [1]
    let january : Date := ⟨2024, 1, 20, by decide, by decide⟩
    let between : Date := ⟨2024, 2, 9, by decide, by decide⟩
    let february : Date := ⟨2024, 2, 10, by decide, by decide⟩
    let monday : Date := ⟨2024, 2, 12, by decide, by decide⟩
    let afterwards : Date := ⟨2024, 2, 20, by decide, by decide⟩
    (january ≤ between ∧ nextOccurrence january january tenths = .ok february ∧
        tenths.NotReached between february ∧
        nextOccurrence between january tenths = .ok february) ∧
      (january ≤ february ∧ nextOccurrence february january tenths = .ok afterwards ∧
        february ≤ afterwards) ∧
      (february ≤ monday ∧ nextOccurrence february february mondays = .ok monday ∧
        mondays.NotReached monday monday ∧
        nextOccurrence monday february mondays = .ok monday) := by
  intro tenths mondays january between february monday afterwards
  have early : january ≤ between := by decide
  have upTo : january ≤ february := by decide
  have before : february ≤ monday := by decide
  have counted : nextOccurrence january january tenths = .ok february := by cbv
  have onTheDay : nextOccurrence february january tenths = .ok afterwards := by cbv
  have week : nextOccurrence february february mondays = .ok monday := by cbv
  have ahead : tenths.NotReached between february := by
    show between < february
    decide
  have reached : mondays.NotReached monday monday := le_refl monday
  obtain ⟨-, stable⟩ := preview_is_monotone_and_stable early
  obtain ⟨mono, -⟩ := preview_is_monotone_and_stable upTo
  obtain ⟨-, weekStable⟩ := preview_is_monotone_and_stable before
  exact ⟨⟨early, counted, ahead, stable _ counted ahead⟩,
    ⟨upTo, onTheDay, mono _ _ counted onTheDay⟩, before, week, reached,
    weekStable _ week reached⟩

end Agenda
