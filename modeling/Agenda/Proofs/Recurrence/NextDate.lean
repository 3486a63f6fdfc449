import Mathlib.Tactic
import Agenda.Recurrence.NextDate
import Agenda.Proofs.Calendar.DateText
import Agenda.Proofs.Recurrence.Interval
import Agenda.Proofs.Recurrence.Monthly
import Agenda.Proofs.Recurrence.Weekly
import Agenda.Proofs.Rule.Checked

/-! # Next dates of all rules

What the four ways of counting have in common: whether there is a next date does not depend on the
reference day, none is in an earlier year, and a date that was passed over changes nothing.
-/

namespace Agenda

namespace Recurrence

/-- The next date by a rule, found in the way that its kind is counted. -/
inductive Counts (now anchor : Date) : Rule → Date → Prop
  | once : Counts now anchor .once anchor
  | everyDays {n : Nat} {next : Date} (found : everyDays? now anchor n = some next) :
      Counts now anchor (.everyDays n) next
  | yearly {next : Date} (found : yearly? now anchor = some next) :
      Counts now anchor .yearly next
  | weekly {days : List Nat} {next : Date} (nonempty : days ≠ [])
      (found : weekly? now anchor days = some next) : Counts now anchor (.weekly days) next
  | monthly {codes : List Int} {allowed : List Nat} {next : Date}
      (found : monthly? now anchor codes allowed = some next) :
      Counts now anchor (.monthly codes allowed) next

theorem occurrence_weekly {days : List Nat} (nonempty : days ≠ []) (now anchor : Date) :
    occurrence now anchor (.weekly days) = Error.dateOverflow.whenNone (weekly? now anchor days) := by
  cases days with
  | nil => exact absurd rfl nonempty
  | cons => rfl

theorem occurrence_eq_ok_iff {now anchor next : Date} {rule : Rule} :
    occurrence now anchor rule = .ok next ↔ Counts now anchor rule next := by
  constructor
  · intro h
    cases rule with
    | once =>
        cases h
        exact .once
    | everyDays n => exact .everyDays (Error.whenNone_eq_ok_iff.mp h)
    | yearly => exact .yearly (Error.whenNone_eq_ok_iff.mp h)
    | weekly days =>
        by_cases empty : days = []
        · rw [empty] at h
          cases h
        · rw [occurrence_weekly empty] at h
          exact .weekly empty (Error.whenNone_eq_ok_iff.mp h)
    | monthly codes allowed => exact .monthly (Error.whenNone_eq_ok_iff.mp h)
  · intro h
    cases h with
    | once => rfl
    | everyDays found => exact Error.whenNone_eq_ok_iff.mpr found
    | yearly found => exact Error.whenNone_eq_ok_iff.mpr found
    | weekly nonempty found =>
        rw [occurrence_weekly nonempty]
        exact Error.whenNone_eq_ok_iff.mpr found
    | monthly found => exact Error.whenNone_eq_ok_iff.mpr found

/-- Counting on from a next date that was passed over leads to where counting from the first date
    leads, or fails as it does. -/
theorem occurrence_of_passed {rule : Rule} (checked : rule.IsChecked) {now later anchor next : Date}
    (h : occurrence now anchor rule = .ok next) (passed : next < later) :
    occurrence later next rule = occurrence later anchor rule := by
  cases occurrence_eq_ok_iff.mp h with
  | once => rfl
  | everyDays found =>
      simp only [occurrence, everyDays?_of_passed (Nat.lt_of_succ_le checked.1) found passed]
  | yearly found => simp only [occurrence, yearly?_of_passed found passed]
  | weekly nonempty found =>
      simp only [occurrence_weekly nonempty, weekly?_of_passed checked nonempty found passed]
  | monthly found => simp only [occurrence, monthly?_of_passed checked.2 found passed]

theorem year_le_of_occurrence {rule : Rule} (checked : rule.IsChecked) {now anchor next : Date}
    (h : occurrence now anchor rule = .ok next) : anchor.year ≤ next.year := by
  cases occurrence_eq_ok_iff.mp h with
  | once => exact le_rfl
  | everyDays found =>
      exact Date.year_le_of_lt (lt_of_everyDays? (Nat.lt_of_succ_le checked.1) found)
  | yearly found => exact Date.year_le_of_lt (lt_of_yearly? found)
  | weekly nonempty found =>
      have le := (weekly?_eq_anchor_iff checked nonempty found).1
      exact Month.year_le_of_index_ofDate_le (Month.index_ofDate_le le)
  | monthly found =>
      obtain ⟨⟨-, -, months⟩, -⟩ := monthly?_spec checked.2 found
      exact Month.year_le_of_index_ofDate_le months

/-- Away from the end of the calendar a rule has a next date from everywhere, or from nowhere and
    always for the same reason. -/
theorem occurrence_everywhere_or_nowhere {rule : Rule} (checked : rule.IsChecked)
    (hasDays : rule.HasDays) :
    (∀ now anchor : Date, now.HasRoom → anchor.HasRoom →
        ∃ next, occurrence now anchor rule = .ok next) ∨
      ∃ error, ∀ now anchor, occurrence now anchor rule = .error error := by
  simp only [occurrence_eq_ok_iff]
  cases rule with
  | once => exact Or.inl fun now anchor _ _ => ⟨anchor, .once⟩
  | everyDays n =>
      refine Or.inl fun now anchor nowRoom anchorRoom => ?_
      obtain ⟨next, found⟩ :=
        exists_everyDays? (Nat.lt_of_succ_le checked.1) checked.2 nowRoom anchorRoom
      exact ⟨next, .everyDays found⟩
  | yearly =>
      refine Or.inl fun now anchor nowRoom anchorRoom => ?_
      obtain ⟨next, found⟩ := exists_yearly? nowRoom anchorRoom
      exact ⟨next, .yearly found⟩
  | weekly days =>
      refine Or.inl fun now anchor nowRoom anchorRoom => ?_
      obtain ⟨next, found⟩ := exists_weekly? checked hasDays nowRoom anchorRoom
      exact ⟨next, .weekly hasDays found⟩
  | monthly codes allowed =>
      by_cases satisfiable : ∃ d, Matches codes allowed d
      · obtain ⟨d, isMatch⟩ := satisfiable
        refine Or.inl fun now anchor nowRoom anchorRoom => ?_
        obtain ⟨next, found⟩ := exists_monthly? checked.2 isMatch nowRoom anchorRoom
        exact ⟨next, .monthly found⟩
      · refine Or.inr ⟨.noOccurrence (Rule.monthly codes allowed).text, fun now anchor => ?_⟩
        simp only [occurrence, monthly?_eq_none checked.2 now anchor satisfiable, Error.whenNone]

end Recurrence

theorem nextOccurrence_eq_ok_iff {now anchor next : Date} {rule : Rule} :
    nextOccurrence now anchor rule = .ok next ↔
      ∃ checked, rule.validated = .ok checked ∧
        Recurrence.occurrence now anchor checked = .ok next :=
  Error.bind_eq_ok_iff

theorem nextOccurrence_of_validated {now anchor : Date} {rule checked : Rule}
    (h : rule.validated = .ok checked) :
    nextOccurrence now anchor rule = Recurrence.occurrence now anchor checked := by
  rw [nextOccurrence, h]
  rfl

theorem nextDate_eq_ok_iff {now : Date} {anchor rule text : String} :
    nextDate now anchor rule = .ok text ↔
      ∃ due checked next, Date.read anchor = .ok due ∧ Rule.ofText rule = .ok checked ∧
        Recurrence.occurrence now due checked = .ok next ∧ next.text = text := by
  simp only [nextDate, Error.bind_eq_ok_iff, pure, Except.pure, Except.ok.injEq]
  constructor
  · rintro ⟨due, read, checked, parsed, next, found, eq⟩
    exact ⟨due, checked, next, read, parsed, found, eq⟩
  · rintro ⟨due, checked, next, read, parsed, found, eq⟩
    exact ⟨due, read, checked, parsed, next, found, eq⟩

theorem nextDate_of_read {now due : Date} {anchor rule : String} {checked : Rule}
    (read : Date.read anchor = .ok due) (parsed : Rule.ofText rule = .ok checked) :
    nextDate now anchor rule = (Recurrence.occurrence now due checked).map Date.text := by
  rw [nextDate, read, parsed]
  simp only [bind, Except.bind, pure, Except.pure, Except.map]

end Agenda
