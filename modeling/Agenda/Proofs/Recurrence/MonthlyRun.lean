import Mathlib.Tactic
import Agenda.Proofs.Recurrence.FirstMatch

/-! # Runs of monthly dates

A date that is counted on, each time on the very day reached, goes through the matches of a monthly
rule: through each of them once, in order and with none left out.
-/

namespace Agenda

open Recurrence

/-- Dates that a rule gives one after another, each counted from the one before on that day itself.
`Visits rule start dates day` says that such a run went through `dates` and ended on `day`. -/
inductive Visits (rule : Rule) (start : Date) : List Date → Date → Prop
  | start : Visits rule start [] start
  | next {dates : List Date} {day next : Date} (run : Visits rule start dates day)
      (counted : nextOccurrence day day rule = .ok next) : Visits rule start (dates ++ [next]) next

/-- The earliest matches of a monthly rule after a day, as many as the list is long, in order. -/
structure EarliestMatches (codes : List Int) (allowed : List Nat) (start : Date)
    (dates : List Date) : Prop where
  increasing : dates.Pairwise (· < ·)
  sound : ∀ d ∈ dates, Matches codes allowed d ∧ start < d
  noneSkipped : ∀ e, Matches codes allowed e → start < e → e ∉ dates → ∀ d ∈ dates, d < e

/-- What a run keeps: its dates are the matches after the start up to the day that it is on. -/
structure MatchesUpTo (codes : List Int) (allowed : List Nat) (start day : Date)
    (dates : List Date) : Prop where
  forward : start ≤ day
  increasing : dates.Pairwise (· < ·)
  mem_iff : ∀ d, d ∈ dates ↔ Matches codes allowed d ∧ start < d ∧ d ≤ day

variable {codes : List Int} {allowed : List Nat} {start day next : Date} {dates : List Date}

theorem MatchesUpTo.earliest (h : MatchesUpTo codes allowed start day dates) :
    EarliestMatches codes allowed start dates := by
  refine ⟨h.increasing, fun d member => ?_, fun e isMatch after skipped d member => ?_⟩
  · obtain ⟨isMatch, after, -⟩ := (h.mem_iff d).mp member
    exact ⟨isMatch, after⟩
  · have upTo := ((h.mem_iff d).mp member).2.2
    by_contra notLess
    exact skipped ((h.mem_iff e).mpr ⟨isMatch, after, (not_lt.mp notLess).trans upTo⟩)

theorem MatchesUpTo.extend (h : MatchesUpTo codes allowed start day dates)
    (least : IsLeast {d | Matches codes allowed d ∧ day < d} next) :
    MatchesUpTo codes allowed start next (dates ++ [next]) := by
  obtain ⟨⟨isMatch, after⟩, first⟩ := least
  refine ⟨h.forward.trans after.le, ?_, fun d => ?_⟩
  · refine List.pairwise_append.mpr ⟨h.increasing, List.pairwise_singleton _ _, ?_⟩
    intro d member e last
    rw [List.mem_singleton.mp last]
    exact ((h.mem_iff d).mp member).2.2.trans_lt after
  · rw [List.mem_append, List.mem_singleton, h.mem_iff]
    constructor
    · rintro (⟨dMatch, dAfter, upTo⟩ | rfl)
      · exact ⟨dMatch, dAfter, upTo.trans after.le⟩
      · exact ⟨isMatch, h.forward.trans_lt after, le_rfl⟩
    · rintro ⟨dMatch, dAfter, upTo⟩
      by_cases reached : d ≤ day
      · exact Or.inl ⟨dMatch, dAfter, reached⟩
      · exact Or.inr (upTo.antisymm (first ⟨dMatch, not_le.mp reached⟩))

theorem isLeast_of_monthly? (numbers : IncreasingIn 1 12 allowed)
    (h : monthly? day day codes allowed = some next) :
    IsLeast {d | Matches codes allowed d ∧ day < d} next := by
  obtain ⟨⟨isMatch, after, -⟩, least⟩ := monthly?_spec numbers h
  refine ⟨⟨isMatch, after⟩, ?_⟩
  rintro d ⟨dMatch, dAfter⟩
  exact least d ⟨dMatch, dAfter, Month.index_ofDate_le dAfter.le⟩

section Accepted

variable {checked : Rule} (accepted : (Rule.monthly codes allowed).validated = .ok checked)
include accepted

/-- Every step of a run goes to the first match after the day that the run is on. -/
theorem Visits.matchesUpTo (run : Visits (.monthly codes allowed) start dates day) :
    MatchesUpTo codes allowed start day dates := by
  induction run with
  | start =>
      refine ⟨le_rfl, List.Pairwise.nil, fun d => ?_⟩
      constructor
      · exact fun member => absurd member List.not_mem_nil
      · rintro ⟨-, after, upTo⟩
        exact absurd after (not_lt.mpr upTo)
  | next _ counted ih =>
      have found := (nextOccurrence_eq_monthly? accepted).mp counted
      have least := isLeast_of_monthly? (increasingIn_of_accepted accepted) found
      simp only [matches_ascending_iff] at least
      exact ih.extend least

/-- A run that has not come to the end of the calendar goes on, if the rule has any match at all. -/
theorem Visits.exists_next (satisfiable : ∃ d, Matches codes allowed d) (room : day.HasRoom)
    (run : Visits (.monthly codes allowed) start dates day) :
    ∃ next, Visits (.monthly codes allowed) start (dates ++ [next]) next := by
  obtain ⟨d, isMatch⟩ := satisfiable
  obtain ⟨next, found⟩ := exists_monthly? (increasingIn_of_accepted accepted)
    (matches_ascending_iff.mpr isMatch) room room
  exact ⟨next, run.next ((nextOccurrence_eq_monthly? accepted).mpr found)⟩

theorem exists_visits_or_end (satisfiable : ∃ d, Matches codes allowed d) (start : Date)
    (count : Nat) : ∃ dates day, Visits (.monthly codes allowed) start dates day ∧
      (dates.length = count ∨ dates.length < count ∧ 262000 < day.year) := by
  induction count with
  | zero => exact ⟨[], start, .start, Or.inl rfl⟩
  | succ count ih =>
      obtain ⟨dates, day, run, length | ⟨length, end_⟩⟩ := ih
      · by_cases room : day.year ≤ 262000
        · obtain ⟨next, longer⟩ := run.exists_next accepted satisfiable room
          exact ⟨dates ++ [next], next, longer, Or.inl (by simp [length])⟩
        · exact ⟨dates, day, run, Or.inr ⟨by omega, by omega⟩⟩
      · exact ⟨dates, day, run, Or.inr ⟨by omega, end_⟩⟩

end Accepted

/-- A run of a monthly rule that has any match visits the earliest matches after its start, each
    once and in order, and goes on as long as it has not passed the year 262000. So it visits any
    number of them, unless it passes that year. -/
theorem monthly_run_visits_every_match {checked : Rule}
    (accepted : (Rule.monthly codes allowed).validated = .ok checked)
    (satisfiable : ∃ d, Matches codes allowed d) (start : Date) :
    (∀ dates day, Visits (.monthly codes allowed) start dates day →
        EarliestMatches codes allowed start dates ∧
          (day.year ≤ 262000 →
            ∃ next, Visits (.monthly codes allowed) start (dates ++ [next]) next)) ∧
      ∀ count, ∃ dates day, Visits (.monthly codes allowed) start dates day ∧
        (dates.length = count ∨ dates.length < count ∧ 262000 < day.year) := by
  refine ⟨fun dates day run => ⟨?_, fun room => ?_⟩, ?_⟩
  · exact (run.matchesUpTo accepted).earliest
  · exact run.exists_next accepted satisfiable room
  · exact exists_visits_or_end accepted satisfiable start

/-- The last two days of February and April, and the thirtieth as well, which is one of them. -/
theorem monthEnd_run_visits_every_match :
    let codes : List Int := [30, -1, -2, 30]
    let allowed : List Nat := [4, 2]
    let rule : Rule := .monthly codes allowed
    let start : Date := ⟨2024, 2, 28, by decide, by decide⟩
    let february : Date := ⟨2024, 2, 29, by decide, by decide⟩
    let april : Date := ⟨2024, 4, 29, by decide, by decide⟩
    let endOfApril : Date := ⟨2024, 4, 30, by decide, by decide⟩
    let nextYear : Date := ⟨2025, 2, 27, by decide, by decide⟩
    rule.validated = .ok (.monthly [-2, -1, 30] [2, 4]) ∧ Matches codes allowed april ∧
      Visits rule start [february, april, endOfApril, nextYear] nextYear ∧
      EarliestMatches codes allowed start [february, april, endOfApril, nextYear] ∧
      (nextYear.year ≤ 262000 → ∃ next,
        Visits rule start ([february, april, endOfApril, nextYear] ++ [next]) next) ∧
      ∃ dates day, Visits rule start dates day ∧
        (dates.length = 1000 ∨ dates.length < 1000 ∧ 262000 < day.year) := by
  intro codes allowed rule start february april endOfApril nextYear
  have accepted : rule.validated = .ok (.monthly [-2, -1, 30] [2, 4]) := by cbv
  have isMatch : Matches codes allowed april :=
    ⟨Or.inr (by decide), -2, by decide, Or.inr (Or.inr ⟨rfl, by decide⟩)⟩
  have first : nextOccurrence start start rule = .ok february := by cbv
  have second : nextOccurrence february february rule = .ok april := by cbv
  have third : nextOccurrence april april rule = .ok endOfApril := by cbv
  have fourth : nextOccurrence endOfApril endOfApril rule = .ok nextYear := by cbv
  have run : Visits rule start ([] ++ [february] ++ [april] ++ [endOfApril] ++ [nextYear])
      nextYear := .next (.next (.next (.next .start first) second) third) fourth
  obtain ⟨runs, any⟩ := monthly_run_visits_every_match accepted ⟨april, isMatch⟩ start
  obtain ⟨earliest, goesOn⟩ := runs _ nextYear run
  exact ⟨accepted, isMatch, run, earliest, goesOn, any 1000⟩

end Agenda
