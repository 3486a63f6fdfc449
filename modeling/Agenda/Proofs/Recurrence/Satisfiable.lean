import Mathlib.Tactic
import Agenda.Proofs.Recurrence.FirstMatch

/-! # Monthly rules that match some date

Whether a monthly rule has any match can be read off its numbers. A rule with a match has one in
every leap year, so that its search gets to one before it gives up, and a next date is missing only
where nothing matches at all.
-/

namespace Agenda

open Recurrence

/-- The most days that a month has in any year, which it has in a leap year such as 2000. -/
def mostDaysInMonth (month : Nat) : Nat :=
  daysInMonth 2000 month

theorem daysInMonth_le_most (year : Int) (month : Nat) :
    daysInMonth year month ≤ mostDaysInMonth month :=
  daysInMonth_le_of_isLeapYear rfl year month

example : mostDaysInMonth 2 = 29 := rfl

/-- One of the codes stands for a day of some allowed month. The last two days exist in every
    month, and a day by its number does where the month can be long enough. -/
def CanMatch (codes : List Int) (allowed : List Nat) : Prop :=
  ∃ code ∈ codes, code = -1 ∨ code = -2 ∨ (1 ≤ code ∧ ∃ month ∈ List.range' 1 12,
    (allowed = [] ∨ month ∈ allowed) ∧ code ≤ mostDaysInMonth month)

instance (codes : List Int) (allowed : List Nat) : Decidable (CanMatch codes allowed) :=
  inferInstanceAs (Decidable (∃ code ∈ codes, _))

section Matching

variable {codes : List Int} {allowed : List Nat}

theorem canMatch_ascending_iff :
    CanMatch (ascending codes) (ascending allowed) ↔ CanMatch codes allowed := by
  simp only [CanMatch, mem_ascending, ascending_eq_nil_iff]

theorem canMatch_of_matches {d : Date} (isMatch : Matches codes allowed d) :
    CanMatch codes allowed := by
  obtain ⟨isAllowed, code, member, day⟩ := isMatch
  refine ⟨code, member, ?_⟩
  rcases day with ⟨positive, eq⟩ | ⟨last, -⟩ | ⟨beforeLast, -⟩
  · refine Or.inr (Or.inr ⟨positive, d.month, ?_, isAllowed, ?_⟩)
    · have numbered := d.month_mem
      rw [List.mem_range'_1]
      omega
    · have long := daysInMonth_le_most d.year d.month
      have inside := d.day_mem.2
      omega
  · exact Or.inl last
  · exact Or.inr (Or.inl beforeLast)

theorem exists_allowed_month (numbers : IncreasingIn 1 12 allowed) :
    ∃ month, 1 ≤ month ∧ month ≤ 12 ∧ (allowed = [] ∨ month ∈ allowed) := by
  cases allowed with
  | nil => exact ⟨1, le_rfl, by decide, Or.inl rfl⟩
  | cons month rest =>
      obtain ⟨low, high⟩ := numbers.within month List.mem_cons_self
      exact ⟨month, low, high, Or.inr List.mem_cons_self⟩

theorem exists_match_of_day {code : Int} (member : code ∈ codes) (month day : Nat)
    (isAllowed : allowed = [] ∨ month ∈ allowed) (day_mem : 1 ≤ day ∧ day ≤ daysInMonth 2000 month)
    (stands : (1 ≤ code ∧ (day : Int) = code) ∨ (code = -1 ∧ day = daysInMonth 2000 month) ∨
      (code = -2 ∧ day + 1 = daysInMonth 2000 month)) :
    ∃ d, Matches codes allowed d :=
  ⟨⟨2000, month, day, by decide, day_mem⟩, isAllowed, code, member, stands⟩

theorem exists_match_of_canMatch (numbers : IncreasingIn 1 12 allowed)
    (h : CanMatch codes allowed) : ∃ d, Matches codes allowed d := by
  obtain ⟨code, member, fits⟩ := h
  obtain ⟨anyMonth, low, high, isAllowed⟩ := exists_allowed_month numbers
  have long := le_daysInMonth 2000 low high
  rcases fits with rfl | rfl | ⟨positive, month, -, monthAllowed, fits⟩
  · exact exists_match_of_day member anyMonth (daysInMonth 2000 anyMonth) isAllowed
      ⟨by omega, le_rfl⟩ (Or.inr (Or.inl ⟨rfl, rfl⟩))
  · exact exists_match_of_day member anyMonth (daysInMonth 2000 anyMonth - 1) isAllowed
      ⟨by omega, by omega⟩ (Or.inr (Or.inr ⟨rfl, by omega⟩))
  · unfold mostDaysInMonth at fits
    exact exists_match_of_day member month code.toNat monthAllowed
      ⟨by omega, by omega⟩ (Or.inl ⟨positive, by omega⟩)

theorem exists_match_iff (numbers : IncreasingIn 1 12 allowed) (codes : List Int) :
    (∃ d, Matches codes allowed d) ↔ CanMatch codes allowed :=
  ⟨fun ⟨_, isMatch⟩ => canMatch_of_matches isMatch, exists_match_of_canMatch numbers⟩

theorem monthly?_eq_none_iff (numbers : IncreasingIn 1 12 allowed) {now anchor : Date}
    (nowRoom : now.HasRoom) (anchorRoom : anchor.HasRoom) :
    monthly? now anchor codes allowed = none ↔ ¬ ∃ d, Matches codes allowed d := by
  constructor
  · rintro none ⟨d, isMatch⟩
    obtain ⟨next, found⟩ := exists_monthly? numbers isMatch nowRoom anchorRoom
    rw [none] at found
    cases found
  · exact monthly?_eq_none numbers now anchor

end Matching

/-- Away from the end of the calendar a monthly rule within range fails exactly when no date at all
    matches it, which its numbers tell, and the error then names the rule by its canonical text.
    The limit of a search is not the cause: in every month where one of the two searches can start,
    that of the later of the two dates or the one after the reference day, a rule with a match finds
    one within the limit. -/
theorem monthly_fails_only_without_match {codes : List Int} {allowed : List Nat} {checked : Rule}
    (accepted : (Rule.monthly codes allowed).validated = .ok checked) {now anchor : Date}
    (nowRoom : now.year ≤ 262000) (anchorRoom : anchor.year ≤ 262000) :
    (∀ error, nextOccurrence now anchor (.monthly codes allowed) = .error error ↔
        error = .noOccurrence checked.text ∧ ¬ ∃ d, Matches codes allowed d) ∧
      ((∃ d, Matches codes allowed d) ↔ CanMatch codes allowed) ∧
      ((∃ d, Matches codes allowed d) → ∀ start : Month, start.IsNumbered →
        now.year ≤ start.year → start.year ≤ 262001 →
        ∃ found, searchMonths? now (ascending codes) (ascending allowed) monthSearchLimit start =
          some found) := by
  have numbers := increasingIn_of_accepted accepted
  refine ⟨fun error => ?_, ?_, fun satisfiable start numbered fromNow room => ?_⟩
  · rw [nextOccurrence_monthly accepted, Error.whenNone_eq_error_iff,
      monthly?_eq_none_iff numbers nowRoom anchorRoom]
    simp only [matches_ascending_iff]
  · have satisfiable_iff := exists_match_iff numbers (ascending codes)
    simpa only [matches_ascending_iff, canMatch_ascending_iff] using satisfiable_iff
  · obtain ⟨d, isMatch⟩ := satisfiable
    have first := now.year_mem.1
    exact exists_searchMonths?_of_match now numbers (matches_ascending_iff.mpr isMatch) numbered
      (by omega) (by omega) fromNow

/-- Leap days, asked for on the last one before a century without one, and the last day of a long
    month in two months that are never long. -/
theorem leapDay_is_found_and_longDay_is_not :
    let leapDays : Rule := .monthly [29] [2]
    let longDays : Rule := .monthly [31] [4, 2]
    let now : Date := ⟨2096, 2, 29, by decide, by decide⟩
    let anchor : Date := ⟨1600, 12, 31, by decide, by decide⟩
    (leapDays.validated = .ok leapDays ∧ (∃ d, Matches [29] [2] d) ∧
        (∀ error, nextOccurrence now anchor leapDays ≠ .error error) ∧
        ∃ found, searchMonths? now (ascending [29]) (ascending [2]) monthSearchLimit ⟨2096, 3⟩ =
          some found) ∧
      (longDays.validated = .ok (.monthly [31] [2, 4]) ∧ (¬ ∃ d, Matches [31] [4, 2] d) ∧
        nextOccurrence now anchor longDays = .error (.noOccurrence "m 31 2,4")) := by
  intro leapDays longDays now anchor
  have leapAccepted : leapDays.validated = .ok leapDays := by cbv
  have longAccepted : longDays.validated = .ok (.monthly [31] [2, 4]) := by cbv
  have text : (Rule.monthly [31] [2, 4]).text = "m 31 2,4" := by cbv
  have nowRoom : now.year ≤ 262000 := by decide
  have anchorRoom : anchor.year ≤ 262000 := by decide
  obtain ⟨leapFails, leapMatch, leapSearch⟩ :=
    monthly_fails_only_without_match leapAccepted nowRoom anchorRoom
  obtain ⟨longFails, longMatch, -⟩ :=
    monthly_fails_only_without_match longAccepted nowRoom anchorRoom
  have satisfiable := leapMatch.mpr (by decide)
  have unsatisfiable := mt longMatch.mp (by decide)
  refine ⟨⟨leapAccepted, satisfiable, fun error fails => ?_, ?_⟩, longAccepted, unsatisfiable, ?_⟩
  · exact ((leapFails error).mp fails).2 satisfiable
  · exact leapSearch satisfiable ⟨2096, 3⟩ ⟨by decide, by decide⟩ (by decide) (by decide)
  · exact (longFails _).mpr ⟨by rw [text], unsatisfiable⟩

end Agenda
