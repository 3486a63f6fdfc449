import Mathlib.Tactic
import Agenda.Proofs.Calendar.Month

/-! # The ends of months

The Gregorian lengths of the months stand here on their own. Finding the end of a month by way of
the first day of the following one gives these lengths through the whole calendar, but for the month
that closes it: no day follows that one.
-/

namespace Agenda

/-- The number of days that the Gregorian calendar gives a month. -/
inductive GregorianLength (year : Int) : Nat → Nat → Prop
  | long {month : Nat} (listed : month ∈ [1, 3, 5, 7, 8, 10, 12]) : GregorianLength year month 31
  | short {month : Nat} (listed : month ∈ [4, 6, 9, 11]) : GregorianLength year month 30
  | leapFebruary (leap : isLeapYear year = true) : GregorianLength year 2 29
  | commonFebruary (common : isLeapYear year = false) : GregorianLength year 2 28

variable {year : Int} {month day : Nat}

theorem GregorianLength.numbered (h : GregorianLength year month day) : 1 ≤ month ∧ month ≤ 12 := by
  cases h with
  | long listed | short listed =>
      simp only [List.mem_cons, List.not_mem_nil, or_false] at listed
      omega
  | leapFebruary | commonFebruary => simp

theorem GregorianLength.eq_daysInMonth (h : GregorianLength year month day) :
    day = daysInMonth year month := by
  cases h with
  | long listed | short listed =>
      simp only [List.mem_cons, List.not_mem_nil, or_false] at listed
      rcases listed with rfl | rfl | rfl | rfl | rfl | rfl | rfl <;> rfl
  | leapFebruary leap => simp [daysInMonth, leap]
  | commonFebruary common => simp [daysInMonth, common]

theorem exists_gregorianLength (year : Int) (low : 1 ≤ month) (high : month ≤ 12) :
    ∃ day, GregorianLength year month day := by
  have kinds : month ∈ [1, 3, 5, 7, 8, 10, 12] ∨ month ∈ [4, 6, 9, 11] ∨ month = 2 := by
    simp only [List.mem_cons, List.not_mem_nil, or_false]
    omega
  rcases kinds with listed | listed | rfl
  · exact ⟨31, .long listed⟩
  · exact ⟨30, .short listed⟩
  · cases leap : isLeapYear year with
    | true => exact ⟨29, .leapFebruary leap⟩
    | false => exact ⟨28, .commonFebruary leap⟩

theorem gregorianLength_iff :
    GregorianLength year month day ↔
      (1 ≤ month ∧ month ≤ 12) ∧ day = daysInMonth year month := by
  constructor
  · intro h
    exact ⟨h.numbered, h.eq_daysInMonth⟩
  · intro ⟨⟨low, high⟩, eq⟩
    obtain ⟨length, isLength⟩ := exists_gregorianLength year low high
    rwa [eq, ← isLength.eq_daysInMonth]

theorem exists_date_of_lastDayOfMonth? (h : lastDayOfMonth? year month = some day) :
    ∃ d : Date, d.year = year ∧ d.month = month ∧ d.day = day := by
  unfold lastDayOfMonth? at h
  split at h
  · obtain ⟨d, found, rfl⟩ := Option.map_eq_some_iff.mp h
    obtain ⟨start, started, before⟩ := Option.bind_eq_some_iff.mp found
    split at started
    · next december =>
        obtain ⟨sYear, sMonth, sDay⟩ := Date.ofYmd?_eq_some started
        simp only [Date.pred?, sDay, sMonth, lt_irrefl, if_false] at before
        obtain ⟨dYear, dMonth, -⟩ := Date.ofYmd?_eq_some before
        exact ⟨d, by omega, by omega, rfl⟩
    · obtain ⟨sYear, sMonth, sDay⟩ := Date.ofYmd?_eq_some started
      have later : 1 < month + 1 := by omega
      simp only [Date.pred?, sDay, sMonth, lt_irrefl, if_false, later, if_true] at before
      obtain ⟨dYear, dMonth, -⟩ := Date.ofYmd?_eq_some before
      exact ⟨d, by omega, by omega, rfl⟩
  · cases h

theorem Month.year_following_le_lastYear_iff (m : Month) :
    m.following.year ≤ lastYear ↔ m.year ≤ lastYear ∧ ¬ (m.year = lastYear ∧ m.number = 12) := by
  unfold Month.following
  split
  · simp only
    omega
  · simp only
    omega

theorem lastDayOfMonth?_eq_some_iff :
    lastDayOfMonth? year month = some day ↔
      ((firstYear ≤ year ∧ year ≤ lastYear) ∧ ¬ (year = lastYear ∧ month = 12)) ∧
        GregorianLength year month day := by
  have goesOn := (Month.mk year month).year_following_le_lastYear_iff
  simp only at goesOn
  rw [gregorianLength_iff]
  constructor
  · intro h
    obtain ⟨d, rfl, rfl, -⟩ := exists_date_of_lastDayOfMonth? h
    have inside := goesOn.mp (following_le_of_lastDayOfMonth? h)
    exact ⟨⟨d.year_mem, inside.2⟩, d.month_mem, daysInMonth_of_lastDayOfMonth? h⟩
  · rintro ⟨⟨⟨first, last⟩, notEnd⟩, ⟨low, high⟩, rfl⟩
    exact lastDayOfMonth?_eq low high first (goesOn.mpr ⟨last, notEnd⟩)

/-- The end that is found of a month is its Gregorian length, and it is found for every month of the
    calendar but the last one. There is none for a number that names no month and for a year outside
    the calendar. -/
theorem month_end_is_gregorian_before_last_month (year : Int) (month : Nat) :
    (∀ day, lastDayOfMonth? year month = some day ↔
        ((firstYear ≤ year ∧ year ≤ lastYear) ∧ ¬ (year = lastYear ∧ month = 12)) ∧
          GregorianLength year month day) ∧
      (lastDayOfMonth? year month = none ↔
        ¬ (1 ≤ month ∧ month ≤ 12) ∨ ¬ (firstYear ≤ year ∧ year ≤ lastYear) ∨
          (year = lastYear ∧ month = 12)) := by
  refine ⟨fun day => lastDayOfMonth?_eq_some_iff, ?_⟩
  simp only [Option.eq_none_iff_forall_ne_some, ne_eq, lastDayOfMonth?_eq_some_iff,
    gregorianLength_iff]
  constructor
  · intro missing
    have := missing (daysInMonth year month)
    tauto
  · intro outside day found
    tauto

/-- The month that closes the calendar has 31 days, the last of them a date, but no end is found. -/
theorem last_month_has_no_end :
    ¬ (∀ (year : Int) (month : Nat), 1 ≤ month ∧ month ≤ 12 → firstYear ≤ year ∧ year ≤ lastYear →
        ∃ day, lastDayOfMonth? year month = some day ∧ GregorianLength year month day) ∧
      lastDayOfMonth? 262142 12 = none ∧ GregorianLength 262142 12 31 ∧
      ∃ d, Date.ofYmd? 262142 12 31 = some d := by
  have missing : lastDayOfMonth? 262142 12 = none := by decide
  refine ⟨fun always => ?_, missing, .long (by simp), Option.isSome_iff_exists.mp (by decide)⟩
  obtain ⟨day, found, -⟩ := always 262142 12 (by simp) (by decide)
  rw [missing] at found
  cases found

end Agenda
