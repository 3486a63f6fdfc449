import Mathlib.Tactic
import Agenda.Calendar.DayNumber

/-! # Day numbers determine dates

The day number is an order isomorphism between the calendar and an interval of integers. Later
arguments about dates are therefore made on their day numbers, by integer arithmetic.
-/

namespace Agenda

theorem isLeapYear_iff (year : Int) :
    isLeapYear year = true ↔ year % 4 = 0 ∧ (year % 100 ≠ 0 ∨ year % 400 = 0) := by
  simp [isLeapYear]

/-- Two Februaries with 29 days are at most eight years apart, also across a century. -/
theorem leapYear_within_eight (year : Int) :
    ∃ leap, year < leap ∧ leap ≤ year + 8 ∧ isLeapYear leap = true := by
  simp only [isLeapYear_iff]
  let fourth := year + 4 - year % 4
  by_cases century : fourth % 100 = 0
  · exact ⟨fourth + 4, by omega, by omega, by omega, Or.inl (by omega)⟩
  · exact ⟨fourth, by omega, by omega, by omega, Or.inl century⟩

def daysInYear (year : Int) : Nat :=
  if isLeapYear year then 366 else 365

theorem daysBeforeYear_succ (year : Int) :
    daysBeforeYear (year + 1) = daysBeforeYear year + daysInYear year := by
  have leap := isLeapYear_iff year
  simp only [daysBeforeYear, daysInYear]
  split
  · have := leap.mp ‹_›
    omega
  · have := mt leap.mpr ‹_›
    omega

theorem daysBeforeYear_mono {a b : Int} (h : a ≤ b) : daysBeforeYear a ≤ daysBeforeYear b := by
  simp only [daysBeforeYear]
  omega

@[simp] theorem daysBeforeMonth_succ (year : Int) (month : Nat) :
    daysBeforeMonth year (month + 1) = daysBeforeMonth year month + daysInMonth year month := rfl

theorem daysBeforeMonth_end (year : Int) : daysBeforeMonth year 13 = daysInYear year := by
  simp only [daysBeforeMonth, daysInMonth, daysInYear]
  split <;> rfl

theorem daysBeforeMonth_mono (year : Int) {a b : Nat} (h : a ≤ b) :
    daysBeforeMonth year a ≤ daysBeforeMonth year b := by
  induction b, h using Nat.le_induction with
  | base => exact le_rfl
  | succ b _ ih => exact ih.trans (Nat.le_add_right _ _)

theorem yearOfDay_spec (n : Int) :
    daysBeforeYear (yearOfDay n) < n ∧ n ≤ daysBeforeYear (yearOfDay n + 1) := by
  simp only [yearOfDay]
  have guess : daysBeforeYear (n * 400 / 146097 + 1 - 1) < n ∧
      n ≤ daysBeforeYear (n * 400 / 146097 + 1 + 1 + 1) := by
    simp only [daysBeforeYear]
    omega
  generalize n * 400 / 146097 + 1 = year at *
  split
  · rw [Int.sub_add_cancel]
    exact ⟨guess.1, ‹_›⟩
  · split
    · exact ⟨‹_›, guess.2⟩
    · omega

theorem yearOfDay_unique {n year : Int} (before : daysBeforeYear year < n)
    (after : n ≤ daysBeforeYear (year + 1)) : yearOfDay n = year := by
  obtain ⟨low, high⟩ := yearOfDay_spec n
  rcases Int.lt_trichotomy (yearOfDay n) year with h | h | h
  · have := daysBeforeYear_mono (Int.add_one_le_of_lt h)
    omega
  · exact h
  · have := daysBeforeYear_mono (Int.add_one_le_of_lt h)
    omega

theorem exists_month (year : Int) (dayOfYear months : Nat) (pos : 1 ≤ dayOfYear)
    (h : dayOfYear ≤ daysBeforeMonth year months) :
    ∃ month < months, ∃ day, 1 ≤ day ∧ day ≤ daysInMonth year month ∧
      dayOfYear = daysBeforeMonth year month + day := by
  induction months with
  | zero =>
      simp only [daysBeforeMonth] at h
      omega
  | succ months ih =>
      by_cases earlier : dayOfYear ≤ daysBeforeMonth year months
      · obtain ⟨month, lt, found⟩ := ih earlier
        exact ⟨month, Nat.lt_succ_of_lt lt, found⟩
      · rw [daysBeforeMonth_succ] at h
        exact ⟨months, Nat.lt_succ_self months, dayOfYear - daysBeforeMonth year months,
          by omega, by omega, by omega⟩

namespace Date

/-- The day of the year, counted from 1. -/
def dayOfYear (d : Date) : Nat :=
  daysBeforeMonth d.year d.month + d.day

theorem dayNumber_eq (d : Date) : d.dayNumber = daysBeforeYear d.year + d.dayOfYear := by
  simp only [dayNumber, dayOfYear]
  omega

theorem dayOfYear_bounds (d : Date) : 1 ≤ d.dayOfYear ∧ d.dayOfYear ≤ daysInYear d.year := by
  have months := daysBeforeMonth_mono d.year (show d.month + 1 ≤ 13 from Nat.succ_le_succ d.month_mem.2)
  rw [daysBeforeMonth_end, daysBeforeMonth_succ] at months
  have day := d.day_mem
  simp only [dayOfYear]
  omega

theorem dayNumber_bounds (d : Date) :
    daysBeforeYear d.year < d.dayNumber ∧ d.dayNumber ≤ daysBeforeYear (d.year + 1) := by
  have inside := d.dayOfYear_bounds
  rw [dayNumber_eq, daysBeforeYear_succ]
  omega

theorem dayOfYear_lt {a b : Date} (year : a.year = b.year)
    (h : a.month < b.month ∨ (a.month = b.month ∧ a.day < b.day)) :
    a.dayOfYear < b.dayOfYear := by
  have dayA := a.day_mem
  have dayB := b.day_mem
  simp only [dayOfYear, year] at *
  rcases h with h | ⟨month, h⟩
  · have := daysBeforeMonth_mono b.year (Nat.succ_le_of_lt h)
    rw [Nat.succ_eq_add_one, daysBeforeMonth_succ] at this
    omega
  · rw [month]
    omega

theorem dayNumber_lt_of_lt {a b : Date} (h : a < b) : a.dayNumber < b.dayNumber := by
  have boundsA := a.dayNumber_bounds
  have boundsB := b.dayNumber_bounds
  rcases h with h | ⟨year, h⟩
  · have := daysBeforeYear_mono (Int.add_one_le_of_lt h)
    omega
  · have := dayOfYear_lt year h
    rw [dayNumber_eq, dayNumber_eq, year]
    omega

theorem ext_parts {a b : Date} (year : a.year = b.year) (month : a.month = b.month)
    (day : a.day = b.day) : a = b := by
  cases a
  cases b
  simp only at year month day
  simp only [year, month, day]

theorem lt_or_eq_or_gt (a b : Date) : a < b ∨ a = b ∨ b < a := by
  by_cases year : a.year = b.year
  · by_cases month : a.month = b.month
    · by_cases day : a.day = b.day
      · exact Or.inr (Or.inl (ext_parts year month day))
      · rcases Nat.lt_or_gt_of_ne day with h | h
        · exact Or.inl (Or.inr ⟨year, Or.inr ⟨month, h⟩⟩)
        · exact Or.inr (Or.inr (Or.inr ⟨year.symm, Or.inr ⟨month.symm, h⟩⟩))
    · rcases Nat.lt_or_gt_of_ne month with h | h
      · exact Or.inl (Or.inr ⟨year, Or.inl h⟩)
      · exact Or.inr (Or.inr (Or.inr ⟨year.symm, Or.inl h⟩))
  · rcases Int.lt_or_gt_of_ne year with h | h
    · exact Or.inl (Or.inl h)
    · exact Or.inr (Or.inr (Or.inl h))

theorem lt_iff {a b : Date} : a < b ↔ a.dayNumber < b.dayNumber := by
  refine ⟨dayNumber_lt_of_lt, fun h => ?_⟩
  rcases lt_or_eq_or_gt a b with lt | rfl | gt
  · exact lt
  · exact absurd h (Int.lt_irrefl _)
  · have := dayNumber_lt_of_lt gt
    omega

theorem le_iff {a b : Date} : a ≤ b ↔ a.dayNumber ≤ b.dayNumber := by
  show ¬ b < a ↔ _
  rw [lt_iff]
  omega

theorem dayNumber_inj {a b : Date} : a.dayNumber = b.dayNumber ↔ a = b := by
  refine ⟨fun h => ?_, fun h => h ▸ rfl⟩
  rcases lt_or_eq_or_gt a b with lt | eq | gt
  · have := lt_iff.mp lt
    omega
  · exact eq
  · have := lt_iff.mp gt
    omega

instance : LinearOrder Date where
  le_refl d := le_iff.mpr le_rfl
  le_trans a b c left right := le_iff.mpr ((le_iff.mp left).trans (le_iff.mp right))
  le_antisymm a b left right := dayNumber_inj.mp ((le_iff.mp left).antisymm (le_iff.mp right))
  lt_iff_le_not_ge a b := by
    rw [lt_iff, le_iff, le_iff]
    exact lt_iff_le_not_ge
  le_total a b := by
    rw [le_iff, le_iff]
    exact le_total _ _
  toDecidableLE := inferInstance

theorem ofDayNumber?_dayNumber (d : Date) : ofDayNumber? d.dayNumber = some d := by
  have year : yearOfDay d.dayNumber = d.year :=
    yearOfDay_unique d.dayNumber_bounds.1 d.dayNumber_bounds.2
  have rest : (d.dayNumber - daysBeforeYear d.year).toNat = d.dayOfYear := by
    rw [dayNumber_eq]
    omega
  have day := d.day_mem
  have month : (List.range' 1 12).find?
      (fun m => decide (d.dayOfYear ≤ daysBeforeMonth d.year (m + 1))) = some d.month := by
    rw [List.find?_range'_eq_some]
    have inside := d.month_mem
    refine ⟨decide_eq_true ?_, by simp only [List.mem_range'_1]; omega, ?_⟩
    · simp only [daysBeforeMonth_succ, dayOfYear]
      omega
    · intro earlier _ lt
      have months := daysBeforeMonth_mono d.year (show earlier + 1 ≤ d.month from lt)
      have before : ¬ d.dayOfYear ≤ daysBeforeMonth d.year (earlier + 1) := by
        simp only [dayOfYear]
        omega
      simpa only [Bool.not_eq_true', decide_eq_false_iff_not] using before
  have days : d.dayOfYear - daysBeforeMonth d.year d.month = d.day := by
    simp only [dayOfYear]
    omega
  simp only [ofDayNumber?, year, rest, month, Option.bind_eq_bind, Option.bind_some, days, ofYmd?_self]

theorem ofDayNumber?_eq_some_iff {n : Int} {d : Date} :
    ofDayNumber? n = some d ↔ d.dayNumber = n := by
  constructor
  · intro h
    simp only [ofDayNumber?, Option.bind_eq_bind, Option.bind_eq_some_iff] at h
    obtain ⟨month, -, found⟩ := h
    obtain ⟨year, rfl, day⟩ := ofYmd?_eq_some found
    have low := (yearOfDay_spec n).1
    have pos := d.day_mem.1
    simp only [dayNumber, year]
    omega
  · rintro rfl
    exact ofDayNumber?_dayNumber d

/-- A day number between the ends of the calendar. -/
def InCalendar (n : Int) : Prop :=
  daysBeforeYear firstYear < n ∧ n ≤ daysBeforeYear (lastYear + 1)

theorem inCalendar_dayNumber (d : Date) : InCalendar d.dayNumber := by
  have inside := d.dayNumber_bounds
  have first := daysBeforeYear_mono d.year_mem.1
  have last := daysBeforeYear_mono (Int.add_le_add_right d.year_mem.2 1)
  exact ⟨by omega, by omega⟩

theorem exists_dayNumber_eq {n : Int} (h : InCalendar n) : ∃ d : Date, d.dayNumber = n := by
  obtain ⟨low, high⟩ := yearOfDay_spec n
  have year_mem : firstYear ≤ yearOfDay n ∧ yearOfDay n ≤ lastYear := by
    obtain ⟨first, last⟩ := h
    constructor
    · by_contra lt
      have := daysBeforeYear_mono (show yearOfDay n + 1 ≤ firstYear by omega)
      omega
    · by_contra lt
      have := daysBeforeYear_mono (show lastYear + 1 ≤ yearOfDay n by omega)
      omega
  generalize yearOfDay n = year at *
  rw [daysBeforeYear_succ, ← daysBeforeMonth_end] at high
  obtain ⟨month, -, day, day_pos, day_le, days⟩ :=
    exists_month year (n - daysBeforeYear year).toNat 13 (by omega) (by omega)
  refine ⟨⟨year, month, day, year_mem, day_pos, day_le⟩, ?_⟩
  simp only [dayNumber]
  omega

def last : Date :=
  ⟨lastYear, 12, 31, by decide, by decide⟩

theorem dayNumber_last : last.dayNumber = daysBeforeYear (lastYear + 1) := by decide

theorem ofDayNumber?_eq_none_iff {d : Date} {n : Int} (from_ : d.dayNumber ≤ n) :
    ofDayNumber? n = none ↔ last.dayNumber < n := by
  have start := d.inCalendar_dayNumber.1
  rw [dayNumber_last, Option.eq_none_iff_forall_ne_some]
  constructor
  · intro missing
    by_contra inside
    obtain ⟨e, eq⟩ := exists_dayNumber_eq (n := n) ⟨by omega, by omega⟩
    exact missing e (ofDayNumber?_eq_some_iff.mpr eq)
  · intro past e found
    have end_ := e.inCalendar_dayNumber.2
    rw [ofDayNumber?_eq_some_iff.mp found] at end_
    omega

/-- The date has a century of the calendar after it. -/
def HasRoom (d : Date) : Prop :=
  d.year ≤ 262000

theorem dayNumber_le_of_hasRoom {d : Date} (h : d.HasRoom) :
    d.dayNumber ≤ daysBeforeYear 262001 := by
  have bounds := d.dayNumber_bounds
  have : daysBeforeYear (d.year + 1) ≤ daysBeforeYear 262001 :=
    daysBeforeYear_mono (Int.add_le_add_right h 1)
  omega

/-- There is a date for every day number from that of a date up to a few years past the latest
    date that has room. -/
theorem exists_ofDayNumber? {d : Date} {n : Int} (from_ : d.dayNumber ≤ n)
    (near : n ≤ daysBeforeYear 262001 + 1000) : ∃ e, ofDayNumber? n = some e := by
  have start := d.inCalendar_dayNumber.1
  have close : daysBeforeYear 262001 + 1000 ≤ daysBeforeYear (lastYear + 1) := by decide
  obtain ⟨e, eq⟩ := exists_dayNumber_eq (n := n) ⟨by omega, by omega⟩
  exact ⟨e, ofDayNumber?_eq_some_iff.mpr eq⟩

end Date

end Agenda
