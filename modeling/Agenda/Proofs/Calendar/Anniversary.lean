import Mathlib.Tactic
import Agenda.Proofs.Calendar.Month

/-! # Anniversaries

The anniversaries of a date fall on a day that every year has: on its own month and day, or on
March 1 where that is a leap day. Going on from an anniversary keeps to this day of the year.
-/

namespace Agenda

theorem daysInMonth_february (year : Int) :
    daysInMonth year 2 = if isLeapYear year then 29 else 28 := rfl

theorem daysInMonth_of_ne_two {month : Nat} (other : month ≠ 2) (a b : Int) :
    daysInMonth a month = daysInMonth b month := by
  unfold daysInMonth
  split <;> first | rfl | exact absurd rfl other

theorem isLeapYear_succ {year : Int} (leap : isLeapYear year = true) :
    isLeapYear (year + 1) = false := by
  rw [Bool.eq_false_iff]
  intro next
  have fourth := ((isLeapYear_iff year).mp leap).1
  have nextFourth := ((isLeapYear_iff (year + 1)).mp next).1
  omega

/-- A month and day that every year has. -/
structure YearDay where
  month : Nat
  day : Nat
  day_mem : ∀ year, 1 ≤ day ∧ day ≤ daysInMonth year month

namespace YearDay

def marchFirst : YearDay :=
  ⟨3, 1, fun _ => ⟨le_rfl, Nat.le_of_ble_eq_true rfl⟩⟩

/-- The day of the year in some year, unless the calendar lacks the year. -/
def inYear? (a : YearDay) (year : Int) : Option Date :=
  Date.ofYmd? year a.month a.day

/-- The day of the year in some year is not before a date. The year may lie past the calendar. -/
def NotBefore (a : YearDay) (year : Int) (now : Date) : Prop :=
  now.year < year ∨
    (now.year = year ∧ (now.month < a.month ∨ (now.month = a.month ∧ now.day ≤ a.day)))

/-- The first year in which the day of the year is not before a date. -/
def firstYearFrom (a : YearDay) (now : Date) : Int :=
  if now.month < a.month ∨ (now.month = a.month ∧ now.day ≤ a.day) then now.year
  else now.year + 1

variable {a : YearDay} {year : Int} {now d : Date}

theorem inYear?_eq_some_iff :
    a.inYear? year = some d ↔ d.year = year ∧ d.month = a.month ∧ d.day = a.day := by
  constructor
  · exact Date.ofYmd?_eq_some
  · rintro ⟨rfl, month, day⟩
    rw [inYear?, ← month, ← day, Date.ofYmd?_self]

theorem inYear?_eq_none_iff :
    a.inYear? year = none ↔ ¬ (firstYear ≤ year ∧ year ≤ lastYear) := by
  simp only [inYear?, Date.ofYmd?, a.day_mem year, and_true]
  simp

theorem exists_inYear? (inside : firstYear ≤ year ∧ year ≤ lastYear) :
    ∃ d, a.inYear? year = some d := by
  rw [← Option.ne_none_iff_exists']
  exact fun missing => inYear?_eq_none_iff.mp missing inside

theorem notBefore_iff : a.NotBefore year now ↔ a.firstYearFrom now ≤ year := by
  unfold firstYearFrom NotBefore
  split <;> omega

theorem notBefore_iff_le (inYear : a.inYear? year = some d) : a.NotBefore year now ↔ now ≤ d := by
  obtain ⟨rfl, month, day⟩ := inYear?_eq_some_iff.mp inYear
  show _ ↔ ¬ (d.year < now.year ∨ _)
  rw [NotBefore, ← month, ← day]
  omega

theorem firstYearFrom_le_iff (inYear : a.inYear? year = some d) :
    a.firstYearFrom now ≤ year ↔ now ≤ d :=
  notBefore_iff.symm.trans (notBefore_iff_le inYear)

theorem lt_firstYearFrom_iff (inYear : a.inYear? year = some d) :
    year < a.firstYearFrom now ↔ d < now := by
  rw [← not_le, firstYearFrom_le_iff inYear, not_le]

theorem firstYearFrom_le (a : YearDay) (now : Date) : a.firstYearFrom now ≤ now.year + 1 := by
  unfold firstYearFrom
  split <;> omega

theorem firstYearFrom_mono (a : YearDay) {now later : Date} (le : now ≤ later) :
    a.firstYearFrom now ≤ a.firstYearFrom later := by
  have notLess : ¬ (later.year < now.year ∨ _) := le
  unfold firstYearFrom
  split <;> split <;> omega

theorem firstYearFrom_isLeast (a : YearDay) (now : Date) (year : Int) :
    IsLeast {y | year < y ∧ a.NotBefore y now} (max (year + 1) (a.firstYearFrom now)) := by
  constructor
  · exact ⟨by omega, notBefore_iff.mpr (le_max_right _ _)⟩
  · rintro y ⟨after, notBefore⟩
    exact max_le (Int.add_one_le_of_lt after) (notBefore_iff.mp notBefore)

end YearDay

namespace Date

/-- The date is February 29. -/
def IsLeapDay (d : Date) : Prop :=
  d.month = 2 ∧ d.day = 29

instance (d : Date) : Decidable d.IsLeapDay :=
  inferInstanceAs (Decidable (_ ∧ _))

variable {d : Date}

theorem IsLeapDay.isLeapYear (h : d.IsLeapDay) : isLeapYear d.year = true := by
  have inside := d.day_mem.2
  rw [h.1, h.2, daysInMonth_february] at inside
  by_contra common
  rw [if_neg common] at inside
  omega

theorem day_mem_of_not_isLeapDay (h : ¬ d.IsLeapDay) (year : Int) :
    1 ≤ d.day ∧ d.day ≤ daysInMonth year d.month := by
  have inside := d.day_mem
  refine ⟨inside.1, ?_⟩
  by_cases february : d.month = 2
  · have notLast : d.day ≠ 29 := fun day => h ⟨february, day⟩
    rw [february, daysInMonth_february] at inside ⊢
    split at inside <;> split <;> omega
  · rw [daysInMonth_of_ne_two february year d.year]
    exact inside.2

theorem not_isLeapDay_of_inYear? {a : YearDay} {year : Int} (inYear : a.inYear? year = some d) :
    ¬ d.IsLeapDay := by
  obtain ⟨-, month, day⟩ := YearDay.inYear?_eq_some_iff.mp inYear
  rintro ⟨february, last⟩
  have inside := (a.day_mem 1).2
  rw [← month, ← day, february, last] at inside
  exact absurd inside (by decide)

/-- The day of the year on which the anniversaries of a date fall. -/
def anniversary (d : Date) : YearDay :=
  if h : d.IsLeapDay then .marchFirst else ⟨d.month, d.day, day_mem_of_not_isLeapDay h⟩

theorem anniversary_parts (d : Date) :
    (d.anniversary.month, d.anniversary.day) =
      if d.IsLeapDay then (3, 1) else (d.month, d.day) := by
  unfold anniversary
  split <;> rfl

/-- The anniversaries of an anniversary fall on the same day of the year. -/
theorem anniversary_of_inYear? {a : YearDay} {year : Int} (inYear : a.inYear? year = some d) :
    d.anniversary = a := by
  obtain ⟨-, month, day⟩ := YearDay.inYear?_eq_some_iff.mp inYear
  rw [anniversary, dif_neg (not_isLeapDay_of_inYear? inYear)]
  cases a
  simp only at month day
  simp only [month, day]

theorem addYears?_of_not_isLeapDay (h : ¬ d.IsLeapDay) (years : Int) :
    d.addYears? years = d.anniversary.inYear? (d.year + years) := by
  have same : d.anniversary.inYear? (d.year + years) = ofYmd? (d.year + years) d.month d.day := by
    rw [anniversary, dif_neg h]
    rfl
  rw [addYears?, same]
  cases found : ofYmd? (d.year + years) d.month d.day with
  | some shifted => rfl
  | none =>
      have outside := YearDay.inYear?_eq_none_iff.mp (same.trans found)
      exact (YearDay.inYear?_eq_none_iff (a := .marchFirst)).mpr outside

theorem addYears?_one (d : Date) : d.addYears? 1 = d.anniversary.inYear? (d.year + 1) := by
  by_cases leapDay : d.IsLeapDay
  · have missing : ofYmd? (d.year + 1) d.month d.day = none := by
      have common := isLeapYear_succ leapDay.isLeapYear
      simp [ofYmd?, leapDay.1, leapDay.2, daysInMonth_february, common]
    rw [addYears?, missing, anniversary, dif_pos leapDay]
    rfl
  · exact addYears?_of_not_isLeapDay leapDay 1

end Date

end Agenda
