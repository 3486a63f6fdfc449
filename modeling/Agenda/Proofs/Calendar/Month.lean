import Mathlib.Tactic
import Agenda.Calendar.Month
import Agenda.Proofs.Ascending
import Agenda.Proofs.Calendar.DayNumber

/-! # Months in order

Months are compared by their index, as dates are by their day number. From a month on, the first
allowed one is the least in this order.
-/

namespace Agenda

theorem daysInMonth_le (year : Int) (month : Nat) : daysInMonth year month ≤ 31 := by
  unfold daysInMonth
  cases isLeapYear year <;> split <;> decide

theorem le_daysInMonth (year : Int) {month : Nat} (low : 1 ≤ month) (high : month ≤ 12) :
    28 ≤ daysInMonth year month := by
  unfold daysInMonth
  cases isLeapYear year <;> interval_cases month <;> decide

theorem daysInMonth_le_of_isLeapYear {leap : Int} (h : isLeapYear leap = true) (year : Int)
    (month : Nat) :
    daysInMonth year month ≤ daysInMonth leap month := by
  unfold daysInMonth
  rw [h]
  cases isLeapYear year <;> split <;> decide

theorem Date.exists_ofYmd? (year : Int) (month day : Nat)
    (year_mem : firstYear ≤ year ∧ year ≤ lastYear)
    (day_mem : 1 ≤ day ∧ day ≤ daysInMonth year month) :
    ∃ d, Date.ofYmd? year month day = some d ∧ d.year = year ∧ d.month = month ∧ d.day = day :=
  ⟨⟨year, month, day, year_mem, day_mem⟩, by simp [Date.ofYmd?, year_mem, day_mem]⟩

theorem lastDayOfMonth?_eq {year : Int} {month : Nat} (low : 1 ≤ month) (high : month ≤ 12)
    (first : firstYear ≤ year) (last : (Month.mk year month).following.year ≤ lastYear) :
    lastDayOfMonth? year month = some (daysInMonth year month) := by
  have days := le_daysInMonth year low high
  by_cases december : month = 12
  · subst december
    have yearEnd : year + 1 ≤ lastYear := last
    have january : 1 ≤ daysInMonth (year + 1) 1 := by simp [daysInMonth]
    obtain ⟨d, found, dYear, dMonth, dDay⟩ :=
      Date.exists_ofYmd? (year + 1) 1 1 ⟨Int.le_add_one first, yearEnd⟩ ⟨le_rfl, january⟩
    obtain ⟨e, end_, -, -, eDay⟩ :=
      Date.exists_ofYmd? year 12 31 ⟨first, by omega⟩ (by simp [daysInMonth])
    simp only [lastDayOfMonth?, le_refl, and_true, if_true, low, found, Option.bind_some, Date.pred?,
      dDay, dMonth, lt_irrefl, if_false, dYear, Int.add_sub_cancel, end_, Option.map_some, eDay]
    rfl
  · have inside : year ≤ lastYear := by simpa only [Month.following, december, if_false] using last
    have next : 1 ≤ daysInMonth year (month + 1) :=
      (show 1 ≤ 28 by decide).trans (le_daysInMonth year (by omega) (by omega))
    obtain ⟨d, found, dYear, dMonth, dDay⟩ :=
      Date.exists_ofYmd? year (month + 1) 1 ⟨first, inside⟩ ⟨le_rfl, next⟩
    obtain ⟨e, end_, -, -, eDay⟩ :=
      Date.exists_ofYmd? year month (daysInMonth year month) ⟨first, inside⟩ ⟨by omega, le_rfl⟩
    have later : 1 < month + 1 := by omega
    simp only [lastDayOfMonth?, low, high, and_self, if_true, december, if_false, found,
      Option.bind_some, Date.pred?, dDay, lt_irrefl, dMonth, later, dYear, Nat.add_sub_cancel, end_,
      Option.map_some, eDay]

/-- The end of a month is found by way of the month after it. -/
theorem following_le_of_lastDayOfMonth? {year : Int} {month lastDay : Nat}
    (h : lastDayOfMonth? year month = some lastDay) :
    (Month.mk year month).following.year ≤ lastYear := by
  unfold lastDayOfMonth? at h
  split at h
  · obtain ⟨end_, found, -⟩ := Option.map_eq_some_iff.mp h
    obtain ⟨start, started, -⟩ := Option.bind_eq_some_iff.mp found
    have inside := start.year_mem.2
    unfold Month.following
    split at started
    · next december => rwa [if_pos december, ← (Date.ofYmd?_eq_some started).1]
    · next other => rwa [if_neg other, ← (Date.ofYmd?_eq_some started).1]
  · cases h

theorem daysInMonth_of_lastDayOfMonth? {year : Int} {month lastDay : Nat}
    (h : lastDayOfMonth? year month = some lastDay) : lastDay = daysInMonth year month := by
  unfold lastDayOfMonth? at h
  split at h
  · next number =>
      obtain ⟨end_, found, rfl⟩ := Option.map_eq_some_iff.mp h
      obtain ⟨start, started, before⟩ := Option.bind_eq_some_iff.mp found
      split at started
      · next december =>
          obtain ⟨sYear, sMonth, sDay⟩ := Date.ofYmd?_eq_some started
          simp only [Date.pred?, sDay, sMonth, lt_irrefl, if_false] at before
          rw [(Date.ofYmd?_eq_some before).2.2, december]
          rfl
      · obtain ⟨sYear, sMonth, sDay⟩ := Date.ofYmd?_eq_some started
        have later : 1 < month + 1 := by omega
        simp only [Date.pred?, sDay, sMonth, sYear, lt_irrefl, if_false, later, if_true,
          Nat.add_sub_cancel] at before
        exact (Date.ofYmd?_eq_some before).2.2
  · cases h

namespace Month

def IsNumbered (m : Month) : Prop :=
  1 ≤ m.number ∧ m.number ≤ 12

theorem isNumbered_ofDate (d : Date) : (ofDate d).IsNumbered := d.month_mem

theorem isNumbered_following {m : Month} (h : m.IsNumbered) : m.following.IsNumbered := by
  obtain ⟨low, high⟩ := h
  unfold following
  split
  · exact ⟨le_rfl, by simp⟩
  · exact ⟨Nat.le_add_left 1 _, by simp only; omega⟩

theorem year_following (m : Month) : m.year ≤ m.following.year ∧ m.following.year ≤ m.year + 1 := by
  unfold following
  split
  · exact ⟨Int.le_add_one le_rfl, le_rfl⟩
  · exact ⟨le_rfl, Int.le_add_one le_rfl⟩

theorem index_le_iff {a b : Month} (ha : a.IsNumbered) (hb : b.IsNumbered) :
    a.index ≤ b.index ↔ a.year < b.year ∨ (a.year = b.year ∧ a.number ≤ b.number) := by
  obtain ⟨lowA, highA⟩ := ha
  obtain ⟨lowB, highB⟩ := hb
  simp only [index]
  omega

theorem year_le_of_index_le {a b : Month} (ha : a.IsNumbered) (hb : b.IsNumbered)
    (h : a.index ≤ b.index) : a.year ≤ b.year := by
  rcases (index_le_iff ha hb).mp h with less | ⟨same, -⟩
  · exact less.le
  · exact same.le

/-- The month that closes the calendar is the only one with none after it. -/
theorem year_following_ofDate_le_iff (d : Date) :
    (ofDate d).following.year ≤ lastYear ↔ ¬ (d.year = lastYear ∧ d.month = 12) := by
  have inside := d.year_mem.2
  by_cases december : d.month = 12
  · simp only [following, ofDate, december, if_true, and_true]
    omega
  · simp only [following, ofDate, december, if_false, and_false, not_false_eq_true, inside]

theorem year_following_le {a b : Month} (ha : a.IsNumbered) (hb : b.IsNumbered)
    (h : a.index ≤ b.index) : a.following.year ≤ b.following.year := by
  refine year_le_of_index_le (isNumbered_following ha) (isNumbered_following hb) ?_
  rw [index_following, index_following]
  exact Int.add_le_add_right h 1

theorem index_inj {a b : Month} (ha : a.IsNumbered) (hb : b.IsNumbered)
    (h : a.index = b.index) : a = b := by
  have below := year_le_of_index_le ha hb h.le
  have above := year_le_of_index_le hb ha h.ge
  obtain ⟨yearA, numberA⟩ := a
  obtain ⟨yearB, numberB⟩ := b
  simp only [index] at h below above
  obtain rfl : yearA = yearB := by omega
  obtain rfl : numberA = numberB := by omega
  rfl

theorem ofDate_eq_of_index_eq {a b : Date} (h : (ofDate a).index = (ofDate b).index) :
    ofDate a = ofDate b :=
  index_inj (isNumbered_ofDate a) (isNumbered_ofDate b) h

theorem year_le_of_index_ofDate_le {a b : Date} (h : (ofDate a).index ≤ (ofDate b).index) :
    a.year ≤ b.year :=
  year_le_of_index_le (isNumbered_ofDate a) (isNumbered_ofDate b) h

theorem lt_of_index_lt {a b : Date} (h : (ofDate a).index < (ofDate b).index) : a < b := by
  by_contra le
  exact absurd h (not_lt.mpr (index_ofDate_le le))

theorem later_eq_right {a b : Month} (ha : a.IsNumbered) (hb : b.IsNumbered)
    (h : a.index ≤ b.index) : a.later b = b := by
  unfold later
  split
  · rfl
  · next le =>
      have := year_le_of_index_le ha hb h
      obtain ⟨lowA, highA⟩ := ha
      obtain ⟨lowB, highB⟩ := hb
      refine index_inj ⟨lowA, highA⟩ ⟨lowB, highB⟩ (le_antisymm h ?_)
      simp only [index] at h ⊢
      omega

theorem later_eq_left {a b : Month} (ha : a.IsNumbered) (hb : b.IsNumbered)
    (h : b.index ≤ a.index) : a.later b = a := by
  unfold later
  split
  · next lt =>
      obtain ⟨lowA, highA⟩ := ha
      obtain ⟨lowB, highB⟩ := hb
      simp only [index] at h
      omega
  · rfl

theorem later_spec {a b : Month} (ha : a.IsNumbered) (hb : b.IsNumbered) :
    (a.later b).index = max a.index b.index ∧ (a.later b).year = max a.year b.year ∧
      (a.later b).IsNumbered := by
  rcases le_total a.index b.index with le | le
  · rw [later_eq_right ha hb le, max_eq_right le, max_eq_right (year_le_of_index_le ha hb le)]
    exact ⟨rfl, rfl, hb⟩
  · rw [later_eq_left ha hb le, max_eq_left le, max_eq_left (year_le_of_index_le hb ha le)]
    exact ⟨rfl, rfl, ha⟩

/-- A list of month numbers allows a month. The empty list allows all of them. -/
def IsAllowed (allowed : List Nat) (m : Month) : Prop :=
  allowed = [] ∨ m.number ∈ allowed

variable {allowed : List Nat} {m : Month}

theorem isAllowed_nextAllowed (allowed : List Nat) (m : Month) :
    (m.nextAllowed allowed).IsAllowed allowed := by
  unfold nextAllowed
  split
  · exact Or.inl rfl
  · split
    · next found => exact Or.inr (List.mem_of_find?_eq_some found)
    · exact Or.inr List.mem_cons_self

theorem isNumbered_nextAllowed (numbers : IncreasingIn 1 12 allowed) (h : m.IsNumbered) :
    (m.nextAllowed allowed).IsNumbered := by
  rcases isAllowed_nextAllowed allowed m with rfl | member
  · exact h
  · exact numbers.within _ member

theorem nextAllowed_le (numbers : IncreasingIn 1 12 allowed) (start : m.IsNumbered) {month : Month}
    (h : month.IsNumbered) (isAllowed : month.IsAllowed allowed) (reached : m.index ≤ month.index) :
    (m.nextAllowed allowed).index ≤ month.index := by
  obtain ⟨low, high⟩ := h
  have := start.1
  unfold nextAllowed
  split
  · exact reached
  · next first rest =>
      have member : month.number ∈ first :: rest := isAllowed.resolve_left (List.cons_ne_nil _ _)
      simp only [index] at reached ⊢
      split
      · next number found =>
          have bound := (numbers.within number (List.mem_of_find?_eq_some found)).2
          have least (from_ : m.number ≤ month.number) : number ≤ month.number :=
            le_of_find?_eq_some numbers.increasing found member (decide_eq_true from_)
          by_cases from_ : m.number ≤ month.number
          · have := least from_
            simp only
            omega
          · simp only
            omega
      · next none =>
          have before := List.find?_eq_none.mp none month.number member
          rw [decide_eq_true_eq] at before
          have least := head_le numbers.increasing member
          simp only
          omega

end Month

end Agenda
