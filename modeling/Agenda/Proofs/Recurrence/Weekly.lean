import Mathlib.Tactic
import Agenda.Recurrence.Weekly
import Agenda.Proofs.Ascending
import Agenda.Proofs.Calendar.DayNumber

/-! # Weekly rules catch up

The nearest listed day is the least one from the start on, and the weekly loop goes on by whole
weeks from there, always on that weekday. So counting on from a day that was passed over changes
nothing, and neither does a later reference day that has not passed the next date.
-/

namespace Agenda.Recurrence

variable {days : List Nat}

theorem weekdayOfDay_bounds (n : Int) : 1 ≤ weekdayOfDay n ∧ weekdayOfDay n ≤ 7 := by
  unfold weekdayOfDay
  omega

theorem weekdayOfDay_add (n : Int) {k : Nat} (h : k < 7) :
    weekdayOfDay (n + k) =
      if weekdayOfDay n + k ≤ 7 then weekdayOfDay n + k else weekdayOfDay n + k - 7 := by
  unfold weekdayOfDay
  split <;> omega

theorem weekdayOfDay_add_weeks (day : Int) (weeks : Nat) :
    weekdayOfDay (day + 7 * weeks) = weekdayOfDay day := by
  unfold weekdayOfDay
  omega

theorem weekdayOfDay_add_week (day : Int) : weekdayOfDay (day + 7) = weekdayOfDay day :=
  weekdayOfDay_add_weeks day 1

theorem daysToWeekday_spec (week : IncreasingIn 1 7 days) (nonempty : days ≠ []) (start : Int) :
    daysToWeekday days (weekdayOfDay start) < 7 ∧
      weekdayOfDay (start + daysToWeekday days (weekdayOfDay start)) ∈ days ∧
      ∀ k < daysToWeekday days (weekdayOfDay start), weekdayOfDay (start + k) ∉ days := by
  have today := weekdayOfDay_bounds start
  unfold daysToWeekday
  split
  · next day found =>
      have member := List.mem_of_find?_eq_some found
      have reached : weekdayOfDay start ≤ day := by simpa using List.find?_some found
      have bound := week.within day member
      refine ⟨by omega, ?_, fun k shorter listed => ?_⟩
      · rw [weekdayOfDay_add start (by omega), if_pos (by omega)]
        rwa [Nat.add_sub_cancel' reached]
      · rw [weekdayOfDay_add start (by omega), if_pos (by omega)] at listed
        have := le_of_find?_eq_some week.increasing found listed (decide_eq_true (by omega))
        omega
  · next none =>
      obtain ⟨first, rest, rfl⟩ := List.exists_cons_of_ne_nil nonempty
      have before := List.find?_eq_none.mp none
      simp only [decide_eq_true_eq] at before
      have bound := week.within first List.mem_cons_self
      have passed := before first List.mem_cons_self
      rw [List.headD_cons]
      refine ⟨by omega, ?_, fun k shorter listed => ?_⟩
      · rw [weekdayOfDay_add start (by omega), if_neg (by omega),
          show weekdayOfDay start + (7 - weekdayOfDay start + first) - 7 = first by omega]
        exact List.mem_cons_self
      · rw [weekdayOfDay_add start (by omega)] at listed
        split at listed
        · exact before _ listed (by omega)
        · have := head_le week.increasing listed
          omega

theorem nearestListed_isLeast (week : IncreasingIn 1 7 days) (nonempty : days ≠ [])
    (start : Int) :
    IsLeast {day | start ≤ day ∧ weekdayOfDay day ∈ days} (nearestListed days start) := by
  obtain ⟨-, listed, least⟩ := daysToWeekday_spec week nonempty start
  refine ⟨⟨le_nearestListed days start, listed⟩, ?_⟩
  rintro day ⟨from_, dayListed⟩
  by_contra earlier
  unfold nearestListed at earlier
  refine least (day - start).toNat (by omega) ?_
  rwa [Int.toNat_of_nonneg (by omega), add_sub_cancel]

theorem nearestListed_lt (week : IncreasingIn 1 7 days) (nonempty : days ≠ []) (start : Int) :
    nearestListed days start < start + 7 := by
  obtain ⟨short, -⟩ := daysToWeekday_spec week nonempty start
  unfold nearestListed
  omega

theorem nearestListed_of_listed (week : IncreasingIn 1 7 days) {day : Int}
    (listed : weekdayOfDay day ∈ days) : nearestListed days day = day :=
  (nearestListed_isLeast week (List.ne_nil_of_mem listed) day).unique
    ⟨⟨le_rfl, listed⟩, fun _ other => other.1⟩

theorem nearestListed_add_week (week : IncreasingIn 1 7 days) {day : Int}
    (listed : weekdayOfDay day ∈ days) : nearestListed days (day + 7) = day + 7 := by
  apply nearestListed_of_listed week
  rwa [weekdayOfDay_add_week]

theorem weeklyFrom_of_lt {now day : Int} (h : day < now) :
    weeklyFrom now days day = weeklyFrom now days (nearestListed days (day + 7)) := by
  rw [weeklyFrom, if_pos h]

theorem weeklyFrom_of_le {now day : Int} (h : now ≤ day) : weeklyFrom now days day = day := by
  rw [weeklyFrom, if_neg (Int.not_lt.mpr h)]

theorem le_weeklyFrom (now day : Int) (days : List Nat) :
    day ≤ weeklyFrom now days day ∧ now ≤ weeklyFrom now days day := by
  fun_induction weeklyFrom now days day with
  | case1 day less ih =>
      have := le_nearestListed days (day + 7)
      omega
  | case2 day notLess => omega

theorem weeklyFrom_le (week : IncreasingIn 1 7 days) (nonempty : days ≠ []) (now day : Int) :
    weeklyFrom now days day ≤ max day (now + 12) := by
  fun_induction weeklyFrom now days day with
  | case1 day less ih =>
      have := nearestListed_lt week nonempty (day + 7)
      omega
  | case2 day notLess => omega

/-- A loop that starts on a listed day stops at the first day that is whole weeks after it and not
    before the reference day. -/
theorem weeklyFrom_isLeast (week : IncreasingIn 1 7 days) (now : Int) {day : Int}
    (listed : weekdayOfDay day ∈ days) :
    IsLeast {n | now ≤ n ∧ ∃ weeks : Nat, n = day + 7 * weeks} (weeklyFrom now days day) := by
  -- Every round starts on a listed day again, one week later.
  fun_induction weeklyFrom now days day with
  | case1 day less ih =>
      rw [nearestListed_add_week week listed] at ih ⊢
      obtain ⟨⟨reached, weeks, eq⟩, least⟩ := ih (by rwa [weekdayOfDay_add_week])
      refine ⟨⟨reached, weeks + 1, by omega⟩, ?_⟩
      rintro n ⟨notBefore, others, rfl⟩
      exact least ⟨notBefore, others - 1, by omega⟩
  | case2 day notLess =>
      refine ⟨⟨Int.not_lt.mp notLess, 0, by omega⟩, ?_⟩
      rintro n ⟨-, weeks, rfl⟩
      omega

theorem weeklyFrom_listed (week : IncreasingIn 1 7 days) (now : Int) {day : Int}
    (listed : weekdayOfDay day ∈ days) : weekdayOfDay (weeklyFrom now days day) ∈ days := by
  obtain ⟨weeks, eq⟩ := (weeklyFrom_isLeast week now listed).1.2
  rwa [eq, weekdayOfDay_add_weeks]

theorem weeklyFrom_of_notReached {now later day : Int} (le : now ≤ later)
    (notReached : later ≤ weeklyFrom now days day) :
    weeklyFrom later days day = weeklyFrom now days day := by
  fun_induction weeklyFrom now days day with
  | case1 day less ih => rw [weeklyFrom_of_lt (less.trans_le le), ih notReached]
  | case2 day notLess => exact weeklyFrom_of_le notReached

/-- The loop passes through every day at which an earlier reference day would have ended it. -/
theorem weeklyFrom_of_passed {now later day : Int} (passed : weeklyFrom now days day < later) :
    weeklyFrom later days (weeklyFrom now days day) = weeklyFrom later days day := by
  fun_induction weeklyFrom now days day with
  | case1 day less ih =>
      have forward := le_weeklyFrom now (nearestListed days (day + 7)) days
      have := le_nearestListed days (day + 7)
      rw [ih passed, ← weeklyFrom_of_lt (by omega)]
  | case2 => rfl

theorem weekly?_eq_some_iff {now anchor next : Date} :
    weekly? now anchor days = some next ↔
      next.dayNumber =
        weeklyFrom now.dayNumber days (nearestListed days anchor.dayNumber) := by
  rw [weekly?, Date.ofDayNumber?_eq_some_iff]

theorem now_le_of_weekly? {now anchor next : Date} (h : weekly? now anchor days = some next) :
    now ≤ next := by
  rw [Date.le_iff, weekly?_eq_some_iff.mp h]
  exact (le_weeklyFrom _ _ _).2

theorem weekly?_of_notReached {now later anchor next : Date}
    (h : weekly? now anchor days = some next) (le : now ≤ later) (notReached : later ≤ next) :
    weekly? later anchor days = some next := by
  have reached := weekly?_eq_some_iff.mp h
  rw [Date.le_iff] at le notReached
  rw [weekly?_eq_some_iff, reached]
  exact (weeklyFrom_of_notReached le (by rwa [← reached])).symm

theorem weekday_of_weekly? (week : IncreasingIn 1 7 days) (nonempty : days ≠ [])
    {now anchor next : Date} (h : weekly? now anchor days = some next) : next.weekday ∈ days := by
  rw [Date.weekday, weekly?_eq_some_iff.mp h]
  exact weeklyFrom_listed week _ (nearestListed_isLeast week nonempty _).1.2

theorem weekly?_of_passed (week : IncreasingIn 1 7 days) (nonempty : days ≠ [])
    {now later anchor next : Date} (h : weekly? now anchor days = some next)
    (passed : next < later) : weekly? later next days = weekly? later anchor days := by
  have listed := weekday_of_weekly? week nonempty h
  have reached := weekly?_eq_some_iff.mp h
  rw [Date.lt_iff, reached] at passed
  simp only [weekly?, nearestListed_of_listed week listed]
  rw [reached, weeklyFrom_of_passed passed]

theorem exists_weekly? (week : IncreasingIn 1 7 days) (nonempty : days ≠ []) {now anchor : Date}
    (nowRoom : now.HasRoom) (anchorRoom : anchor.HasRoom) :
    ∃ next, weekly? now anchor days = some next := by
  have near := nearestListed_lt week nonempty anchor.dayNumber
  have start := le_nearestListed days anchor.dayNumber
  have forward := le_weeklyFrom now.dayNumber (nearestListed days anchor.dayNumber) days
  have bound := weeklyFrom_le week nonempty now.dayNumber (nearestListed days anchor.dayNumber)
  have nowBound := Date.dayNumber_le_of_hasRoom nowRoom
  have anchorBound := Date.dayNumber_le_of_hasRoom anchorRoom
  exact Date.exists_ofDayNumber? (d := anchor) (by omega) (by omega)

/-- The next date is the date itself exactly when that is listed and not yet passed. -/
theorem weekly?_eq_anchor_iff (week : IncreasingIn 1 7 days) (nonempty : days ≠ [])
    {now anchor next : Date} (h : weekly? now anchor days = some next) :
    anchor ≤ next ∧ (next = anchor ↔ now ≤ anchor ∧ anchor.weekday ∈ days) := by
  have reached := weekly?_eq_some_iff.mp h
  have start := le_nearestListed days anchor.dayNumber
  have forward := le_weeklyFrom now.dayNumber (nearestListed days anchor.dayNumber) days
  refine ⟨Date.le_iff.mpr (by omega), ?_⟩
  constructor
  · rintro rfl
    exact ⟨Date.le_iff.mpr (by omega), weekday_of_weekly? week nonempty h⟩
  · rintro ⟨due, listed⟩
    rw [nearestListed_of_listed week listed, weeklyFrom_of_le (Date.le_iff.mp due)] at reached
    exact Date.dayNumber_inj.mp reached

end Agenda.Recurrence
