import Mathlib.Tactic
import Agenda.Recurrence.Interval
import Agenda.Proofs.Calendar.Anniversary

/-! # Fixed intervals catch up

The number of steps of some days is the least that is enough, and the yearly loop stops in the
first year in which the anniversary is not before the reference day. So counting on from a date
that was passed over changes nothing, and neither does a later reference day that has not passed
the next date.
-/

namespace Agenda.Recurrence

theorem stepsToCatchUp_isLeast (behind : Int) {n : Int} (pos : 0 < n) :
    IsLeast {k | 1 ≤ k ∧ behind ≤ k * n} (stepsToCatchUp behind n) := by
  unfold stepsToCatchUp
  split
  · next near =>
      exact ⟨⟨le_rfl, by rwa [Int.one_mul]⟩, fun k enough => enough.1⟩
  · next far =>
      have rounded := Int.mul_ediv_add_emod (behind + n - 1) n
      have low := Int.emod_nonneg (behind + n - 1) pos.ne'
      have high := Int.emod_lt_of_pos (behind + n - 1) pos
      have enough : behind ≤ (behind + n - 1) / n * n := by
        rw [Int.mul_comm]
        omega
      refine ⟨⟨?_, enough⟩, fun k other => ?_⟩
      · by_contra few
        have : (behind + n - 1) / n * n ≤ 0 * n :=
          Int.mul_le_mul_of_nonneg_right (by omega) pos.le
        omega
      · apply Int.le_of_lt_add_one
        apply Int.ediv_lt_of_lt_mul pos
        have := other.2
        rw [Int.add_mul, Int.one_mul]
        omega

/-- These steps lead to the first day that is not before the reference day, of the days that lie one
    step or more after the start. -/
theorem isLeast_of_stepsToCatchUp (now start : Int) {n : Nat} (pos : 0 < n) :
    IsLeast {day | now ≤ day ∧ ∃ k : Nat, 1 ≤ k ∧ day = start + k * n}
      (start + stepsToCatchUp (now - start) n * n) := by
  have positive : (0 : Int) < n := by omega
  obtain ⟨⟨first, enough⟩, least⟩ := stepsToCatchUp_isLeast (now - start) positive
  generalize stepsToCatchUp (now - start) n = steps at *
  constructor
  · obtain ⟨k, rfl⟩ := Int.eq_ofNat_of_zero_le (show 0 ≤ steps by omega)
    exact ⟨by omega, k, by omega, rfl⟩
  · rintro day ⟨notBefore, k, some, rfl⟩
    have fewest : steps ≤ k := least ⟨by omega, by omega⟩
    have shorter := Int.mul_le_mul_of_nonneg_right fewest positive.le
    omega

theorem stepsToCatchUp_eq {behind n k : Int} (pos : 0 < n)
    (h : IsLeast {k | 1 ≤ k ∧ behind ≤ k * n} k) : stepsToCatchUp behind n = k :=
  (stepsToCatchUp_isLeast behind pos).unique h

theorem stepsToCatchUp_of_enough {behind farBehind n : Int} (pos : 0 < n) (le : behind ≤ farBehind)
    (enough : farBehind ≤ stepsToCatchUp behind n * n) :
    stepsToCatchUp farBehind n = stepsToCatchUp behind n := by
  obtain ⟨⟨first, -⟩, least⟩ := stepsToCatchUp_isLeast behind pos
  refine stepsToCatchUp_eq pos ⟨⟨first, enough⟩, ?_⟩
  rintro other ⟨otherFirst, otherEnough⟩
  exact least ⟨otherFirst, le.trans otherEnough⟩

theorem stepsToCatchUp_add (behind farBehind : Int) {n : Int} (pos : 0 < n)
    (short : stepsToCatchUp behind n * n < farBehind) :
    stepsToCatchUp farBehind n =
      stepsToCatchUp behind n + stepsToCatchUp (farBehind - stepsToCatchUp behind n * n) n := by
  obtain ⟨first, -⟩ := (stepsToCatchUp_isLeast behind pos).1
  generalize stepsToCatchUp behind n = k at *
  obtain ⟨⟨second, enough⟩, least⟩ := stepsToCatchUp_isLeast (farBehind - k * n) pos
  generalize stepsToCatchUp (farBehind - k * n) n = rest at *
  refine stepsToCatchUp_eq pos ⟨⟨by omega, by rw [Int.add_mul]; omega⟩, ?_⟩
  rintro other ⟨-, enoughOther⟩
  have more : k < other := by
    by_contra le
    have := Int.mul_le_mul_of_nonneg_right (Int.not_lt.mp le) pos.le
    omega
  have := least (show other - k ∈ {j | 1 ≤ j ∧ farBehind - k * n ≤ j * n} from
    ⟨by omega, by rw [Int.sub_mul]; omega⟩)
  omega

theorem stepsToCatchUp_mul_le (behind : Int) {n : Int} (pos : 0 < n) :
    stepsToCatchUp behind n * n ≤ max behind 0 + n := by
  obtain ⟨-, least⟩ := stepsToCatchUp_isLeast behind pos
  generalize stepsToCatchUp behind n = k at *
  by_contra more
  have : k ≤ k - 1 := by
    by_cases one : k ≤ 1
    · have : k * n ≤ 1 * n := Int.mul_le_mul_of_nonneg_right one pos.le
      omega
    · exact least ⟨by omega, by rw [Int.sub_mul]; omega⟩
  omega

theorem everyDays?_eq_some_iff {now anchor next : Date} {n : Nat} :
    everyDays? now anchor n = some next ↔
      next.dayNumber =
        anchor.dayNumber + stepsToCatchUp (now.dayNumber - anchor.dayNumber) n * n := by
  rw [everyDays?, Date.addDays?, Date.ofDayNumber?_eq_some_iff]

theorem everyDays?_of_passed {now later anchor next : Date} {n : Nat} (pos : 0 < n)
    (h : everyDays? now anchor n = some next) (passed : next < later) :
    everyDays? later next n = everyDays? later anchor n := by
  have reached := everyDays?_eq_some_iff.mp h
  have positive : (0 : Int) < n := by omega
  rw [Date.lt_iff] at passed
  have sum := stepsToCatchUp_add (now.dayNumber - anchor.dayNumber)
    (later.dayNumber - anchor.dayNumber) positive (by omega)
  have rest : later.dayNumber - anchor.dayNumber -
      stepsToCatchUp (now.dayNumber - anchor.dayNumber) n * n =
        later.dayNumber - next.dayNumber := by omega
  rw [rest] at sum
  simp only [everyDays?, Date.addDays?, sum, Int.add_mul, reached, Int.add_assoc]

theorem lt_of_everyDays? {now anchor next : Date} {n : Nat} (pos : 0 < n)
    (h : everyDays? now anchor n = some next) : anchor < next := by
  have reached := everyDays?_eq_some_iff.mp h
  have positive : (0 : Int) < n := by omega
  obtain ⟨first, -⟩ := (stepsToCatchUp_isLeast (now.dayNumber - anchor.dayNumber) positive).1
  have : 1 * (n : Int) ≤ stepsToCatchUp (now.dayNumber - anchor.dayNumber) n * n :=
    Int.mul_le_mul_of_nonneg_right first positive.le
  rw [Date.lt_iff]
  omega

theorem now_le_of_everyDays? {now anchor next : Date} {n : Nat} (pos : 0 < n)
    (h : everyDays? now anchor n = some next) : now ≤ next := by
  have reached := everyDays?_eq_some_iff.mp h
  have positive : (0 : Int) < n := by omega
  obtain ⟨-, enough⟩ := (stepsToCatchUp_isLeast (now.dayNumber - anchor.dayNumber) positive).1
  rw [Date.le_iff]
  omega

theorem everyDays?_of_notReached {now later anchor next : Date} {n : Nat} (pos : 0 < n)
    (h : everyDays? now anchor n = some next) (le : now ≤ later) (notReached : later ≤ next) :
    everyDays? later anchor n = some next := by
  have reached := everyDays?_eq_some_iff.mp h
  have positive : (0 : Int) < n := by omega
  rw [Date.le_iff] at le notReached
  have same : stepsToCatchUp (later.dayNumber - anchor.dayNumber) n =
      stepsToCatchUp (now.dayNumber - anchor.dayNumber) n :=
    stepsToCatchUp_of_enough positive (by omega) (by omega)
  rw [everyDays?_eq_some_iff, same, reached]

theorem exists_everyDays? {now anchor : Date} {n : Nat} (pos : 0 < n) (le : n ≤ 400)
    (nowRoom : now.HasRoom) (anchorRoom : anchor.HasRoom) :
    ∃ next, everyDays? now anchor n = some next := by
  have positive : (0 : Int) < n := by omega
  have far := stepsToCatchUp_mul_le (now.dayNumber - anchor.dayNumber) positive
  obtain ⟨first, -⟩ := (stepsToCatchUp_isLeast (now.dayNumber - anchor.dayNumber) positive).1
  have forward : 0 ≤ stepsToCatchUp (now.dayNumber - anchor.dayNumber) n * n :=
    Int.mul_nonneg (by omega) positive.le
  have nowBound := Date.dayNumber_le_of_hasRoom nowRoom
  have anchorBound := Date.dayNumber_le_of_hasRoom anchorRoom
  exact Date.exists_ofDayNumber? (d := anchor) (by omega) (by omega)

section Yearly

variable {a : YearDay} {now later date anchor next : Date}

theorem yearlyFrom?_eq (inYear : a.inYear? date.year = some date) :
    yearlyFrom? now date = a.inYear? (max date.year (a.firstYearFrom now)) := by
  fun_induction yearlyFrom? now date with
  | case1 date less next step ih =>
      have before := (YearDay.lt_firstYearFrom_iff inYear).mpr less
      rw [Date.addYears?_one, Date.anniversary_of_inYear? inYear] at step
      have nextYear := (YearDay.inYear?_eq_some_iff.mp step).1
      rw [ih (by rwa [nextYear])]
      congr 1
      omega
  | case2 date less missing =>
      have before := (YearDay.lt_firstYearFrom_iff inYear).mpr less
      rw [Date.addYears?_one, Date.anniversary_of_inYear? inYear,
        YearDay.inYear?_eq_none_iff] at missing
      have from_ := date.year_mem.1
      exact (YearDay.inYear?_eq_none_iff.mpr (by omega)).symm
  | case3 date notLess =>
      have reached := (YearDay.firstYearFrom_le_iff inYear).mpr (not_lt.mp notLess)
      rw [max_eq_left reached, inYear]

/-- The next date of a yearly rule is the first anniversary, or the first one that is not before the
    reference day. -/
theorem yearly?_eq (now anchor : Date) :
    yearly? now anchor =
      anchor.anniversary.inYear? (max (anchor.year + 1) (anchor.anniversary.firstYearFrom now)) := by
  rw [yearly?, Date.addYears?_one]
  cases first : anchor.anniversary.inYear? (anchor.year + 1) with
  | none =>
      have outside := YearDay.inYear?_eq_none_iff.mp first
      have from_ := anchor.year_mem.1
      exact (YearDay.inYear?_eq_none_iff.mpr (by omega)).symm
  | some date =>
      obtain ⟨year, -, -⟩ := YearDay.inYear?_eq_some_iff.mp first
      rw [Option.bind_some, yearlyFrom?_eq (by rw [year, first]), year]

theorem yearly?_eq_some_iff :
    yearly? now anchor = some next ↔
      anchor.anniversary.inYear? next.year = some next ∧
        next.year = max (anchor.year + 1) (anchor.anniversary.firstYearFrom now) := by
  rw [yearly?_eq]
  constructor
  · intro found
    have year := (YearDay.inYear?_eq_some_iff.mp found).1
    exact ⟨by rw [year, found], year⟩
  · rintro ⟨inYear, year⟩
    rw [← year, inYear]

theorem yearly?_of_passed (h : yearly? now anchor = some next) (passed : next < later) :
    yearly? later next = yearly? later anchor := by
  obtain ⟨inYear, year⟩ := yearly?_eq_some_iff.mp h
  have before := (YearDay.lt_firstYearFrom_iff inYear).mpr passed
  rw [yearly?_eq, yearly?_eq, Date.anniversary_of_inYear? inYear]
  congr 1
  omega

theorem now_le_of_yearly? (h : yearly? now anchor = some next) : now ≤ next := by
  obtain ⟨inYear, year⟩ := yearly?_eq_some_iff.mp h
  exact (YearDay.firstYearFrom_le_iff inYear).mp (by omega)

theorem yearly?_of_notReached (h : yearly? now anchor = some next) (le : now ≤ later)
    (notReached : later ≤ next) : yearly? later anchor = some next := by
  obtain ⟨inYear, year⟩ := yearly?_eq_some_iff.mp h
  have least := YearDay.firstYearFrom_mono anchor.anniversary le
  have enough := (YearDay.firstYearFrom_le_iff inYear).mpr notReached
  exact yearly?_eq_some_iff.mpr ⟨inYear, by omega⟩

theorem lt_of_yearly? (h : yearly? now anchor = some next) : anchor < next := by
  have year := (yearly?_eq_some_iff.mp h).2
  exact Or.inl (by omega)

theorem year_le_of_yearly? (h : yearly? now anchor = some next) :
    next.year ≤ max anchor.year now.year + 1 := by
  have year := (yearly?_eq_some_iff.mp h).2
  have near := anchor.anniversary.firstYearFrom_le now
  omega

theorem exists_yearly? (nowRoom : now.HasRoom) (anchorRoom : anchor.HasRoom) :
    ∃ next, yearly? now anchor = some next := by
  have last : (262000 : Int) < lastYear := by decide
  have from_ := anchor.year_mem.1
  have near := anchor.anniversary.firstYearFrom_le now
  simp only [Date.HasRoom] at nowRoom anchorRoom
  rw [yearly?_eq]
  exact YearDay.exists_inYear? (by omega)

end Yearly

end Agenda.Recurrence
