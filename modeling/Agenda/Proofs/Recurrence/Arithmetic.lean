import Mathlib.Tactic
import Agenda.Proofs.Arithmetic
import Agenda.Proofs.Recurrence.Rounds
import Agenda.Proofs.Rule.Conversion
import Agenda.Proofs.Rule.Checked

/-! # The arithmetic of next dates

Next dates are counted with numbers of fixed width. The calendar checks its own shifts, and so the
years of a yearly rule, but nothing checks the steps of so many days, the wait for a weekday, the
number of the following month and the day that a code stands for. Here each way of counting stands
once more, with these operations in a log, and is shown to have the same answer. For accepted rules
all of them are safe: the calendar is bounded, an interval has at least one day, a weekday that is
looked for is in order with those that are listed, and no month has fewer than 28 days.
-/

namespace Agenda

namespace Recurrence

variable {days allowed : List Nat} {codes : List Int}

theorem dayNumber_within (d : Date) : -100000000 ≤ d.dayNumber ∧ d.dayNumber ≤ 100000000 := by
  have first : -100000000 ≤ daysBeforeYear firstYear := by decide
  have last : daysBeforeYear (lastYear + 1) ≤ 100000000 := by decide
  obtain ⟨low, high⟩ := d.inCalendar_dayNumber
  exact ⟨first.trans low.le, high.trans last⟩

/-- The number of steps to take, with the division rounded up. -/
def loggedSteps (behind : Int) (n : Nat) : Logged Int :=
  if behind ≤ n then pure 1
  else do
    let sum ← Logged.run (.add .signed64 behind n)
    let raised ← Logged.run (.subtract .signed64 sum 1)
    Logged.run (.divide .signed64 raised n)

def loggedEveryDays? (now anchor : Date) (n : Nat) : Logged (Option Date) := do
  let steps ← loggedSteps (now.dayNumber - anchor.dayNumber) n
  let days ← Logged.run (.multiply .signed64 steps n)
  return anchor.addDays? days

@[simp] theorem answer_loggedSteps (behind : Int) (n : Nat) :
    (loggedSteps behind n).answer = stepsToCatchUp behind n := by
  unfold loggedSteps stepsToCatchUp
  split
  · rfl
  · have nonneg : 0 ≤ behind + n - 1 := by omega
    simp only [Logged.answer_bind, Logged.answer_run, Operation.result]
    exact Int.tdiv_eq_ediv_of_nonneg nonneg

@[simp] theorem answer_loggedEveryDays? (now anchor : Date) (n : Nat) :
    (loggedEveryDays? now anchor n).answer = everyDays? now anchor n := by
  simp [loggedEveryDays?, everyDays?, Operation.result]

theorem isSafe_loggedSteps {behind : Int} {n : Nat} (pos : 1 ≤ n) (le : n ≤ 400)
    (low : -200000000 ≤ behind) (high : behind ≤ 200000000) : (loggedSteps behind n).IsSafe := by
  unfold loggedSteps
  split
  · exact Logged.isSafe_pure 1
  · have raised : 0 ≤ behind + n - 1 := by omega
    have quotient : (behind + n - 1).tdiv n = (behind + n - 1) / n :=
      Int.tdiv_eq_ediv_of_nonneg raised
    have nonneg := Int.ediv_nonneg raised n.cast_nonneg
    have smaller := Int.ediv_le_self n raised
    simp only [Logged.isSafe_bind_iff, Logged.isSafe_run_iff, Logged.answer_run, Operation.IsSafe,
      Operation.result, quotient, Bounds.signed64, Bounds.holds_iff]
    omega

theorem isSafe_loggedEveryDays? {n : Nat} (pos : 1 ≤ n) (le : n ≤ 400) (now anchor : Date) :
    (loggedEveryDays? now anchor n).IsSafe := by
  have nowWithin := dayNumber_within now
  have anchorWithin := dayNumber_within anchor
  have low : -200000000 ≤ now.dayNumber - anchor.dayNumber := by omega
  have high : now.dayNumber - anchor.dayNumber ≤ 200000000 := by omega
  have positive : (0 : Int) < n := by omega
  unfold loggedEveryDays?
  generalize now.dayNumber - anchor.dayNumber = behind at *
  obtain ⟨⟨first, -⟩, -⟩ := stepsToCatchUp_isLeast behind positive
  have total := stepsToCatchUp_mul_le behind positive
  have fewer : stepsToCatchUp behind n ≤ stepsToCatchUp behind n * n :=
    le_mul_of_one_le_right (by omega) positive
  have product : (Operation.multiply .signed64 (stepsToCatchUp behind n) n).IsSafe := by
    simp only [Operation.IsSafe, Bounds.signed64, Bounds.holds_iff]
    omega
  apply Logged.isSafe_bind_iff.mpr
  constructor
  · exact isSafe_loggedSteps pos le low high
  · rw [answer_loggedSteps]
    exact (Logged.isSafe_run_iff.mpr product).map _

/-- The wait for a listed weekday, by numbers without a sign. -/
def loggedDaysToWeekday (days : List Nat) (weekday : Nat) : Logged Nat :=
  match days.find? (weekday ≤ ·) with
  | some day => Logged.natural (.subtract .unsigned32 day weekday)
  | none => do
    let rest ← Logged.natural (.subtract .unsigned32 7 weekday)
    Logged.natural (.add .unsigned32 rest (days.headD 0))

def loggedNearestListed (days : List Nat) (start : Int) : Logged Int := do
  let wait ← loggedDaysToWeekday days (weekdayOfDay start)
  return start + wait

@[simp] theorem answer_loggedDaysToWeekday (days : List Nat) (weekday : Nat) :
    (loggedDaysToWeekday days weekday).answer = daysToWeekday days weekday := by
  unfold loggedDaysToWeekday daysToWeekday
  cases days.find? (weekday ≤ ·) with
  | some day =>
      simp only [Logged.answer_natural, Operation.result]
      omega
  | none =>
      simp only [Logged.answer_bind, Logged.answer_natural, Operation.result]
      omega

@[simp] theorem answer_loggedNearestListed (days : List Nat) (start : Int) :
    (loggedNearestListed days start).answer = nearestListed days start := by
  simp [loggedNearestListed, nearestListed]

def loggedWeeklyFrom (now : Int) (days : List Nat) (day : Int) : Logged Int :=
  if day < now then do
    -- The answer is named for the termination proof, which needs to know what it is.
    let step := loggedNearestListed days (day + 7)
    let _ ← step
    loggedWeeklyFrom now days step.answer
  else pure day
termination_by (now - day).toNat
decreasing_by
  have forward := le_nearestListed days (day + 7)
  rw [answer_loggedNearestListed]
  omega

def loggedWeekly? (now anchor : Date) (days : List Nat) : Logged (Option Date) := do
  let first ← loggedNearestListed days anchor.dayNumber
  let day ← loggedWeeklyFrom now.dayNumber days first
  return Date.ofDayNumber? day

@[simp] theorem answer_loggedWeeklyFrom (now : Int) (days : List Nat) (day : Int) :
    (loggedWeeklyFrom now days day).answer = weeklyFrom now days day := by
  fun_induction loggedWeeklyFrom now days day with
  | case1 day less step ih =>
      rw [weeklyFrom_of_lt less, Logged.answer_bind, ih, answer_loggedNearestListed]
  | case2 day notLess => rw [weeklyFrom_of_le (Int.not_lt.mp notLess), Logged.answer_pure]

@[simp] theorem answer_loggedWeekly? (now anchor : Date) (days : List Nat) :
    (loggedWeekly? now anchor days).answer = weekly? now anchor days := by
  simp [loggedWeekly?, weekly?]

/-- A listed weekday that is looked for lies ahead in the week, or in the next week. -/
theorem isSafe_loggedDaysToWeekday (week : IncreasingIn 1 7 days) {weekday : Nat} (le : weekday ≤ 7) :
    (loggedDaysToWeekday days weekday).IsSafe := by
  unfold loggedDaysToWeekday
  cases found : days.find? (weekday ≤ ·) with
  | some day =>
      have within := week.within day (List.mem_of_find?_eq_some found)
      have ahead : weekday ≤ day := by simpa using List.find?_some found
      apply Logged.isSafe_natural_iff.mpr
      exact Operation.isSafe_subtract (by omega) (by omega) (by omega)
  | none =>
      have first : days.headD 0 ≤ 7 := by
        cases days with
        | nil => simp
        | cons first rest => exact (week.within first List.mem_cons_self).2
      have rest : (Operation.subtract .unsigned32 7 weekday).IsSafe :=
        Operation.isSafe_subtract (by omega) (by omega) (by omega)
      refine Logged.isSafe_bind_iff.mpr ⟨Logged.isSafe_natural_iff.mpr rest, ?_⟩
      simp only [Logged.isSafe_natural_iff, Logged.answer_natural, Operation.IsSafe,
        Operation.result, Bounds.unsigned32, Bounds.holds_iff]
      omega

theorem isSafe_loggedNearestListed (week : IncreasingIn 1 7 days) (start : Int) :
    (loggedNearestListed days start).IsSafe :=
  (isSafe_loggedDaysToWeekday week (weekdayOfDay_bounds start).2).map _

theorem isSafe_loggedWeeklyFrom (week : IncreasingIn 1 7 days) (now day : Int) :
    (loggedWeeklyFrom now days day).IsSafe := by
  fun_induction loggedWeeklyFrom now days day with
  | case1 day less step ih =>
      exact Logged.isSafe_bind_iff.mpr ⟨isSafe_loggedNearestListed week (day + 7), ih⟩
  | case2 day notLess => exact Logged.isSafe_pure day

theorem isSafe_loggedWeekly? (week : IncreasingIn 1 7 days) (now anchor : Date) :
    (loggedWeekly? now anchor days).IsSafe := by
  have first := isSafe_loggedNearestListed week anchor.dayNumber
  exact Logged.isSafe_bind_iff.mpr ⟨first, (isSafe_loggedWeeklyFrom week now.dayNumber _).map _⟩

/-- The year does not count here: it is checked where it grows. -/
def loggedFollowing (m : Month) : Logged Month :=
  if m.number = 12 then pure ⟨m.year + 1, 1⟩
  else do
    let number ← Logged.natural (.add .upToTwelve m.number 1)
    return ⟨m.year, number⟩

def loggedLastDayOfMonth? (m : Month) : Logged (Option Nat) :=
  if 1 ≤ m.number ∧ m.number ≤ 12 then do
    let following ← loggedFollowing m
    return ((Date.ofYmd? following.year following.number 1).bind Date.pred?).map Date.day
  else pure none

/-- A code for a day loses its sign before it is compared with the last day. -/
def loggedDayOfCode? (lastDay : Nat) (code : Int) : Logged (Option Nat) :=
  if code = -1 then pure (some lastDay)
  else if code = -2 then do
    let day ← Logged.natural (.subtract .unsigned32 lastDay 1)
    return some day
  else if 1 ≤ code then do
    let day ← Logged.natural (.convert .signed32 .unsigned32 code)
    return if day ≤ lastDay then some day else none
  else pure none

def loggedDaysOfCodes (month : Month) (lastDay : Nat) : List Int → Logged (List Date)
  | [] => pure []
  | code :: rest => do
    let day ← loggedDayOfCode? lastDay code
    let days ← loggedDaysOfCodes month lastDay rest
    return (day.bind (Date.ofYmd? month.year month.number)).toList ++ days

def loggedBestInMonth? (now : Date) (codes : List Int) (month : Month) (lastDay : Nat) :
    Logged (Option Date) := do
  let candidates ← loggedDaysOfCodes month lastDay codes
  return match Date.earliest? (candidates.filter (now < ·)) with
    | some date => some date
    | none => if now ∈ candidates then some now else none

def loggedSearchMonths? (now : Date) (codes : List Int) (allowed : List Nat) :
    Nat → Month → Logged (Option Date)
  | 0, _ => pure none
  | limit + 1, start => do
    let month := start.nextAllowed allowed
    match ← loggedLastDayOfMonth? month with
    | none => return none
    | some lastDay =>
      match ← loggedBestInMonth? now codes month lastDay with
      | some date => return some date
      | none => loggedSearchMonths? now codes allowed limit (← loggedFollowing month)

@[simp] theorem answer_loggedFollowing (m : Month) : (loggedFollowing m).answer = m.following := by
  unfold loggedFollowing Month.following
  split
  · rfl
  · simp [Operation.result]

@[simp] theorem answer_loggedLastDayOfMonth? (m : Month) :
    (loggedLastDayOfMonth? m).answer = lastDayOfMonth? m.year m.number := by
  unfold loggedLastDayOfMonth? lastDayOfMonth?
  split
  · simp only [Logged.answer_bind, answer_loggedFollowing, Logged.answer_pure, Month.following]
    split <;> rfl
  · rfl

@[simp] theorem answer_loggedDayOfCode? (lastDay : Nat) (code : Int) :
    (loggedDayOfCode? lastDay code).answer = dayOfCode? lastDay code := by
  unfold loggedDayOfCode? dayOfCode?
  split
  · rfl
  · split
    · simp [Operation.result]
    · by_cases positive : 1 ≤ code
      · have same : code.toNat ≤ lastDay ↔ code ≤ lastDay := by omega
        simp [positive, same, Operation.result]
      · simp [positive]

@[simp] theorem answer_loggedDaysOfCodes (month : Month) (lastDay : Nat) (codes : List Int) :
    (loggedDaysOfCodes month lastDay codes).answer = daysOfCodes month lastDay codes := by
  induction codes with
  | nil => rfl
  | cons code rest ih =>
      simp only [loggedDaysOfCodes, Logged.answer_bind, answer_loggedDayOfCode?, Logged.answer_pure, ih]
      unfold daysOfCodes
      rw [List.filterMap_cons]
      cases (dayOfCode? lastDay code).bind (Date.ofYmd? month.year month.number) <;> rfl

@[simp] theorem answer_loggedBestInMonth? (now : Date) (codes : List Int) (month : Month)
    (lastDay : Nat) :
    (loggedBestInMonth? now codes month lastDay).answer = bestInMonth? now codes month lastDay := by
  rw [bestInMonth?, ← answer_loggedDaysOfCodes]
  rfl

@[simp] theorem answer_loggedSearchMonths? (now : Date) (codes : List Int) (allowed : List Nat)
    (limit : Nat) (start : Month) :
    (loggedSearchMonths? now codes allowed limit start).answer =
      searchMonths? now codes allowed limit start := by
  induction limit generalizing start with
  | zero => rfl
  | succ limit ih =>
      simp only [loggedSearchMonths?, searchMonths?, Logged.answer_bind, answer_loggedLastDayOfMonth?]
      cases lastDayOfMonth? _ _ with
      | none => rfl
      | some lastDay =>
          simp only [Logged.answer_bind, answer_loggedBestInMonth?]
          cases bestInMonth? _ _ _ _ with
          | some date => rfl
          | none => simp [ih]

/-- The search that starts from the month after a date. -/
def loggedSearchAgain? (now : Date) (codes : List Int) (allowed : List Nat) (date : Date) :
    Logged (Option Date) := do
  loggedSearchMonths? now codes allowed monthSearchLimit (← loggedFollowing (Month.ofDate date))

@[simp] theorem answer_loggedSearchAgain? (now : Date) (codes : List Int) (allowed : List Nat)
    (date : Date) :
    (loggedSearchAgain? now codes allowed date).answer =
      searchMonths? now codes allowed monthSearchLimit (Month.ofDate date).following := by
  simp [loggedSearchAgain?]

def loggedMonthlyFrom? (now : Date) (codes : List Int) (allowed : List Nat) (date : Date) :
    Logged (Option Date) :=
  if _ : date ≤ now then
    match _ : (loggedSearchAgain? now codes allowed date).answer with
    | some next => do
      let _ ← loggedSearchAgain? now codes allowed date
      loggedMonthlyFrom? now codes allowed next
    | none => loggedSearchAgain? now codes allowed date
  else pure (some date)
termination_by ((Month.ofDate now).index + 1 - (Month.ofDate date).index).toNat
decreasing_by
  next notAfter found =>
    rw [answer_loggedSearchAgain?] at found
    have from_ := index_le_of_searchMonths?
      (Month.number_following_le (Month.ofDate date) date.month_mem.2) found
    have step := Month.index_following (Month.ofDate date)
    have months := Month.index_ofDate_le notAfter
    omega

@[simp] theorem answer_loggedMonthlyFrom? (now : Date) (codes : List Int) (allowed : List Nat)
    (date : Date) :
    (loggedMonthlyFrom? now codes allowed date).answer = monthlyFrom? now codes allowed date := by
  fun_induction loggedMonthlyFrom? now codes allowed date with
  | case1 date notAfter next found ih =>
      rw [answer_loggedSearchAgain?] at found
      rw [monthlyFrom?_of_le notAfter, found, Logged.answer_bind, ih, Option.bind_some]
  | case2 date notAfter missing =>
      rw [missing]
      rw [answer_loggedSearchAgain?] at missing
      rw [monthlyFrom?_of_le notAfter, missing, Option.bind_none]
  | case3 date after =>
      rw [monthlyFrom?_of_lt (not_le.mp after), Logged.answer_pure]

def loggedMonthly? (now anchor : Date) (codes : List Int) (allowed : List Nat) :
    Logged (Option Date) := do
  let start := (Month.ofDate anchor).later (Month.ofDate now)
  match ← loggedSearchMonths? now codes allowed monthSearchLimit start with
  | some date => loggedMonthlyFrom? now codes allowed date
  | none => return none

@[simp] theorem answer_loggedMonthly? (now anchor : Date) (codes : List Int) (allowed : List Nat) :
    (loggedMonthly? now anchor codes allowed).answer = monthly? now anchor codes allowed := by
  simp only [loggedMonthly?, monthly?, Logged.answer_bind, answer_loggedSearchMonths?]
  cases searchMonths? _ _ _ _ _ with
  | none => rfl
  | some date => simp

theorem isSafe_loggedFollowing {m : Month} (numbered : m.IsNumbered) :
    (loggedFollowing m).IsSafe := by
  obtain ⟨low, high⟩ := numbered
  unfold loggedFollowing
  split
  · exact Logged.isSafe_pure _
  · have next : (Operation.add .upToTwelve m.number 1).IsSafe := by
      simp only [Operation.IsSafe, Bounds.upToTwelve, Bounds.holds_iff]
      omega
    exact (Logged.isSafe_natural_iff.mpr next).map _

theorem isSafe_loggedLastDayOfMonth? (m : Month) : (loggedLastDayOfMonth? m).IsSafe := by
  unfold loggedLastDayOfMonth?
  split
  · next numbered =>
      exact (isSafe_loggedFollowing numbered).map _
  · exact Logged.isSafe_pure none

theorem isSafe_loggedDayOfCode? {lastDay : Nat} {code : Int} (long : 28 ≤ lastDay)
    (short : lastDay ≤ 31) (small : code ≤ 31) : (loggedDayOfCode? lastDay code).IsSafe := by
  unfold loggedDayOfCode?
  split
  · exact Logged.isSafe_pure _
  · split
    · have before : (Operation.subtract .unsigned32 lastDay 1).IsSafe :=
        Operation.isSafe_subtract (by omega) (by omega) (by omega)
      exact (Logged.isSafe_natural_iff.mpr before).map _
    · split
      · have same : (Operation.convert .signed32 .unsigned32 code).IsSafe :=
          Operation.isSafe_convert (by omega) (by omega)
        exact (Logged.isSafe_natural_iff.mpr same).map _
      · exact Logged.isSafe_pure none

theorem isSafe_loggedDaysOfCodes {lastDay : Nat} (long : 28 ≤ lastDay) (short : lastDay ≤ 31)
    (small : ∀ code ∈ codes, code ≤ 31) (month : Month) :
    (loggedDaysOfCodes month lastDay codes).IsSafe := by
  induction codes with
  | nil => exact Logged.isSafe_pure []
  | cons code rest ih =>
      obtain ⟨first, others⟩ := List.forall_mem_cons.mp small
      have day := isSafe_loggedDayOfCode? long short first
      exact Logged.isSafe_bind_iff.mpr ⟨day, (ih others).map _⟩

theorem isSafe_loggedBestInMonth? {lastDay : Nat} (long : 28 ≤ lastDay) (short : lastDay ≤ 31)
    (small : ∀ code ∈ codes, code ≤ 31) (now : Date) (month : Month) :
    (loggedBestInMonth? now codes month lastDay).IsSafe :=
  (isSafe_loggedDaysOfCodes long short small month).map _

/-- A search stays with numbered months, and every month that has an end is long enough. -/
theorem isSafe_loggedSearchMonths? (small : ∀ code ∈ codes, code ≤ 31)
    (numbers : IncreasingIn 1 12 allowed) (now : Date) (limit : Nat) {start : Month}
    (numbered : start.IsNumbered) :
    (loggedSearchMonths? now codes allowed limit start).IsSafe := by
  induction limit generalizing start with
  | zero => exact Logged.isSafe_pure none
  | succ limit ih =>
      have next := Month.isNumbered_nextAllowed numbers numbered
      simp only [loggedSearchMonths?, Logged.isSafe_bind_iff, answer_loggedLastDayOfMonth?]
      refine ⟨isSafe_loggedLastDayOfMonth? _, ?_⟩
      cases end_ : lastDayOfMonth? _ _ with
      | none => exact Logged.isSafe_pure none
      | some lastDay =>
          obtain rfl := daysInMonth_of_lastDayOfMonth? end_
          have long := le_daysInMonth (start.nextAllowed allowed).year next.1 next.2
          have best := isSafe_loggedBestInMonth? long (daysInMonth_le _ _) small now
            (start.nextAllowed allowed)
          refine Logged.isSafe_bind_iff.mpr ⟨best, ?_⟩
          cases (loggedBestInMonth? _ _ _ _).answer with
          | some date => exact Logged.isSafe_pure (some date)
          | none =>
              refine Logged.isSafe_bind_iff.mpr ⟨isSafe_loggedFollowing next, ?_⟩
              rw [answer_loggedFollowing]
              exact ih (Month.isNumbered_following next)

theorem isSafe_loggedSearchAgain? (small : ∀ code ∈ codes, code ≤ 31)
    (numbers : IncreasingIn 1 12 allowed) (now date : Date) :
    (loggedSearchAgain? now codes allowed date).IsSafe := by
  have numbered := Month.isNumbered_ofDate date
  refine Logged.isSafe_bind_iff.mpr ⟨isSafe_loggedFollowing numbered, ?_⟩
  rw [answer_loggedFollowing]
  exact isSafe_loggedSearchMonths? small numbers now _ (Month.isNumbered_following numbered)

theorem isSafe_loggedMonthlyFrom? (small : ∀ code ∈ codes, code ≤ 31)
    (numbers : IncreasingIn 1 12 allowed) (now date : Date) :
    (loggedMonthlyFrom? now codes allowed date).IsSafe := by
  have search (date : Date) := isSafe_loggedSearchAgain? small numbers now date
  fun_induction loggedMonthlyFrom? now codes allowed date with
  | case1 date _ next _ ih => exact Logged.isSafe_bind_iff.mpr ⟨search date, ih⟩
  | case2 date => exact search date
  | case3 date => exact Logged.isSafe_pure (some date)

theorem isSafe_loggedMonthly? (small : ∀ code ∈ codes, code ≤ 31)
    (numbers : IncreasingIn 1 12 allowed) (now anchor : Date) :
    (loggedMonthly? now anchor codes allowed).IsSafe := by
  have start := (Month.later_spec (Month.isNumbered_ofDate anchor) (Month.isNumbered_ofDate now)).2.2
  refine Logged.isSafe_bind_iff.mpr ⟨isSafe_loggedSearchMonths? small numbers now _ start, ?_⟩
  cases (loggedSearchMonths? _ _ _ _ _).answer with
  | none => exact Logged.isSafe_pure none
  | some date => exact isSafe_loggedMonthlyFrom? small numbers now date

def loggedOccurrence (now anchor : Date) : Rule → Logged (Except Error Date)
  | .once => pure (.ok anchor)
  | .everyDays n => do
    return Error.dateOverflow.whenNone (← loggedEveryDays? now anchor n)
  | .yearly => pure (Error.dateOverflow.whenNone (yearly? now anchor))
  | .weekly [] => pure (.error (.noOccurrence (Rule.weekly []).text))
  | .weekly days => do
    return Error.dateOverflow.whenNone (← loggedWeekly? now anchor days)
  | .monthly codes allowed => do
    return (Error.noOccurrence (Rule.monthly codes allowed).text).whenNone
      (← loggedMonthly? now anchor codes allowed)

theorem answer_loggedOccurrence (now anchor : Date) (rule : Rule) :
    (loggedOccurrence now anchor rule).answer = occurrence now anchor rule := by
  fun_cases occurrence now anchor rule <;> simp [loggedOccurrence]

theorem isSafe_loggedOccurrence {rule : Rule} (checked : rule.IsChecked) (now anchor : Date) :
    (loggedOccurrence now anchor rule).IsSafe := by
  fun_cases loggedOccurrence now anchor rule with
  | case1 | case3 | case4 => exact Logged.isSafe_pure _
  | case2 n => exact (isSafe_loggedEveryDays? checked.1 checked.2 now anchor).map _
  | case5 days => exact (isSafe_loggedWeekly? checked now anchor).map _
  | case6 codes allowed =>
      obtain ⟨days, numbers⟩ := checked
      have small : ∀ code ∈ codes, code ≤ 31 := fun code member => (days.within code member).2
      exact (isSafe_loggedMonthly? small numbers now anchor).map _

end Recurrence

open Recurrence

/-- No operation on the way to a rule or to its next date leaves the numbers that its type has, and none
    divides by zero or changes a number that it converts: for every text that may be a rule, and for
    every rule that was read or checked, from any date of the calendar to any other. -/
theorem raw_arithmetic_stays_within_bounds (now anchor : Date) :
    (∀ text, (Rule.loggedOfText text).answer = Rule.ofText text ∧ (Rule.loggedOfText text).IsSafe) ∧
      ∀ rule, (∃ text, Rule.ofText text = .ok rule) ∨
          (∃ given : Rule, given.validated = .ok rule) →
        (loggedOccurrence now anchor rule).answer = occurrence now anchor rule ∧
          (loggedOccurrence now anchor rule).IsSafe := by
  refine ⟨fun text => ⟨Rule.answer_loggedOfText text, Rule.isSafe_loggedOfText text⟩, ?_⟩
  intro rule accepted
  have checked : rule.IsChecked := by
    rcases accepted with ⟨text, read⟩ | ⟨given, accepted⟩
    · exact (Rule.isChecked_of_ofText read).1
    · exact isChecked_of_validated accepted
  exact ⟨answer_loggedOccurrence now anchor rule, isSafe_loggedOccurrence checked now anchor⟩

/-- From the end of January to the end of February, by three accepted rules. The task's date is a
    Tuesday, so that the wait for a Monday goes into the next week. February has no day 30, and its last
    day but one is the reference day itself, so that the search by months goes on to December. -/
theorem february_is_reached_within_bounds :
    let anchor : Date := ⟨2023, 1, 31, by decide, by decide⟩
    let now : Date := ⟨2023, 2, 27, by decide, by decide⟩
    let tenDays : Rule := .everyDays 10
    let mondays : Rule := .weekly [1]
    let lateDays : Rule := .monthly [-2, 30] [2, 12]
    Rule.ofText "d 10" = .ok tenDays ∧ (Rule.weekly [1, 1]).validated = .ok mondays ∧
      Rule.ofText "m 30,-2 12,2" = .ok lateDays ∧
      (Rule.loggedOfText "d 10").log = [.convert .signed32 .unsigned32 10] ∧
      (Rule.loggedOfText "w 7,1,7").log =
        [.convert .signed32 .unsigned32 1, .convert .signed32 .unsigned32 7] ∧
      (Rule.loggedOfText "m 30,-2 12,2").log =
        [.convert .signed32 .unsigned32 2, .convert .signed32 .unsigned32 12] ∧
      (loggedOccurrence now anchor tenDays).log =
        [.add .signed64 27 10, .subtract .signed64 37 1, .divide .signed64 36 10,
          .multiply .signed64 3 10] ∧
      (loggedOccurrence now anchor mondays).log =
        [.subtract .unsigned32 7 2, .add .unsigned32 5 1, .subtract .unsigned32 1 1,
          .subtract .unsigned32 1 1, .subtract .unsigned32 1 1] ∧
      (loggedOccurrence now anchor lateDays).log =
        [.add .upToTwelve 2 1, .subtract .unsigned32 28 1, .convert .signed32 .unsigned32 30,
          .add .upToTwelve 2 1, .subtract .unsigned32 31 1, .convert .signed32 .unsigned32 30] ∧
      (∀ text ∈ ["d 10", "w 7,1,7", "m 30,-2 12,2"], (Rule.loggedOfText text).IsSafe) ∧
      ∀ rule ∈ [tenDays, mondays, lateDays],
        (loggedOccurrence now anchor rule).answer = occurrence now anchor rule ∧
          (loggedOccurrence now anchor rule).IsSafe := by
  intro anchor now tenDays mondays lateDays
  have readDays : Rule.ofText "d 10" = .ok tenDays := by cbv
  have checkedWeek : (Rule.weekly [1, 1]).validated = .ok mondays := by cbv
  have readMonths : Rule.ofText "m 30,-2 12,2" = .ok lateDays := by cbv
  obtain ⟨texts, rules⟩ := raw_arithmetic_stays_within_bounds now anchor
  refine ⟨readDays, checkedWeek, readMonths, by cbv, by cbv, by cbv, by cbv, by cbv, by cbv,
    fun text _ => (texts text).2, ?_⟩
  simp only [List.forall_mem_cons, List.not_mem_nil, false_implies, implies_true, and_true]
  refine ⟨?_, ?_, ?_⟩
  · exact rules tenDays (.inl ⟨_, readDays⟩)
  · exact rules mondays (.inr ⟨_, checkedWeek⟩)
  · exact rules lateDays (.inl ⟨_, readMonths⟩)

end Agenda
