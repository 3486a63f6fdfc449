import Mathlib.Tactic
import Agenda.Proofs.Recurrence.FirstMatch
import Agenda.Proofs.Recurrence.FirstWeekday

/-! # The rounds of the loops that catch up

Yearly, weekly and monthly rules are caught up by loops, each of which ends for a reason of its own:
the year grows, the day number grows by a week, and what a search finds is the reference day at most
once. Here the loops stand on their own, round by round, with their answers compared to the next
dates and their rounds counted.
-/

namespace Agenda

/-- A loop that breaks off where there is no next state: where it starts, in which states it goes on,
    and what a round makes of a state. -/
structure Loop (σ : Type) where
  start : Option σ
  goesOn : σ → Prop
  round : σ → Option σ

namespace Loop

variable {σ : Type} {loop : Loop σ} {state answer other : Option σ} {rounds n : Nat}

/-- A run from a state, or from where the loop has broken off, with the number of rounds that it
    enters and its answer. -/
inductive RunsFrom (loop : Loop σ) : Option σ → Nat → Option σ → Prop
  | brokenOff : RunsFrom loop none 0 none
  | done {s : σ} (stops : ¬ loop.goesOn s) : RunsFrom loop (some s) 0 (some s)
  | again {s : σ} {next : Option σ} {rounds : Nat} {answer : Option σ} (goesOn : loop.goesOn s)
      (round : loop.round s = next) (rest : RunsFrom loop next rounds answer) :
      RunsFrom loop (some s) (rounds + 1) answer

theorem RunsFrom.unique (left : loop.RunsFrom state n other)
    (right : loop.RunsFrom state rounds answer) : n = rounds ∧ other = answer := by
  induction left generalizing rounds answer with
  | brokenOff =>
      cases right
      exact ⟨rfl, rfl⟩
  | done stops =>
      cases right with
      | done => exact ⟨rfl, rfl⟩
      | again goesOn => exact absurd goesOn stops
  | again goesOn round _ ih =>
      cases right with
      | done stops => exact absurd goesOn stops
      | again _ round' rest =>
          obtain ⟨same, eq⟩ := ih (by rwa [← round, round'])
          exact ⟨congrArg (· + 1) same, eq⟩

/-- The loop ends after so many rounds with this answer, and in no other way. -/
def EndsAfter (loop : Loop σ) (rounds : Nat) (answer : Option σ) : Prop :=
  ∀ n other, loop.RunsFrom loop.start n other ↔ n = rounds ∧ other = answer

theorem endsAfter_of_run (start : loop.start = state) (run : loop.RunsFrom state rounds answer) :
    loop.EndsAfter rounds answer := by
  intro n other
  rw [start]
  constructor
  · intro h
    exact h.unique run
  · intro ⟨same, eq⟩
    rwa [same, eq]

end Loop

namespace Recurrence

variable {now anchor : Date} {days : List Nat} {codes : List Int} {allowed : List Nat}

def yearlyLoop (now anchor : Date) : Loop Date where
  start := anchor.addYears? 1
  goesOn := (· < now)
  round := (·.addYears? 1)

theorem exists_yearlyRun (now anchor date : Date) :
    ∃ rounds ≤ (now.year + 1 - date.year).toNat,
      (yearlyLoop now anchor).RunsFrom (some date) rounds (yearlyFrom? now date) := by
  fun_induction yearlyFrom? now date with
  | case1 date less next step ih =>
      obtain ⟨rounds, few, run⟩ := ih
      have year := Date.year_of_addYears? step
      have before := Date.year_le_of_lt less
      exact ⟨rounds + 1, by omega, .again less step run⟩
  | case2 date less missing =>
      have before := Date.year_le_of_lt less
      exact ⟨1, by omega, .again less missing .brokenOff⟩
  | case3 date notLess => exact ⟨0, Nat.zero_le _, .done notLess⟩

theorem yearlyLoop_endsAfter (now anchor : Date) :
    ∃ rounds ≤ (now.year - anchor.year).toNat,
      (yearlyLoop now anchor).EndsAfter rounds (yearly? now anchor) := by
  rw [yearly?]
  cases first : anchor.addYears? 1 with
  | none => exact ⟨0, Nat.zero_le _, Loop.endsAfter_of_run first .brokenOff⟩
  | some date =>
      obtain ⟨rounds, few, run⟩ := exists_yearlyRun now anchor date
      have year := Date.year_of_addYears? first
      exact ⟨rounds, by omega, Loop.endsAfter_of_run first run⟩

/-- The nearest date on a listed weekday, from a date on. -/
def nearestListed? (days : List Nat) (d : Date) : Option Date :=
  if days = [] then none else d.addDays? (daysToWeekday days d.weekday)

theorem nearestListed?_eq (nonempty : days ≠ []) (d : Date) :
    nearestListed? days d = Date.ofDayNumber? (nearestListed days d.dayNumber) :=
  if_neg nonempty

def weeklyLoop (now anchor : Date) (days : List Nat) : Loop Date where
  start := nearestListed? days anchor
  goesOn := (· < now)
  round := fun d => (d.addDays? 7).bind (nearestListed? days)

theorem round_weeklyLoop (week : IncreasingIn 1 7 days) {d : Date} (listed : d.weekday ∈ days) :
    (weeklyLoop now anchor days).round d = Date.ofDayNumber? (d.dayNumber + 7) := by
  have round : (weeklyLoop now anchor days).round d =
      (Date.ofDayNumber? (d.dayNumber + 7)).bind (nearestListed? days) := rfl
  rw [round]
  cases found : Date.ofDayNumber? (d.dayNumber + 7) with
  | none => rfl
  | some e =>
      have reached := Date.ofDayNumber?_eq_some_iff.mp found
      rw [Option.bind_some, nearestListed?_eq (List.ne_nil_of_mem listed), reached,
        nearestListed_add_week week listed, found]

/-- The loop on dates has the rounds of the loop on day numbers, whose last day may have no date. -/
theorem weeklyRun (week : IncreasingIn 1 7 days) {day : Int} (listed : weekdayOfDay day ∈ days)
    (from_ : anchor.dayNumber ≤ day) :
    (weeklyLoop now anchor days).RunsFrom (Date.ofDayNumber? day)
      (((now.dayNumber - day).toNat + 6) / 7)
      (Date.ofDayNumber? (weeklyFrom now.dayNumber days day)) := by
  fun_induction weeklyFrom now.dayNumber days day with
  | case1 day less ih =>
      have inside : Date.InCalendar day :=
        ⟨anchor.inCalendar_dayNumber.1.trans_le from_, less.le.trans now.inCalendar_dayNumber.2⟩
      obtain ⟨d, rfl⟩ := Date.exists_dayNumber_eq inside
      rw [nearestListed_add_week week listed] at ih ⊢
      have rest := ih (by rwa [weekdayOfDay_add_week]) (by omega)
      have rounds : ((now.dayNumber - d.dayNumber).toNat + 6) / 7 =
        ((now.dayNumber - (d.dayNumber + 7)).toNat + 6) / 7 + 1 := by omega
      rw [Date.ofDayNumber?_dayNumber, rounds]
      exact .again (Date.lt_iff.mpr less) (round_weeklyLoop week listed) rest
  | case2 day notLess =>
      have rounds : ((now.dayNumber - day).toNat + 6) / 7 = 0 := by omega
      rw [rounds]
      cases found : Date.ofDayNumber? day with
      | none => exact .brokenOff
      | some d =>
          have reached := Date.ofDayNumber?_eq_some_iff.mp found
          exact .done fun (less : d < now) => notLess (reached ▸ Date.lt_iff.mp less)

theorem weeklyLoop_endsAfter (week : IncreasingIn 1 7 days) (nonempty : days ≠ [])
    (now anchor : Date) :
    (weeklyLoop now anchor days).EndsAfter
      (((now.dayNumber - nearestListed days anchor.dayNumber).toNat + 6) / 7)
      (weekly? now anchor days) := by
  obtain ⟨⟨from_, listed⟩, -⟩ := nearestListed_isLeast week nonempty anchor.dayNumber
  exact Loop.endsAfter_of_run (nearestListed?_eq nonempty anchor) (weeklyRun week listed from_)

def monthlyLoop (now anchor : Date) (codes : List Int) (allowed : List Nat) : Loop Date where
  start := searchMonths? now codes allowed monthSearchLimit
    ((Month.ofDate anchor).later (Month.ofDate now))
  goesOn := (· ≤ now)
  round := fun d => searchMonths? now codes allowed monthSearchLimit (Month.ofDate d).following

theorem now_le_of_bestInMonth? {month : Month} {lastDay : Nat} {d : Date}
    (h : bestInMonth? now codes month lastDay = some d) : now ≤ d := by
  simp only [bestInMonth?] at h
  split at h
  · next found =>
      cases h
      exact (earliest?_after_eq_some found).2.1.le
  · split at h
    · cases h
      exact le_rfl
    · cases h

theorem now_le_of_searchMonths? {limit : Nat} {start : Month} {d : Date}
    (h : searchMonths? now codes allowed limit start = some d) : now ≤ d := by
  induction limit generalizing start with
  | zero => cases h
  | succ limit ih =>
      simp only [searchMonths?] at h
      split at h
      · cases h
      · split at h
        · next best found =>
            cases h
            exact now_le_of_bestInMonth? found
        · exact ih h

theorem now_lt_of_searchMonths? {limit : Nat} {d e : Date} (notAfter : now ≤ d)
    (h : searchMonths? now codes allowed limit (Month.ofDate d).following = some e) : now < e := by
  have from_ := index_le_of_searchMonths?
    (Month.number_following_le (Month.ofDate d) d.month_mem.2) h
  have step := Month.index_following (Month.ofDate d)
  exact notAfter.trans_lt (Month.lt_of_index_lt (by omega))

theorem exists_monthlyRun (anchor : Date) {date : Date} (notBefore : now ≤ date) :
    ∃ rounds ≤ 1, (monthlyLoop now anchor codes allowed).RunsFrom (some date) rounds
      (monthlyFrom? now codes allowed date) := by
  by_cases after : now < date
  · rw [monthlyFrom?_of_lt after]
    exact ⟨0, Nat.zero_le 1, .done (not_le.mpr after)⟩
  · have notAfter := not_lt.mp after
    rw [monthlyFrom?_of_le notAfter]
    cases search : searchMonths? now codes allowed monthSearchLimit (Month.ofDate date).following with
    | none => exact ⟨1, le_rfl, .again notAfter search .brokenOff⟩
    | some second =>
        have secondAfter := now_lt_of_searchMonths? notBefore search
        rw [Option.bind_some, monthlyFrom?_of_lt secondAfter]
        exact ⟨1, le_rfl, .again notAfter search (.done (not_le.mpr secondAfter))⟩

theorem monthlyLoop_endsAfter (now anchor : Date) (codes : List Int) (allowed : List Nat) :
    ∃ rounds ≤ 1, (monthlyLoop now anchor codes allowed).EndsAfter rounds
      (monthly? now anchor codes allowed) := by
  rw [monthly?]
  cases first : searchMonths? now codes allowed monthSearchLimit
    ((Month.ofDate anchor).later (Month.ofDate now)) with
  | none => exact ⟨0, Nat.zero_le 1, Loop.endsAfter_of_run first .brokenOff⟩
  | some date =>
      obtain ⟨rounds, few, run⟩ := exists_monthlyRun anchor (now_le_of_searchMonths? first)
      exact ⟨rounds, few, Loop.endsAfter_of_run first run⟩

end Recurrence

open Recurrence

theorem Error.toOption_whenNone {α : Type} (error : Error) (answer : Option α) :
    (error.whenNone answer).toOption = answer := by
  cases answer <;> rfl

/-- The loops of accepted rules end, with the next date as their answer. The yearly one enters no more
    rounds than there are years from the task's date to the reference day, the weekly one no more
    than there are weeks, rounded up, from the first listed day on or after the task's date, and none
    without a listed day, and the monthly one at most one. For no search finds a date before the
    reference day, and a second one, from the following month on, only dates after it. -/
theorem catch_up_ends_within_rounds (now anchor : Date) :
    (∃ rounds ≤ (now.year - anchor.year).toNat,
        (yearlyLoop now anchor).EndsAfter rounds (nextOccurrence now anchor .yearly).toOption) ∧
      (∀ (days : List Nat) (checked : Rule), (Rule.weekly days).validated = .ok checked →
        ∃ rounds, (weeklyLoop now anchor (ascending days)).EndsAfter rounds
            (nextOccurrence now anchor (.weekly days)).toOption ∧
          (days = [] → rounds = 0) ∧
          (days ≠ [] → ∃ first : Int,
            IsLeast {day | anchor.dayNumber ≤ day ∧ weekdayOfDay day ∈ days} first ∧
            rounds ≤ ((now.dayNumber - first).toNat + 6) / 7)) ∧
      (∀ (codes : List Int) (allowed : List Nat) (checked : Rule),
        (Rule.monthly codes allowed).validated = .ok checked →
        ∃ rounds ≤ 1, (monthlyLoop now anchor (ascending codes) (ascending allowed)).EndsAfter rounds
          (nextOccurrence now anchor (.monthly codes allowed)).toOption) ∧
      ∀ (codes : List Int) (allowed : List Nat) (limit : Nat) (start : Month) (d : Date),
        searchMonths? now codes allowed limit start = some d → now ≤ d ∧
          ∀ e, searchMonths? now codes allowed limit (Month.ofDate d).following = some e → now < e := by
  refine ⟨?_, fun days checked accepted => ?_, fun codes allowed checked accepted => ?_,
    fun codes allowed limit start d found => ?_⟩
  · have counted : nextOccurrence now anchor .yearly =
      Error.dateOverflow.whenNone (yearly? now anchor) := rfl
    rw [counted, Error.toOption_whenNone]
    exact yearlyLoop_endsAfter now anchor
  · by_cases empty : days = []
    · subst empty
      exact ⟨0, Loop.endsAfter_of_run rfl .brokenOff, fun _ => rfl, fun some_ => absurd rfl some_⟩
    · have week := increasingIn_of_accepted_weekly accepted
      have nonempty := mt ascending_eq_nil_iff.mp empty
      have isFirst := nearestListed_isLeast week nonempty anchor.dayNumber
      simp only [mem_ascending] at isFirst
      rw [nextOccurrence_weekly accepted empty, Error.toOption_whenNone]
      exact ⟨_, weeklyLoop_endsAfter week nonempty now anchor, fun none => absurd none empty,
        fun _ => ⟨_, isFirst, le_rfl⟩⟩
  · rw [nextOccurrence_monthly accepted, Error.toOption_whenNone]
    exact monthlyLoop_endsAfter now anchor (ascending codes) (ascending allowed)
  · have notBefore := now_le_of_searchMonths? found
    exact ⟨notBefore, fun e again => now_lt_of_searchMonths? notBefore again⟩

/-- On the last day of a month, a Sunday, three years after the task's date: the first search ends on
    the reference day, so that the monthly loop enters its one round, and the weekly one comes to
    that day itself. -/
theorem month_end_takes_a_round :
    let anchor : Date := ⟨2021, 2, 28, by decide, by decide⟩
    let now : Date := ⟨2024, 3, 31, by decide, by decide⟩
    let nextYear : Date := ⟨2025, 2, 28, by decide, by decide⟩
    let nextMonth : Date := ⟨2024, 4, 30, by decide, by decide⟩
    (Rule.weekly [7, 7]).validated = .ok (.weekly [7]) ∧
      (Rule.monthly [-1] []).validated = .ok (.monthly [-1] []) ∧
      (∃ rounds ≤ 3, (yearlyLoop now anchor).EndsAfter rounds (some nextYear)) ∧
      (∃ rounds ≤ 161, (weeklyLoop now anchor [7]).EndsAfter rounds (some now)) ∧
      (monthlyLoop now anchor [-1] []).EndsAfter 1 (some nextMonth) ∧ now < nextMonth := by
  intro anchor now nextYear nextMonth
  obtain ⟨⟨years, fewYears, yearly⟩, weekly, monthly, search⟩ :=
    catch_up_ends_within_rounds now anchor
  have weekAccepted : (Rule.weekly [7, 7]).validated = .ok (.weekly [7]) := by cbv
  have monthAccepted : (Rule.monthly [-1] []).validated = .ok (.monthly [-1] []) := by cbv
  refine ⟨weekAccepted, monthAccepted, ?_, ?_, ?_⟩
  · have counted : nextOccurrence now anchor .yearly = .ok nextYear := by cbv
    rw [counted] at yearly
    exact ⟨years, fewYears, yearly⟩
  · have counted : nextOccurrence now anchor (.weekly [7, 7]) = .ok now := by cbv
    obtain ⟨rounds, ends, -, bounded⟩ := weekly _ _ weekAccepted
    obtain ⟨first, isFirst, few⟩ := bounded (by simp)
    obtain rfl : first = anchor.dayNumber :=
      isFirst.unique ⟨⟨le_rfl, by decide⟩, fun day later => later.1⟩
    rw [counted] at ends
    exact ⟨rounds, few.trans (by decide), ends⟩
  · have found : searchMonths? now [-1] [] monthSearchLimit
      ((Month.ofDate anchor).later (Month.ofDate now)) = some now := by cbv
    have again : searchMonths? now [-1] [] monthSearchLimit (Month.ofDate now).following =
      some nextMonth := by cbv
    have after : now < nextMonth := (search _ _ _ _ now found).2 nextMonth again
    have run : (monthlyLoop now anchor [-1] []).RunsFrom (monthlyLoop now anchor [-1] []).start 1
        (some nextMonth) := by
      rw [show (monthlyLoop now anchor [-1] []).start = some now from found]
      exact .again (le_refl now) again (.done (not_le.mpr after))
    obtain ⟨rounds, -, ends⟩ := monthly _ _ _ monthAccepted
    obtain ⟨same, answer⟩ := (ends 1 _).mp run
    refine ⟨?_, after⟩
    rwa [same, answer]

end Agenda
