import Mathlib.Tactic
import Agenda.Proofs.Recurrence.Monthly

/-! # The months that one search looks at

A search goes through the allowed months from its start on, in order and without leaving one out. It
stops at the first of them with a listed day on or after the reference day, and gives up after 144.
Here the months that it looks at are written down along with its answer.
-/

namespace Agenda

namespace Month

/-- The earliest allowed months from a month on, as many as the list is long, in order. -/
structure EarliestAllowed (allowed : List Nat) (start : Month) (months : List Month) : Prop where
  increasing : months.Pairwise (·.index < ·.index)
  sound : ∀ m ∈ months, m.IsNumbered ∧ m.IsAllowed allowed ∧ start.index ≤ m.index
  noneSkipped : ∀ m : Month, m.IsNumbered → m.IsAllowed allowed → start.index ≤ m.index →
    m ∉ months → ∀ k ∈ months, k.index < m.index

/-- The first `count` allowed months from `start` on. -/
def allowedFrom (allowed : List Nat) : Nat → Month → List Month
  | 0, _ => []
  | count + 1, start =>
    let month := start.nextAllowed allowed
    month :: allowedFrom allowed count month.following

variable {allowed : List Nat} {start : Month} {months : List Month}

@[simp] theorem length_allowedFrom (allowed : List Nat) (count : Nat) (start : Month) :
    (allowedFrom allowed count start).length = count := by
  induction count generalizing start with
  | zero => rfl
  | succ count ih => rw [allowedFrom, List.length_cons, ih]

theorem EarliestAllowed.cons (numbers : IncreasingIn 1 12 allowed) (numbered : start.IsNumbered)
    (rest : EarliestAllowed allowed (start.nextAllowed allowed).following months) :
    EarliestAllowed allowed start (start.nextAllowed allowed :: months) := by
  have from_ := index_le_nextAllowed allowed start numbered.2
  have isAllowed := isAllowed_nextAllowed allowed start
  have nextNumbered := isNumbered_nextAllowed numbers numbered
  have least (m : Month) (h : m.IsNumbered) := nextAllowed_le numbers numbered h
  generalize start.nextAllowed allowed = month at *
  have step := index_following month
  have later (k : Month) (member : k ∈ months) : month.index < k.index := by
    have := (rest.sound k member).2.2
    omega
  refine ⟨List.pairwise_cons.mpr ⟨later, rest.increasing⟩, ?_, ?_⟩
  · rintro m member
    rcases List.mem_cons.mp member with rfl | member
    · exact ⟨nextNumbered, isAllowed, from_⟩
    · obtain ⟨mNumbered, mAllowed, -⟩ := rest.sound m member
      exact ⟨mNumbered, mAllowed, from_.trans (later m member).le⟩
  · intro m mNumbered mAllowed reached notMember k member
    obtain ⟨notMonth, notRest⟩ := not_or.mp (mt List.mem_cons.mpr notMember)
    have notBefore := least m mNumbered mAllowed reached
    have other : month.index ≠ m.index :=
      fun same => notMonth (index_inj nextNumbered mNumbered same).symm
    rcases List.mem_cons.mp member with rfl | member
    · omega
    · exact rest.noneSkipped m mNumbered mAllowed (by omega) notRest k member

theorem earliestAllowed_allowedFrom (numbers : IncreasingIn 1 12 allowed) (count : Nat)
    (numbered : start.IsNumbered) :
    EarliestAllowed allowed start (allowedFrom allowed count start) := by
  induction count generalizing start with
  | zero => exact ⟨List.Pairwise.nil, by simp [allowedFrom], by simp [allowedFrom]⟩
  | succ count ih =>
      have nextNumbered := isNumbered_nextAllowed numbers numbered
      exact .cons numbers numbered (ih (isNumbered_following nextNumbered))

theorem year_nextAllowed (allowed : List Nat) (m : Month) :
    m.year ≤ (m.nextAllowed allowed).year ∧ (m.nextAllowed allowed).year ≤ m.year + 1 := by
  unfold nextAllowed
  split
  · omega
  · split <;> simp

theorem year_of_mem_allowedFrom {count : Nat} {m : Month}
    (member : m ∈ allowedFrom allowed count start) :
    start.year ≤ m.year ∧ m.year ≤ start.year + 2 * count := by
  induction count generalizing start with
  | zero => exact absurd member List.not_mem_nil
  | succ count ih =>
      have next := year_nextAllowed allowed start
      have following := year_following (start.nextAllowed allowed)
      rcases List.mem_cons.mp member with rfl | member
      · omega
      · have := ih member
        omega

end Month

namespace Recurrence

open Month

variable {now d : Date} {codes : List Int} {allowed : List Nat} {month start : Month}

/-- The month has a listed day on or after the reference day. -/
def HasListedFrom (now : Date) (codes : List Int) (month : Month) : Prop :=
  ∃ d, Month.ofDate d = month ∧ IsListed codes d ∧ now ≤ d

/-- The day that a search takes of a month: the earliest listed day after the reference day, or the
    reference day itself when no listed day of the month is later. -/
inductive IsTaken (now : Date) (codes : List Int) (month : Month) : Date → Prop
  | after {d : Date}
      (least : IsLeast {e | Month.ofDate e = month ∧ IsListed codes e ∧ now < e} d) :
      IsTaken now codes month d
  | onNow (month_eq : Month.ofDate now = month) (listed : IsListed codes now)
      (last : ∀ e, Month.ofDate e = month → IsListed codes e → e ≤ now) :
      IsTaken now codes month now

theorem IsTaken.unique {e : Date} (left : IsTaken now codes month d)
    (right : IsTaken now codes month e) : d = e := by
  have apart {d : Date} (least : IsLeast {e | Month.ofDate e = month ∧ IsListed codes e ∧ now < e} d)
      (last : ∀ e, Month.ofDate e = month → IsListed codes e → e ≤ now) : False := by
    obtain ⟨⟨month_eq, listed, after⟩, -⟩ := least
    exact absurd after (not_lt.mpr (last d month_eq listed))
  cases left with
  | after least =>
      cases right with
      | after other => exact least.unique other
      | onNow _ _ last => exact (apart least last).elim
  | onNow _ _ last =>
      cases right with
      | after least => exact (apart least last).elim
      | onNow => rfl

theorem IsBest.isTaken (h : IsBest now codes month d) : IsTaken now codes month d := by
  by_cases after : now < d
  · exact .after ⟨⟨h.month_eq, h.listed, after⟩,
      fun e ⟨eMonth, eListed, eAfter⟩ => (h.first e eMonth eListed eAfter).2⟩
  · obtain rfl := h.eq_now after
    refine .onNow h.month_eq h.listed fun e eMonth eListed => not_lt.mp fun eAfter => ?_
    exact after (h.first e eMonth eListed eAfter).1

theorem IsTaken.hasListedFrom (h : IsTaken now codes month d) : HasListedFrom now codes month := by
  cases h with
  | after least => exact ⟨d, least.1.1, least.1.2.1, least.1.2.2.le⟩
  | onNow month_eq listed => exact ⟨now, month_eq, listed, le_rfl⟩

theorem IsTaken.ofDate_eq (h : IsTaken now codes month d) : Month.ofDate d = month := by
  cases h with
  | after least => exact least.1.1
  | onNow month_eq => exact month_eq

theorem bestInMonth?_eq_none_iff :
    bestInMonth? now codes month (daysInMonth month.year month.number) = none ↔
      ¬ HasListedFrom now codes month := by
  constructor
  · rintro none ⟨d, dMonth, listed, notPassed⟩
    exact absurd (bestInMonth?_eq_none none d dMonth listed) (not_lt.mpr notPassed)
  · intro noDay
    cases found : bestInMonth? now codes month (daysInMonth month.year month.number) with
    | none => rfl
    | some best => exact absurd (bestInMonth?_eq_some found).isTaken.hasListedFrom noDay

theorem bestInMonth?_eq_some_iff :
    bestInMonth? now codes month (daysInMonth month.year month.number) = some d ↔
      IsTaken now codes month d := by
  constructor
  · exact fun found => (bestInMonth?_eq_some found).isTaken
  · intro taken
    cases found : bestInMonth? now codes month (daysInMonth month.year month.number) with
    | none => exact absurd taken.hasListedFrom (bestInMonth?_eq_none_iff.mp found)
    | some best => rw [(bestInMonth?_eq_some found).isTaken.unique taken]

/-- A search with a log: the months that it looks at, one after another, and its answer. -/
def searchLog (now : Date) (codes : List Int) (allowed : List Nat) :
    Nat → Month → List Month × Option Date
  | 0, _ => ([], none)
  | limit + 1, start =>
    let month := start.nextAllowed allowed
    match lastDayOfMonth? month.year month.number with
    | none => ([], none)
    | some lastDay =>
      match bestInMonth? now codes month lastDay with
      | some date => ([month], some date)
      | none =>
        let rest := searchLog now codes allowed limit month.following
        (month :: rest.1, rest.2)

theorem searchLog_answer (now : Date) (codes : List Int) (allowed : List Nat) (limit : Nat)
    (start : Month) :
    (searchLog now codes allowed limit start).2 = searchMonths? now codes allowed limit start := by
  induction limit generalizing start with
  | zero => rfl
  | succ limit ih =>
      rw [searchLog, searchMonths?]
      dsimp only
      cases lastDayOfMonth? _ _ with
      | none => rfl
      | some lastDay =>
          dsimp only
          cases bestInMonth? _ _ _ _ with
          | some date => rfl
          | none => exact ih _

/-- How a search through some months ends: after all of them, or at the first with a day to take.
    `seen` are the months that it looked at. -/
inductive Outcome (now : Date) (codes : List Int) (months : List Month) :
    List Month → Option Date → Prop
  | exhausted (noDay : ∀ m ∈ months, ¬ HasListedFrom now codes m) :
      Outcome now codes months months none
  | found {passed unseen : List Month} {month : Month} {d : Date}
      (months_eq : months = passed ++ month :: unseen)
      (noDay : ∀ m ∈ passed, ¬ HasListedFrom now codes m) (taken : IsTaken now codes month d) :
      Outcome now codes months (passed ++ [month]) (some d)

namespace Outcome

variable {months seen : List Month} {answer : Option Date}

/-- A month without a day to take comes before the months that the search goes on with. -/
theorem pass (noDay : ¬ HasListedFrom now codes month) (rest : Outcome now codes months seen answer) :
    Outcome now codes (month :: months) (month :: seen) answer := by
  cases rest with
  | exhausted restNoDay => exact .exhausted (List.forall_mem_cons.mpr ⟨noDay, restNoDay⟩)
  | found months_eq restNoDay taken =>
      exact .found (congrArg (month :: ·) months_eq)
        (List.forall_mem_cons.mpr ⟨noDay, restNoDay⟩) taken

theorem exists_answer_iff (h : Outcome now codes months seen answer) :
    (∃ d, answer = some d) ↔ ∃ m ∈ months, HasListedFrom now codes m := by
  cases h with
  | exhausted noDay => simpa using noDay
  | found months_eq _ taken =>
      subst months_eq
      exact iff_of_true ⟨_, rfl⟩ ⟨_, by simp, taken.hasListedFrom⟩

theorem answer_spec (increasing : months.Pairwise (·.index < ·.index))
    (h : Outcome now codes months seen (some d)) :
    Month.ofDate d ∈ months ∧
      (∀ m ∈ months, HasListedFrom now codes m → (Month.ofDate d).index ≤ m.index) ∧
      IsTaken now codes (Month.ofDate d) d := by
  cases h with
  | found months_eq noDay taken =>
      subst months_eq
      obtain rfl := taken.ofDate_eq
      refine ⟨by simp, fun m member hasDay => ?_, taken⟩
      rcases List.mem_append.mp member with member | member
      · exact absurd hasDay (noDay m member)
      · rcases List.mem_cons.mp member with rfl | member
        · exact le_rfl
        · have rest := (List.pairwise_append.mp increasing).2.1
          exact ((List.pairwise_cons.mp rest).1 m member).le

end Outcome

/-- Inside the calendar a search looks at the allowed months one by one until it ends. -/
theorem outcome_searchMonths? {limit : Nat}
    (ends : ∀ m ∈ allowedFrom allowed limit start,
      lastDayOfMonth? m.year m.number = some (daysInMonth m.year m.number)) :
    Outcome now codes (allowedFrom allowed limit start)
      (searchLog now codes allowed limit start).1 (searchMonths? now codes allowed limit start) := by
  induction limit generalizing start with
  | zero => exact .exhausted fun m member => absurd member List.not_mem_nil
  | succ limit ih =>
      obtain ⟨end_, restEnds⟩ := List.forall_mem_cons.mp ends
      simp only [searchLog, searchMonths?, end_]
      cases found : bestInMonth? _ _ _ _ with
      | some best =>
          exact .found rfl (fun m member => absurd member List.not_mem_nil)
            (bestInMonth?_eq_some_iff.mp found)
      | none => exact (ih restEnds).pass (bestInMonth?_eq_none_iff.mp found)

theorem lastDay_of_mem_allowedFrom (numbers : IncreasingIn 1 12 allowed)
    (numbered : start.IsNumbered) (first : firstYear ≤ start.year) (last : start.year ≤ 261000)
    {m : Month} (member : m ∈ allowedFrom allowed monthSearchLimit start) :
    lastDayOfMonth? m.year m.number = some (daysInMonth m.year m.number) := by
  have limit : monthSearchLimit = 144 := rfl
  have close : (261289 : Int) ≤ lastYear := by decide
  have years := year_of_mem_allowedFrom member
  have following : m.year ≤ m.following.year ∧ m.following.year ≤ m.year + 1 := m.year_following
  obtain ⟨low, high⟩ :=
    ((earliestAllowed_allowedFrom numbers monthSearchLimit numbered).sound m member).1
  refine lastDayOfMonth?_eq low high (by omega) ?_
  show m.following.year ≤ lastYear
  omega

/-- A search looks at the allowed months from its start on, in order, each once and none left out,
    up to the first with a listed day on or after the reference day, and at no more than 144 of
    them. It finds a day exactly if one of these 144 has such a day. What it finds lies in the first
    of them, and is the earliest listed day there after the reference day, or else that day itself. -/
theorem search_inspects_allowed_months (numbers : IncreasingIn 1 12 allowed)
    (numbered : start.IsNumbered) (first : firstYear ≤ start.year) (last : start.year ≤ 261000)
    (now : Date) (codes : List Int) :
    let log := searchLog now codes allowed monthSearchLimit start
    let answer := searchMonths? now codes allowed monthSearchLimit start
    log.2 = answer ∧
      ∃ months, months.length = 144 ∧ EarliestAllowed allowed start months ∧
        Outcome now codes months log.1 answer ∧
        ((∃ d, answer = some d) ↔ ∃ m ∈ months, HasListedFrom now codes m) ∧
        ∀ d, answer = some d →
          Month.ofDate d ∈ months ∧
            (∀ m ∈ months, HasListedFrom now codes m → (Month.ofDate d).index ≤ m.index) ∧
            IsTaken now codes (Month.ofDate d) d := by
  intro log answer
  have earliest := earliestAllowed_allowedFrom numbers monthSearchLimit numbered
  have outcome : Outcome now codes (allowedFrom allowed monthSearchLimit start) log.1 answer :=
    outcome_searchMonths? fun _ member =>
      lastDay_of_mem_allowedFrom numbers numbered first last member
  refine ⟨searchLog_answer now codes allowed monthSearchLimit start,
    allowedFrom allowed monthSearchLimit start, length_allowedFrom _ _ _, earliest, outcome,
    outcome.exists_answer_iff, fun d found => ?_⟩
  rw [found] at outcome
  exact outcome.answer_spec earliest.increasing

/-- Leap days, from the March before a century that is no leap year: seven Februaries are passed over
    before one that is long enough. -/
theorem search_passes_short_februaries :
    let now : Date := ⟨2096, 2, 29, by decide, by decide⟩
    let leapDay : Date := ⟨2104, 2, 29, by decide, by decide⟩
    let start : Month := ⟨2096, 3⟩
    let seen : List Month := [⟨2097, 2⟩, ⟨2098, 2⟩, ⟨2099, 2⟩, ⟨2100, 2⟩, ⟨2101, 2⟩, ⟨2102, 2⟩,
      ⟨2103, 2⟩, ⟨2104, 2⟩]
    (IncreasingIn 1 12 [2] ∧ start.IsNumbered ∧ firstYear ≤ start.year ∧ start.year ≤ 261000) ∧
      searchLog now [29] [2] monthSearchLimit start = (seen, some leapDay) ∧
      ∃ months, months.length = 144 ∧ EarliestAllowed [2] start months ∧
        Outcome now [29] months seen (some leapDay) ∧ IsTaken now [29] ⟨2104, 2⟩ leapDay := by
  intro now leapDay start seen
  have numbers : IncreasingIn 1 12 [2] := ⟨List.pairwise_singleton _ _, by simp⟩
  have numbered : start.IsNumbered := ⟨by decide, by decide⟩
  have first : firstYear ≤ start.year := by decide
  have last : start.year ≤ 261000 := by decide
  have logged : searchLog now [29] [2] monthSearchLimit start = (seen, some leapDay) := by cbv
  have found : searchMonths? now [29] [2] monthSearchLimit start = some leapDay := by
    rw [← searchLog_answer, logged]
  obtain ⟨-, months, length, earliest, outcome, -, spec⟩ :=
    search_inspects_allowed_months numbers numbered first last now [29]
  rw [logged, found] at outcome
  obtain ⟨-, -, taken⟩ := spec leapDay found
  exact ⟨⟨numbers, numbered, first, last⟩, logged, months, length, earliest, outcome, taken⟩

end Recurrence

end Agenda
