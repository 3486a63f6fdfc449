import Mathlib.Tactic
import Agenda.Recurrence.Monthly
import Agenda.Proofs.Calendar.Month

/-! # The monthly search finds the next match

`Matches` says which dates a monthly rule means. A search ends in the first month that has a match
on or after the reference day, and the two searches together end at the first match after it. Every
rule that has a match at all has one in each leap year, so that the search is long enough, and so
the first match after the reference day is found wherever it lies, the last month of the calendar
apart.
-/

namespace Agenda.Recurrence

/-- The date is the one that the code stands for in its month. -/
def IsDayOfCode (code : Int) (d : Date) : Prop :=
  (1 ≤ code ∧ d.day = code) ∨ (code = -1 ∧ d.day = daysInMonth d.year d.month) ∨
    (code = -2 ∧ d.day + 1 = daysInMonth d.year d.month)

/-- One of the codes stands for the date. -/
def IsListed (codes : List Int) (d : Date) : Prop :=
  ∃ code ∈ codes, IsDayOfCode code d

/-- The date is a listed day of an allowed month. -/
def Matches (codes : List Int) (allowed : List Nat) (d : Date) : Prop :=
  (Month.ofDate d).IsAllowed allowed ∧ IsListed codes d

theorem matches_ascending_iff {codes : List Int} {allowed : List Nat} {d : Date} :
    Matches (ascending codes) (ascending allowed) d ↔ Matches codes allowed d := by
  simp only [Matches, Month.IsAllowed, IsListed, ascending_eq_nil_iff, mem_ascending]

theorem dayOfCode?_eq_some_iff {code : Int} {d : Date} :
    dayOfCode? (daysInMonth d.year d.month) code = some d.day ↔ IsDayOfCode code d := by
  have days := le_daysInMonth d.year d.month_mem.1 d.month_mem.2
  have inside := d.day_mem
  unfold dayOfCode? IsDayOfCode
  split
  · simp only [Option.some.injEq]
    omega
  · split
    · simp only [Option.some.injEq]
      omega
    · split
      · simp only [Option.some.injEq]
        omega
      · simp only [reduceCtorEq, false_iff]
        omega

theorem mem_daysOfCodes_iff {codes : List Int} {month : Month} {d : Date} :
    d ∈ daysOfCodes month (daysInMonth month.year month.number) codes ↔
      Month.ofDate d = month ∧ IsListed codes d := by
  constructor
  · intro member
    obtain rfl := mem_daysOfCodes member
    obtain ⟨code, codeMember, found⟩ := List.mem_filterMap.mp member
    obtain ⟨day, dayFound, eq⟩ := Option.bind_eq_some_iff.mp found
    obtain ⟨-, -, rfl⟩ := Date.ofYmd?_eq_some eq
    exact ⟨rfl, code, codeMember, dayOfCode?_eq_some_iff.mp dayFound⟩
  · rintro ⟨rfl, code, member, day⟩
    refine List.mem_filterMap.mpr ⟨code, member, Option.bind_eq_some_iff.mpr ⟨d.day, ?_, ?_⟩⟩
    · exact dayOfCode?_eq_some_iff.mpr day
    · exact Date.ofYmd?_self d

theorem earlier_le (a b : Date) : Date.earlier a b ≤ a ∧ Date.earlier a b ≤ b := by
  unfold Date.earlier
  split
  · next less => exact ⟨less.le, le_rfl⟩
  · next notLess => exact ⟨le_rfl, not_lt.mp notLess⟩

theorem foldl_earlier_le (ds : List Date) (d : Date) :
    ∀ e ∈ d :: ds, ds.foldl Date.earlier d ≤ e := by
  induction ds generalizing d with
  | nil =>
      intro e member
      rw [List.mem_singleton.mp member]
      exact le_rfl
  | cons first rest ih =>
      intro e member
      obtain ⟨left, right⟩ := earlier_le d first
      have head := ih (Date.earlier d first) _ List.mem_cons_self
      rcases List.mem_cons.mp member with rfl | member
      · exact head.trans left
      · rcases List.mem_cons.mp member with rfl | member
        · exact head.trans right
        · exact ih (Date.earlier d first) e (List.mem_cons_of_mem _ member)

theorem le_of_earliest? {ds : List Date} {d : Date} (h : Date.earliest? ds = some d) :
    ∀ e ∈ ds, d ≤ e := by
  cases ds with
  | nil => cases h
  | cons first rest =>
      cases h
      exact foldl_earlier_le rest first

theorem earliest?_after_eq_some {now best : Date} {ds : List Date}
    (h : Date.earliest? (ds.filter (now < ·)) = some best) :
    best ∈ ds ∧ now < best ∧ ∀ d ∈ ds, now < d → best ≤ d := by
  obtain ⟨member, after⟩ := List.mem_filter.mp (Date.mem_of_earliest? h)
  refine ⟨member, of_decide_eq_true after, fun d here later => ?_⟩
  exact le_of_earliest? h d (List.mem_filter.mpr ⟨here, by exact decide_eq_true later⟩)

theorem earliest?_after_eq_none {now : Date} {ds : List Date}
    (h : Date.earliest? (ds.filter (now < ·)) = none) : ∀ d ∈ ds, ¬ now < d := by
  intro d here later
  have member : d ∈ ds.filter (now < ·) := List.mem_filter.mpr ⟨here, by exact decide_eq_true later⟩
  cases eq : ds.filter (now < ·) with
  | nil =>
      rw [eq] at member
      exact absurd member List.not_mem_nil
  | cons first rest =>
      rw [eq] at h
      cases h

/-- What the search takes in a month: a listed day on or after the reference day, and the first
    one after it if there is any. -/
structure IsBest (now : Date) (codes : List Int) (month : Month) (best : Date) : Prop where
  month_eq : Month.ofDate best = month
  listed : IsListed codes best
  from_now : now ≤ best
  first : ∀ d, Month.ofDate d = month → IsListed codes d → now < d → now < best ∧ best ≤ d

theorem IsBest.eq_now {now : Date} {codes : List Int} {month : Month} {best : Date}
    (h : IsBest now codes month best) (notAfter : ¬ now < best) : now = best :=
  h.from_now.eq_of_not_lt notAfter

theorem bestInMonth?_eq_some {now : Date} {codes : List Int} {month : Month} {best : Date}
    (h : bestInMonth? now codes month (daysInMonth month.year month.number) = some best) :
    IsBest now codes month best := by
  simp only [bestInMonth?] at h
  split at h
  · next found =>
      cases h
      obtain ⟨member, after, least⟩ := earliest?_after_eq_some found
      obtain ⟨month_eq, listed⟩ := mem_daysOfCodes_iff.mp member
      refine ⟨month_eq, listed, after.le, fun d dMonth dListed dAfter => ⟨after, ?_⟩⟩
      exact least d (mem_daysOfCodes_iff.mpr ⟨dMonth, dListed⟩) dAfter
  · next none =>
      split at h
      · next member =>
          cases h
          obtain ⟨month_eq, listed⟩ := mem_daysOfCodes_iff.mp member
          refine ⟨month_eq, listed, le_rfl, fun d dMonth dListed dAfter => ?_⟩
          exact absurd dAfter
            (earliest?_after_eq_none none d (mem_daysOfCodes_iff.mpr ⟨dMonth, dListed⟩))
      · cases h

theorem bestInMonth?_eq_none {now : Date} {codes : List Int} {month : Month}
    (h : bestInMonth? now codes month (daysInMonth month.year month.number) = none) :
    ∀ d, Month.ofDate d = month → IsListed codes d → d < now := by
  intro d dMonth dListed
  have member := mem_daysOfCodes_iff.mpr ⟨dMonth, dListed⟩
  simp only [bestInMonth?] at h
  split at h
  · cases h
  · next none =>
      split at h
      · cases h
      · next notNow =>
          rcases lt_trichotomy d now with less | rfl | after
          · exact less
          · exact absurd member notNow
          · exact absurd after (earliest?_after_eq_none none d member)

theorem index_ne_of_bestInMonth? {now : Date} {codes : List Int} {month : Month}
    (numbered : month.IsNumbered)
    (h : bestInMonth? now codes month (daysInMonth month.year month.number) = none) {d : Date}
    (listed : IsListed codes d) (notPassed : now ≤ d) : month.index ≠ (Month.ofDate d).index := by
  intro same
  have eq := Month.index_inj numbered (Month.isNumbered_ofDate d) same
  exact absurd (bestInMonth?_eq_none h d eq.symm listed) (not_lt.mpr notPassed)

section Search

variable {now : Date} {codes : List Int} {allowed : List Nat}

/-- A search ends with the best day of the first allowed month, from its start on, that has a match
    on or after the reference day. -/
theorem searchMonths?_spec (numbers : IncreasingIn 1 12 allowed) {limit : Nat} {start : Month}
    (numbered : start.IsNumbered) {d : Date}
    (h : searchMonths? now codes allowed limit start = some d) :
    start.index ≤ (Month.ofDate d).index ∧ (Month.ofDate d).IsAllowed allowed ∧
      IsBest now codes (Month.ofDate d) d ∧
      ∀ e, Matches codes allowed e → start.index ≤ (Month.ofDate e).index → now ≤ e →
        (Month.ofDate d).index ≤ (Month.ofDate e).index := by
  -- The search goes on from the month after one without a match, so the start is not fixed.
  induction limit generalizing start with
  | zero => cases h
  | succ limit ih =>
      have from_ := Month.index_le_nextAllowed allowed start numbered.2
      have isAllowed := Month.isAllowed_nextAllowed allowed start
      have least (e : Date) (isMatch : Matches codes allowed e)
          (le : start.index ≤ (Month.ofDate e).index) :=
        Month.nextAllowed_le numbers numbered (Month.isNumbered_ofDate e) isMatch.1 le
      have nextNumbered := Month.isNumbered_nextAllowed numbers numbered
      simp only [searchMonths?] at h
      generalize start.nextAllowed allowed = month at *
      split at h
      · cases h
      · next lastDay end_ =>
          obtain rfl := daysInMonth_of_lastDayOfMonth? end_
          split at h
          · next best found =>
              cases h
              have isBest := bestInMonth?_eq_some found
              obtain rfl := isBest.month_eq
              exact ⟨from_, isAllowed, isBest, fun e isMatch le _ => least e isMatch le⟩
          · next none =>
              obtain ⟨later, dAllowed, isBest, dLeast⟩ := ih (Month.isNumbered_following nextNumbered) h
              have step := Month.index_following month
              refine ⟨by omega, dAllowed, isBest, fun e isMatch le notPassed => ?_⟩
              have beyond := index_ne_of_bestInMonth? nextNumbered none isMatch.2 notPassed
              have := least e isMatch le
              exact dLeast e isMatch (by omega) notPassed

/-- A search finds nothing in the month that closes the calendar. -/
theorem following_le_of_searchMonths? {limit : Nat} {start : Month} {d : Date}
    (h : searchMonths? now codes allowed limit start = some d) :
    (Month.ofDate d).following.year ≤ lastYear := by
  induction limit generalizing start with
  | zero => cases h
  | succ limit ih =>
      simp only [searchMonths?] at h
      split at h
      · cases h
      · next lastDay end_ =>
          split at h
          · next best found =>
              cases h
              rw [month_of_bestInMonth? found]
              exact following_le_of_lastDayOfMonth? end_
          · exact ih h

theorem exists_searchMonths? (numbers : IncreasingIn 1 12 allowed) {limit : Nat} {start : Month}
    (numbered : start.IsNumbered) (first : firstYear ≤ start.year) {target : Date}
    (isMatch : Matches codes allowed target) (notPassed : now ≤ target)
    (from_ : start.index ≤ (Month.ofDate target).index)
    (near : (Month.ofDate target).index < start.index + limit)
    (last : (Month.ofDate target).following.year ≤ lastYear) :
    ∃ d, searchMonths? now codes allowed limit start = some d := by
  induction limit generalizing start with
  | zero => omega
  | succ limit ih =>
      have later := Month.index_le_nextAllowed allowed start numbered.2
      have least :=
        Month.nextAllowed_le numbers numbered (Month.isNumbered_ofDate target) isMatch.1 from_
      have nextNumbered := Month.isNumbered_nextAllowed numbers numbered
      simp only [searchMonths?]
      generalize start.nextAllowed allowed = month at *
      have low := Month.year_le_of_index_le numbered nextNumbered later
      have high := Month.year_following_le nextNumbered (Month.isNumbered_ofDate target) least
      rw [lastDayOfMonth?_eq nextNumbered.1 nextNumbered.2 (first.trans low) (high.trans last)]
      simp only
      split
      · exact ⟨_, rfl⟩
      · next none =>
          have step := Month.index_following month
          have beyond := index_ne_of_bestInMonth? nextNumbered none isMatch.2 notPassed
          have numbered := Month.isNumbered_following nextNumbered
          have low := Month.year_le_of_index_le nextNumbered numbered (by omega)
          exact ih numbered (by omega) (by omega) (by omega)

theorem monthlyFrom?_of_lt {date : Date} (h : now < date) :
    monthlyFrom? now codes allowed date = some date := by
  rw [monthlyFrom?, dif_neg fun le => le h]

theorem monthlyFrom?_of_le {date : Date} (h : date ≤ now) :
    monthlyFrom? now codes allowed date =
      (searchMonths? now codes allowed monthSearchLimit (Month.ofDate date).following).bind
        (monthlyFrom? now codes allowed) := by
  rw [monthlyFrom?, dif_pos h]
  split
  · next eq => rw [eq, Option.bind_some]
  · next eq => rw [eq, Option.bind_none]

/-- The dates among which the next one of a monthly rule is the first: the matches after the
    reference day that lie in the month of the task's date or later. -/
def IsCandidate (now anchor : Date) (codes : List Int) (allowed : List Nat) (d : Date) : Prop :=
  Matches codes allowed d ∧ now < d ∧ (Month.ofDate anchor).index ≤ (Month.ofDate d).index

theorem le_of_searchMonths? (numbers : IncreasingIn 1 12 allowed) {limit : Nat} {start : Month}
    (numbered : start.IsNumbered) {d e : Date}
    (h : searchMonths? now codes allowed limit start = some d) (isMatch : Matches codes allowed e)
    (after : now < e) (from_ : start.index ≤ (Month.ofDate e).index) : d ≤ e := by
  obtain ⟨-, -, isBest, least⟩ := searchMonths?_spec numbers numbered h
  have months := least e isMatch from_ after.le
  rcases months.lt_or_eq with less | same
  · exact (Month.lt_of_index_lt less).le
  · exact (isBest.first e (Month.ofDate_eq_of_index_eq same).symm isMatch.2 after).2

theorem monthly?_spec (numbers : IncreasingIn 1 12 allowed) {anchor next : Date}
    (h : monthly? now anchor codes allowed = some next) :
    IsCandidate now anchor codes allowed next ∧
      ∀ d, IsCandidate now anchor codes allowed d → next ≤ d := by
  obtain ⟨first, search, rest⟩ := Option.bind_eq_some_iff.mp h
  obtain ⟨start, -, numbered⟩ :=
    Month.later_spec (Month.isNumbered_ofDate anchor) (Month.isNumbered_ofDate now)
  obtain ⟨from_, isAllowed, isBest, -⟩ := searchMonths?_spec numbers numbered search
  have months {d : Date} (after : now < d) : (Month.ofDate now).index ≤ (Month.ofDate d).index :=
    Month.index_ofDate_le after.le
  by_cases after : now < first
  · rw [monthlyFrom?_of_lt after] at rest
    cases rest
    refine ⟨⟨⟨isAllowed, isBest.listed⟩, after, by omega⟩, ?_⟩
    rintro d ⟨isMatch, dAfter, fromAnchor⟩
    have := months dAfter
    exact le_of_searchMonths? numbers numbered search isMatch dAfter (by omega)
  · -- The first search ended on the reference day, after which its month has no match.
    obtain rfl := isBest.eq_now after
    rw [monthlyFrom?_of_le isBest.from_now] at rest
    obtain ⟨second, search', rest⟩ := Option.bind_eq_some_iff.mp rest
    have numbered' := Month.isNumbered_following (Month.isNumbered_ofDate now)
    have step := Month.index_following (Month.ofDate now)
    obtain ⟨from', isAllowed', isBest', -⟩ := searchMonths?_spec numbers numbered' search'
    have secondAfter : now < second := Month.lt_of_index_lt (by omega)
    rw [monthlyFrom?_of_lt secondAfter] at rest
    cases rest
    refine ⟨⟨⟨isAllowed', isBest'.listed⟩, secondAfter, by omega⟩, ?_⟩
    rintro d ⟨isMatch, dAfter, -⟩
    have beyond : (Month.ofDate now).index ≠ (Month.ofDate d).index := by
      intro same
      exact after (isBest.first d (Month.ofDate_eq_of_index_eq same).symm isMatch.2 dAfter).1
    have := months dAfter
    exact le_of_searchMonths? numbers numbered' search' isMatch dAfter (by omega)

theorem monthly?_eq_none (numbers : IncreasingIn 1 12 allowed) (now anchor : Date)
    (noMatch : ¬ ∃ d, Matches codes allowed d) : monthly? now anchor codes allowed = none := by
  rw [Option.eq_none_iff_forall_ne_some]
  intro next found
  exact noMatch ⟨next, (monthly?_spec numbers found).1.1⟩

theorem monthly?_of_passed (numbers : IncreasingIn 1 12 allowed) {later anchor next : Date}
    (h : monthly? now anchor codes allowed = some next) (passed : next < later) :
    monthly? later next codes allowed = monthly? later anchor codes allowed := by
  obtain ⟨⟨-, -, fromAnchor⟩, -⟩ := monthly?_spec numbers h
  have months := Month.index_ofDate_le passed.le
  simp only [monthly?,
    Month.later_eq_right (Month.isNumbered_ofDate next) (Month.isNumbered_ofDate later) months,
    Month.later_eq_right (Month.isNumbered_ofDate anchor) (Month.isNumbered_ofDate later)
      (fromAnchor.trans months)]

theorem exists_match_in_leapYear {d : Date} (isMatch : Matches codes allowed d) {leap : Int}
    (isLeap : isLeapYear leap = true) (year_mem : firstYear ≤ leap ∧ leap ≤ lastYear) :
    ∃ e, Matches codes allowed e ∧ e.year = leap := by
  obtain ⟨isAllowed, code, member, day⟩ := isMatch
  have longer := daysInMonth_le_of_isLeapYear isLeap d.year d.month
  have long := le_daysInMonth leap d.month_mem.1 d.month_mem.2
  have inside := d.day_mem
  obtain ⟨dayInLeap, dayBounds, sameCode⟩ : ∃ day, (1 ≤ day ∧ day ≤ daysInMonth leap d.month) ∧
      ((1 ≤ code ∧ (day : Int) = code) ∨ (code = -1 ∧ day = daysInMonth leap d.month) ∨
        (code = -2 ∧ day + 1 = daysInMonth leap d.month)) := by
    rcases day with ⟨positive, eq⟩ | ⟨rfl, eq⟩ | ⟨rfl, eq⟩
    · exact ⟨d.day, ⟨inside.1, inside.2.trans longer⟩, Or.inl ⟨positive, eq⟩⟩
    · exact ⟨daysInMonth leap d.month, ⟨by omega, le_rfl⟩, Or.inr (Or.inl ⟨rfl, rfl⟩)⟩
    · exact ⟨daysInMonth leap d.month - 1, by omega, Or.inr (Or.inr ⟨rfl, by omega⟩)⟩
  obtain ⟨e, -, eYear, eMonth, eDay⟩ := Date.exists_ofYmd? _ _ _ year_mem dayBounds
  refine ⟨e, ⟨?_, code, member, ?_⟩, eYear⟩
  · simpa only [Month.IsAllowed, Month.ofDate, eMonth] using isAllowed
  · simpa only [IsDayOfCode, eYear, eMonth, eDay] using sameCode

/-- A search is long enough for a match that lies no more than eight years past its start. -/
theorem exists_searchMonths?_of_near (numbers : IncreasingIn 1 12 allowed) {start : Month}
    (numbered : start.IsNumbered) (first : firstYear ≤ start.year) {target : Date}
    (isMatch : Matches codes allowed target) (notPassed : now ≤ target)
    (from_ : start.index ≤ (Month.ofDate target).index) (near : target.year ≤ start.year + 8)
    (last : (Month.ofDate target).following.year ≤ lastYear) :
    ∃ d, searchMonths? now codes allowed monthSearchLimit start = some d := by
  refine exists_searchMonths? numbers numbered first isMatch notPassed from_ ?_ last
  have limit : monthSearchLimit = 144 := rfl
  have low := numbered.1
  have high := target.month_mem.2
  simp only [Month.index, Month.ofDate, limit]
  omega

/-- From wherever a search starts, it is long enough for a rule that has any match. -/
theorem exists_searchMonths?_of_match (now : Date) (numbers : IncreasingIn 1 12 allowed) {d : Date}
    (isMatch : Matches codes allowed d) {start : Month} (numbered : start.IsNumbered)
    (first : firstYear ≤ start.year) (last : start.year ≤ 262100) (notPassed : now.year ≤ start.year) :
    ∃ e, searchMonths? now codes allowed monthSearchLimit start = some e := by
  have close : (262109 : Int) ≤ lastYear := by decide
  obtain ⟨leap, after, near, isLeap⟩ := leapYear_within_eight start.year
  obtain ⟨target, targetMatch, targetYear⟩ :=
    exists_match_in_leapYear isMatch isLeap ⟨by omega, by omega⟩
  have following : (Month.ofDate target).following.year ≤ target.year + 1 :=
    (Month.ofDate target).year_following.2
  have beyond : now < target := Or.inl (by omega)
  have from_ : start.index ≤ (Month.ofDate target).index := by
    have high := numbered.2
    have low := target.month_mem.1
    simp only [Month.index, Month.ofDate]
    omega
  exact exists_searchMonths?_of_near numbers numbered first targetMatch beyond.le from_ (by omega)
    (by omega)

/-- There is a next date if a search finds one, and a second search does where the first one ends on
    the reference day. -/
theorem exists_monthly?_of_searches (numbers : IncreasingIn 1 12 allowed) {anchor : Date}
    (search : ∃ first, searchMonths? now codes allowed monthSearchLimit
      ((Month.ofDate anchor).later (Month.ofDate now)) = some first)
    (again : (Month.ofDate anchor).index ≤ (Month.ofDate now).index →
      IsBest now codes (Month.ofDate now) now → ∃ second,
        searchMonths? now codes allowed monthSearchLimit (Month.ofDate now).following = some second) :
    ∃ next, monthly? now anchor codes allowed = some next := by
  obtain ⟨first, search⟩ := search
  obtain ⟨start, -, numbered⟩ :=
    Month.later_spec (Month.isNumbered_ofDate anchor) (Month.isNumbered_ofDate now)
  obtain ⟨from_, -, isBest, -⟩ := searchMonths?_spec numbers numbered search
  rw [monthly?]
  simp only [search, Option.bind_some]
  by_cases after : now < first
  · exact ⟨first, monthlyFrom?_of_lt after⟩
  · obtain rfl := isBest.eq_now after
    obtain ⟨second, search'⟩ := again (by omega) isBest
    have numbered' := Month.isNumbered_following (Month.isNumbered_ofDate now)
    have step := Month.index_following (Month.ofDate now)
    have from' := (searchMonths?_spec numbers numbered' search').1
    have secondAfter : now < second := Month.lt_of_index_lt (by omega)
    refine ⟨second, ?_⟩
    rw [monthlyFrom?_of_le le_rfl, search', Option.bind_some, monthlyFrom?_of_lt secondAfter]

theorem exists_monthly? (numbers : IncreasingIn 1 12 allowed) {d : Date}
    (isMatch : Matches codes allowed d) {anchor : Date} (nowRoom : now.HasRoom)
    (anchorRoom : anchor.HasRoom) : ∃ next, monthly? now anchor codes allowed = some next := by
  have nowYear := now.year_mem
  have anchorYear := anchor.year_mem
  simp only [Date.HasRoom] at nowRoom anchorRoom
  obtain ⟨-, startYear, numbered⟩ :=
    Month.later_spec (Month.isNumbered_ofDate anchor) (Month.isNumbered_ofDate now)
  have startYear : ((Month.ofDate anchor).later (Month.ofDate now)).year =
      max anchor.year now.year := startYear
  have followingYear : now.year ≤ (Month.ofDate now).following.year ∧
      (Month.ofDate now).following.year ≤ now.year + 1 := (Month.ofDate now).year_following
  refine exists_monthly?_of_searches numbers ?_ fun _ _ => ?_
  · exact exists_searchMonths?_of_match now numbers isMatch numbered
      (by omega) (by omega) (by omega)
  · exact exists_searchMonths?_of_match now numbers isMatch
      (Month.isNumbered_following (Month.isNumbered_ofDate now)) (by omega) (by omega) (by omega)

theorem year_le_of_first_candidate {anchor next : Date} (h : IsCandidate now anchor codes allowed next)
    (least : ∀ d, IsCandidate now anchor codes allowed d → next ≤ d) :
    next.year ≤ max anchor.year now.year + 8 := by
  have nextYear := next.year_mem
  have nowYear := now.year_mem
  obtain ⟨leap, after, near, isLeap⟩ := leapYear_within_eight (max anchor.year now.year)
  by_cases inside : leap ≤ lastYear
  · obtain ⟨e, eMatch, eYear⟩ := exists_match_in_leapYear h.1 isLeap ⟨by omega, inside⟩
    have later (d : Date) (before : d.year < e.year) : d < e := Or.inl before
    have le := least e ⟨eMatch, later now (by omega),
      Month.index_ofDate_le (later anchor (by omega)).le⟩
    have := Month.year_le_of_index_ofDate_le (Month.index_ofDate_le le)
    omega
  · omega

theorem following_le_of_monthly? {anchor next : Date}
    (h : monthly? now anchor codes allowed = some next) :
    (Month.ofDate next).following.year ≤ lastYear := by
  obtain ⟨first, search, rest⟩ := Option.bind_eq_some_iff.mp h
  have last := following_le_of_searchMonths? search
  clear search
  fun_induction monthlyFrom? now codes allowed first with
  | case1 date le second eq ih => exact ih rest (following_le_of_searchMonths? eq)
  | case2 => cases rest
  | case3 date notLe =>
      cases rest
      exact last

/-- The first candidate is the next date, unless it lies in the month that closes the calendar. -/
theorem monthly?_of_isLeast (numbers : IncreasingIn 1 12 allowed) {anchor next : Date}
    (h : IsLeast {d | IsCandidate now anchor codes allowed d} next)
    (last : (Month.ofDate next).following.year ≤ lastYear) :
    monthly? now anchor codes allowed = some next := by
  obtain ⟨⟨isMatch, after, fromAnchor⟩, least⟩ := h
  have years := year_le_of_first_candidate ⟨isMatch, after, fromAnchor⟩ least
  have fromNow := Month.index_ofDate_le after.le
  obtain ⟨startIndex, startYear, numbered⟩ :=
    Month.later_spec (Month.isNumbered_ofDate anchor) (Month.isNumbered_ofDate now)
  have reaches {start : Month} (numbered : start.IsNumbered)
      (from_ : start.index ≤ (Month.ofDate next).index)
      (startYear : max anchor.year now.year ≤ start.year) :
      ∃ d, searchMonths? now codes allowed monthSearchLimit start = some d :=
    exists_searchMonths?_of_near numbers numbered (now.year_mem.1.trans (by omega)) isMatch
      after.le from_ (by omega) last
  have first := reaches numbered (startIndex.trans_le (max_le fromAnchor fromNow)) startYear.ge
  have again (anchorEarlier : (Month.ofDate anchor).index ≤ (Month.ofDate now).index)
      (isBest : IsBest now codes (Month.ofDate now) now) :
      ∃ second, searchMonths? now codes allowed monthSearchLimit (Month.ofDate now).following =
        some second := by
    have beyond : (Month.ofDate now).index ≠ (Month.ofDate next).index := by
      intro same
      have month := (Month.ofDate_eq_of_index_eq same).symm
      exact lt_irrefl _ (isBest.first next month isMatch.2 after).1
    have step := Month.index_following (Month.ofDate now)
    have anchorYear := Month.year_le_of_index_ofDate_le anchorEarlier
    have followingYear : now.year ≤ (Month.ofDate now).following.year :=
      (Month.ofDate now).year_following.1
    exact reaches (Month.isNumbered_following (Month.isNumbered_ofDate now)) (by omega) (by omega)
  obtain ⟨other, found⟩ := exists_monthly?_of_searches numbers first again
  obtain ⟨isCandidate, otherLeast⟩ := monthly?_spec numbers found
  have notLater := otherLeast next ⟨isMatch, after, fromAnchor⟩
  rw [found, notLater.antisymm (least isCandidate)]

theorem monthly?_eq_some_iff (numbers : IncreasingIn 1 12 allowed) {anchor next : Date} :
    monthly? now anchor codes allowed = some next ↔
      IsLeast {d | IsCandidate now anchor codes allowed d} next ∧
        (Month.ofDate next).following.year ≤ lastYear := by
  constructor
  · intro h
    obtain ⟨isCandidate, least⟩ := monthly?_spec numbers h
    exact ⟨⟨isCandidate, least⟩, following_le_of_monthly? h⟩
  · rintro ⟨isLeast, last⟩
    exact monthly?_of_isLeast numbers isLeast last

theorem monthly?_of_notReached (numbers : IncreasingIn 1 12 allowed) {later anchor next : Date}
    (h : monthly? now anchor codes allowed = some next) (le : now ≤ later)
    (notReached : later < next) : monthly? later anchor codes allowed = some next := by
  rw [monthly?_eq_some_iff numbers] at h ⊢
  obtain ⟨⟨⟨isMatch, -, fromAnchor⟩, least⟩, last⟩ := h
  refine ⟨⟨⟨isMatch, notReached, fromAnchor⟩, ?_⟩, last⟩
  rintro other ⟨otherMatch, otherAfter, otherFrom⟩
  exact least ⟨otherMatch, le.trans_lt otherAfter, otherFrom⟩

end Search

end Agenda.Recurrence
