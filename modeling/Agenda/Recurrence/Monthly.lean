import Agenda.Calendar.Month

/-! # Days of the month

Next dates on listed days of listed months. The search visits the allowed months in order, and in
each it takes the earliest listed day after the reference day. A reference day that is itself the
last match of its month ends a search, and a second one then starts from the following month.
-/

namespace Agenda.Recurrence

/-- The number of months that one search visits. The longest wait of a rule that has any match at
all is eight years, from one February 29 to the next across a century that is no leap year. -/
def monthSearchLimit : Nat := 12 * 12

/-- The day of a month that a day code stands for: -1 is the last day, -2 the day before it, and a
positive code itself, if the month is long enough. -/
def dayOfCode? (lastDay : Nat) (code : Int) : Option Nat :=
  if code = -1 then some lastDay
  else if code = -2 then some (lastDay - 1)
  else if 1 ≤ code ∧ code ≤ lastDay then some code.toNat
  else none

/-- The days of a month that the codes stand for. -/
def daysOfCodes (month : Month) (lastDay : Nat) (codes : List Int) : List Date :=
  codes.filterMap fun code =>
    (dayOfCode? lastDay code).bind (Date.ofYmd? month.year month.number)

/-- The earliest listed day of a month after `now`, or `now` if it is the last of them. -/
def bestInMonth? (now : Date) (codes : List Int) (month : Month) (lastDay : Nat) : Option Date :=
  let candidates := daysOfCodes month lastDay codes
  match Date.earliest? (candidates.filter (now < ·)) with
  | some date => some date
  | none => if now ∈ candidates then some now else none

/-- The best day of the first month that has one, among the next `limit` allowed months from
`start` on. -/
def searchMonths? (now : Date) (codes : List Int) (allowed : List Nat) :
    Nat → Month → Option Date
  | 0, _ => none
  | limit + 1, start =>
    let month := start.nextAllowed allowed
    match lastDayOfMonth? month.year month.number with
    | none => none
    | some lastDay =>
      match bestInMonth? now codes month lastDay with
      | some date => some date
      | none => searchMonths? now codes allowed limit month.following

theorem mem_daysOfCodes {month : Month} {lastDay : Nat} {codes : List Int} {date : Date}
    (h : date ∈ daysOfCodes month lastDay codes) : Month.ofDate date = month := by
  obtain ⟨code, _, hc⟩ := List.mem_filterMap.1 h
  obtain ⟨day, _, hd⟩ := Option.bind_eq_some_iff.1 hc
  have := Date.ofYmd?_eq_some hd
  simp [Month.ofDate, this]

theorem month_of_bestInMonth? {now : Date} {codes : List Int} {month : Month} {lastDay : Nat}
    {date : Date} (h : bestInMonth? now codes month lastDay = some date) :
    Month.ofDate date = month := by
  unfold bestInMonth? at h
  dsimp only at h
  split at h
  · next hd =>
    cases h
    exact mem_daysOfCodes (List.mem_filter.1 (Date.mem_of_earliest? hd)).1
  · split at h
    · next hm => cases h; exact mem_daysOfCodes hm
    · exact absurd h (by simp)

theorem number_le_of_lastDayOfMonth? {year : Int} {month day : Nat}
    (h : lastDayOfMonth? year month = some day) : month ≤ 12 := by
  unfold lastDayOfMonth? at h
  split at h
  · next hm => exact hm.2
  · exact absurd h (by simp)

theorem index_le_of_searchMonths? {now : Date} {codes : List Int} {allowed : List Nat}
    {limit : Nat} {start : Month} {date : Date} (hs : start.number ≤ 12)
    (h : searchMonths? now codes allowed limit start = some date) :
    start.index ≤ (Month.ofDate date).index := by
  induction limit generalizing start with
  | zero => exact absurd h (by simp [searchMonths?])
  | succ limit ih =>
    have hn := Month.index_le_nextAllowed allowed start hs
    simp only [searchMonths?] at h
    split at h
    · exact absurd h (by simp)
    · next lastDay hl =>
      have hle := number_le_of_lastDayOfMonth? hl
      have hf := Month.index_following (start.nextAllowed allowed)
      split at h
      · next best hb => cases h; rw [month_of_bestInMonth? hb]; exact hn
      · have := ih (Month.number_following_le _ hle) h
        omega

/-- Search again from the following month until the date is after `now`. -/
def monthlyFrom? (now : Date) (codes : List Int) (allowed : List Nat) (date : Date) :
    Option Date :=
  if _ : date ≤ now then
    match _ : searchMonths? now codes allowed monthSearchLimit (Month.ofDate date).following with
    | some next => monthlyFrom? now codes allowed next
    | none => none
  else
    some date
termination_by ((Month.ofDate now).index + 1 - (Month.ofDate date).index).toNat
decreasing_by
  have hm := date.month_mem
  have hf := Month.index_following (Month.ofDate date)
  have hs := index_le_of_searchMonths? (Month.number_following_le _ hm.2)
    ‹searchMonths? now codes allowed monthSearchLimit (Month.ofDate date).following = some next›
  have hn := Month.index_ofDate_le ‹date ≤ now›
  omega

/-- The next date on one of the listed days, counted from the month of the task's date or from the
reference month, whichever is later. -/
def monthly? (now anchor : Date) (codes : List Int) (allowed : List Nat) : Option Date :=
  let start := (Month.ofDate anchor).later (Month.ofDate now)
  (searchMonths? now codes allowed monthSearchLimit start).bind (monthlyFrom? now codes allowed)

end Agenda.Recurrence
