/-! # Calendar dates

Days of the proleptic Gregorian calendar, with a year 0 and negative years, between two fixed
end years. A `Date` carries the proof that its day exists, so no later step has to ask again.
-/

namespace Agenda

def firstYear : Int := -262143

def lastYear : Int := 262142

/-- Every fourth year is a leap year, except the centuries that 400 does not divide. -/
def isLeapYear (year : Int) : Bool :=
  year % 4 == 0 && (year % 100 != 0 || year % 400 == 0)

/-- The Gregorian length of a month, and 0 for a number that names no month. -/
def daysInMonth (year : Int) : Nat → Nat
  | 1 | 3 | 5 | 7 | 8 | 10 | 12 => 31
  | 4 | 6 | 9 | 11 => 30
  | 2 => if isLeapYear year then 29 else 28
  | _ => 0

/-- A day of the calendar. A month outside 1..12 has no days, so `day_mem` rules it out. -/
structure Date where
  year : Int
  month : Nat
  day : Nat
  year_mem : firstYear ≤ year ∧ year ≤ lastYear
  day_mem : 1 ≤ day ∧ day ≤ daysInMonth year month
  deriving Repr, DecidableEq

namespace Date

/-- The date with these parts, if the calendar has it. -/
def ofYmd? (year : Int) (month day : Nat) : Option Date :=
  if h : (firstYear ≤ year ∧ year ≤ lastYear) ∧ 1 ≤ day ∧ day ≤ daysInMonth year month then
    some ⟨year, month, day, h.1, h.2⟩
  else
    none

/-- Dates are ordered by year, then month, then day. -/
instance : LT Date where
  lt a b := a.year < b.year ∨
    (a.year = b.year ∧ (a.month < b.month ∨ (a.month = b.month ∧ a.day < b.day)))

instance (a b : Date) : Decidable (a < b) :=
  inferInstanceAs (Decidable (a.year < b.year ∨
    (a.year = b.year ∧ (a.month < b.month ∨ (a.month = b.month ∧ a.day < b.day)))))

instance : LE Date where
  le a b := ¬ b < a

instance (a b : Date) : Decidable (a ≤ b) :=
  inferInstanceAs (Decidable (¬ b < a))

def earlier (a b : Date) : Date :=
  if b < a then b else a

def earliest? : List Date → Option Date
  | [] => none
  | d :: rest => some (rest.foldl earlier d)

/-- The day before, unless `d` opens the calendar. -/
def pred? (d : Date) : Option Date :=
  if 1 < d.day then ofYmd? d.year d.month (d.day - 1)
  else if 1 < d.month then
    ofYmd? d.year (d.month - 1) (daysInMonth d.year (d.month - 1))
  else
    ofYmd? (d.year - 1) 12 31

/-- Shift by whole years. A leap day lands on March 1 where the target year has none. -/
def addYears? (d : Date) (years : Int) : Option Date :=
  match ofYmd? (d.year + years) d.month d.day with
  | some shifted => some shifted
  | none => ofYmd? (d.year + years) 3 1

@[simp] theorem ofYmd?_self (d : Date) : ofYmd? d.year d.month d.day = some d := by
  simp [ofYmd?, d.year_mem, d.day_mem]

theorem ofYmd?_eq_some {year : Int} {month day : Nat} {d : Date}
    (h : ofYmd? year month day = some d) :
    d.year = year ∧ d.month = month ∧ d.day = day := by
  unfold ofYmd? at h
  split at h
  · cases h; exact ⟨rfl, rfl, rfl⟩
  · exact absurd h (by simp)

theorem year_of_addYears? {d e : Date} {years : Int} (h : d.addYears? years = some e) :
    e.year = d.year + years := by
  unfold addYears? at h
  split at h
  · next shifted hs => cases h; exact (ofYmd?_eq_some hs).1
  · exact (ofYmd?_eq_some h).1

theorem year_le_of_lt {a b : Date} (h : a < b) : a.year ≤ b.year := by
  rcases h with h | h <;> omega

theorem month_mem (d : Date) : 1 ≤ d.month ∧ d.month ≤ 12 := by
  have h := d.day_mem
  unfold daysInMonth at h
  split at h <;> omega

theorem earlier_mem (a b : Date) : earlier a b = a ∨ earlier a b = b := by
  unfold earlier
  split
  · exact Or.inr rfl
  · exact Or.inl rfl

theorem foldl_earlier_mem (d : Date) (ds : List Date) : ds.foldl earlier d ∈ d :: ds := by
  induction ds generalizing d with
  | nil => simp
  | cons e rest ih =>
    rw [List.foldl_cons]
    have h := ih (earlier d e)
    rcases earlier_mem d e with he | he <;> rw [he] at h ⊢ <;>
      rcases List.mem_cons.1 h with h | h <;> simp [h]

theorem mem_of_earliest? {ds : List Date} {d : Date} (h : earliest? ds = some d) : d ∈ ds := by
  cases ds with
  | nil => exact absurd h (by simp [earliest?])
  | cons e rest => cases h; exact foldl_earlier_mem e rest

end Date

end Agenda
