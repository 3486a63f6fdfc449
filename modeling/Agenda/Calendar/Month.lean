import Agenda.Calendar.Date

/-! # Months of the calendar

A `Month` is one month of one year. The search for monthly dates walks from month to month, and
reads the end of each off the first day of the next.
-/

namespace Agenda

/-- The last day of a month is the day before the first of the following month. There is no answer
where one of these two days is missing: for a number that names no month, outside the calendar,
and for the month that closes it. -/
def lastDayOfMonth? (year : Int) (month : Nat) : Option Nat :=
  if 1 ≤ month ∧ month ≤ 12 then
    let following :=
      if month = 12 then Date.ofYmd? (year + 1) 1 1 else Date.ofYmd? year (month + 1) 1
    (following.bind Date.pred?).map Date.day
  else
    none

/-- One month of one year. -/
structure Month where
  year : Int
  number : Nat
  deriving Repr, DecidableEq

namespace Month

def ofDate (d : Date) : Month :=
  ⟨d.year, d.month⟩

/-- Months counted from the first month of year 0. -/
def index (m : Month) : Int :=
  12 * m.year + m.number

def later (a b : Month) : Month :=
  if a.year < b.year ∨ (a.year = b.year ∧ a.number < b.number) then b else a

def following (m : Month) : Month :=
  if m.number = 12 then ⟨m.year + 1, 1⟩ else ⟨m.year, m.number + 1⟩

/-- The first month from `m` on whose number is allowed. `allowed` is sorted; an empty list allows
every month. -/
def nextAllowed (allowed : List Nat) (m : Month) : Month :=
  match allowed with
  | [] => m
  | first :: _ =>
    match allowed.find? (m.number ≤ ·) with
    | some number => ⟨m.year, number⟩
    | none => ⟨m.year + 1, first⟩

theorem index_following (m : Month) : m.following.index = m.index + 1 := by
  unfold following
  split <;> simp [index] <;> omega

theorem number_following_le (m : Month) (h : m.number ≤ 12) : m.following.number ≤ 12 := by
  unfold following
  split
  · exact Nat.le_of_ble_eq_true rfl
  · exact Nat.lt_of_le_of_ne h ‹_›

theorem index_le_nextAllowed (allowed : List Nat) (m : Month) (h : m.number ≤ 12) :
    m.index ≤ (m.nextAllowed allowed).index := by
  unfold nextAllowed
  split
  · exact Int.le_refl _
  · split
    · next number hf =>
      have : m.number ≤ number := by simpa using List.find?_some hf
      simp [index]
      omega
    · simp [index]
      omega

theorem index_ofDate_le {a b : Date} (h : a ≤ b) : (ofDate a).index ≤ (ofDate b).index := by
  have ha := a.month_mem
  have hb := b.month_mem
  have : ¬ (b.year < a.year ∨
      (b.year = a.year ∧ (b.month < a.month ∨ (b.month = a.month ∧ b.day < a.day)))) := h
  simp only [index, ofDate]
  omega

end Month

end Agenda
