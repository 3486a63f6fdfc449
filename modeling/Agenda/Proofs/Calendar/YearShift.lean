import Mathlib.Tactic
import Agenda.Proofs.Calendar.Anniversary

/-! # Shifts by years

A shift by years keeps month and day, unless it takes a leap day to a common year. The leap day then
becomes March 1 and does not come back. So two shifts come to the same as one, except where the first
loses a leap day that the single one keeps. All shifts by one number of years keep dates in order.
-/

namespace Agenda.Date

variable {d e : Date} {year years : Int}

/-- Month and day of a date after a shift into some year. -/
def landing (d : Date) (year : Int) : Nat × Nat :=
  if d.IsLeapDay ∧ isLeapYear year = false then (3, 1) else (d.month, d.day)

theorem landing_of_lost (h : d.IsLeapDay ∧ isLeapYear year = false) : d.landing year = (3, 1) :=
  if_pos h

theorem landing_of_kept (h : ¬ (d.IsLeapDay ∧ isLeapYear year = false)) :
    d.landing year = (d.month, d.day) :=
  if_neg h

theorem landing_congr (month : d.month = e.month) (day : d.day = e.day) :
    d.landing year = e.landing year := by
  have same : d.IsLeapDay ↔ e.IsLeapDay := by
    rw [IsLeapDay, IsLeapDay, month, day]
  exact if_congr (and_congr_left' same) rfl (by rw [month, day])

theorem day_mem_of_kept (h : ¬ (d.IsLeapDay ∧ isLeapYear year = false)) :
    1 ≤ d.day ∧ d.day ≤ daysInMonth year d.month := by
  by_cases leapDay : d.IsLeapDay
  · have leap : isLeapYear year = true := by simpa [leapDay] using h
    rw [leapDay.1, leapDay.2, daysInMonth_february, leap]
    simp
  · exact day_mem_of_not_isLeapDay leapDay year

theorem landing_mem (d : Date) (year : Int) :
    1 ≤ (d.landing year).2 ∧ (d.landing year).2 ≤ daysInMonth year (d.landing year).1 := by
  by_cases lost : d.IsLeapDay ∧ isLeapYear year = false
  · rw [landing_of_lost lost]
    exact YearDay.marchFirst.day_mem year
  · rw [landing_of_kept lost]
    exact day_mem_of_kept lost

theorem addYears?_eq (d : Date) (years : Int) :
    d.addYears? years =
      ofYmd? (d.year + years) (d.landing (d.year + years)).1 (d.landing (d.year + years)).2 := by
  unfold addYears?
  by_cases lost : d.IsLeapDay ∧ isLeapYear (d.year + years) = false
  · have missing : ofYmd? (d.year + years) d.month d.day = none := by
      simp [ofYmd?, lost.1.1, lost.1.2, daysInMonth_february, lost.2]
    rw [missing, landing_of_lost lost]
  · rw [landing_of_kept lost]
    cases found : ofYmd? (d.year + years) d.month d.day with
    | some shifted => rfl
    | none =>
        have outside : ¬ (firstYear ≤ d.year + years ∧ d.year + years ≤ lastYear) := by
          simpa [ofYmd?, day_mem_of_kept lost] using found
        exact (YearDay.inYear?_eq_none_iff (a := .marchFirst)).mpr outside

theorem addYears?_eq_some_iff :
    d.addYears? years = some e ↔
      e.year = d.year + years ∧ (e.month, e.day) = d.landing (d.year + years) := by
  rw [addYears?_eq]
  constructor
  · intro found
    obtain ⟨year, month, day⟩ := ofYmd?_eq_some found
    rw [month, day]
    exact ⟨year, rfl⟩
  · intro ⟨year, parts⟩
    rw [← parts, ← year, ofYmd?_self]

theorem exists_addYears? (d : Date) (inside : firstYear ≤ d.year + years ∧ d.year + years ≤ lastYear) :
    ∃ e, d.addYears? years = some e := by
  obtain ⟨e, found, -⟩ := exists_ofYmd? _ _ _ inside (d.landing_mem (d.year + years))
  exact ⟨e, by rw [addYears?_eq, found]⟩

/-- A second shift lands elsewhere than a single one when the first one lost a leap day that the
    single one would have kept. -/
theorem landing_of_addYears? (h : d.addYears? years = some e) (year : Int) :
    e.landing year = d.landing year ↔
      ¬ (d.IsLeapDay ∧ isLeapYear (d.year + years) = false ∧ isLeapYear year = true) := by
  obtain ⟨-, parts⟩ := addYears?_eq_some_iff.mp h
  by_cases lost : d.IsLeapDay ∧ isLeapYear (d.year + years) = false
  · rw [landing_of_lost lost] at parts
    obtain ⟨march, first⟩ := Prod.ext_iff.mp parts
    simp only at march first
    have notLeapDay : ¬ e.IsLeapDay := fun leapDay => by
      have february := leapDay.1
      omega
    rw [landing_of_kept (fun again => notLeapDay again.1), march, first]
    cases leap : isLeapYear year with
    | false => simp [landing_of_lost ⟨lost.1, leap⟩]
    | true => simp [landing, leap, lost.1.1, lost.1, lost.2]
  · rw [landing_of_kept lost] at parts
    obtain ⟨month, day⟩ := Prod.ext_iff.mp parts
    exact iff_of_true (landing_congr month day) fun ⟨leapDay, common, _⟩ => lost ⟨leapDay, common⟩

theorem day_le_of_february (d : Date) (february : d.month = 2) : d.day ≤ 29 := by
  have inside := d.day_mem.2
  rw [february, daysInMonth_february] at inside
  split at inside <;> omega

theorem addYears?_mono {shifted shifted' : Date} (le : d ≤ e)
    (h : d.addYears? years = some shifted) (h' : e.addYears? years = some shifted') :
    shifted ≤ shifted' := by
  obtain ⟨year, parts⟩ := addYears?_eq_some_iff.mp h
  obtain ⟨year', parts'⟩ := addYears?_eq_some_iff.mp h'
  have notLess : ¬ (e.year < d.year ∨
      (e.year = d.year ∧ (e.month < d.month ∨ (e.month = d.month ∧ e.day < d.day)))) := le
  show ¬ (shifted'.year < shifted.year ∨ (shifted'.year = shifted.year ∧
    (shifted'.month < shifted.month ∨
      (shifted'.month = shifted.month ∧ shifted'.day < shifted.day))))
  by_cases sameYear : d.year = e.year
  · rw [sameYear] at parts
    cases leap : isLeapYear (e.year + years) with
    | true =>
        simp only [landing, leap, Bool.true_eq_false, and_false, if_false, Prod.mk.injEq]
          at parts parts'
        omega
    | false =>
        have february := e.day_le_of_february
        have positive := e.day_mem.1
        simp only [landing, IsLeapDay, leap, and_true] at parts parts'
        split at parts <;> split at parts' <;> simp only [Prod.mk.injEq] at parts parts' <;> omega
  · omega

/-- Inside the calendar two shifts by years are both possible, and lead to where the shift by their
    sum leads exactly unless they lose a leap day on the way: the date is one, the year between is a
    common year, and the year at the end is a leap year again. A shift by any number of years takes
    no date past a later one. -/
theorem year_shifts_compose_unless_leap_day_is_lost :
    (∀ (d : Date) (a b : Int), firstYear ≤ d.year + a ∧ d.year + a ≤ lastYear →
        firstYear ≤ d.year + (a + b) ∧ d.year + (a + b) ≤ lastYear →
        ∃ between twice once, d.addYears? a = some between ∧ between.addYears? b = some twice ∧
          d.addYears? (a + b) = some once ∧
          (twice = once ↔ ¬ (d.IsLeapDay ∧ isLeapYear (d.year + a) = false ∧
            isLeapYear (d.year + (a + b)) = true))) ∧
      ∀ (d e : Date) (years : Int) (shifted shifted' : Date), d ≤ e →
        d.addYears? years = some shifted → e.addYears? years = some shifted' →
        shifted ≤ shifted' := by
  refine ⟨fun d a b inside insideTwice => ?_, fun d e years shifted shifted' le h h' =>
    addYears?_mono le h h'⟩
  obtain ⟨between, first⟩ := d.exists_addYears? inside
  obtain ⟨once, direct⟩ := d.exists_addYears? insideTwice
  have sum : between.year + b = d.year + (a + b) := by
    rw [year_of_addYears? first]
    omega
  have insideAgain : firstYear ≤ between.year + b ∧ between.year + b ≤ lastYear := by
    rwa [sum]
  obtain ⟨twice, second⟩ := between.exists_addYears? insideAgain
  refine ⟨between, twice, once, first, second, direct, ?_⟩
  obtain ⟨year, parts⟩ := addYears?_eq_some_iff.mp second
  obtain ⟨year', parts'⟩ := addYears?_eq_some_iff.mp direct
  rw [sum] at year parts
  rw [← landing_of_addYears? first, ← parts, ← parts', Prod.mk.injEq]
  constructor
  · intro same
    exact ⟨by rw [same], by rw [same]⟩
  · intro ⟨month, day⟩
    exact ext_parts (year.trans year'.symm) month day

/-- A leap day is lost in a shift by one year and three more, also back in time and across the year
    0, and kept in shifts by four. -/
theorem leap_day_is_lost_on_the_way :
    let leapDay : Date := ⟨4, 2, 29, by decide, by decide⟩
    let common : Date := ⟨-1, 3, 1, by decide, by decide⟩
    let march : Date := ⟨-4, 3, 1, by decide, by decide⟩
    let back : Date := ⟨-4, 2, 29, by decide, by decide⟩
    (firstYear ≤ leapDay.year + -5 ∧ leapDay.year + -5 ≤ lastYear) ∧
      (firstYear ≤ leapDay.year + (-5 + -3) ∧ leapDay.year + (-5 + -3) ≤ lastYear) ∧
      leapDay.addYears? (-5) = some common ∧ common.addYears? (-3) = some march ∧
      leapDay.addYears? (-5 + -3) = some back ∧ march ≠ back ∧
      (∃ between twice once, leapDay.addYears? (-4) = some between ∧
        between.addYears? (-4) = some twice ∧ leapDay.addYears? (-4 + -4) = some once ∧
        twice = once) ∧
      leapDay ≤ ⟨4, 3, 1, by decide, by decide⟩ ∧ back ≤ march := by
  intro leapDay common march back
  obtain ⟨composes, mono⟩ := year_shifts_compose_unless_leap_day_is_lost
  have inside : firstYear ≤ leapDay.year + -5 ∧ leapDay.year + -5 ≤ lastYear := by decide
  have insideTwice : firstYear ≤ leapDay.year + (-5 + -3) ∧
    leapDay.year + (-5 + -3) ≤ lastYear := by decide
  have first : leapDay.addYears? (-5) = some common := by decide
  have second : common.addYears? (-3) = some march := by decide
  have direct : leapDay.addYears? (-5 + -3) = some back := by decide
  have le : leapDay ≤ ⟨4, 3, 1, by decide, by decide⟩ := by decide
  refine ⟨inside, insideTwice, first, second, direct, ?_, ?_, le, ?_⟩
  · obtain ⟨between, twice, once, first', second', direct', same⟩ :=
      composes leapDay (-5) (-3) inside insideTwice
    cases first.symm.trans first'
    cases second.symm.trans second'
    cases direct.symm.trans direct'
    exact fun eq => same.mp eq ⟨by decide, by decide, by decide⟩
  · obtain ⟨between, twice, once, first', second', direct', same⟩ :=
      composes leapDay (-4) (-4) (by decide) (by decide)
    exact ⟨between, twice, once, first', second', direct', same.mpr (by decide)⟩
  · exact mono leapDay ⟨4, 3, 1, by decide, by decide⟩ (-8) back march le (by decide) (by decide)

end Agenda.Date
