import Mathlib
import Agenda.Proofs.Calendar.DateText

/-! # The stored form of dates

Which texts are stored dates, said by their bytes, their digits and the day that these name. The
writer and the reader of stored dates are a bijection between the dates of the years 0..9999 and
these texts.
-/

namespace Agenda.Date

/-- The number that the digits between two places of a text stand for. -/
def numberAt (text : String) (start stop : Nat) : Nat :=
  Numeral.ofDigits 10 ((text.toList.extract start stop).filterMap Numeral.digit?)

/-- Eight bytes, all of them decimal digits, that name a day of the calendar: four for the year, two
for a month of it and two for a day of this month. -/
structure IsStoredForm (text : String) : Prop where
  bytes : text.utf8ByteSize = 8
  digits : ∀ c ∈ text.toList, c.isDigit = true
  day : 1 ≤ numberAt text 6 8 ∧
    numberAt text 6 8 ≤ daysInMonth (numberAt text 0 4) (numberAt text 4 6)

theorem year_mem_of_lt {year : Nat} (h : year < 10 ^ 4) :
    firstYear ≤ (year : Int) ∧ (year : Int) ≤ lastYear := by
  simp only [firstYear, lastYear]
  omega

theorem utf8ByteSize_of_digits {text : String} (digits : ∀ c ∈ text.toList, c.isDigit = true) :
    text.utf8ByteSize = text.toList.length := by
  conv_lhs => rw [← String.ofList_toList (s := text), String.utf8ByteSize_ofList]
  generalize text.toList = cs at digits
  induction cs with
  | nil => rfl
  | cons c rest ih =>
      obtain ⟨first, others⟩ := List.forall_mem_cons.mp digits
      obtain ⟨d, lt, rfl⟩ := Numeral.exists_digitChar first
      have one : (Numeral.digitChar d).utf8Size = 1 := by
        interval_cases d <;> rfl
      rw [String.utf8Len_cons, ih others, one, List.length_cons]

theorem isStoredForm_of_ofText? {text : String} {d : Date} (h : ofText? text = some d) :
    IsStoredForm text := by
  have length := length_of_ofText? h
  unfold ofText? at h
  split at h
  · next y₁ y₂ y₃ y₄ m₁ m₂ d₁ d₂ shape =>
      simp only [Option.bind_eq_bind, Option.bind_eq_some_iff] at h
      obtain ⟨year, yearRead, month, monthRead, day, dayRead, found⟩ := h
      have yearDecimal := Numeral.decimal_of_natural? yearRead
      have monthDecimal := Numeral.decimal_of_natural? monthRead
      have dayDecimal := Numeral.decimal_of_natural? dayRead
      obtain ⟨-, yearDigits, yearEq⟩ := Numeral.decimal_iff.mp yearDecimal
      obtain ⟨-, monthDigits, monthEq⟩ := Numeral.decimal_iff.mp monthDecimal
      obtain ⟨-, dayDigits, dayEq⟩ := Numeral.decimal_iff.mp dayDecimal
      have digits : ∀ c ∈ text.toList, c.isDigit = true := by
        rw [shape]
        exact List.forall_mem_append.mpr ⟨yearDigits,
          List.forall_mem_append.mpr ⟨monthDigits, dayDigits⟩⟩
      refine ⟨(utf8ByteSize_of_digits digits).trans length, digits, ?_⟩
      obtain ⟨yearPart, monthPart, dayPart⟩ := ofYmd?_eq_some found
      have inside := d.day_mem
      rw [yearPart, monthPart, dayPart, yearEq, monthEq, dayEq] at inside
      rw [numberAt, numberAt, numberAt, shape]
      exact inside
  · cases h

theorem IsStoredForm.exists_ofText? {text : String} (h : IsStoredForm text) :
    ∃ d, ofText? text = some d := by
  obtain ⟨bytes, digits, day⟩ := h
  rw [utf8ByteSize_of_digits digits] at bytes
  obtain ⟨y₁, y₂, y₃, y₄, m₁, m₂, d₁, d₂, shape⟩ : ∃ y₁ y₂ y₃ y₄ m₁ m₂ d₁ d₂,
      text.toList = [y₁, y₂, y₃, y₄, m₁, m₂, d₁, d₂] := by
    match text.toList, bytes with
    | [y₁, y₂, y₃, y₄, m₁, m₂, d₁, d₂], _ => exact ⟨y₁, y₂, y₃, y₄, m₁, m₂, d₁, d₂, rfl⟩
  rw [shape] at digits
  rw [numberAt, numberAt, numberAt, shape] at day
  obtain ⟨yearDigits, rest⟩ := List.forall_mem_append.mp
    (show ∀ c ∈ [y₁, y₂, y₃, y₄] ++ [m₁, m₂, d₁, d₂], c.isDigit = true from digits)
  obtain ⟨monthDigits, dayDigits⟩ := List.forall_mem_append.mp
    (show ∀ c ∈ [m₁, m₂] ++ [d₁, d₂], c.isDigit = true from rest)
  have yearRead := Numeral.natural?_of_digits (List.cons_ne_nil _ _) yearDigits
  have monthRead := Numeral.natural?_of_digits (List.cons_ne_nil _ _) monthDigits
  have dayRead := Numeral.natural?_of_digits (List.cons_ne_nil _ _) dayDigits
  have yearBound := (Numeral.decimal_of_natural? yearRead).lt_pow
  simp only [List.length_cons, List.length_nil] at yearBound
  obtain ⟨d, found, -⟩ := exists_ofYmd? _ _ _ (year_mem_of_lt yearBound) day
  refine ⟨d, ?_⟩
  simp only [ofText?, shape, yearRead, monthRead, dayRead, Option.bind_eq_bind, Option.bind_some]
  exact found

theorem exists_ofText?_iff {text : String} : (∃ d, ofText? text = some d) ↔ IsStoredForm text :=
  ⟨fun ⟨_, read⟩ => isStoredForm_of_ofText? read, IsStoredForm.exists_ofText?⟩

theorem read_eq_error_iff {text : String} {error : Error} :
    read text = .error error ↔ ¬ IsStoredForm text ∧ error = .invalidDate text := by
  rw [← exists_ofText?_iff, read]
  cases ofText? text with
  | none => simp [Error.whenNone, eq_comm]
  | some d => simp [Error.whenNone]

/-- Reading and writing stored dates undo each other. Exactly the texts in the stored form are read,
each as the one date of the years 0..9999 that is written so. Any other text is refused as it
stands, and so is what is written for a date of any other year. -/
theorem stored_form_is_bijection :
    (∀ (text : String) (d : Date),
        Date.read text = .ok d ↔ (0 ≤ d.year ∧ d.year ≤ 9999) ∧ d.text = text) ∧
      (∀ text, Date.read text = .error (.invalidDate text) ↔ ¬ IsStoredForm text) ∧
      (∀ d : Date, ¬ (0 ≤ d.year ∧ d.year ≤ 9999) →
        Date.read d.text = .error (.invalidDate d.text)) ∧
      Set.BijOn Date.text {d | 0 ≤ d.year ∧ d.year ≤ 9999} {text | IsStoredForm text} := by
  refine ⟨fun text d => read_eq_ok_iff.trans and_comm, fun text => ?_, fun d notStorable => ?_,
    fun d storable => ?_, fun d storable e _ same => ?_, fun text stored => ?_⟩
  · rw [read_eq_error_iff]
    exact and_iff_left rfl
  · refine read_eq_error_iff.mpr ⟨fun stored => ?_, rfl⟩
    obtain ⟨e, found⟩ := exists_ofText?_iff.mpr stored
    obtain rfl := eq_of_ofText?_text found
    exact notStorable (text_of_ofText? found).2
  · exact exists_ofText?_iff.mp ⟨d, ofText?_text storable⟩
  · exact eq_of_text_eq storable same
  · obtain ⟨d, found⟩ := exists_ofText?_iff.mpr stored
    obtain ⟨eq, storable⟩ := text_of_ofText? found
    exact ⟨d, storable, eq⟩

/-- Leap days: of the years 0 and 10000, of a century that is no leap year, and with signs and with
    digits of more than one byte. -/
theorem leapDays_read_or_refused :
    let leapDay : Date := ⟨0, 2, 29, by decide, by decide⟩
    let longYear : Date := ⟨10000, 2, 29, by decide, by decide⟩
    Date.read "00000229" = .ok leapDay ∧
      Date.read "19000229" = .error (.invalidDate "19000229") ∧
      Date.read "+2040229" = .error (.invalidDate "+2040229") ∧
      Date.read "２０24" = .error (.invalidDate "２０24") ∧
      (¬ (0 ≤ longYear.year ∧ longYear.year ≤ 9999) ∧
        Date.read "+100000229" = .error (.invalidDate "+100000229")) := by
  intro leapDay longYear
  obtain ⟨accepted, refused, notStored, -⟩ := stored_form_is_bijection
  have outside : ¬ (0 ≤ longYear.year ∧ longYear.year ≤ 9999) := by decide
  have longText : longYear.text = "+100000229" := by cbv
  have long := notStored longYear outside
  rw [longText] at long
  refine ⟨(accepted _ _).mpr ⟨by decide, by cbv⟩, (refused _).mpr fun stored => ?_,
    (refused _).mpr fun stored => ?_, (refused _).mpr fun stored => ?_, outside, long⟩
  · exact absurd stored.day.2 (by decide)
  · exact absurd (stored.digits '+' (by decide)) (by decide)
  · exact absurd (stored.digits '２' (by decide)) (by decide)

end Agenda.Date
