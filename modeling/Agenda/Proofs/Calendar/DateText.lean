import Mathlib.Tactic
import Agenda.Calendar.DateText
import Agenda.Proofs.Calendar.Month
import Agenda.Proofs.Error
import Agenda.Proofs.Text.Numeral

/-! # Dates read back

The stored form has eight digits exactly for the years 0..9999. Of these dates it is read back, and
a text that is read is the stored form of its date. The displayed form is made of the same digits,
and is read back of the same dates.
-/

namespace Agenda.Date

/-- The dates whose stored form has eight digits. -/
def IsStorable (d : Date) : Prop :=
  0 ≤ d.year ∧ d.year ≤ 9999

instance (d : Date) : Decidable d.IsStorable :=
  inferInstanceAs (Decidable (_ ∧ _))

theorem yearText_of_isStorable {d : Date} (h : d.IsStorable) :
    yearText d.year = Numeral.padded 4 d.year.natAbs := by
  obtain ⟨low, high⟩ := h
  rw [yearText, if_neg (Int.not_lt.mpr low), if_pos high]

theorem exists_four {cs : List Char} (h : cs.length = 4) :
    ∃ a b c d, cs = [a, b, c, d] := by
  match cs, h with
  | [a, b, c, d], _ => exact ⟨a, b, c, d, rfl⟩

theorem exists_two {cs : List Char} (h : cs.length = 2) : ∃ a b, cs = [a, b] := by
  match cs, h with
  | [a, b], _ => exact ⟨a, b, rfl⟩

/-- The date that the digits of a year, a month and a day stand for. -/
def ofDigits? (years months days : List Char) : Option Date := do
  let year ← Numeral.natural? years
  let month ← Numeral.natural? months
  let day ← Numeral.natural? days
  ofYmd? year month day

theorem ofDigits?_padded {d : Date} (h : d.IsStorable) :
    ofDigits? (yearText d.year) (Numeral.padded 2 d.month) (Numeral.padded 2 d.day) = some d := by
  have yearRead := Numeral.natural?_of_decimal (Numeral.decimal_padded 4 d.year.natAbs)
  have monthRead := Numeral.natural?_of_decimal (Numeral.decimal_padded 2 d.month)
  have dayRead := Numeral.natural?_of_decimal (Numeral.decimal_padded 2 d.day)
  have year : (d.year.natAbs : Int) = d.year := Int.natAbs_of_nonneg h.1
  simp [ofDigits?, yearText_of_isStorable h, yearRead, monthRead, dayRead, year]

theorem exists_digits {d : Date} (h : d.IsStorable) :
    ∃ y₁ y₂ y₃ y₄ m₁ m₂ d₁ d₂, yearText d.year = [y₁, y₂, y₃, y₄] ∧
      Numeral.padded 2 d.month = [m₁, m₂] ∧ Numeral.padded 2 d.day = [d₁, d₂] := by
  have month := d.month_mem
  have day := d.day_mem
  have dayBound := daysInMonth_le d.year d.month
  have yearLength := Numeral.length_padded 4 d.year.natAbs (by decide)
    (by obtain ⟨low, high⟩ := h; omega)
  have monthLength := Numeral.length_padded 2 d.month (by decide) (by omega)
  have dayLength := Numeral.length_padded 2 d.day (by decide) (by omega)
  rw [← yearText_of_isStorable h] at yearLength
  obtain ⟨y₁, y₂, y₃, y₄, years⟩ := exists_four yearLength
  obtain ⟨m₁, m₂, months⟩ := exists_two monthLength
  obtain ⟨d₁, d₂, days⟩ := exists_two dayLength
  exact ⟨y₁, y₂, y₃, y₄, m₁, m₂, d₁, d₂, years, months, days⟩

theorem padded_of_ofDigits? {years months days : List Char} {d : Date}
    (h : ofDigits? years months days = some d) (yearLength : years.length = 4)
    (monthLength : months.length = 2) (dayLength : days.length = 2) :
    d.IsStorable ∧ yearText d.year = years ∧ Numeral.padded 2 d.month = months ∧
      Numeral.padded 2 d.day = days := by
  simp only [ofDigits?, Option.bind_eq_bind, Option.bind_eq_some_iff] at h
  obtain ⟨year, yearRead, month, monthRead, day, dayRead, found⟩ := h
  have yearDecimal := Numeral.decimal_of_natural? yearRead
  have yearBound := yearDecimal.lt_pow
  have yearText := yearDecimal.padded_eq
  have monthText := (Numeral.decimal_of_natural? monthRead).padded_eq
  have dayText := (Numeral.decimal_of_natural? dayRead).padded_eq
  rw [yearLength] at yearBound yearText
  rw [monthLength] at monthText
  rw [dayLength] at dayText
  obtain ⟨yearEq, rfl, rfl⟩ := ofYmd?_eq_some found
  have storable : d.IsStorable := by
    simp only [IsStorable, yearEq]
    omega
  refine ⟨storable, ?_, monthText, dayText⟩
  rw [yearText_of_isStorable storable, yearEq, Int.natAbs_natCast, yearText]

/-- A storable date is read back from its stored form. -/
theorem ofText?_text {d : Date} (h : d.IsStorable) : ofText? d.text = some d := by
  have read := ofDigits?_padded h
  obtain ⟨y₁, y₂, y₃, y₄, m₁, m₂, d₁, d₂, years, months, days⟩ := exists_digits h
  rw [years, months, days] at read
  simp only [ofText?, text, years, months, days, String.toList_ofList]
  exact read

theorem signed_yearText (year : Int) : Numeral.Signed (yearText year) year := by
  have digits := Numeral.decimal_padded 4 year.natAbs
  by_cases negative : year < 0
  · have opposite : -(year.natAbs : Int) = year := by omega
    have minus := Numeral.Signed.minus digits
    rw [opposite] at minus
    rwa [yearText, if_pos negative]
  · have same : (year.natAbs : Int) = year := by omega
    have plain := Numeral.Signed.plain digits
    have plus := Numeral.Signed.plus digits
    rw [same] at plain plus
    rw [yearText, if_neg negative]
    split
    · exact plain
    · exact plus

theorem newline_notMem_text (d : Date) : '\n' ∉ d.text.toList := by
  have notMem {cs : List Char} {n : Int} (h : Numeral.Signed cs n) : '\n' ∉ cs :=
    h.notMem rfl (by decide)
  simp only [text, String.toList_ofList, List.mem_append, not_or]
  exact ⟨⟨notMem (signed_yearText d.year), notMem (.plain (Numeral.decimal_padded 2 d.month))⟩,
    notMem (.plain (Numeral.decimal_padded 2 d.day))⟩

theorem text_of_ofText? {text : String} {d : Date} (h : ofText? text = some d) :
    d.text = text ∧ d.IsStorable := by
  unfold ofText? at h
  split at h
  · next y₁ y₂ y₃ y₄ m₁ m₂ d₁ d₂ shape =>
      have read : ofDigits? [y₁, y₂, y₃, y₄] [m₁, m₂] [d₁, d₂] = some d := h
      obtain ⟨storable, years, months, days⟩ := padded_of_ofDigits? read rfl rfl rfl
      refine ⟨?_, storable⟩
      rw [Date.text, years, months, days]
      simp only [List.cons_append, List.nil_append, ← shape, String.ofList_toList]
  · cases h

theorem length_of_ofText? {text : String} {d : Date} (h : ofText? text = some d) :
    text.toList.length = 8 := by
  unfold ofText? at h
  split at h
  · next shape => rw [shape]; rfl
  · cases h

/-- The stored form of any other date is too long to be read. -/
theorem lt_length_text {d : Date} (h : ¬ d.IsStorable) : 8 < d.text.toList.length := by
  have year := Numeral.le_length_padded 4 d.year.natAbs
  have month := Numeral.le_length_padded 2 d.month
  have day := Numeral.le_length_padded 2 d.day
  have signed : 5 ≤ (yearText d.year).length := by
    simp only [IsStorable, not_and_or] at h
    unfold yearText
    split
    · simpa using year
    · rw [if_neg (by omega)]
      simpa using year
  simp only [text, String.toList_ofList, List.length_append]
  omega

theorem eq_of_ofText?_text {d e : Date} (h : ofText? d.text = some e) : e = d := by
  by_cases storable : d.IsStorable
  · rw [ofText?_text storable] at h
    cases h
    rfl
  · have := length_of_ofText? h
    have := lt_length_text storable
    omega

theorem eq_of_text_eq {d e : Date} (storable : d.IsStorable) (h : d.text = e.text) : d = e := by
  have read := ofText?_text storable
  rw [h] at read
  exact eq_of_ofText?_text read

theorem ofText?_eq_some_iff {text : String} {d : Date} :
    ofText? text = some d ↔ d.text = text ∧ d.IsStorable := by
  refine ⟨text_of_ofText?, ?_⟩
  rintro ⟨rfl, storable⟩
  exact ofText?_text storable

theorem read_eq_ok_iff {text : String} {d : Date} :
    read text = .ok d ↔ d.text = text ∧ d.IsStorable := by
  rw [← ofText?_eq_some_iff, read, Error.whenNone_eq_ok_iff]

theorem ofDisplayText?_displayText {d : Date} (h : d.IsStorable) :
    ofDisplayText? d.displayText = some d := by
  have read := ofDigits?_padded h
  obtain ⟨y₁, y₂, y₃, y₄, m₁, m₂, d₁, d₂, years, months, days⟩ := exists_digits h
  rw [years, months, days] at read
  simp only [ofDisplayText?, displayText, years, months, days, String.toList_ofList,
    List.cons_append, List.nil_append]
  exact read

theorem displayText_of_ofDisplayText? {text : String} {d : Date}
    (h : ofDisplayText? text = some d) : d.displayText = text ∧ d.IsStorable := by
  unfold ofDisplayText? at h
  split at h
  · next d₁ d₂ m₁ m₂ y₁ y₂ y₃ y₄ shape =>
      have read : ofDigits? [y₁, y₂, y₃, y₄] [m₁, m₂] [d₁, d₂] = some d := h
      obtain ⟨storable, years, months, days⟩ := padded_of_ofDigits? read rfl rfl rfl
      refine ⟨?_, storable⟩
      rw [Date.displayText, years, months, days]
      simp only [List.cons_append, List.nil_append, ← shape, String.ofList_toList]
  · cases h

theorem ofDisplayText?_eq_some_iff {text : String} {d : Date} :
    ofDisplayText? text = some d ↔ d.displayText = text ∧ d.IsStorable := by
  refine ⟨displayText_of_ofDisplayText?, ?_⟩
  rintro ⟨rfl, storable⟩
  exact ofDisplayText?_displayText storable

theorem isDigit_or_point_of_mem_displayText {d : Date} (h : d.IsStorable) :
    ∀ c ∈ d.displayText.toList, c.isDigit = true ∨ c = '.' := by
  have isDigit (width n : Nat) : ∀ c ∈ Numeral.padded width n, c.isDigit = true :=
    (Numeral.decimal_iff.mp (Numeral.decimal_padded width n)).2.1
  intro c member
  simp only [displayText, yearText_of_isStorable h, String.toList_ofList, List.mem_append,
    List.mem_cons] at member
  rcases member with (day | rfl | month) | rfl | year
  · exact Or.inl (isDigit 2 d.day c day)
  · exact Or.inr rfl
  · exact Or.inl (isDigit 2 d.month c month)
  · exact Or.inr rfl
  · exact Or.inl (isDigit 4 d.year.natAbs c year)

end Agenda.Date
