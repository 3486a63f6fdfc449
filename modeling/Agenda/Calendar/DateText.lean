import Agenda.Calendar.Date
import Agenda.Error
import Agenda.Text.Numeral

/-! # Dates as text

A stored date is written `YYYYMMDD` and a displayed one `DD.MM.YYYY`. Readers take exactly eight
digits of the first form and ten characters of the second. The writer of the stored form also
serves years outside 0..9999, with a sign and at least four digits, which no reader takes back.
-/

namespace Agenda.Date

/-- The digits of a year: four of them for 0..9999, else a sign and at least four. -/
def yearText (year : Int) : List Char :=
  if year < 0 then '-' :: Numeral.padded 4 year.natAbs
  else if year ≤ 9999 then Numeral.padded 4 year.natAbs
  else '+' :: Numeral.padded 4 year.natAbs

def text (d : Date) : String :=
  String.ofList (yearText d.year ++ Numeral.padded 2 d.month ++ Numeral.padded 2 d.day)

/-- Read a stored date: eight digits that name a day of the calendar. -/
def ofText? (text : String) : Option Date :=
  match text.toList with
  | [y₁, y₂, y₃, y₄, m₁, m₂, d₁, d₂] => do
    let year ← Numeral.natural? [y₁, y₂, y₃, y₄]
    let month ← Numeral.natural? [m₁, m₂]
    let day ← Numeral.natural? [d₁, d₂]
    ofYmd? year month day
  | _ => none

/-- A stored date, or the refusal of a text that is none. -/
def read (text : String) : Except Error Date :=
  (Error.invalidDate text).whenNone (ofText? text)

def displayText (d : Date) : String :=
  String.ofList
    (Numeral.padded 2 d.day ++ '.' :: Numeral.padded 2 d.month ++ '.' :: yearText d.year)

/-- Read a displayed date: digits and two points that name a day of the calendar. -/
def ofDisplayText? (text : String) : Option Date :=
  match text.toList with
  | [d₁, d₂, '.', m₁, m₂, '.', y₁, y₂, y₃, y₄] => do
    let year ← Numeral.natural? [y₁, y₂, y₃, y₄]
    let month ← Numeral.natural? [m₁, m₂]
    let day ← Numeral.natural? [d₁, d₂]
    ofYmd? year month day
  | _ => none

end Agenda.Date
