import Agenda.Calendar.Date
import Agenda.Double
import Agenda.Text.Fields
import Agenda.Text.Numeral
import Agenda.Toml.Value

/-! # Plain TOML values

Numbers, truth values, dates and times, which are written without quotes. Digits may be grouped
with underscores, and a number has no leading zeros.
-/

namespace Agenda.Toml

/-- The digits of a numeral, with single underscores between digits left out. -/
def ungroup? (isDigit : Char → Bool) (cs : List Char) : Option (List Char) :=
  let groups := Fields.split '_' cs
  if groups.all fun group => !group.isEmpty && group.all isDigit then some groups.flatten
  else none

/-- Whether a character is a digit in some base up to 16. -/
def isDigitOf (base : Nat) (c : Char) : Bool :=
  (Numeral.hexDigit? c).any (· < base)

/-- A whole number in some base, after the letter that names the base. -/
def based? (base : Nat) (cs : List Char) : Option Int :=
  (ungroup? (isDigitOf base) cs).map fun digits =>
    Numeral.ofDigits base (digits.filterMap Numeral.hexDigit?)

/-- The digits of a whole number without leading zeros. -/
def wholeDigits? (cs : List Char) : Option (List Char) :=
  match ungroup? Char.isDigit cs with
  | some ['0'] => some ['0']
  | some ('0' :: _) => none
  | digits => digits

def integer? (cs : List Char) : Option Int := do
  let n ←
    match cs with
    | '0' :: 'x' :: digits => based? 16 digits
    | '0' :: 'o' :: digits => based? 8 digits
    | '0' :: 'b' :: digits => based? 2 digits
    | _ =>
      let (negative, rest) := Numeral.splitSign cs
      ((wholeDigits? rest).bind Numeral.natural?).map (Numeral.withSign negative)
  if -Numeral.signedBound ≤ n ∧ n < Numeral.signedBound then some n else none

/-- The power of ten of a decimal fraction, if there is one. -/
def power? : List Char → Option Int
  | [] => some 0
  | 'e' :: rest | 'E' :: rest =>
    let (negative, digits) := Numeral.splitSign rest
    ((ungroup? Char.isDigit digits).bind Numeral.natural?).map (Numeral.withSign negative)
  | _ => none

/-- Whether digits with a power of ten stay below the bound where doubles end. -/
def staysFinite (digits : List Nat) (power : Int) : Bool :=
  let n := Numeral.ofDigits 10 digits
  n == 0 || power + digits.length ≤ 0 ||
    (power ≤ 400 && n * Nat.pow 10 power.toNat < Double.infinityBound * Nat.pow 10 (-power).toNat)

/-- Whether a text is a decimal fraction that fits a double. -/
def isFraction (cs : List Char) : Bool :=
  let (_, rest) := Numeral.splitSign cs
  if rest == ['i', 'n', 'f'] || rest == ['n', 'a', 'n'] then true
  else
    let inWhole := fun c : Char => c.isDigit || c == '_'
    let (decimals, after) :=
      match rest.dropWhile inWhole with
      | '.' :: rest => (some (rest.takeWhile inWhole), rest.dropWhile inWhole)
      | rest => (none, rest)
    match wholeDigits? (rest.takeWhile inWhole), (decimals.getD ['0']), power? after with
    | some whole, decimals', some power =>
      match ungroup? Char.isDigit decimals' with
      | some places =>
        (decimals.isSome || !after.isEmpty) &&
          staysFinite ((whole ++ places).filterMap Numeral.hexDigit?) (power - places.length)
      | none => false
    | _, _, _ => false

def twoDigits? (a b : Char) : Option Nat :=
  Numeral.natural? [a, b]

def twoDigitsIn (low high : Nat) (a b : Char) : Bool :=
  (twoDigits? a b).any fun n => low ≤ n && n ≤ high

/-- What follows a date, if a text starts with one. -/
def afterDate? : List Char → Option (List Char)
  | y₁ :: y₂ :: y₃ :: y₄ :: '-' :: m₁ :: m₂ :: '-' :: d₁ :: d₂ :: rest => do
    let century ← twoDigits? y₁ y₂
    let year ← twoDigits? y₃ y₄
    let month ← twoDigits? m₁ m₂
    let day ← twoDigits? d₁ d₂
    if 1 ≤ day ∧ day ≤ daysInMonth (100 * century + year : Nat) month then some rest else none
  | _ => none

/-- What follows a time of day, if a text starts with one. A minute may have a leap second. -/
def afterTime? : List Char → Option (List Char)
  | h₁ :: h₂ :: ':' :: m₁ :: m₂ :: ':' :: s₁ :: s₂ :: rest =>
    if twoDigitsIn 0 23 h₁ h₂ && twoDigitsIn 0 59 m₁ m₂ && twoDigitsIn 0 60 s₁ s₂ then
      match rest with
      | '.' :: places =>
        if (places.takeWhile Char.isDigit).isEmpty then none
        else some (places.dropWhile Char.isDigit)
      | rest => some rest
    else
      none
  | _ => none

/-- Whether a text is a distance from universal time, or nothing. -/
def isOffset : List Char → Bool
  | [] | ['Z'] | ['z'] => true
  | ['+', h₁, h₂, ':', m₁, m₂] | ['-', h₁, h₂, ':', m₁, m₂] =>
    twoDigitsIn 0 23 h₁ h₂ && twoDigitsIn 0 59 m₁ m₂
  | _ => false

/-- Whether a text is a time of day with or without a distance from universal time. -/
def isTimeWithOffset (cs : List Char) : Bool :=
  (afterTime? cs).any isOffset

/-- Whether a text is a date, a time of day, or a date with a time. -/
def isMoment (cs : List Char) : Bool :=
  match afterDate? cs with
  | some [] => true
  | some ('T' :: time) | some ('t' :: time) | some (' ' :: time) => isTimeWithOffset time
  | some _ => false
  | none => afterTime? cs == some []

def scalar? (cs : List Char) : Option Value :=
  if cs == ['t', 'r', 'u', 'e'] || cs == ['f', 'a', 'l', 's', 'e'] then some .boolean
  else if isMoment cs then some .moment
  else
    match integer? cs with
    | some n => some (.integer n)
    | none => if isFraction cs then some .float else none

end Agenda.Toml
