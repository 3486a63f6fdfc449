import Agenda.Ascending
import Agenda.Error
import Agenda.Text.Numeral
import Agenda.Text.Fields

/-! # Repeat rules

When a task comes back. A rule may be built with any numbers; `Rule.validated` keeps those within
range and brings their lists into the one form that stands for their set of values. `Rule.text` is
the canonical text of a rule.
-/

namespace Agenda

/-- When a task comes back. In a monthly rule the day -1 is the last day of a month and -2 the day
before it, and an empty list of months stands for all of them. -/
inductive Rule
  /-- It does not come back. -/
  | once
  /-- Every `n` days. -/
  | everyDays (n : Nat)
  /-- Every year on the same day. -/
  | yearly
  /-- On these weekdays, from Monday = 1 to Sunday = 7. -/
  | weekly (days : List Nat)
  /-- On these days of these months. -/
  | monthly (days : List Int) (months : List Nat)
  deriving Repr, DecidableEq

namespace RuleField

/-- The values that a part of a rule may have. -/
def Allows (field : RuleField) (value : Int) : Prop :=
  match field with
  | interval => 1 ≤ value ∧ value ≤ 400
  | weekday => 1 ≤ value ∧ value ≤ 7
  | monthDay => -2 ≤ value ∧ value ≤ 31
  | month => 1 ≤ value ∧ value ≤ 12

instance (field : RuleField) (value : Int) : Decidable (field.Allows value) := by
  cases field <;> exact inferInstanceAs (Decidable (_ ∧ _))

/-- Refuse the first value that is out of range, written as a numeral. -/
def check (field : RuleField) : List Int → Except Error Unit
  | [] => .ok ()
  | value :: rest =>
    if field.Allows value then field.check rest
    else .error (.invalidRuleValue field (String.ofList (Numeral.signed value)))

end RuleField

namespace Rule

/-- Whether a task with this rule comes back. -/
def isRecurring : Rule → Bool
  | once => false
  | _ => true

/-- The rule with every number within range, and its lists strictly increasing. -/
def validated : Rule → Except Error Rule
  | once => .ok once
  | yearly => .ok yearly
  | everyDays n => do
    RuleField.interval.check [(n : Int)]
    return everyDays n
  | weekly days => do
    RuleField.weekday.check (days.map Int.ofNat)
    return weekly (ascending days)
  | monthly days months => do
    RuleField.monthDay.check days
    RuleField.month.check (months.map Int.ofNat)
    return monthly (ascending days) (ascending months)

def listText (values : List Int) : List Char :=
  Fields.join ',' (values.map Numeral.signed)

def text : Rule → String
  | once => ""
  | everyDays n => String.ofList ('d' :: ' ' :: Numeral.digits n)
  | yearly => "y"
  | weekly days => String.ofList ('w' :: ' ' :: listText (days.map Int.ofNat))
  | monthly days [] => String.ofList ('m' :: ' ' :: listText days)
  | monthly days months =>
    String.ofList ('m' :: ' ' :: listText days ++ ' ' :: listText (months.map Int.ofNat))

end Rule

end Agenda
