import Agenda.Rule.Basic

/-! # Reading repeat rules

A rule is written as one letter and its numbers: nothing at all for a task that does not come
back, `d 7` for every seven days, `y` for every year, `w 1,4` for Mondays and Thursdays, `m 1,-1`
for the first and last day of each month and `m 15 1,7` for the middle of January and July. The
first number that is missing or out of range is named in the refusal.
-/

namespace Agenda.Rule

def readValue (field : RuleField) (token : List Char) : Except Error Int :=
  match Numeral.integer? token with
  | some value =>
    if field.Allows value then .ok value
    else .error (.invalidRuleValue field (String.ofList token))
  | none => .error (.invalidRuleValue field (String.ofList token))

def readValues (field : RuleField) : List (List Char) → Except Error (List Int)
  | [] => .ok []
  | token :: rest => do
    let value ← readValue field token
    let values ← readValues field rest
    return value :: values

/-- A list of numbers with commas between them, as the set of its values. -/
def readList (field : RuleField) (list : List Char) : Except Error (List Int) := do
  let values ← readValues field (Fields.split ',' list)
  return ascending values

def ofText (text : String) : Except Error Rule :=
  match text.toList with
  | [] => .ok once
  | ['y'] => .ok yearly
  | 'd' :: ' ' :: number => do
    let n ← readValue .interval number
    return everyDays n.toNat
  | 'w' :: ' ' :: list => do
    let days ← readList .weekday list
    return weekly (days.map Int.toNat)
  | 'm' :: ' ' :: lists =>
    match Fields.split ' ' lists with
    | [] => .error (.unsupportedRule text)
    | [dayList] => do
      let days ← readList .monthDay dayList
      return monthly days []
    | dayList :: monthList :: more => do
      let days ← readList .monthDay dayList
      let months ← readList .month monthList
      if more.isEmpty then
        return monthly days (months.map Int.toNat)
      else
        throw (.unsupportedRule text)
  | _ => .error (.unsupportedRule text)

end Agenda.Rule
