/-! # What can be wrong with a task

The causes for which a rule, a date or a task is refused, and the sentence that reports each.
-/

namespace Agenda

/-- The numeric parts of a repeat rule. -/
inductive RuleField
  | interval
  | weekday
  | monthDay
  | month
  deriving Repr, DecidableEq

namespace RuleField

/-- The part's name, with the values it may have. -/
def description : RuleField → String
  | interval => "day interval (1-400)"
  | weekday => "weekday (1-7)"
  | monthDay => "day of month (-2..31)"
  | month => "month (1-12)"

end RuleField

/-- Why a request about a task is refused. -/
inductive Error
  /-- The text is no stored date. -/
  | invalidDate (text : String)
  /-- The text has the form of no rule. -/
  | unsupportedRule (rule : String)
  /-- One number of a rule is missing or out of range. -/
  | invalidRuleValue (field : RuleField) (token : String)
  | missingTitle
  | missingId
  /-- A task's rule, or the date it starts from, gives no next date. -/
  | malformedRepeat (cause : Error)
  /-- No day of the calendar matches the rule. -/
  | noOccurrence (rule : String)
  /-- The next date lies past the end of the calendar. -/
  | dateOverflow
  deriving Repr, DecidableEq

namespace Error

def message : Error → String
  | invalidDate text => s!"invalid date: '{text}', expected format YYYYMMDD"
  | unsupportedRule rule => s!"unsupported repeat rule format: '{rule}'"
  | invalidRuleValue field token => s!"invalid {field.description} value: '{token}'"
  | missingTitle => "title is required"
  | missingId => "task identifier is required"
  | malformedRepeat cause => s!"repeat rule is malformed: {cause.message}"
  | noOccurrence rule => s!"no date matches repeat rule '{rule}'"
  | dateOverflow => "date arithmetic out of range"

/-- An answer, or the error that its absence means. -/
def whenNone {α : Type} (error : Error) : Option α → Except Error α
  | some value => .ok value
  | none => .error error

end Error

end Agenda
