import Agenda.Task.Basic
import Agenda.Text.LowerCase

/-! # Search queries

What a search looks for: the tasks due on one day, or those whose title or comment holds a text,
without regard to case.
-/

namespace Agenda

/-- What a search looks for. -/
inductive Query
  | onDate (date : Date)
  | text (text : String)
  deriving Repr, DecidableEq

/-- Whether a text occurs in another, all in one piece. -/
def occursIn (needle : List Char) : List Char → Bool
  | [] => needle.isEmpty
  | c :: rest => needle.isPrefixOf (c :: rest) || occursIn needle rest

namespace Query

/-- Read a query: a displayed date or else a text, without blanks around it. A blank one looks for
nothing in particular. -/
def ofText? (input : String) : Option Query :=
  match Blank.trim input.toList with
  | [] => none
  | trimmed =>
    match Date.ofDisplayText? (String.ofList trimmed) with
    | some date => some (onDate date)
    | none => some (text (String.ofList trimmed))

/-- Whether a task is one that the query looks for. -/
def «matches» (query : Query) (task : Task) : Bool :=
  match query with
  | onDate date => task.date == date.text
  | text needle =>
    let needle := LowerCase.lower needle.toList
    occursIn needle (LowerCase.lower task.title.toList) ||
      occursIn needle (LowerCase.lower task.comment.toList)

end Query

end Agenda
