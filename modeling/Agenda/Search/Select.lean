import Agenda.Search.Query

/-! # Selecting tasks

The answer to a search: the tasks that the query looks for, in the order of their stored dates and
otherwise as they stood, up to a limit.
-/

namespace Agenda

/-- The bytes of a text. -/
def bytesOf (text : String) : List Nat :=
  text.toUTF8.toList.map UInt8.toNat

/-- Whether one sequence comes no later than another in dictionary order. -/
def notAfter : List Nat → List Nat → Bool
  | [], _ => true
  | _ :: _, [] => false
  | a :: restA, b :: restB => a < b || (a == b && notAfter restA restB)

namespace Task

/-- Whether a task's stored date comes no later, byte by byte, than another's. -/
def dueNotAfter (a b : Task) : Bool :=
  notAfter (bytesOf a.date) (bytesOf b.date)

end Task

/-- The number of tasks that a search shows unless told otherwise. -/
def defaultListLimit : Nat := 50

/-- The first `limit` tasks that the query looks for, by date. -/
def select (tasks : List Task) (query : Option Query) (limit : Nat) : List Task :=
  let found := tasks.filter fun task => query.all (·.matches task)
  (found.mergeSort Task.dueNotAfter).take limit

end Agenda
