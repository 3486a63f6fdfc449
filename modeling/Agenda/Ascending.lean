/-! # Strictly increasing lists

A set of numbers is kept as the strictly increasing list of its members, so that two lists with the
same members have one form.
-/

namespace Agenda

variable {α : Type} [LT α] [DecidableRel (α := α) (· < ·)]

/-- Put an element into a strictly increasing list, unless it is there already. -/
def insertOnce (x : α) : List α → List α
  | [] => [x]
  | y :: rest =>
    if x < y then x :: y :: rest
    else if y < x then y :: insertOnce x rest
    else y :: rest

/-- The strictly increasing list with the same elements. -/
def ascending (xs : List α) : List α :=
  xs.foldr insertOnce []

end Agenda
