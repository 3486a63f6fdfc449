/-! # Fields of a text

Cutting a text at every occurrence of a separator, and putting fields together with one between
each two.
-/

namespace Agenda.Fields

/-- The pieces of a text between its separators. There is always at least one. -/
def split (separator : Char) : List Char → List (List Char)
  | [] => [[]]
  | c :: rest =>
    if c = separator then
      [] :: split separator rest
    else
      match split separator rest with
      | [] => [[c]]
      | field :: fields => (c :: field) :: fields

/-- The fields, with the separator between each two. -/
def join (separator : Char) : List (List Char) → List Char
  | [] => []
  | [field] => field
  | field :: fields => field ++ separator :: join separator fields

@[simp] theorem split_ne_nil (separator : Char) (cs : List Char) :
    split separator cs ≠ [] := by
  cases cs with
  | nil => simp [split]
  | cons c rest =>
    simp only [split]
    split
    · simp
    · split <;> simp

@[simp] theorem join_split (separator : Char) (cs : List Char) :
    join separator (split separator cs) = cs := by
  induction cs with
  | nil => rfl
  | cons c rest ih =>
    simp only [split]
    split
    · next h =>
      match hs : split separator rest with
      | [] => exact absurd hs (split_ne_nil separator rest)
      | field :: fields => rw [hs] at ih; simp [join, ih, h]
    · match hs : split separator rest with
      | [] => exact absurd hs (split_ne_nil separator rest)
      | [field] => rw [hs] at ih; simpa [join] using ih
      | field :: next :: fields => rw [hs] at ih; simpa [join] using ih

end Agenda.Fields
