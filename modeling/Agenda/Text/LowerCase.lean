import Agenda.Text.CaseTable
import Agenda.Text.CharRanges

/-! # Lower case

Full lower-casing, for comparing texts without regard to case. Two characters are special: the
capital I with dot becomes two characters, and a capital sigma becomes the final form at the end of
a word and the common one elsewhere.
-/

namespace Agenda.LowerCase

open CaseTable

/-- Whether a character is a letter with case. -/
def isCased (c : Char) : Bool :=
  CharRanges.covers casedRanges c

/-- Whether a character is passed over when a letter's neighbour is looked for. -/
def isIgnorable (c : Char) : Bool :=
  CharRanges.covers ignorableRanges c

/-- The lower-case form of a character that has one character for it, else the character. -/
def lowerChar (c : Char) : Char :=
  match lowerShifts.find? (·.covers c.toNat) with
  | some shift => Char.ofNat (c.toNat + shift.distance).toNat
  | none => c

/-- Whether the first character that is not passed over is a letter with case. -/
def nextIsCased (cs : List Char) : Bool :=
  match (cs.dropWhile isIgnorable).head? with
  | some c => isCased c
  | none => false

/-- The lower-case form of one character, between the characters before it, last one first, and
those after it. -/
def lowerBetween (before : List Char) (c : Char) (after : List Char) : List Char :=
  if c = 'Σ' then
    if nextIsCased before && !nextIsCased after then ['ς'] else ['σ']
  else if c = 'İ' then ['i', '\u0307']
  else [lowerChar c]

/-- The lower-case form of a text that follows the characters `before`, last one first. -/
def lowerAfter (before : List Char) : List Char → List Char
  | [] => []
  | c :: after => lowerBetween before c after ++ lowerAfter (c :: before) after

def lower (cs : List Char) : List Char :=
  lowerAfter [] cs

end Agenda.LowerCase
