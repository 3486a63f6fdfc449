import Agenda.Text.CharRanges

/-! # Blank characters

The characters with the property White_Space, and texts without them at either end.
-/

namespace Agenda.Blank

def ranges : List (Nat × Nat) :=
  [(0x9, 0xD), (0x20, 0x20), (0x85, 0x85), (0xA0, 0xA0), (0x1680, 0x1680), (0x2000, 0x200A),
   (0x2028, 0x2029), (0x202F, 0x202F), (0x205F, 0x205F), (0x3000, 0x3000)]

def isBlank (c : Char) : Bool :=
  CharRanges.covers ranges c

def trimStart (cs : List Char) : List Char :=
  cs.dropWhile isBlank

def trim (cs : List Char) : List Char :=
  (trimStart (trimStart cs).reverse).reverse

def isBlankText (text : String) : Bool :=
  text.toList.all isBlank

end Agenda.Blank
