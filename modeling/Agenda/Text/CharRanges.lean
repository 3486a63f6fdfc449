/-! # Ranges of characters

Character classes are written as tables of code point ranges, both ends included.
-/

namespace Agenda.CharRanges

def covers (ranges : List (Nat × Nat)) (c : Char) : Bool :=
  ranges.any fun (first, last) => first ≤ c.toNat && c.toNat ≤ last

end Agenda.CharRanges
