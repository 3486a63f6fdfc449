/-! # The range of doubles

Doubles have 53 significant bits and end where the next power of two would need more than 1024. The
numbers here are whole, so rounding and the question of range are exact.
-/

namespace Agenda.Double

/-- The nearest number with at most 53 significant bits; halfway, the even one. -/
def nearest (n : Nat) : Nat :=
  let unit := Nat.pow 2 (n.log2 + 1 - 53)
  let down := n / unit
  let rest := 2 * (n % unit)
  if rest > unit ∨ (rest = unit ∧ down % 2 = 1) then (down + 1) * unit else down * unit

/-- The least number that rounds to infinity: halfway between the greatest double and the next
power of two. -/
def infinityBound : Nat := Nat.pow 2 1024 - Nat.pow 2 970

end Agenda.Double
