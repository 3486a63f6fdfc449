import Agenda.Double
import Agenda.Json.Value
import Agenda.Text.Numeral

/-! # Numbers within range

A number that is read for its value has to fit a double. Its digits go into a significand of 64
bits as long as they fit; digits that no longer fit only count for the power of ten. Significand and
power of ten are each rounded to 53 bits, and so is their product, which must be finite.
-/

namespace Agenda.Json

namespace Number

/-- A significand of 64 bits with its power of ten. -/
structure Scaled where
  significand : Nat
  exponent : Int

namespace Scaled

/-- Whether one more digit fits the significand. -/
def Fits (n : Scaled) (digit : Nat) : Prop :=
  10 * n.significand + digit < Numeral.wordBound

instance (n : Scaled) (digit : Nat) : Decidable (n.Fits digit) :=
  inferInstanceAs (Decidable (_ < _))

/-- Digits before the point. From the first that does not fit on, each counts as a power of ten. -/
def pushWhole (n : Scaled) : List Nat → Scaled
  | [] => n
  | digit :: rest =>
    if n.Fits digit then pushWhole { n with significand := 10 * n.significand + digit } rest
    else { n with exponent := n.exponent + (rest.length + 1) }

/-- Digits after the point. From the first that does not fit on, all are dropped. -/
def pushFraction (n : Scaled) : List Nat → Scaled
  | [] => n
  | digit :: rest =>
    if n.Fits digit then
      pushFraction ⟨10 * n.significand + digit, n.exponent - 1⟩ rest
    else n

def IsFinite (n : Scaled) : Prop :=
  n.significand = 0 ∨ n.exponent ≤ 0 ∨ (n.exponent ≤ 308 ∧
    Double.nearest n.significand * Double.nearest (Nat.pow 10 n.exponent.toNat) <
      Double.infinityBound)

instance (n : Scaled) : Decidable n.IsFinite :=
  inferInstanceAs (Decidable (_ ∨ _ ∨ _))

end Scaled

/-- Significand and power of ten of a number. -/
def scaled (n : Number) : Scaled :=
  let read := ((⟨0, 0⟩ : Scaled).pushWhole (n.whole.filterMap Numeral.digit?)).pushFraction
    (n.fraction.filterMap Numeral.digit?)
  { read with exponent := read.exponent + n.exponent }

def isFinite (n : Number) : Bool :=
  decide n.scaled.IsFinite

end Number

end Agenda.Json
