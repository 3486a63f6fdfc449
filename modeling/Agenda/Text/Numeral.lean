/-! # Numerals

Reading and writing whole numbers. Reading takes any number of leading zeros; writing gives the
shortest decimal numeral, or one filled up with zeros to a width.
-/

namespace Agenda.Numeral

/-- The bound below which whole numbers without a sign have 64 bits. -/
def wordBound : Nat := Nat.pow 2 64

/-- The bound between which and its opposite whole numbers with a sign have 64 bits. -/
def signedBound : Nat := Nat.pow 2 63

def digit? (c : Char) : Option Nat :=
  if '0' ≤ c ∧ c ≤ '9' then some (c.toNat - '0'.toNat) else none

def hexDigit? (c : Char) : Option Nat :=
  if '0' ≤ c ∧ c ≤ '9' then some (c.toNat - '0'.toNat)
  else if 'a' ≤ c ∧ c ≤ 'f' then some (c.toNat - 'a'.toNat + 10)
  else if 'A' ≤ c ∧ c ≤ 'F' then some (c.toNat - 'A'.toNat + 10)
  else none

/-- The number that digits stand for in a base, the first one counting most. -/
def ofDigits (base : Nat) (digits : List Nat) : Nat :=
  digits.foldl (fun n digit => base * n + digit) 0

/-- The number that one or more decimal digits stand for. -/
def natural? : List Char → Option Nat
  | [] => none
  | cs => (cs.mapM digit?).map (ofDigits 10)

/-- Whether a minus sign comes first, and what follows it or a plus sign. -/
def splitSign : List Char → Bool × List Char
  | '-' :: rest => (true, rest)
  | '+' :: rest => (false, rest)
  | rest => (false, rest)

def withSign (negative : Bool) (n : Nat) : Int :=
  if negative then -n else n

/-- The number that decimal digits after an optional sign stand for. -/
def integer? (cs : List Char) : Option Int :=
  let sign := splitSign cs
  (natural? sign.2).map (withSign sign.1)

def digitChar (n : Nat) : Char :=
  Char.ofNat ('0'.toNat + n)

def digits (n : Nat) : List Char :=
  if n < 10 then [digitChar n] else digits (n / 10) ++ [digitChar (n % 10)]

/-- The decimal numeral of a number, filled up with leading zeros to at least `width` digits. -/
def padded (width n : Nat) : List Char :=
  List.replicate (width - (digits n).length) '0' ++ digits n

/-- The shortest decimal numeral of an integer, with a minus sign below zero. -/
def signed (n : Int) : List Char :=
  if n < 0 then '-' :: digits n.natAbs else digits n.natAbs

theorem length_splitSign (cs : List Char) : (splitSign cs).2.length ≤ cs.length := by
  unfold splitSign
  split <;> simp

end Agenda.Numeral
