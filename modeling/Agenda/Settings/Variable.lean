import Agenda.Text.Blank
import Agenda.Text.Fields
import Agenda.Text.Numeral

/-! # Settings in environment variables

A variable's text is read as a truth value, a number, a list or a table where it has the form of
one, and stands for itself otherwise.
-/

namespace Agenda

/-- A setting's value, as far as settings tell values apart. -/
inductive Setting
  | count (n : Nat)
  | text (value : String)
  /-- Any other kind of value, which no setting takes. -/
  | other
  deriving Repr, DecidableEq

namespace Setting

def isGap (c : Char) : Bool :=
  c == ' ' || c == '\t' || c == '\n' || c == '\x0c' || c == '\r'

def skipGap (s : List Char) : List Char :=
  s.dropWhile isGap

def isSeparator (c : Char) : Bool :=
  c == ',' || c == '\x7b' || c == '\x7d' || c == '[' || c == ']'

/-- Whether a text is nothing, or the power of ten of a number. -/
def isPower : List Char → Bool
  | [] => true
  | 'e' :: rest => (Numeral.integer? rest).isSome
  | 'E' :: rest => (Numeral.integer? rest).isSome
  | _ => false

/-- Whether a text is a number with a point. One side of the point may be empty. -/
def isFraction (cs : List Char) : Bool :=
  let cs := (Numeral.splitSign cs).2
  let whole := cs.takeWhile Char.isDigit
  match cs.dropWhile Char.isDigit with
  | '.' :: rest =>
    let places := rest.takeWhile Char.isDigit
    !(whole.isEmpty && places.isEmpty) && isPower (rest.dropWhile Char.isDigit)
  | _ => false

/-- The value of a text without quotes. Whole numbers have 64 bits; a longer one is a text. -/
def ofWord (cs : List Char) : Setting :=
  if isFraction cs then other
  else
    match Numeral.integer? cs with
    | some n =>
      if 0 ≤ n ∧ n < Numeral.wordBound then count n.toNat
      else if -Numeral.signedBound ≤ n ∧ n < 0 then other
      else text (String.ofList cs)
    | none => text (String.ofList cs)

/-- The rest of a text in quotes, and what follows it. -/
def readQuoted : List Char → Option (List Char × List Char)
  | '"' :: rest => some ([], rest)
  | '\\' :: c :: rest => (readQuoted rest).map fun (cs, rest) => (c :: cs, rest)
  | c :: rest => (readQuoted rest).map fun (cs, rest) => (c :: cs, rest)
  | [] => none

/-- What follows the key of a table and its equals sign. -/
def afterKey? (s : List Char) : Option (List Char) := do
  let rest ←
    match skipGap s with
    | '"' :: rest => (readQuoted rest).map (·.2)
    | s =>
      let inKey := fun c : Char => c.isAlphanum || c == '_' || c == '-'
      if (s.takeWhile inKey).isEmpty then none else some (s.dropWhile inKey)
  match skipGap rest with
  | '=' :: rest => return rest
  | _ => none

mutual

/-- A value with the blanks around it, and what follows. `steps` bounds the values looked at. -/
def read : (steps : Nat) → List Char → Option (Setting × List Char)
  | 0, _ => none
  | steps + 1, s => do
    let (value, rest) ←
      match skipGap s with
      | 't' :: 'r' :: 'u' :: 'e' :: rest => some (other, rest)
      | 'f' :: 'a' :: 'l' :: 's' :: 'e' :: rest => some (other, rest)
      | '\x7b' :: rest => (readMembers steps rest).map (other, ·)
      | '[' :: rest => (readItems steps rest).map (other, ·)
      | '"' :: rest => (readQuoted rest).map fun (cs, rest) => (text (String.ofList cs), rest)
      | '\'' :: c :: '\'' :: rest => some (text (String.ofList [c]), rest)
      | '\'' :: _ => none
      | s =>
        let word := Blank.trim (s.takeWhile fun c => !isSeparator c)
        some (ofWord word, s.dropWhile fun c => !isSeparator c)
    return (value, skipGap rest)

def readItems : (steps : Nat) → List Char → Option (List Char)
  | 0, _ => none
  | _ + 1, ']' :: rest => some rest
  | steps + 1, s => do
    let (_, rest) ← read steps s
    match rest with
    | ',' :: rest => readItems steps rest
    | ']' :: rest => return rest
    | _ => none

def readMembers : (steps : Nat) → List Char → Option (List Char)
  | 0, _ => none
  | _ + 1, '\x7d' :: rest => some rest
  | steps + 1, s => do
    let (_, rest) ← read steps (← afterKey? s)
    match rest with
    | ',' :: rest => readMembers steps rest
    | '\x7d' :: rest => return rest
    | _ => none

end

def ofVariable (value : String) : Setting :=
  let s := value.toList
  match read (2 * s.length + 2) s with
  | some (setting, []) => setting
  | _ => text value

end Setting

end Agenda
