/-! # JSON values

The values of the data format. A text is kept as its writer spelt it, unit by unit, since an escape
can name half of a surrogate pair; only a text whose halves all have their partner stands for
characters. A number is kept as the digits it was written with.
-/

namespace Agenda.Json

/-- One unit of a text: a character, or half of a surrogate pair with the ten bits it carries. -/
inductive TextUnit
  | char (c : Char)
  | high (bits : Fin 1024)
  | low (bits : Fin 1024)
  deriving Repr, DecidableEq

/-- A text, unit by unit. -/
abbrev Text := List TextUnit

namespace TextUnit

/-- The unit that four hexadecimal digits name. -/
def ofCode (code : Nat) : TextUnit :=
  if 0xD800 ≤ code ∧ code < 0xDC00 then high (Fin.ofNat 1024 (code - 0xD800))
  else if 0xDC00 ≤ code ∧ code < 0xE000 then low (Fin.ofNat 1024 (code - 0xDC00))
  else char (Char.ofNat code)

/-- The character that two halves make. -/
def pair (high low : Fin 1024) : Char :=
  Char.ofNat (0x10000 + 1024 * high.val + low.val)

end TextUnit

namespace Text

def ofChars (cs : List Char) : Text :=
  cs.map .char

/-- The characters of a text, unless half of a pair stands alone. -/
def chars? : Text → Option (List Char)
  | [] => some []
  | .char c :: rest => (chars? rest).map (c :: ·)
  | .high high :: .low low :: rest => (chars? rest).map (TextUnit.pair high low :: ·)
  | _ => none

def ofString (s : String) : Text :=
  ofChars s.toList

def string? (text : Text) : Option String :=
  text.chars?.map String.ofList

@[simp] theorem chars?_ofChars (cs : List Char) : (ofChars cs).chars? = some cs := by
  induction cs with
  | nil => rfl
  | cons c rest ih => simpa [ofChars, chars?] using ih

@[simp] theorem string?_ofString (s : String) : (ofString s).string? = some s := by
  simp [string?, ofString]

end Text

/-- A number as written: the digits before and after the point, and the power of ten. -/
structure Number where
  negative : Bool
  whole : List Char
  fraction : List Char
  exponent : Int
  deriving Repr, DecidableEq

/-- A JSON value. The members of an object keep their order and may repeat a key. -/
inductive Value
  | null
  | bool (value : Bool)
  | number (value : Number)
  | text (value : Text)
  | array (items : List Value)
  | object (members : List (Text × Value))
  deriving Repr

namespace Value

def string (s : String) : Value :=
  text (.ofString s)

def string? : Value → Option String
  | text value => value.string?
  | _ => none

@[simp] theorem string?_string (s : String) : (string s).string? = some s := by
  simp [string, string?]

end Value

end Agenda.Json
