import Agenda.Json.Value
import Agenda.Text.Numeral

/-! # Writing JSON

The compact text of a value. Within a text only quotes, backslashes and control characters are
escaped, the common control characters by a letter and the others by four hexadecimal digits.
-/

namespace Agenda.Json

def hexDigit (n : Nat) : Char :=
  if n < 10 then Char.ofNat ('0'.toNat + n) else Char.ofNat ('a'.toNat + (n - 10))

/-- The escape that names a unit of 16 bits. -/
def escapeCode (code : Nat) : List Char :=
  ['\\', 'u', hexDigit (code / 4096 % 16), hexDigit (code / 256 % 16), hexDigit (code / 16 % 16),
    hexDigit (code % 16)]

namespace TextUnit

def render : TextUnit → List Char
  | char '"' => ['\\', '"']
  | char '\\' => ['\\', '\\']
  | char '\x08' => ['\\', 'b']
  | char '\x0c' => ['\\', 'f']
  | char '\n' => ['\\', 'n']
  | char '\r' => ['\\', 'r']
  | char '\t' => ['\\', 't']
  | char c => if c < ' ' then escapeCode c.toNat else [c]
  | high bits => escapeCode (0xD800 + bits)
  | low bits => escapeCode (0xDC00 + bits)

end TextUnit

namespace Text

def render (text : Text) : List Char :=
  '"' :: text.flatMap TextUnit.render ++ ['"']

end Text

namespace Number

def render (n : Number) : List Char :=
  (if n.negative then ['-'] else []) ++ n.whole ++
    (if n.fraction.isEmpty then [] else '.' :: n.fraction) ++
    (if n.exponent = 0 then [] else 'e' :: Numeral.signed n.exponent)

end Number

namespace Value

mutual

def render : Value → List Char
  | null => ['n', 'u', 'l', 'l']
  | bool true => ['t', 'r', 'u', 'e']
  | bool false => ['f', 'a', 'l', 's', 'e']
  | number value => value.render
  | text value => value.render
  | array items => '[' :: renderItems items
  | object members => '{' :: renderMembers members

def renderItems : List Value → List Char
  | [] => [']']
  | [item] => item.render ++ [']']
  | item :: next :: rest => item.render ++ ',' :: renderItems (next :: rest)

def renderMembers : List (Text × Value) → List Char
  | [] => ['}']
  | [(key, value)] => key.render ++ ':' :: value.render ++ ['}']
  | (key, value) :: next :: rest =>
    key.render ++ ':' :: value.render ++ ',' :: renderMembers (next :: rest)

end

end Value

end Agenda.Json
