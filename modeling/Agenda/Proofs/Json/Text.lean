import Mathlib.Tactic
import Agenda.Json.Printer
import Agenda.Json.Reader

/-! # Reading a written text

The reader of texts undoes every escape of the printer, so it reads any text back unit by unit,
halves of surrogate pairs included.
-/

namespace Agenda.Json

theorem hexDigit?_hexDigit {n : Nat} (h : n < 16) : Numeral.hexDigit? (hexDigit n) = some n := by
  revert n
  decide

theorem readText_escapeCode {code : Nat} (h : code < 65536) (s : List Char) :
    readText (escapeCode code ++ s) =
      (readText s).map fun (units, rest) => (TextUnit.ofCode code :: units, rest) := by
  have value : 16 * (16 * (16 * (16 * 0 + code / 4096 % 16) + code / 256 % 16) + code / 16 % 16) +
      code % 16 = code := by omega
  have unit : escapedCode? (hexDigit (code / 4096 % 16)) (hexDigit (code / 256 % 16))
      (hexDigit (code / 16 % 16)) (hexDigit (code % 16)) = some (TextUnit.ofCode code) := by
    have digit (n : Nat) : Numeral.hexDigit? (hexDigit (n % 16)) = some (n % 16) :=
      hexDigit?_hexDigit (Nat.mod_lt n (by decide))
    simp only [escapedCode?, digit, Numeral.ofDigits, List.foldl, value, Option.bind_eq_bind,
      Option.bind_some, pure]
  simp only [escapeCode, List.cons_append, List.nil_append, readText, unit, Option.bind_eq_bind,
    Option.bind_some]
  cases readText s with
  | none => rfl
  | some read => rfl

theorem TextUnit.ofCode_of_lt {c : Char} (h : c < ' ') : ofCode c.toNat = char c := by
  have small : c.toNat < 32 := h
  simp only [ofCode, show ¬(0xD800 ≤ c.toNat ∧ c.toNat < 0xDC00) by omega,
    show ¬(0xDC00 ≤ c.toNat ∧ c.toNat < 0xE000) by omega, if_false, Char.ofNat_toNat]

theorem TextUnit.ofCode_high (bits : Fin 1024) : ofCode (0xD800 + bits) = high bits := by
  have := bits.isLt
  rw [ofCode, if_pos (by omega), Nat.add_sub_cancel_left]
  simp

theorem TextUnit.ofCode_low (bits : Fin 1024) : ofCode (0xDC00 + bits) = low bits := by
  have := bits.isLt
  rw [ofCode, if_neg (by omega), if_pos (by omega), Nat.add_sub_cancel_left]
  simp

theorem readText_plain {c : Char} (quote : c ≠ '"') (backslash : c ≠ '\\') (h : ¬c < ' ')
    (s : List Char) :
    readText (c :: s) = (readText s).map fun (units, rest) => (.char c :: units, rest) := by
  rw [readText]
  · simp only [backslash, h, or_self, if_false]
    cases readText s with
    | none => rfl
    | some read => rfl
  all_goals simp [quote, backslash]

theorem readText_escape {letter c : Char} (h : escapedChar? letter = some c) (s : List Char) :
    readText ('\\' :: letter :: s) =
      (readText s).map fun (units, rest) => (.char c :: units, rest) := by
  have notCode : letter ≠ 'u' := by
    rintro rfl
    cases h
  rw [readText]
  · simp only [h, Option.bind_eq_bind, Option.bind_some]
    cases readText s with
    | none => rfl
    | some read => rfl
  · rintro a b c d tail rfl
    exact absurd rfl notCode

theorem readText_unit (unit : TextUnit) (s : List Char) :
    readText (unit.render ++ s) =
      (readText s).map fun (units, rest) => (unit :: units, rest) := by
  fun_cases TextUnit.render unit with
  | case1 | case2 | case3 | case4 | case5 | case6 | case7 => exact readText_escape rfl s
  | case8 c _ _ _ _ _ _ _ control =>
      have small : c.toNat < 32 := control
      rw [readText_escapeCode (by omega), TextUnit.ofCode_of_lt control]
  | case9 c quote backslash _ _ _ _ _ plain => exact readText_plain quote backslash plain s
  | case10 bits =>
      have := bits.isLt
      rw [readText_escapeCode (by omega), TextUnit.ofCode_high]
  | case11 bits =>
      have := bits.isLt
      rw [readText_escapeCode (by omega), TextUnit.ofCode_low]

theorem readText_render (text : Text) (rest : List Char) :
    readText (text.flatMap TextUnit.render ++ '"' :: rest) = some (text, rest) := by
  induction text with
  | nil => rfl
  | cons unit units ih =>
      rw [List.flatMap_cons, List.append_assoc, readText_unit, ih]
      rfl

end Agenda.Json
