import Mathlib.Data.List.TakeWhile
import Mathlib.Tactic
import Agenda.Proofs.Text.Fields
import Agenda.Proofs.Text.Numeral
import Agenda.Toml.Document

/-! # Numbers in a settings file

A document of one line that gives a number to a key without quotes is read as this number.
-/

namespace Agenda.Numeral

theorem head?_digits {n : Nat} (pos : 0 < n) : (digits n).head? ≠ some '0' := by
  induction n using Nat.strongRecOn with
  | ind n ih =>
    by_cases small : n < 10
    · rw [digits_of_lt small]
      interval_cases n <;> decide
    · have large := Nat.le_of_not_lt small
      rw [digits_of_le large, List.head?_append_of_ne_nil _ (decimal_digits _).ne_nil]
      exact ih (n / 10) (by omega) (by omega)

end Agenda.Numeral

namespace Agenda.Toml

open Numeral (Decimal digits signedBound)

variable {n : Nat} {c : Char} {cs s : List Char}

theorem ungroup?_of_decimal (h : Decimal cs n) : ungroup? Char.isDigit cs = some cs := by
  have isDigit := (Numeral.decimal_iff.mp h).2.1
  have whole : '_' ∉ cs := fun member => absurd (isDigit _ member) (by decide)
  rw [ungroup?, Fields.split_of_notMem whole]
  simpa [h.ne_nil] using isDigit

theorem wholeDigits?_digits (n : Nat) : wholeDigits? (digits n) = some (digits n) := by
  rw [wholeDigits?, ungroup?_of_decimal (Numeral.decimal_digits n)]
  rcases Nat.eq_zero_or_pos n with rfl | pos
  · rw [Numeral.digits_of_lt (by decide)]
    rfl
  · have head := Numeral.head?_digits pos
    obtain ⟨first, rest, whole⟩ := List.exists_cons_of_ne_nil (Numeral.decimal_digits n).ne_nil
    rw [whole, List.head?_cons, ne_eq, Option.some_inj] at head
    simp [whole, head]

theorem notMem_of_decimal (h : Decimal cs n) (noDigit : c.isDigit = false) : c ∉ cs := by
  intro member
  rw [(Numeral.decimal_iff.mp h).2.1 c member] at noDigit
  cases noDigit

theorem afterDate?_of_decimal (h : Decimal cs n) : afterDate? cs = none := by
  have noDash := notMem_of_decimal h (c := '-') rfl
  unfold afterDate?
  split
  · simp at noDash
  · rfl

theorem afterTime?_of_decimal (h : Decimal cs n) : afterTime? cs = none := by
  have noColon := notMem_of_decimal h (c := ':') rfl
  unfold afterTime?
  split
  · simp at noColon
  · rfl

theorem integer?_digits (small : n < signedBound) : integer? (digits n) = some (n : Int) := by
  have isDecimal := Numeral.decimal_digits n
  have noLetter {letter : Char} (foreign : letter.isDigit = false) (first : Char)
      (rest : List Char) : digits n ≠ first :: letter :: rest := by
    intro whole
    apply notMem_of_decimal isDecimal foreign
    simp [whole]
  have read : (wholeDigits? (digits n)).bind Numeral.natural? = some n := by
    rw [wholeDigits?_digits, Option.bind_some, Numeral.natural?_of_decimal isDecimal]
  have range : -(signedBound : Int) ≤ n ∧ (n : Int) < signedBound := by omega
  unfold integer?
  split
  · next whole => exact absurd whole (noLetter rfl _ _)
  · next whole => exact absurd whole (noLetter rfl _ _)
  · next whole => exact absurd whole (noLetter rfl _ _)
  · rw [Numeral.splitSign_of_decimal isDecimal]
    exact Option.bind_eq_some_iff.mpr ⟨n, congrArg (Option.map _) read, if_pos range⟩

theorem scalar?_digits (small : n < signedBound) : scalar? (digits n) = some (.integer n) := by
  have isDecimal := Numeral.decimal_digits n
  have noWord {d : Char} (foreign : d.isDigit = false) (rest : List Char) :
      digits n ≠ d :: rest := by
    intro whole
    apply notMem_of_decimal isDecimal foreign
    simp [whole]
  have noMoment : isMoment (digits n) = false := by
    rw [isMoment, afterDate?_of_decimal isDecimal, afterTime?_of_decimal isDecimal]
    rfl
  simp [scalar?, noWord (d := 't') rfl, noWord (d := 'f') rfl, noMoment, integer?_digits small]

theorem ne_of_isKeyChar {d : Char} (isKeyChar : isKeyChar c = true)
    (other : Toml.isKeyChar d = false) : c ≠ d := by
  rintro rfl
  rw [isKeyChar] at other
  cases other

theorem skipSpaces_cons (h : isKeyChar c = true) : skipSpaces (c :: s) = c :: s := by
  have noSpace := ne_of_isKeyChar h (d := ' ') rfl
  have noTab := ne_of_isKeyChar h (d := '\t') rfl
  rw [skipSpaces, List.dropWhile_cons_of_neg (by simp [noSpace, noTab])]

theorem skipComment_cons (h : isKeyChar c = true) : skipComment (c :: s) = c :: s := by
  have noMark := ne_of_isKeyChar h (d := '#') rfl
  simp [skipComment, noMark]

theorem afterBreak?_cons (h : isKeyChar c = true) : afterBreak? (c :: s) = none := by
  have noFeed := ne_of_isKeyChar h (d := '\n') rfl
  have noReturn := ne_of_isKeyChar h (d := '\r') rfl
  simp [afterBreak?, noFeed, noReturn]

theorem skipGap_cons (h : isKeyChar c = true) (limit : Nat) : skipGap limit (c :: s) = c :: s := by
  cases limit with
  | zero => rfl
  | succ limit => simp [skipGap, skipSpaces_cons h, skipComment_cons h, afterBreak?_cons h]

theorem readKeyPart_append (isKey : ∀ d ∈ c :: cs, isKeyChar d = true) (s : List Char) :
    readKeyPart (c :: cs ++ ' ' :: s) = some (String.ofList (c :: cs), ' ' :: s) := by
  have start := isKey c List.mem_cons_self
  have part : (c :: cs ++ ' ' :: s).takeWhile isKeyChar = c :: cs := by
    rw [List.takeWhile_append_of_pos isKey, List.takeWhile_cons_of_neg (by decide), List.append_nil]
  have rest : (c :: cs ++ ' ' :: s).dropWhile isKeyChar = ' ' :: s := by
    rw [List.dropWhile_append_of_pos isKey, List.dropWhile_cons_of_neg (by decide)]
  unfold readKeyPart
  split
  · next whole => exact absurd (List.cons.inj whole).1 (ne_of_isKeyChar start rfl)
  · next whole => exact absurd (List.cons.inj whole).1 (ne_of_isKeyChar start rfl)
  · rw [part, rest]

theorem readValue_digit {d : Nat} (lt : d < 10) (steps depth : Nat) (rest : List Char) :
    readValue (steps + 1) depth (Numeral.digitChar d :: rest) =
      readScalar (Numeral.digitChar d :: rest) := by
  interval_cases d <;> (rw [readValue.eq_def]; rfl)

theorem readValue_digits (small : n < signedBound) (steps depth : Nat) (rest : List Char) :
    readValue (steps + 1) depth (digits n ++ '\n' :: rest) = some (.integer n, '\n' :: rest) := by
  have isDecimal := Numeral.decimal_digits n
  have inScalar : ∀ c ∈ digits n, isScalarChar c = true := by
    intro c member
    simp [isScalarChar, Char.isAlphanum, (Numeral.decimal_iff.mp isDecimal).2.1 c member]
  have token : (digits n ++ '\n' :: rest).takeWhile isScalarChar = digits n := by
    rw [List.takeWhile_append_of_pos inScalar, List.takeWhile_cons_of_neg (by decide),
      List.append_nil]
  have after : (digits n ++ '\n' :: rest).dropWhile isScalarChar = '\n' :: rest := by
    rw [List.dropWhile_append_of_pos inScalar, List.dropWhile_cons_of_neg (by decide)]
  have scalar : readScalar (digits n ++ '\n' :: rest) = some (.integer n, '\n' :: rest) := by
    rw [readScalar, token, after, afterDate?_of_decimal isDecimal, scalar?_digits small]
    rfl
  obtain ⟨first, later, whole⟩ := List.exists_cons_of_ne_nil isDecimal.ne_nil
  have isDigit := (Numeral.decimal_iff.mp isDecimal).2.1 first (by simp [whole])
  obtain ⟨d, lt, rfl⟩ := Numeral.exists_digitChar isDigit
  rw [whole, List.cons_append] at scalar ⊢
  rw [readValue_digit lt, scalar]

def numberLine (key : String) (n : Nat) : String :=
  key ++ " = " ++ String.ofList (digits n) ++ "\n"

def numberChars (key : List Char) (n : Nat) : List Char :=
  key ++ ' ' :: '=' :: ' ' :: (digits n ++ ['\n'])

theorem toList_numberLine (key : String) (n : Nat) :
    (numberLine key n).toList = numberChars key.toList n := by
  have sign : " = ".toList = [' ', '=', ' '] := by rfl
  have feed : "\n".toList = ['\n'] := by rfl
  simp only [numberLine, numberChars, String.toList_append, String.toList_ofList, sign, feed,
    List.append_assoc, List.cons_append, List.nil_append]

theorem readKey_numberChars (isKey : ∀ d ∈ c :: cs, isKeyChar d = true) :
    readKey depthLimit (numberChars (c :: cs) n) =
      some ([String.ofList (c :: cs)], '=' :: ' ' :: (digits n ++ ['\n'])) := by
  rw [numberChars, depthLimit, readKey, List.cons_append,
    skipSpaces_cons (isKey c List.mem_cons_self), ← List.cons_append, readKeyPart_append isKey]
  rfl

theorem skipSpaces_digits (n : Nat) (s : List Char) :
    skipSpaces (' ' :: (digits n ++ s)) = digits n ++ s := by
  have isDecimal := Numeral.decimal_digits n
  obtain ⟨first, rest, whole⟩ := List.exists_cons_of_ne_nil isDecimal.ne_nil
  have isDigit := (Numeral.decimal_iff.mp isDecimal).2.1 first (by simp [whole])
  rw [whole, List.cons_append, skipSpaces, List.dropWhile_cons_of_pos (by decide), ← skipSpaces]
  exact skipSpaces_cons (by simp [isKeyChar, Char.isAlphanum, isDigit])

theorem readLine_numberChars (isKey : ∀ d ∈ c :: cs, isKeyChar d = true) (small : n < signedBound) :
    readLine (numberChars (c :: cs) n) =
      some (.pair [String.ofList (c :: cs)] (.integer n), []) := by
  have start := isKey c List.mem_cons_self
  unfold readLine
  split
  · next whole => exact absurd (List.cons.inj whole).1 (ne_of_isKeyChar start rfl)
  · next whole => exact absurd (List.cons.inj whole).1 (ne_of_isKeyChar start rfl)
  · rw [readKey_numberChars isKey]
    simp only [Option.bind_eq_bind, Option.bind_some, skipSpaces_digits, readValue_digits small]
    rfl

theorem readLines_numberChars (isKey : ∀ d ∈ c :: cs, isKeyChar d = true) (small : n < signedBound)
    (limit : Nat) :
    readLines (limit + 1) (numberChars (c :: cs) n) =
      some [.pair [String.ofList (c :: cs)] (.integer n)] := by
  have start : skipGap (numberChars (c :: cs) n).length (numberChars (c :: cs) n) =
      numberChars (c :: cs) n := skipGap_cons (isKey c List.mem_cons_self) _
  have rest : readLines limit [] = some [] := by
    cases limit <;> rfl
  unfold readLines
  rw [start]
  split
  · next empty => cases empty
  · rw [readLine_numberChars isKey small]
    simp only [Option.bind_eq_bind, Option.bind_some, rest]
    rfl

/-- A document of one line that gives a number to a key is read as this number. -/
theorem read_numberLine {key : String} (isKey : ∀ d ∈ key.toList, isKeyChar d = true)
    (nonempty : key ≠ "") (small : n < signedBound) :
    read (numberLine key n) = some [(key, .integer n)] := by
  obtain ⟨c, cs, whole⟩ := List.exists_cons_of_ne_nil (String.toList_eq_nil_iff.not.mpr nonempty)
  rw [whole] at isKey
  have noMark : skipMark (numberChars (c :: cs) n) = numberChars (c :: cs) n := by
    unfold skipMark
    split
    · next marked =>
      exact absurd (List.cons.inj marked).1 (ne_of_isKeyChar (isKey c List.mem_cons_self) rfl)
    · rfl
  have lines : readLines (numberChars (c :: cs) n).length (numberChars (c :: cs) n) =
      some [.pair [String.ofList (c :: cs)] (.integer n)] := readLines_numberChars isKey small _
  rw [read, toList_numberLine, whole, noMark, lines, ← whole, String.ofList_toList]
  rfl

end Agenda.Toml
