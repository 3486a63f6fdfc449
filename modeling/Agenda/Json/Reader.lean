import Agenda.Json.Value
import Agenda.Text.Numeral

/-! # Reading JSON

A text is read one step at a time: each step opens a value, ends one, or goes on to the next inside
a container, and the containers still open are kept on a stack. So nesting may go to any depth.
Every step takes at least one character, which bounds their number.
-/

namespace Agenda.Json

def isBlank (c : Char) : Bool :=
  c == ' ' || c == '\n' || c == '\t' || c == '\r'

def skipBlanks (s : List Char) : List Char :=
  s.dropWhile isBlank

/-- The unit that four hexadecimal digits name. -/
def escapedCode? (a b c d : Char) : Option TextUnit := do
  let a ← Numeral.hexDigit? a
  let b ← Numeral.hexDigit? b
  let c ← Numeral.hexDigit? c
  let d ← Numeral.hexDigit? d
  return TextUnit.ofCode (Numeral.ofDigits 16 [a, b, c, d])

def escapedChar? : Char → Option Char
  | '"' => some '"'
  | '\\' => some '\\'
  | '/' => some '/'
  | 'b' => some '\x08'
  | 'f' => some '\x0c'
  | 'n' => some '\n'
  | 'r' => some '\r'
  | 't' => some '\t'
  | _ => none

/-- A text up to its closing quote, and what follows it. -/
def readText : List Char → Option (Text × List Char)
  | [] => none
  | '"' :: rest => some ([], rest)
  | '\\' :: 'u' :: a :: b :: c :: d :: rest => do
    let unit ← escapedCode? a b c d
    let (units, rest) ← readText rest
    return (unit :: units, rest)
  | '\\' :: letter :: rest => do
    let c ← escapedChar? letter
    let (units, rest) ← readText rest
    return (.char c :: units, rest)
  | c :: rest =>
    if c = '\\' ∨ c < ' ' then none
    else do
      let (units, rest) ← readText rest
      return (.char c :: units, rest)

/-- The digits that a text starts with, and what follows them. -/
def spanDigits (s : List Char) : List Char × List Char :=
  (s.takeWhile Char.isDigit, s.dropWhile Char.isDigit)

/-- Digits before the point: a zero alone, or digits that start with another one. -/
def readWhole (s : List Char) : Option (List Char × List Char) :=
  match spanDigits s with
  | ([], _) => none
  | (['0'], rest) => some (['0'], rest)
  | ('0' :: _, _) => none
  | (digits, rest) => some (digits, rest)

/-- A point and the digits after it, if there is one. -/
def readFraction : List Char → Option (List Char × List Char)
  | '.' :: rest =>
    match spanDigits rest with
    | ([], _) => none
    | (digits, rest) => some (digits, rest)
  | rest => some ([], rest)

/-- Whether a minus sign comes first, and what follows it. -/
def readMinus : List Char → Bool × List Char
  | '-' :: rest => (true, rest)
  | rest => (false, rest)

/-- The power of ten after the letter that introduces it. -/
def readPower (s : List Char) : Option (Int × List Char) :=
  let sign := Numeral.splitSign s
  let span := spanDigits sign.2
  (Numeral.natural? span.1).map fun n => (Numeral.withSign sign.1 n, span.2)

def readExponent : List Char → Option (Int × List Char)
  | 'e' :: rest => readPower rest
  | 'E' :: rest => readPower rest
  | rest => some (0, rest)

def readNumber (s : List Char) : Option (Number × List Char) := do
  let sign := readMinus s
  let (whole, rest) ← readWhole sign.2
  let (fraction, rest) ← readFraction rest
  let (exponent, rest) ← readExponent rest
  return (⟨sign.1, whole, fraction, exponent⟩, rest)

def readScalar : List Char → Option (Value × List Char)
  | 'n' :: 'u' :: 'l' :: 'l' :: rest => some (.null, rest)
  | 't' :: 'r' :: 'u' :: 'e' :: rest => some (.bool true, rest)
  | 'f' :: 'a' :: 'l' :: 's' :: 'e' :: rest => some (.bool false, rest)
  | '"' :: rest => (readText rest).map fun (text, rest) => (.text text, rest)
  | rest => (readNumber rest).map fun (number, rest) => (.number number, rest)

/-- The key of a member with the colon after it, and what follows. -/
def readKey : List Char → Option (Text × List Char)
  | '"' :: rest =>
    match readText rest with
    | some (key, rest) =>
      match skipBlanks rest with
      | ':' :: rest => some (key, rest)
      | _ => none
    | none => none
  | _ => none

/-- A container that is still open, with what it holds so far, last first. -/
inductive Frame
  | array (items : List Value)
  | object (members : List (Text × Value)) (key : Text)

/-- Whether a value is still to come or has just ended. -/
inductive Focus
  | wanted
  | ended (value : Value)

/-- Where reading stands: the open containers, innermost first, and the value at hand. -/
structure State where
  stack : List Frame
  focus : Focus

def openValue (stack : List Frame) : List Char → Option (State × List Char)
  | '[' :: rest =>
    match skipBlanks rest with
    | ']' :: rest => some (⟨stack, .ended (.array [])⟩, rest)
    | rest => some (⟨.array [] :: stack, .wanted⟩, rest)
  | '{' :: rest =>
    match skipBlanks rest with
    | '}' :: rest => some (⟨stack, .ended (.object [])⟩, rest)
    | rest => (readKey rest).map fun (key, rest) => (⟨.object [] key :: stack, .wanted⟩, rest)
  | rest => (readScalar rest).map fun (value, rest) => (⟨stack, .ended value⟩, rest)

/-- Put a value that has ended into the innermost container, which goes on or ends in turn. -/
def placeValue (value : Value) : List Frame → List Char → Option (State × List Char)
  | .array items :: stack, ',' :: rest => some (⟨.array (value :: items) :: stack, .wanted⟩, rest)
  | .array items :: stack, ']' :: rest =>
    some (⟨stack, .ended (.array (value :: items).reverse)⟩, rest)
  | .object members key :: stack, ',' :: rest =>
    (readKey (skipBlanks rest)).map fun (next, rest) =>
      (⟨.object ((key, value) :: members) next :: stack, .wanted⟩, rest)
  | .object members key :: stack, '}' :: rest =>
    some (⟨stack, .ended (.object ((key, value) :: members).reverse)⟩, rest)
  | _, _ => none

def State.step (state : State) (s : List Char) : Option (State × List Char) :=
  match state.focus with
  | .wanted => openValue state.stack s
  | .ended value => placeValue value state.stack s

theorem length_skipBlanks (s : List Char) : (skipBlanks s).length ≤ s.length :=
  (List.dropWhile_sublist _).length_le

theorem length_readText {s rest : List Char} {text : Text}
    (h : readText s = some (text, rest)) : rest.length < s.length := by
  fun_induction readText s generalizing text rest with
  | case1 => exact absurd h (by simp)
  | case2 => cases h; simp
  | case3 a b c d tail ih =>
    obtain ⟨unit, _, h⟩ := Option.bind_eq_some_iff.1 h
    obtain ⟨⟨units, after⟩, hr, h⟩ := Option.bind_eq_some_iff.1 h
    cases h
    have := ih hr
    simp only [List.length_cons]
    omega
  | case4 letter tail _ ih =>
    obtain ⟨c, _, h⟩ := Option.bind_eq_some_iff.1 h
    obtain ⟨⟨units, after⟩, hr, h⟩ := Option.bind_eq_some_iff.1 h
    cases h
    have := ih hr
    simp only [List.length_cons]
    omega
  | case5 => exact absurd h (by simp)
  | case6 c tail _ _ _ _ ih =>
    obtain ⟨⟨units, after⟩, hr, h⟩ := Option.bind_eq_some_iff.1 h
    cases h
    have := ih hr
    simp only [List.length_cons]
    omega

theorem length_spanDigits (s : List Char) : (spanDigits s).2.length ≤ s.length :=
  (List.dropWhile_sublist _).length_le

theorem length_spanDigits_of_ne_nil {s : List Char} (h : (spanDigits s).1 ≠ []) :
    (spanDigits s).2.length < s.length := by
  have happ : (spanDigits s).1 ++ (spanDigits s).2 = s := List.takeWhile_append_dropWhile
  have hlen := congrArg List.length happ
  have := List.length_pos_iff.2 h
  simp only [List.length_append] at hlen
  omega

theorem length_readMinus (s : List Char) : (readMinus s).2.length ≤ s.length := by
  unfold readMinus
  split <;> simp

theorem length_readWhole {s digits rest : List Char} (h : readWhole s = some (digits, rest)) :
    rest.length < s.length := by
  have hspan := length_spanDigits_of_ne_nil (s := s)
  unfold readWhole at h
  split at h
  · exact absurd h (by simp)
  · next hs =>
    rw [hs] at hspan
    cases h
    exact hspan (by simp)
  · exact absurd h (by simp)
  · next hnil _ _ hs =>
    rw [hs] at hspan
    cases h
    exact hspan hnil

theorem length_readFraction {s digits rest : List Char}
    (h : readFraction s = some (digits, rest)) : rest.length ≤ s.length := by
  unfold readFraction at h
  split at h
  · next tail =>
    have hspan := length_spanDigits tail
    split at h
    · exact absurd h (by simp)
    · next hs =>
      rw [hs] at hspan
      cases h
      exact Nat.le_succ_of_le hspan
  · cases h
    exact Nat.le_refl _

theorem length_readPower {s rest : List Char} {power : Int}
    (h : readPower s = some (power, rest)) : rest.length ≤ s.length := by
  obtain ⟨n, _, hr⟩ := Option.map_eq_some_iff.1 h
  cases hr
  exact Nat.le_trans (length_spanDigits _) (Numeral.length_splitSign s)

theorem length_readExponent {s rest : List Char} {power : Int}
    (h : readExponent s = some (power, rest)) : rest.length ≤ s.length := by
  unfold readExponent at h
  split at h
  · exact Nat.le_succ_of_le (length_readPower h)
  · exact Nat.le_succ_of_le (length_readPower h)
  · cases h
    exact Nat.le_refl _

theorem length_readNumber {s rest : List Char} {number : Number}
    (h : readNumber s = some (number, rest)) : rest.length < s.length := by
  obtain ⟨⟨whole, afterWhole⟩, hw, h⟩ := Option.bind_eq_some_iff.1 h
  obtain ⟨⟨fraction, afterFraction⟩, hf, h⟩ := Option.bind_eq_some_iff.1 h
  obtain ⟨⟨exponent, afterExponent⟩, he, h⟩ := Option.bind_eq_some_iff.1 h
  cases h
  have := length_readMinus s
  have := length_readWhole hw
  have := length_readFraction hf
  have := length_readExponent he
  omega

theorem length_readScalar {s rest : List Char} {value : Value}
    (h : readScalar s = some (value, rest)) : rest.length < s.length := by
  unfold readScalar at h
  split at h
  · cases h
    simp only [List.length_cons]
    omega
  · cases h
    simp only [List.length_cons]
    omega
  · cases h
    simp only [List.length_cons]
    omega
  · obtain ⟨⟨text, after⟩, ht, hr⟩ := Option.map_eq_some_iff.1 h
    cases hr
    exact Nat.lt_succ_of_lt (length_readText ht)
  · obtain ⟨⟨number, after⟩, hn, hr⟩ := Option.map_eq_some_iff.1 h
    cases hr
    exact length_readNumber hn

theorem length_readKey {s rest : List Char} {key : Text} (h : readKey s = some (key, rest)) :
    rest.length < s.length := by
  unfold readKey at h
  split at h
  · split at h
    · next afterKey hk =>
      have hlen := length_readText hk
      have hskip := length_skipBlanks afterKey
      split at h
      · next tail hs =>
        rw [hs] at hskip
        cases h
        simp only [List.length_cons] at hskip ⊢
        omega
      · exact absurd h (by simp)
    · exact absurd h (by simp)
  · exact absurd h (by simp)

theorem length_openValue {stack : List Frame} {s rest : List Char} {state : State}
    (h : openValue stack s = some (state, rest)) : rest.length < s.length := by
  unfold openValue at h
  split at h
  · next tail =>
    have hskip := length_skipBlanks tail
    split at h
    · next hs =>
      rw [hs] at hskip
      cases h
      simp only [List.length_cons] at hskip ⊢
      omega
    · cases h
      exact Nat.lt_succ_of_le hskip
  · next tail =>
    have hskip := length_skipBlanks tail
    split at h
    · next hs =>
      rw [hs] at hskip
      cases h
      simp only [List.length_cons] at hskip ⊢
      omega
    · obtain ⟨⟨key, after⟩, hk, hr⟩ := Option.map_eq_some_iff.1 h
      cases hr
      have := length_readKey hk
      simp only [List.length_cons]
      omega
  · obtain ⟨⟨value, after⟩, hv, hr⟩ := Option.map_eq_some_iff.1 h
    cases hr
    exact length_readScalar hv

theorem length_placeValue {value : Value} {stack : List Frame} {s rest : List Char}
    {state : State} (h : placeValue value stack s = some (state, rest)) :
    rest.length < s.length := by
  unfold placeValue at h
  split at h
  · cases h
    exact Nat.lt_succ_self _
  · cases h
    exact Nat.lt_succ_self _
  · next tail =>
    obtain ⟨⟨key, after⟩, hk, hr⟩ := Option.map_eq_some_iff.1 h
    cases hr
    have := length_readKey hk
    have := length_skipBlanks tail
    simp only [List.length_cons]
    omega
  · cases h
    exact Nat.lt_succ_self _
  · exact absurd h (by simp)

theorem length_step {state next : State} {s rest : List Char}
    (h : state.step s = some (next, rest)) : rest.length < s.length := by
  unfold State.step at h
  split at h
  · exact length_openValue h
  · exact length_placeValue h

/-- The value reached from a state. With no container open, nothing may follow a value. -/
def State.finish (state : State) (s : List Char) : Option Value :=
  match state, skipBlanks s with
  | ⟨[], .ended value⟩, [] => some value
  | state, _ =>
    match _ : state.step (skipBlanks s) with
    | some (next, rest) => next.finish rest
    | none => none
termination_by s.length
decreasing_by
  have := length_step ‹state.step (skipBlanks s) = some (next, rest)›
  have := length_skipBlanks s
  omega

/-- The value that a text is written for, with blanks around it. -/
def read (s : List Char) : Option Value :=
  (State.mk [] .wanted).finish s

end Agenda.Json
