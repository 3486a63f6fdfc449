import Agenda.Toml.Scalar

/-! # Quoted TOML texts

Texts between quotes: double ones with escapes or single ones without, on one line or, with three
quotes on either side, on several.
-/

namespace Agenda.Toml

/-- Whether a character may stand in a text or comment as it is. -/
def isPlain (c : Char) : Bool :=
  c == '\t' || (' ' ≤ c && c != '\x7f')

def skipSpaces (s : List Char) : List Char :=
  s.dropWhile fun c => c == ' ' || c == '\t'

/-- The character with a number, unless the number belongs to none. -/
def charOf? (digits : List Char) : Option Char := do
  let values ← digits.mapM Numeral.hexDigit?
  let code := Numeral.ofDigits 16 values
  if code.isValidChar then some (Char.ofNat code) else none

def escaped? : Char → Option Char
  | 'b' => some '\x08'
  | 't' => some '\t'
  | 'n' => some '\n'
  | 'f' => some '\x0c'
  | 'r' => some '\r'
  | '"' => some '"'
  | '\\' => some '\\'
  | _ => none

/-- The character that an escape names, and what follows it. -/
def readEscape : List Char → Option (Char × List Char)
  | 'u' :: a :: b :: c :: d :: rest => (charOf? [a, b, c, d]).map (·, rest)
  | 'U' :: a :: b :: c :: d :: e :: f :: g :: h :: rest =>
    (charOf? [a, b, c, d, e, f, g, h]).map (·, rest)
  | letter :: rest => (escaped? letter).map (·, rest)
  | [] => none

theorem length_readEscape {s rest : List Char} {c : Char} (h : readEscape s = some (c, rest)) :
    rest.length < s.length := by
  unfold readEscape at h
  split at h
  · obtain ⟨_, _, hr⟩ := Option.map_eq_some_iff.1 h
    cases hr
    simp only [List.length_cons]
    omega
  · obtain ⟨_, _, hr⟩ := Option.map_eq_some_iff.1 h
    cases hr
    simp only [List.length_cons]
    omega
  · obtain ⟨_, _, hr⟩ := Option.map_eq_some_iff.1 h
    cases hr
    exact Nat.lt_succ_self _
  · exact absurd h (by simp)

/-- The rest of a text in double quotes on one line, and what follows it. -/
def readBasic (s : List Char) : Option (List Char × List Char) :=
  match s with
  | '"' :: rest => some ([], rest)
  | '\\' :: rest =>
    match _ : readEscape rest with
    | some (c, rest) => (readBasic rest).map fun (cs, rest) => (c :: cs, rest)
    | none => none
  | c :: rest => if isPlain c then (readBasic rest).map fun (cs, rest) => (c :: cs, rest) else none
  | [] => none
termination_by s.length
decreasing_by
  · have := length_readEscape ‹readEscape _ = some (c, rest)›
    simp only [List.length_cons]
    omega
  · simp

/-- The rest of a text in single quotes on one line, and what follows it. -/
def readLiteral : List Char → Option (List Char × List Char)
  | '\'' :: rest => some ([], rest)
  | c :: rest =>
    if isPlain c then (readLiteral rest).map fun (cs, rest) => (c :: cs, rest) else none
  | [] => none

/-- Closing quotes of a text on several lines, with the quotes of the text right before them, and
what follows. -/
def closeLong? (quote : Char) : List Char → Option (List Char × List Char)
  | a :: b :: c :: rest =>
    if a = quote ∧ b = quote ∧ c = quote then
      match rest with
      | d :: e :: rest' =>
        if d = quote ∧ e = quote then some ([quote, quote], rest')
        else if d = quote then some ([quote], e :: rest')
        else some ([], rest)
      | [d] => if d = quote then some ([quote], []) else some ([], rest)
      | [] => some ([], [])
    else none
  | _ => none

def afterBreak? : List Char → Option (List Char)
  | '\n' :: rest => some rest
  | '\r' :: '\n' :: rest => some rest
  | _ => none

theorem length_afterBreak? {s rest : List Char} (h : afterBreak? s = some rest) :
    rest.length < s.length := by
  unfold afterBreak? at h
  split at h
  · cases h
    exact Nat.lt_succ_self _
  · cases h
    simp only [List.length_cons]
    omega
  · exact absurd h (by simp)

/-- The next character of a text on several lines, if it is one that may stand there as it is, and
what follows. Every line break counts as a line feed. -/
def readPlain : List Char → Option (Char × List Char)
  | [] => none
  | c :: rest =>
    match afterBreak? (c :: rest) with
    | some rest => some ('\n', rest)
    | none => if isPlain c then some (c, rest) else none

theorem length_readPlain {s rest : List Char} {c : Char} (h : readPlain s = some (c, rest)) :
    rest.length < s.length := by
  unfold readPlain at h
  split at h
  · exact absurd h (by simp)
  · split at h
    · next hb => cases h; exact length_afterBreak? hb
    · split at h
      · cases h
        exact Nat.lt_succ_self _
      · exact absurd h (by simp)

/-- What follows a backslash at the end of a line: the line break and all blanks after it are left
out. -/
def afterFold? (s : List Char) : Option (List Char) :=
  (afterBreak? (skipSpaces s)).map (·.dropWhile fun c => c.isWhitespace)

/-- The next character of a text in double quotes on several lines, if there is one before what
follows it. -/
def readLongUnit : List Char → Option (Option Char × List Char)
  | '\\' :: rest =>
    match afterFold? rest with
    | some rest => some (none, rest)
    | none => (readEscape rest).map fun (c, rest) => (some c, rest)
  | s => (readPlain s).map fun (c, rest) => (some c, rest)

theorem length_readLongUnit {s rest : List Char} {c : Option Char}
    (h : readLongUnit s = some (c, rest)) : rest.length < s.length := by
  unfold readLongUnit at h
  split at h
  · next tail =>
    split at h
    · next hf =>
      cases h
      obtain ⟨mid, hm, rfl⟩ := Option.map_eq_some_iff.1 hf
      have := length_afterBreak? hm
      have := (List.dropWhile_sublist (l := tail) fun c => c == ' ' || c == '\t').length_le
      have := (List.dropWhile_sublist (l := mid) fun c => c.isWhitespace).length_le
      unfold skipSpaces at *
      simp only [List.length_cons]
      omega
    · obtain ⟨⟨_, _⟩, he, hr⟩ := Option.map_eq_some_iff.1 h
      cases hr
      exact Nat.lt_succ_of_lt (length_readEscape he)
  · obtain ⟨⟨_, _⟩, hp, hr⟩ := Option.map_eq_some_iff.1 h
    cases hr
    exact length_readPlain hp

/-- The rest of a text in double quotes on several lines, and what follows it. -/
def readLongBasic (s : List Char) : Option (List Char × List Char) :=
  match closeLong? '"' s with
  | some closed => some closed
  | none =>
    match _ : readLongUnit s with
    | some (c, rest) => (readLongBasic rest).map fun (cs, rest) => (c.toList ++ cs, rest)
    | none => none
termination_by s.length
decreasing_by exact length_readLongUnit ‹readLongUnit s = some (c, rest)›

/-- The rest of a text in single quotes on several lines, and what follows it. -/
def readLongLiteral (s : List Char) : Option (List Char × List Char) :=
  match closeLong? '\'' s with
  | some closed => some closed
  | none =>
    match _ : readPlain s with
    | some (c, rest) => (readLongLiteral rest).map fun (cs, rest) => (c :: cs, rest)
    | none => none
termination_by s.length
decreasing_by exact length_readPlain ‹readPlain s = some (c, rest)›

def skipBreak (s : List Char) : List Char :=
  (afterBreak? s).getD s

def readQuoted : List Char → Option (List Char × List Char)
  | '"' :: '"' :: '"' :: rest => readLongBasic (skipBreak rest)
  | '\'' :: '\'' :: '\'' :: rest => readLongLiteral (skipBreak rest)
  | '"' :: rest => readBasic rest
  | '\'' :: rest => readLiteral rest
  | _ => none

end Agenda.Toml
