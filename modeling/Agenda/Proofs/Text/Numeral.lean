import Mathlib.Tactic
import Agenda.Text.Numeral

/-! # What numerals stand for

`Decimal` and `Signed` say digit by digit which number a text stands for, without reading it. The
readers accept exactly these texts, and the writers produce some of them.
-/

namespace Agenda.Numeral

/-- One or more decimal digits and their number. Leading zeros are allowed. -/
inductive Decimal : List Char → Nat → Prop
  | digit {d : Nat} (lt : d < 10) : Decimal [digitChar d] d
  | append {cs : List Char} {n d : Nat} (init : Decimal cs n) (lt : d < 10) :
      Decimal (cs ++ [digitChar d]) (10 * n + d)

/-- Decimal digits after an optional sign. -/
inductive Signed : List Char → Int → Prop
  | plain {cs : List Char} {n : Nat} (digits : Decimal cs n) : Signed cs n
  | plus {cs : List Char} {n : Nat} (digits : Decimal cs n) : Signed ('+' :: cs) n
  | minus {cs : List Char} {n : Nat} (digits : Decimal cs n) : Signed ('-' :: cs) (-n)

theorem digit?_digitChar {d : Nat} (lt : d < 10) : digit? (digitChar d) = some d := by
  interval_cases d <;> rfl

theorem digit?_eq_some {c : Char} {d : Nat} (h : digit? c = some d) : d < 10 ∧ c = digitChar d := by
  unfold digit? at h
  split at h
  · next range =>
      obtain ⟨low, high⟩ := range
      have lowNat : 48 ≤ c.toNat := low
      have highNat : c.toNat ≤ 57 := high
      cases h
      refine ⟨?_, ?_⟩
      · show c.toNat - 48 < 10
        omega
      · show c = Char.ofNat (48 + (c.toNat - 48))
        rw [Nat.add_sub_cancel' lowNat, Char.ofNat_toNat]
  · cases h

namespace Decimal

theorem ne_nil {cs : List Char} {n : Nat} (h : Decimal cs n) : cs ≠ [] := by
  cases h with
  | digit => exact List.cons_ne_nil _ _
  | append => exact List.append_ne_nil_of_right_ne_nil _ (List.cons_ne_nil _ _)

theorem isDigit {cs : List Char} {n : Nat} (h : Decimal cs n) :
    ∀ c ∈ cs, ∃ d < 10, c = digitChar d := by
  induction h with
  | digit lt =>
      intro c member
      exact ⟨_, lt, List.mem_singleton.mp member⟩
  | append _ lt ih =>
      intro c member
      rcases List.mem_append.mp member with member | member
      · exact ih c member
      · exact ⟨_, lt, List.mem_singleton.mp member⟩

end Decimal

theorem ofDigits_append (digits : List Nat) (d : Nat) :
    ofDigits 10 (digits ++ [d]) = 10 * ofDigits 10 digits + d := by
  simp only [ofDigits, List.foldl_append, List.foldl_cons, List.foldl_nil]

theorem natural?_eq (cs : List Char) (h : cs ≠ []) :
    natural? cs = (cs.mapM digit?).map (ofDigits 10) := by
  cases cs with
  | nil => exact absurd rfl h
  | cons => rfl

theorem natural?_append (cs : List Char) (h : cs ≠ []) (c : Char) :
    natural? (cs ++ [c]) = (natural? cs).bind fun n => (digit? c).map fun d => 10 * n + d := by
  rw [natural?_eq _ h, natural?_eq _ (List.append_ne_nil_of_left_ne_nil h _), List.mapM_append]
  cases cs.mapM digit? with
  | none => rfl
  | some digits =>
      cases last : digit? c with
      | none => simp [last]
      | some d => simp [last, ofDigits_append]

theorem natural?_of_decimal {cs : List Char} {n : Nat} (h : Decimal cs n) : natural? cs = some n := by
  induction h with
  | digit lt =>
      rw [natural?_eq _ (List.cons_ne_nil _ _)]
      simp [digit?_digitChar lt, ofDigits]
  | append init lt ih =>
      rw [natural?_append _ init.ne_nil, ih]
      simp [digit?_digitChar lt]

theorem decimal_of_natural? {cs : List Char} {n : Nat} (h : natural? cs = some n) : Decimal cs n := by
  induction cs using List.reverseRecOn generalizing n with
  | nil => cases h
  | append_singleton cs c ih =>
      by_cases empty : cs = []
      · subst empty
        rw [List.nil_append, natural?_eq _ (List.cons_ne_nil _ _)] at h
        simp only [List.mapM_cons, List.mapM_nil, Option.map_eq_some_iff] at h
        obtain ⟨digits, read, rfl⟩ := h
        cases last : digit? c with
        | none => simp [last] at read
        | some d =>
            obtain ⟨lt, rfl⟩ := digit?_eq_some last
            simp only [last, Option.pure_def, Option.bind_eq_bind, Option.bind_some,
              Option.some.injEq] at read
            subst read
            simpa [ofDigits] using Decimal.digit lt
      · rw [natural?_append _ empty, Option.bind_eq_some_iff] at h
        obtain ⟨init, read, last⟩ := h
        obtain ⟨d, digit, rfl⟩ := Option.map_eq_some_iff.mp last
        obtain ⟨lt, rfl⟩ := digit?_eq_some digit
        exact .append (ih read) lt

theorem splitSign_of_decimal {cs : List Char} {n : Nat} (h : Decimal cs n) :
    splitSign cs = (false, cs) := by
  unfold splitSign
  split
  · obtain ⟨d, lt, eq⟩ := h.isDigit '-' List.mem_cons_self
    interval_cases d <;> exact absurd eq (by decide)
  · obtain ⟨d, lt, eq⟩ := h.isDigit '+' List.mem_cons_self
    interval_cases d <;> exact absurd eq (by decide)
  · rfl

/-- The reader takes exactly the decimal numerals after an optional sign. -/
theorem integer?_eq_some_iff {cs : List Char} {v : Int} : integer? cs = some v ↔ Signed cs v := by
  constructor
  · intro h
    simp only [integer?, Option.map_eq_some_iff] at h
    obtain ⟨n, read, rfl⟩ := h
    unfold splitSign at read ⊢
    split at read
    · exact .minus (decimal_of_natural? read)
    · exact .plus (decimal_of_natural? read)
    · exact .plain (decimal_of_natural? read)
  · intro h
    cases h with
    | plain digits =>
        simp only [integer?, splitSign_of_decimal digits, natural?_of_decimal digits]
        rfl
    | plus digits =>
        simp only [integer?, splitSign, natural?_of_decimal digits]
        rfl
    | minus digits =>
        simp only [integer?, splitSign, natural?_of_decimal digits]
        rfl

theorem Signed.unique {cs : List Char} {v w : Int} (left : Signed cs v) (right : Signed cs w) :
    v = w := by
  rw [← integer?_eq_some_iff] at left right
  exact Option.some_inj.mp (left.symm.trans right)

theorem Signed.notMem {cs : List Char} {v : Int} (h : Signed cs v) {c : Char}
    (noDigit : digit? c = none) (noSign : c ≠ '+' ∧ c ≠ '-') : c ∉ cs := by
  have foreign {ds : List Char} {n : Nat} (digits : Decimal ds n) : c ∉ ds := by
    intro member
    obtain ⟨d, lt, rfl⟩ := digits.isDigit c member
    rw [digit?_digitChar lt] at noDigit
    cases noDigit
  cases h with
  | plain digits => exact foreign digits
  | plus digits => exact List.not_mem_cons_of_ne_of_not_mem noSign.1 (foreign digits)
  | minus digits => exact List.not_mem_cons_of_ne_of_not_mem noSign.2 (foreign digits)

theorem isDigit_digitChar {d : Nat} (lt : d < 10) : (digitChar d).isDigit = true := by
  interval_cases d <;> rfl

theorem exists_digitChar {c : Char} (h : c.isDigit = true) : ∃ d < 10, c = digitChar d := by
  have range : '0' ≤ c ∧ c ≤ '9' := by
    simp only [Char.isDigit, Bool.and_eq_true, decide_eq_true_eq] at h
    exact h
  exact ⟨_, digit?_eq_some (show digit? c = some _ from if_pos range)⟩

theorem decimal_iff {cs : List Char} {n : Nat} :
    Decimal cs n ↔
      cs ≠ [] ∧ (∀ c ∈ cs, c.isDigit = true) ∧ n = ofDigits 10 (cs.filterMap digit?) := by
  constructor
  · intro h
    refine ⟨h.ne_nil, fun c member => ?_, ?_⟩
    · obtain ⟨d, lt, rfl⟩ := h.isDigit c member
      exact isDigit_digitChar lt
    · induction h with
      | digit lt => simp [digit?_digitChar lt, ofDigits]
      | append _ lt ih =>
          rw [List.filterMap_append, ih]
          simp [digit?_digitChar lt, ofDigits_append]
  · rintro ⟨nonempty, digits, rfl⟩
    induction cs using List.reverseRecOn with
    | nil => exact absurd rfl nonempty
    | append_singleton cs c ih =>
        obtain ⟨d, lt, rfl⟩ := exists_digitChar (digits c (by simp))
        by_cases empty : cs = []
        · subst empty
          simpa [digit?_digitChar lt, ofDigits] using Decimal.digit lt
        · have init := ih empty fun c member => digits c (by simp [member])
          rw [List.filterMap_append]
          simpa [digit?_digitChar lt, ofDigits_append] using init.append lt

theorem natural?_of_digits {cs : List Char} (nonempty : cs ≠ [])
    (digits : ∀ c ∈ cs, c.isDigit = true) :
    natural? cs = some (ofDigits 10 (cs.filterMap digit?)) :=
  natural?_of_decimal (decimal_iff.mpr ⟨nonempty, digits, rfl⟩)

theorem digits_of_lt {n : Nat} (h : n < 10) : digits n = [digitChar n] := by
  rw [digits, if_pos h]

theorem digits_of_le {n : Nat} (h : 10 ≤ n) : digits n = digits (n / 10) ++ [digitChar (n % 10)] := by
  rw [digits, if_neg (Nat.not_lt.mpr h)]

theorem decimal_digits (n : Nat) : Decimal (digits n) n := by
  induction n using Nat.strongRecOn with
  | ind n ih =>
      by_cases small : n < 10
      · rw [digits_of_lt small]
        exact .digit small
      · have whole := Decimal.append (ih (n / 10) (by omega)) (Nat.mod_lt n (by decide : 0 < 10))
        rwa [Nat.div_add_mod, ← digits_of_le (Nat.le_of_not_lt small)] at whole

theorem signed_signed (n : Int) : Signed (signed n) n := by
  have magnitude := decimal_digits n.natAbs
  unfold signed
  split
  · next negative =>
      have minus := Signed.minus magnitude
      rwa [Int.ofNat_natAbs_of_nonpos negative.le, neg_neg] at minus
  · next notNegative =>
      have plain := Signed.plain magnitude
      rwa [Int.natAbs_of_nonneg (Int.not_lt.mp notNegative)] at plain

theorem signed_natCast (n : Nat) : signed n = digits n := by
  rw [signed, if_neg (Int.not_lt.mpr (Int.natCast_nonneg n)), Int.natAbs_natCast]

theorem Decimal.leadingZero {cs : List Char} {n : Nat} (h : Decimal cs n) : Decimal ('0' :: cs) n := by
  induction h with
  | @digit d lt =>
      have both := Decimal.append (.digit (show 0 < 10 by decide)) lt
      rwa [Nat.mul_zero, Nat.zero_add] at both
  | append _ lt ih => exact .append ih lt

theorem decimal_padded (width n : Nat) : Decimal (padded width n) n := by
  unfold padded
  generalize width - (digits n).length = zeros
  induction zeros with
  | zero => exact decimal_digits n
  | succ zeros ih => exact ih.leadingZero

theorem length_digits_le {n width : Nat} (pos : 0 < width) (h : n < 10 ^ width) :
    (digits n).length ≤ width := by
  induction width, pos using Nat.le_induction generalizing n with
  | base => simp [digits_of_lt h]
  | succ width pos ih =>
      by_cases small : n < 10
      · simp [digits_of_lt small]
      · rw [digits_of_le (Nat.le_of_not_lt small), List.length_append]
        have := ih (n := n / 10) (by rw [Nat.pow_succ] at h; omega)
        simpa using this

theorem le_length_padded (width n : Nat) : width ≤ (padded width n).length := by
  simp only [padded, List.length_append, List.length_replicate]
  omega

theorem length_padded (width n : Nat) (pos : 0 < width) (h : n < 10 ^ width) :
    (padded width n).length = width := by
  have := length_digits_le pos h
  simp only [padded, List.length_append, List.length_replicate]
  omega

theorem padded_append {width n d : Nat} (pos : 0 < width) (lt : d < 10) :
    padded (width + 1) (10 * n + d) = padded width n ++ [digitChar d] := by
  by_cases zero : n = 0
  · subst zero
    rw [Nat.mul_zero, Nat.zero_add, padded, padded, digits_of_lt lt, digits_of_lt (by decide)]
    obtain ⟨rest, rfl⟩ := Nat.exists_eq_add_of_lt pos
    simp [List.replicate_succ', digitChar]
  · have shape : digits (10 * n + d) = digits n ++ [digitChar d] := by
      rw [digits_of_le (by omega), show (10 * n + d) / 10 = n by omega,
        show (10 * n + d) % 10 = d by omega]
    simp [padded, shape]

theorem Decimal.padded_eq {cs : List Char} {n : Nat} (h : Decimal cs n) : padded cs.length n = cs := by
  induction h with
  | digit lt => simp [padded, digits_of_lt lt]
  | append init lt ih =>
      rw [List.length_append, List.length_singleton,
        padded_append (List.length_pos_of_ne_nil init.ne_nil) lt, ih]

theorem Decimal.lt_pow {cs : List Char} {n : Nat} (h : Decimal cs n) : n < 10 ^ cs.length := by
  induction h with
  | digit lt => simpa using lt
  | append _ lt ih =>
      rw [List.length_append, List.length_singleton, Nat.pow_succ]
      omega

end Agenda.Numeral
