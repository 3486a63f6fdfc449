import Mathlib.Tactic
import Agenda.Search.Select
import Agenda.Proofs.Text.Numeral

/-! # Texts as bytes

A text is given by its bytes. Digits have one byte each, and numerals of one length compare byte by
byte as their numbers do.
-/

namespace Agenda

theorem toList_loop (bytes : ByteArray) (start : Nat) (read : List UInt8) :
    ByteArray.toList.loop bytes start read = read.reverse ++ bytes.data.toList.drop start := by
  -- The loop goes on to the end of the bytes, so the induction is on what is left.
  induction left : bytes.size - start generalizing start read with
  | zero =>
      have ended : bytes.data.toList.length ≤ start := by
        show bytes.size ≤ start
        omega
      rw [ByteArray.toList.loop, if_neg (by omega), List.drop_eq_nil_of_le ended, List.append_nil]
  | succ left ih =>
      have inside : start < bytes.data.toList.length := by
        show start < bytes.size
        omega
      have byte : bytes.get! start = bytes.data.toList[start] := getElem!_pos bytes.data start inside
      rw [ByteArray.toList.loop, if_pos (by omega), ih _ _ (by omega), List.reverse_cons,
        List.append_assoc, List.drop_eq_getElem_cons inside, byte, List.singleton_append]

theorem toList_eq (bytes : ByteArray) : bytes.toList = bytes.data.toList := by
  rw [ByteArray.toList, toList_loop, List.reverse_nil, List.nil_append, List.drop_zero]

theorem bytesOf_inj {a b : String} : bytesOf a = bytesOf b ↔ a = b := by
  refine ⟨fun same => ?_, congrArg bytesOf⟩
  have injective : Function.Injective UInt8.toNat := fun _ _ => UInt8.toNat_inj.mp
  have bytes := List.map_injective_iff.mpr injective same
  rw [toList_eq, toList_eq] at bytes
  exact String.toByteArray_inj.mp (ByteArray.ext (Array.toList_inj.mp bytes))

theorem bytesOf_ofList (cs : List Char) :
    bytesOf (String.ofList cs) = (cs.flatMap String.utf8EncodeChar).map UInt8.toNat := by
  rw [bytesOf, toList_eq, String.toUTF8, String.toByteArray_ofList, List.utf8Encode,
    List.toList_data_toByteArray]

theorem bytesOf_digitChar {d : Nat} (lt : d < 10) :
    bytesOf (String.ofList [Numeral.digitChar d]) = [48 + d] := by
  rw [bytesOf_ofList]
  interval_cases d <;> rfl

theorem bytesOf_append (cs ds : List Char) :
    bytesOf (String.ofList (cs ++ ds)) =
      bytesOf (String.ofList cs) ++ bytesOf (String.ofList ds) := by
  rw [bytesOf_ofList, bytesOf_ofList, bytesOf_ofList, List.flatMap_append, List.map_append]

theorem append_lex_append_iff {a b : List Nat} (length : a.length = b.length)
    (restA restB : List Nat) :
    List.Lex (· < ·) (a ++ restA) (b ++ restB) ↔
      List.Lex (· < ·) a b ∨ a = b ∧ List.Lex (· < ·) restA restB := by
  induction a generalizing b with
  | nil =>
      obtain rfl := List.length_eq_zero_iff.mp length.symm
      simp
  | cons x a ih =>
      cases b with
      | nil => cases length
      | cons y b =>
          simp only [List.cons_append, List.cons_lex_cons_iff, ih (Nat.succ.inj length),
            List.cons.injEq]
          tauto

namespace Numeral.Decimal

variable {cs ds : List Char} {n m : Nat}

theorem length_bytesOf (h : Decimal cs n) : (bytesOf (String.ofList cs)).length = cs.length := by
  induction h with
  | digit lt => rw [bytesOf_digitChar lt, List.length_singleton, List.length_singleton]
  | append _ lt ih =>
      rw [bytesOf_append, bytesOf_digitChar lt, List.length_append, List.length_append, ih]
      rfl

theorem ne_one_of_append (init : Decimal cs n) (c : Char) : (cs ++ [c]).length ≠ 1 := by
  have := List.length_pos_of_ne_nil init.ne_nil
  rw [List.length_append, List.length_singleton]
  omega

theorem bytesOf_eq_iff (left : Decimal cs n) (right : Decimal ds m) (length : cs.length = ds.length) :
    bytesOf (String.ofList cs) = bytesOf (String.ofList ds) ↔ n = m := by
  rw [bytesOf_inj, String.ofList_inj]
  constructor
  · rintro rfl
    exact Option.some_inj.mp ((natural?_of_decimal left).symm.trans (natural?_of_decimal right))
  · rintro rfl
    rw [← left.padded_eq, ← right.padded_eq, length]

theorem lex_bytesOf_iff (left : Decimal cs n) (right : Decimal ds m)
    (length : cs.length = ds.length) :
    List.Lex (· < ·) (bytesOf (String.ofList cs)) (bytesOf (String.ofList ds)) ↔ n < m := by
  induction left generalizing ds m with
  | @digit d lt =>
      cases right with
      | digit lt' =>
          rw [bytesOf_digitChar lt, bytesOf_digitChar lt', List.cons_lex_cons_iff]
          simp
      | append init => exact absurd length.symm (init.ne_one_of_append _)
  | @append cs n d init lt ih =>
      cases right with
      | digit => exact absurd length (init.ne_one_of_append _)
      | @append ds m e init' lt' =>
          have length : cs.length = ds.length := by simpa using length
          have sameBytes :
              (bytesOf (String.ofList cs)).length = (bytesOf (String.ofList ds)).length := by
            rw [init.length_bytesOf, init'.length_bytesOf, length]
          have last : List.Lex (· < ·) [48 + d] [48 + e] ↔ d < e := by
            rw [List.cons_lex_cons_iff]
            simp
          rw [bytesOf_append, bytesOf_append, bytesOf_digitChar lt, bytesOf_digitChar lt',
            append_lex_append_iff sameBytes, ih init' length, init.bytesOf_eq_iff init' length, last]
          omega

end Numeral.Decimal

/-- Texts that start with numerals filled up to one length are in the order of the numbers, and of
    what follows where these are the same. -/
theorem lex_bytesOf_padded_append_iff {width n m : Nat} (pos : 0 < width) (hn : n < 10 ^ width)
    (hm : m < 10 ^ width) (restN restM : List Char) :
    List.Lex (· < ·) (bytesOf (String.ofList (Numeral.padded width n ++ restN)))
        (bytesOf (String.ofList (Numeral.padded width m ++ restM))) ↔
      n < m ∨ n = m ∧
        List.Lex (· < ·) (bytesOf (String.ofList restN)) (bytesOf (String.ofList restM)) := by
  have left := Numeral.decimal_padded width n
  have right := Numeral.decimal_padded width m
  have length : (Numeral.padded width n).length = (Numeral.padded width m).length := by
    rw [Numeral.length_padded width n pos hn, Numeral.length_padded width m pos hm]
  have bytes := left.length_bytesOf.trans (length.trans right.length_bytesOf.symm)
  rw [bytesOf_append, bytesOf_append, append_lex_append_iff bytes, left.lex_bytesOf_iff right length,
    left.bytesOf_eq_iff right length]

end Agenda
