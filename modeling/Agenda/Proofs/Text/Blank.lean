import Mathlib.Data.List.TakeWhile
import Mathlib.Tactic
import Agenda.Text.Blank
import Agenda.Proofs.Text.Numeral

/-! # Blanks around a text

Trimming takes away the blanks at either end, and nothing is left of a text exactly if it is blank.
-/

namespace Agenda.Blank

variable {before cs after : List Char}

/-- A text is blank when nothing is left of it without the blanks at either end. -/
theorem isBlankText_iff {text : String} :
    isBlankText text = true ↔ trim text.toList = [] := by
  simp only [isBlankText, trim, trimStart, List.all_eq_true,
    List.reverse_eq_nil_iff, List.dropWhile_eq_nil_iff, List.mem_reverse]
  constructor
  · intro blank c member
    exact blank c ((List.dropWhile_sublist _).subset member)
  · intro blank
    rw [← List.dropWhile_eq_nil_iff]
    -- What is left without the blanks in front would start with a character that is none.
    by_contra some
    have notBlank := List.head_dropWhile_not isBlank some
    rw [blank _ (List.head_mem some)] at notBlank
    cases notBlank

theorem isBlankText_eq_false_iff {text : String} :
    isBlankText text = false ↔ trim text.toList ≠ [] := by
  rw [ne_eq, ← isBlankText_iff, Bool.not_eq_true]

theorem trimStart_append (h : ∀ c ∈ before, isBlank c = true) :
    trimStart (before ++ cs) = trimStart cs :=
  List.dropWhile_append_of_pos h

theorem trimStart_of_notBlank (h : ∀ c ∈ cs, isBlank c = false) (nonempty : cs ≠ [])
    (after : List Char) : trimStart (cs ++ after) = cs ++ after := by
  obtain ⟨first, rest, rfl⟩ := List.exists_cons_of_ne_nil nonempty
  have notBlank := h first List.mem_cons_self
  rw [trimStart, List.cons_append, List.dropWhile_cons_of_neg (by simp [notBlank])]

theorem trim_surrounded (hb : ∀ c ∈ before, isBlank c = true)
    (ha : ∀ c ∈ after, isBlank c = true) (h : ∀ c ∈ cs, isBlank c = false)
    (nonempty : cs ≠ []) : trim (before ++ cs ++ after) = cs := by
  have atStart : trimStart (before ++ cs ++ after) = cs ++ after := by
    rw [List.append_assoc, trimStart_append hb, trimStart_of_notBlank h nonempty after]
  have atEnd : trimStart (cs ++ after).reverse = cs.reverse := by
    rw [List.reverse_append, trimStart_append fun c member => ha c (List.mem_reverse.mp member)]
    simpa using trimStart_of_notBlank (fun c member => h c (List.mem_reverse.mp member))
      (List.reverse_ne_nil_iff.mpr nonempty) []
  rw [trim, atStart, atEnd, List.reverse_reverse]

theorem isBlank_of_isDigit_or_point {c : Char} (h : c.isDigit = true ∨ c = '.') :
    isBlank c = false := by
  rcases h with digit | rfl
  · obtain ⟨d, lt, rfl⟩ := Numeral.exists_digitChar digit
    interval_cases d <;> rfl
  · rfl

end Agenda.Blank
