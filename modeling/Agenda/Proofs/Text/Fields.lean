import Mathlib.Tactic
import Agenda.Text.Fields

/-! # Fields without separators

Cutting goes from separator to separator, so a field that has none in it comes back whole.
-/

namespace Agenda.Fields

variable {separator : Char} {field : List Char}

theorem split_of_notMem (h : separator ∉ field) : split separator field = [field] := by
  induction field with
  | nil => rfl
  | cons c rest ih =>
      simp only [List.mem_cons, not_or] at h
      simp only [split, if_neg (Ne.symm h.1), ih h.2]

theorem split_append (h : separator ∉ field) (rest : List Char) :
    split separator (field ++ separator :: rest) = field :: split separator rest := by
  induction field with
  | nil => simp only [List.nil_append, split, if_pos]
  | cons c cs ih =>
      simp only [List.mem_cons, not_or] at h
      simp only [List.cons_append, split, if_neg (Ne.symm h.1), ih h.2]

theorem split_join {fields : List (List Char)} (nonempty : fields ≠ [])
    (h : ∀ field ∈ fields, separator ∉ field) :
    split separator (join separator fields) = fields := by
  induction fields with
  | nil => exact absurd rfl nonempty
  | cons field rest ih =>
      obtain ⟨first, others⟩ := List.forall_mem_cons.mp h
      cases rest with
      | nil => exact split_of_notMem first
      | cons next fields =>
          rw [join]
          · rw [split_append first, ih (List.cons_ne_nil _ _) others]
          · exact List.cons_ne_nil _ _

theorem separator_notMem_split (cs : List Char) :
    ∀ field ∈ split separator cs, separator ∉ field := by
  induction cs with
  | nil => simp [split]
  | cons c rest ih =>
      rw [split]
      split
      · exact List.forall_mem_cons.mpr ⟨List.not_mem_nil, ih⟩
      · next other =>
          split
          · simpa using Ne.symm other
          · next field fields shape =>
              rw [shape] at ih
              obtain ⟨first, others⟩ := List.forall_mem_cons.mp ih
              exact List.forall_mem_cons.mpr
                ⟨List.not_mem_cons_of_ne_of_not_mem (Ne.symm other) first, others⟩

/-- A text is cut into fields: at least one, none with a separator in it, and the text has one
    between each two of them. -/
structure Cuts (separator : Char) (cs : List Char) (fields : List (List Char)) : Prop where
  nonempty : fields ≠ []
  separate : ∀ field ∈ fields, separator ∉ field
  joined : join separator fields = cs

theorem split_eq_iff {cs : List Char} {fields : List (List Char)} :
    split separator cs = fields ↔ Cuts separator cs fields := by
  constructor
  · rintro rfl
    exact ⟨split_ne_nil separator cs, separator_notMem_split cs, join_split separator cs⟩
  · rintro ⟨nonempty, separate, rfl⟩
    exact split_join nonempty separate

end Agenda.Fields
