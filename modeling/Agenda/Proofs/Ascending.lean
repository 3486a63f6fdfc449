import Mathlib.Tactic
import Agenda.Ascending

/-! # One form for each set

`ascending` keeps the members of a list, puts them into strictly increasing order, and so gives
equal lists for lists with the same members.
-/

namespace Agenda

variable {α : Type} [LinearOrder α]

/-- A strictly increasing list of values between two bounds. -/
structure IncreasingIn (low high : α) (xs : List α) : Prop where
  increasing : xs.Pairwise (· < ·)
  within : ∀ x ∈ xs, low ≤ x ∧ x ≤ high

theorem head_le {x y : α} {rest : List α} (increasing : (x :: rest).Pairwise (· < ·))
    (member : y ∈ x :: rest) : x ≤ y := by
  rcases List.mem_cons.mp member with eq | member
  · exact eq.ge
  · exact ((List.pairwise_cons.mp increasing).1 _ member).le

theorem le_of_find?_eq_some {p : α → Bool} {xs : List α} (increasing : xs.Pairwise (· < ·))
    {x y : α} (found : xs.find? p = some x) (member : y ∈ xs) (holds : p y = true) : x ≤ y := by
  induction xs with
  | nil => cases member
  | cons z rest ih =>
      by_cases here : p z = true
      · rw [List.find?_cons_of_pos here] at found
        cases found
        exact head_le increasing member
      · rw [List.find?_cons_of_neg here] at found
        rcases List.mem_cons.mp member with rfl | member
        · exact absurd holds here
        · exact ih increasing.of_cons found member

theorem eq_of_increasing {xs ys : List α} (hx : xs.Pairwise (· < ·)) (hy : ys.Pairwise (· < ·))
    (same : ∀ x, x ∈ xs ↔ x ∈ ys) : xs = ys := by
  refine List.Perm.eq_of_pairwise (fun a b _ _ ab ba => absurd ab ba.not_gt) hx hy ?_
  exact (List.perm_ext_iff_of_nodup (hx.imp ne_of_lt) (hy.imp ne_of_lt)).mpr same

variable [DecidableRel (α := α) (· < ·)]

theorem mem_insertOnce {x y : α} {xs : List α} : y ∈ insertOnce x xs ↔ y = x ∨ y ∈ xs := by
  induction xs with
  | nil => simp [insertOnce]
  | cons z rest ih =>
      rw [insertOnce]
      split
      · exact List.mem_cons
      · split
        · simp only [List.mem_cons, ih]
          tauto
        · next notLess notGreater =>
            obtain rfl := le_antisymm (not_lt.mp notGreater) (not_lt.mp notLess)
            simp

theorem pairwise_insertOnce {x : α} {xs : List α} (h : xs.Pairwise (· < ·)) :
    (insertOnce x xs).Pairwise (· < ·) := by
  induction xs with
  | nil => exact List.pairwise_singleton _ _
  | cons z rest ih =>
      obtain ⟨head, tail⟩ := List.pairwise_cons.mp h
      rw [insertOnce]
      split
      · next less =>
          refine List.pairwise_cons.mpr ⟨fun y member => ?_, h⟩
          rcases List.mem_cons.mp member with rfl | member
          · exact less
          · exact less.trans (head y member)
      · split
        · next greater =>
            refine List.pairwise_cons.mpr ⟨fun y member => ?_, ih tail⟩
            rcases mem_insertOnce.mp member with rfl | member
            · exact greater
            · exact head y member
        · exact h

@[simp] theorem mem_ascending {x : α} {xs : List α} : x ∈ ascending xs ↔ x ∈ xs := by
  induction xs with
  | nil => rfl
  | cons y rest ih =>
      show x ∈ insertOnce y (ascending rest) ↔ _
      rw [mem_insertOnce, ih, List.mem_cons]

theorem pairwise_ascending (xs : List α) : (ascending xs).Pairwise (· < ·) := by
  induction xs with
  | nil => exact List.Pairwise.nil
  | cons y rest ih => exact pairwise_insertOnce ih

theorem ascending_of_increasing {xs : List α} (h : xs.Pairwise (· < ·)) : ascending xs = xs :=
  eq_of_increasing (pairwise_ascending xs) h fun _ => mem_ascending

@[simp] theorem ascending_ascending (xs : List α) : ascending (ascending xs) = ascending xs :=
  ascending_of_increasing (pairwise_ascending xs)

theorem ascending_eq_self_iff {xs : List α} : ascending xs = xs ↔ xs.Pairwise (· < ·) :=
  ⟨fun eq => eq ▸ pairwise_ascending xs, ascending_of_increasing⟩

theorem increasingIn_iff {low high : α} {xs : List α} :
    IncreasingIn low high xs ↔ (∀ x ∈ xs, low ≤ x ∧ x ≤ high) ∧ ascending xs = xs := by
  rw [ascending_eq_self_iff]
  exact ⟨fun h => ⟨h.within, h.increasing⟩, fun h => ⟨h.2, h.1⟩⟩

theorem ascending_eq_nil_iff {xs : List α} : ascending xs = [] ↔ xs = [] := by
  simp only [List.eq_nil_iff_forall_not_mem, mem_ascending]

theorem ascending_map {β : Type} [LinearOrder β] [DecidableRel (α := β) (· < ·)] {f : α → β}
    (mono : StrictMono f) (xs : List α) : ascending (xs.map f) = (ascending xs).map f := by
  have increasing : ((ascending xs).map f).Pairwise (· < ·) :=
    List.pairwise_map.mpr ((pairwise_ascending xs).imp fun less => mono less)
  refine eq_of_increasing (pairwise_ascending _) increasing fun y => ?_
  simp only [mem_ascending, List.mem_map]

end Agenda
