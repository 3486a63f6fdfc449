import Mathlib.Tactic
import Agenda.Search.Select

/-! # Searching what was found

What a search finds is in order, and the query looks for all of it. So the same search among the
tasks that it found finds them all again, and nothing is moved or cut off.
-/

namespace Agenda

theorem notAfter_iff {a b : List Nat} : notAfter a b = true ↔ List.Lex (· < ·) a b ∨ a = b := by
  induction a generalizing b with
  | nil => cases b <;> simp [notAfter]
  | cons x restA ih =>
      cases b with
      | nil => simp [notAfter]
      | cons y restB =>
          rw [notAfter, Bool.or_eq_true, Bool.and_eq_true, ih, List.cons_lex_cons_iff,
            List.cons.injEq, decide_eq_true_eq, beq_iff_eq]
          tauto

theorem notAfter_trans {a b c : List Nat} (h : notAfter a b = true)
    (later : notAfter b c = true) : notAfter a c = true := by
  rw [notAfter_iff] at *
  rcases h with less | rfl
  · rcases later with later | rfl
    · exact Or.inl (List.lex_trans Nat.lt_trans less later)
    · exact Or.inl less
  · exact later

theorem notAfter_total (a b : List Nat) : notAfter a b = true ∨ notAfter b a = true := by
  rw [notAfter_iff, notAfter_iff]
  rcases trichotomous_of (List.Lex (· < ·)) a b with less | same | greater
  · exact Or.inl (Or.inl less)
  · exact Or.inl (Or.inr same)
  · exact Or.inr (Or.inl greater)

namespace Task

theorem dueNotAfter_trans (a b c : Task) (h : a.dueNotAfter b = true)
    (later : b.dueNotAfter c = true) : a.dueNotAfter c = true :=
  notAfter_trans h later

theorem dueNotAfter_total (a b : Task) : (a.dueNotAfter b || b.dueNotAfter a) = true := by
  rw [Bool.or_eq_true]
  exact notAfter_total _ _

end Task

variable (tasks : List Task) (query : Option Query) (limit : Nat)

theorem pairwise_select :
    (select tasks query limit).Pairwise fun a b => a.dueNotAfter b = true := by
  exact (List.pairwise_mergeSort Task.dueNotAfter_trans Task.dueNotAfter_total _).sublist
    (List.take_sublist _ _)

theorem matches_of_mem_select :
    ∀ task ∈ select tasks query limit, query.all (·.matches task) = true := by
  intro task h
  have found := List.mem_mergeSort.mp (List.mem_of_mem_take h)
  exact (List.mem_filter.mp found).2

theorem length_select_le : (select tasks query limit).length ≤ limit :=
  List.length_take_le _ _

/-- The same search among the tasks that were found finds all of them, as they stand. -/
theorem select_select : select (select tasks query limit) query limit = select tasks query limit := by
  have kept := List.filter_eq_self.mpr (matches_of_mem_select tasks query limit)
  have inOrder := List.mergeSort_of_pairwise (pairwise_select tasks query limit)
  rw [select, kept, inOrder, List.take_of_length_le (length_select_le tasks query limit)]

end Agenda
