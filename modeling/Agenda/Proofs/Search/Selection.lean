import Mathlib
import Agenda.Proofs.Search.Select
import Agenda.Proofs.Text.Bytes

/-! # What a search keeps

A search is told by the places of the tasks in the list: it keeps the tasks that the query looks for,
in the order of their dates and, for one date, of their places, and cuts off the last ones.
-/

namespace Agenda

/-- Elements that are tied stand in a sorted list as they stood before. -/
theorem filter_mergeSort_of_tied {α : Type} {le : α → α → Bool}
    (trans : ∀ a b c, le a b = true → le b c = true → le a c = true)
    (total : ∀ a b, (le a b || le b a) = true) {p : α → Bool}
    (tied : ∀ a b, p a = true → p b = true → le a b = true) (xs : List α) :
    (xs.mergeSort le).filter p = xs.filter p := by
  have inOrder : (xs.filter p).Pairwise fun a b => le a b = true :=
    List.pairwise_of_forall_mem_list fun a ha b hb =>
      tied a b (List.mem_filter.mp ha).2 (List.mem_filter.mp hb).2
  have kept : (xs.filter p).Sublist (xs.mergeSort le) :=
    List.sublist_mergeSort trans total inOrder List.filter_sublist
  have tiedOnly := kept.filter p
  rw [List.filter_filter, funext fun a => Bool.and_self (p a)] at tiedOnly
  exact (tiedOnly.eq_of_length ((List.mergeSort_perm xs le).filter p).length_eq.symm).symm

/-- The order in which a search lists tasks with their places: by the bytes of the dates, and by place
    where the dates are the same. -/
def ListedBefore (a b : Task × Nat) : Prop :=
  List.Lex (· < ·) (bytesOf a.1.date) (bytesOf b.1.date) ∨ a.1.date = b.1.date ∧ a.2 < b.2

/-- Whether a query looks for a task. No query looks for all of them. -/
def isFound (query : Option Query) (task : Task) : Bool :=
  query.all (·.matches task)

/-- What a search keeps of a list, each task with its place: only tasks that it looks for, as many as
    there are up to the limit, in order and before all those that it leaves out. -/
structure IsSelection (tasks : List Task) (query : Option Query) (limit : Nat)
    (kept : List (Task × Nat)) : Prop where
  fromTasks : ∀ entry ∈ kept, entry ∈ tasks.zipIdx
  found : ∀ entry ∈ kept, isFound query entry.1 = true
  length_eq : kept.length = min limit (tasks.countP (isFound query))
  ordered : kept.Pairwise ListedBefore
  leftOut : ∀ entry ∈ tasks.zipIdx, isFound query entry.1 = true → entry ∉ kept →
    ∀ first ∈ kept, ListedBefore first entry

variable (tasks : List Task) (query : Option Query) (limit : Nat)

/-- The tasks that a query looks for, with their places, in the order in which they are listed. -/
def listed : List (Task × Nat) :=
  (tasks.zipIdx.filter fun entry => isFound query entry.1).mergeSort fun a b =>
    a.1.dueNotAfter b.1

theorem map_listed :
    (listed tasks query).map Prod.fst =
      (tasks.filter (isFound query)).mergeSort Task.dueNotAfter := by
  have found : (tasks.zipIdx.filter fun entry => isFound query entry.1).map Prod.fst =
      tasks.filter (isFound query) := by
    have := List.filter_map (f := Prod.fst) (p := isFound query) (l := tasks.zipIdx)
    rw [List.zipIdx_map_fst] at this
    exact this.symm
  rw [listed, List.map_mergeSort (s := Task.dueNotAfter) fun _ _ _ _ => rfl, found]

theorem mem_listed_iff {entry : Task × Nat} :
    entry ∈ listed tasks query ↔ entry ∈ tasks.zipIdx ∧ isFound query entry.1 = true := by
  rw [listed, List.mem_mergeSort, List.mem_filter]

theorem length_listed : (listed tasks query).length = tasks.countP (isFound query) := by
  rw [← List.length_map Prod.fst, map_listed, List.length_mergeSort, List.countP_eq_length_filter]

theorem pairwise_listed : (listed tasks query).Pairwise ListedBefore := by
  have trans (a b c : Task × Nat) : a.1.dueNotAfter b.1 = true → b.1.dueNotAfter c.1 = true →
      a.1.dueNotAfter c.1 = true := Task.dueNotAfter_trans _ _ _
  have total (a b : Task × Nat) : (a.1.dueNotAfter b.1 || b.1.dueNotAfter a.1) = true :=
    Task.dueNotAfter_total _ _
  have places : tasks.zipIdx.Pairwise fun a b => a.2 < b.2 := by
    rw [← List.pairwise_map, List.zipIdx_map_snd]
    exact List.pairwise_lt_range'
  refine List.pairwise_iff_forall_sublist.mpr fun {a b} both => ?_
  have inOrder := List.pairwise_iff_forall_sublist.mp (List.pairwise_mergeSort trans total _) both
  rcases notAfter_iff.mp inOrder with less | same
  · exact Or.inl less
  · have sameDate := bytesOf_inj.mp same
    refine Or.inr ⟨sameDate, ?_⟩
    -- Among the tasks of this one date nothing was moved.
    let onDate (entry : Task × Nat) : Bool := entry.1.date == a.1.date
    have tied (x y : Task × Nat) (hx : onDate x = true) (hy : onDate y = true) :
        x.1.dueNotAfter y.1 = true := by
      have dates := (eq_of_beq hx).trans (eq_of_beq hy).symm
      exact notAfter_iff.mpr (Or.inr (congrArg bytesOf dates))
    have kept := both.filter onDate
    rw [listed, filter_mergeSort_of_tied trans total tied] at kept
    have pair : [a, b].filter onDate = [a, b] := by simp [onDate, sameDate]
    rw [pair] at kept
    have placed := (kept.trans List.filter_sublist).trans List.filter_sublist
    exact List.pairwise_iff_forall_sublist.mp places placed

theorem isSelection_take_listed :
    IsSelection tasks query limit ((listed tasks query).take limit) where
  fromTasks _ member := ((mem_listed_iff tasks query).mp (List.mem_of_mem_take member)).1
  found _ member := ((mem_listed_iff tasks query).mp (List.mem_of_mem_take member)).2
  length_eq := by rw [List.length_take, length_listed]
  ordered := (pairwise_listed tasks query).sublist (List.take_sublist _ _)
  leftOut entry member found notKept first kept := by
    have all := (mem_listed_iff tasks query).mpr ⟨member, found⟩
    have cut := pairwise_listed tasks query
    rw [← List.take_append_drop limit (listed tasks query)] at all cut
    have after := (List.mem_append.mp all).resolve_left notKept
    exact (List.pairwise_append.mp cut).2.2 first kept entry after

theorem map_take_listed :
    ((listed tasks query).take limit).map Prod.fst = select tasks query limit := by
  rw [List.map_take, map_listed]
  rfl

theorem count_select_le (task : Task) :
    (select tasks query limit).count task ≤ tasks.count task := by
  calc (select tasks query limit).count task
      ≤ ((tasks.filter (isFound query)).mergeSort Task.dueNotAfter).count task :=
        (List.take_sublist _ _).count_le task
    _ = (tasks.filter (isFound query)).count task := (List.mergeSort_perm _ _).count_eq task
    _ ≤ tasks.count task := List.filter_sublist.count_le task

/-- A search keeps as many of the tasks that it looks for as the limit allows, by the bytes of their
    dates and for one date in the order in which they stood, before all those that it leaves out. So
    it keeps no task more often than it was there, a smaller limit keeps a beginning of what a larger
    one does, and the same search among the kept tasks keeps all of them as they stand. -/
theorem select_is_stable_and_bounded :
    (∃ kept, kept.map Prod.fst = select tasks query limit ∧ IsSelection tasks query limit kept) ∧
      (∀ task, (select tasks query limit).count task ≤ tasks.count task) ∧
      (∀ larger, limit ≤ larger → select tasks query limit <+: select tasks query larger) ∧
      select (select tasks query limit) query limit = select tasks query limit := by
  refine ⟨⟨_, map_take_listed tasks query limit, isSelection_take_listed tasks query limit⟩,
    count_select_le tasks query limit, fun larger le => ?_, select_select tasks query limit⟩
  exact List.take_prefix_take_left le

/-- The same task twice, with a task that has no date between them: this one comes first, and then one
    of the two, which is cut off where only one task is shown. -/
theorem twin_tasks_are_kept_in_place :
    let twin : Task := { id := "twin", date := "20240308", title := "Gym" }
    let other : Task := { id := "other", date := "20240101", title := "Tax" }
    let undated : Task := { id := "undated", title := "Run", comment := "gym" }
    let tasks := [twin, other, undated, twin]
    let gym : Option Query := some (.text "GYM")
    (∃ kept, kept.map Prod.fst = [undated, twin] ∧ IsSelection tasks gym 2 kept) ∧
      (∀ task, [undated, twin].count task ≤ tasks.count task) ∧
      (2 ≤ 3 ∧ [undated, twin] <+: select tasks gym 3) ∧
      select [undated, twin] gym 2 = [undated, twin] := by
  intro twin other undated tasks gym
  have selected : select tasks gym 2 = [undated, twin] := by cbv
  obtain ⟨selection, count, larger, again⟩ := select_is_stable_and_bounded tasks gym 2
  rw [selected] at selection again
  simp only [selected] at count larger
  exact ⟨selection, count, ⟨by decide, larger 3 (by decide)⟩, again⟩

end Agenda
