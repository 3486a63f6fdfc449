import Mathlib.Tactic
import Agenda.Proofs.Calendar.DateText
import Agenda.Proofs.Search.Selection
import Agenda.Proofs.Text.Bytes

/-! # Chronological order

The stored form of a date has its year first and its day last, each with all its digits, so that the
bytes of stored dates are in the order of the calendar. A search among tasks with stored dates
therefore lists them from the earliest on.
-/

namespace Agenda

theorem Date.lex_bytesOf_text_iff {d e : Date} (hd : d.IsStorable) (he : e.IsStorable) :
    List.Lex (· < ·) (bytesOf d.text) (bytesOf e.text) ↔ d < e := by
  have monthD := d.month_mem
  have monthE := e.month_mem
  have dayD := d.day_mem.2.trans (daysInMonth_le _ _)
  have dayE := e.day_mem.2.trans (daysInMonth_le _ _)
  rw [Date.text, Date.text, yearText_of_isStorable hd, yearText_of_isStorable he,
    List.append_assoc, List.append_assoc]
  obtain ⟨lowD, highD⟩ := hd
  obtain ⟨lowE, highE⟩ := he
  rw [lex_bytesOf_padded_append_iff (by decide) (by omega) (by omega),
    lex_bytesOf_padded_append_iff (by decide) (by omega) (by omega),
    ← List.append_nil (Numeral.padded 2 d.day), ← List.append_nil (Numeral.padded 2 e.day),
    lex_bytesOf_padded_append_iff (by decide) (by omega) (by omega)]
  show _ ↔ d.year < e.year ∨
    (d.year = e.year ∧ (d.month < e.month ∨ (d.month = e.month ∧ d.day < e.day)))
  have last : ¬ List.Lex (· < ·) (bytesOf (String.ofList [])) (bytesOf (String.ofList [])) :=
    List.lex_irrefl Nat.lt_irrefl _
  have years : d.year.natAbs < e.year.natAbs ↔ d.year < e.year := by omega
  have sameYear : d.year.natAbs = e.year.natAbs ↔ d.year = e.year := by omega
  simp only [last, and_false, or_false, years, sameYear]

/-- Two tasks with stored dates, the first of which is due no later than the second. -/
def DueInOrder (a b : Task) : Prop :=
  ∃ d e, Date.read a.date = .ok d ∧ Date.read b.date = .ok e ∧ d ≤ e

theorem dueInOrder_of_dueNotAfter {a b : Task} (readA : ∃ d, Date.read a.date = .ok d)
    (readB : ∃ e, Date.read b.date = .ok e) (h : a.dueNotAfter b = true) : DueInOrder a b := by
  obtain ⟨d, readA⟩ := readA
  obtain ⟨e, readB⟩ := readB
  refine ⟨d, e, readA, readB, ?_⟩
  obtain ⟨textA, storableA⟩ := Date.read_eq_ok_iff.mp readA
  obtain ⟨textB, storableB⟩ := Date.read_eq_ok_iff.mp readB
  rw [Task.dueNotAfter, ← textA, ← textB] at h
  rcases notAfter_iff.mp h with less | same
  · exact ((Date.lex_bytesOf_text_iff storableA storableB).mp less).le
  · exact (Date.eq_of_text_eq storableA (bytesOf_inj.mp same)).le

/-- The bytes of stored dates are in the order of the calendar. So a search among tasks with stored
    dates lists as many of those that it looks for as the limit allows from the earliest on, and each
    one that it leaves out is due on the day of each of them or later. -/
theorem text_order_is_calendar_order :
    (∀ d e : Date, 0 ≤ d.year ∧ d.year ≤ 9999 → 0 ≤ e.year ∧ e.year ≤ 9999 →
        (d < e ↔ List.Lex (· < ·) (bytesOf d.text) (bytesOf e.text))) ∧
      ∀ (tasks : List Task) (query : Option Query) (limit : Nat),
        (∀ task ∈ tasks, ∃ d, Date.read task.date = .ok d) →
        (select tasks query limit).Pairwise DueInOrder ∧
          (select tasks query limit).length =
            min limit (tasks.filter fun task => query.all (·.matches task)).length ∧
          ∃ leftOut, (select tasks query limit ++ leftOut).Perm
              (tasks.filter fun task => query.all (·.matches task)) ∧
            ∀ kept ∈ select tasks query limit, ∀ other ∈ leftOut, DueInOrder kept other := by
  refine ⟨fun d e hd he => (Date.lex_bytesOf_text_iff hd he).symm, fun tasks query limit stored => ?_⟩
  let sorted := (tasks.filter (isFound query)).mergeSort Task.dueNotAfter
  have selected : select tasks query limit = sorted.take limit := rfl
  have found := List.mergeSort_perm (tasks.filter (isFound query)) Task.dueNotAfter
  have read (task : Task) (member : task ∈ sorted) : ∃ d, Date.read task.date = .ok d :=
    stored task (List.mem_of_mem_filter (found.mem_iff.mp member))
  have chronological : sorted.Pairwise DueInOrder :=
    (List.pairwise_mergeSort Task.dueNotAfter_trans Task.dueNotAfter_total _).imp_of_mem
      fun {a b} ha hb inOrder => dueInOrder_of_dueNotAfter (read a ha) (read b hb) inOrder
  rw [selected]
  refine ⟨chronological.sublist (List.take_sublist _ _), ?_, sorted.drop limit, ?_, ?_⟩
  · rw [List.length_take, found.length_eq]
    rfl
  · rw [List.take_append_drop]
    exact found
  · rw [← List.take_append_drop limit sorted] at chronological
    exact (List.pairwise_append.mp chronological).2.2

/-- The last day of the year 999 and the next one: the zero before the shorter year keeps it first,
    and the later of two tasks is the one that is left out. -/
theorem year_999_is_listed_before_1000 :
    let d : Date := ⟨999, 12, 31, by decide, by decide⟩
    let e : Date := ⟨1000, 1, 1, by decide, by decide⟩
    let early : Task := { title := "early", date := "09991231" }
    let late : Task := { title := "late", date := "10000101" }
    ((0 ≤ d.year ∧ d.year ≤ 9999) ∧ (0 ≤ e.year ∧ e.year ≤ 9999) ∧
        List.Lex (· < ·) (bytesOf "09991231") (bytesOf "10000101")) ∧
      (∀ task ∈ [late, early], ∃ d, Date.read task.date = .ok d) ∧
      select [late, early] none 1 = [early] ∧ (select [late, early] none 1).length = 1 ∧
      (select [late, early] none 2).Pairwise DueInOrder ∧
      (select [late, early] none 2).length = 2 ∧
      ∃ leftOut, (select [late, early] none 1 ++ leftOut).Perm [late, early] ∧
        ∀ kept ∈ select [late, early] none 1, ∀ other ∈ leftOut, DueInOrder kept other := by
  intro d e early late
  have textD : d.text = "09991231" := by cbv
  have textE : e.text = "10000101" := by cbv
  have readEarly : Date.read early.date = .ok d := by cbv
  have readLate : Date.read late.date = .ok e := by cbv
  have selected : select [late, early] none 1 = [early] := by cbv
  have stored : ∀ task ∈ [late, early], ∃ d, Date.read task.date = .ok d := by
    simp [readEarly, readLate]
  obtain ⟨order, searches⟩ := text_order_is_calendar_order
  have bytes := (order d e (by decide) (by decide)).mp (by decide)
  rw [textD, textE] at bytes
  obtain ⟨-, length, leftOut, all, inOrder⟩ := searches [late, early] none 1 stored
  obtain ⟨bothInOrder, lengthOfBoth, -⟩ := searches [late, early] none 2 stored
  exact ⟨⟨by decide, by decide, bytes⟩, stored, selected, length, bothInOrder, lengthOfBoth, leftOut,
    all, inOrder⟩

end Agenda
