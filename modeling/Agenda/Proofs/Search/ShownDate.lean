import Mathlib.Tactic
import Agenda.Search.Query
import Agenda.Proofs.Calendar.DateText
import Agenda.Proofs.Rule.Canonical
import Agenda.Proofs.Text.Blank
import Agenda.Proofs.Text.Fields

/-! # The date shown finds the task

Tables show a stored date with its day first. Typed into a search, with blanks around it or
without, this text is read as the day, and the search finds exactly the tasks stored for it.
-/

namespace Agenda

namespace Date

variable {d : Date}

theorem displayText_ne_nil (d : Date) : d.displayText.toList ≠ [] := by
  simp [displayText]

theorem notBlank_of_mem_displayText (h : d.IsStorable) :
    ∀ c ∈ d.displayText.toList, Blank.isBlank c = false := by
  intro c member
  exact Blank.isBlank_of_isDigit_or_point (isDigit_or_point_of_mem_displayText h c member)

theorem newline_notMem_displayText (h : d.IsStorable) : '\n' ∉ d.displayText.toList := by
  intro member
  have := notBlank_of_mem_displayText h '\n' member
  exact absurd this (by decide)

end Date

namespace Query

theorem ofText?_eq_onDate_iff {input : String} {d : Date} :
    ofText? input = some (.onDate d) ↔
      Blank.trim input.toList = d.displayText.toList ∧ d.IsStorable := by
  have displayed (cs : List Char) :
      cs = d.displayText.toList ∧ d.IsStorable ↔
        Date.ofDisplayText? (String.ofList cs) = some d := by
    rw [Date.ofDisplayText?_eq_some_iff, ← String.toList_inj, String.toList_ofList, eq_comm]
  rw [displayed]
  unfold ofText?
  split
  · next blank => simp [blank, Date.ofDisplayText?]
  · split
    · next date read => simp [read]
    · next unread => simp [unread]

theorem matches_onDate_iff {d : Date} {task : Task} :
    (onDate d).matches task = true ↔ task.date = d.text := by
  simp [«matches»]

end Query

namespace Table

theorem dateCell_of_read {date : String} {due : Date} (h : Date.read date = .ok due) :
    dateCell date = [due.displayText.toList] := by
  have storable := (Date.read_eq_ok_iff.mp h).2
  have found : Date.ofText? date = some due := Error.whenNone_eq_ok_iff.mp h
  rw [dateCell, found]
  exact Fields.split_of_notMem (Date.newline_notMem_displayText storable)

end Table

/-- The table shows a stored date in one line, with two digits for the day, two for the month and
    four for the year. A search for this line, whatever blanks are around it, is one for the day,
    and it finds exactly the tasks with the same stored text. No search for a day, however it is
    typed, finds other tasks than those whose stored date is read as this day. -/
theorem shown_date_finds_its_tasks :
    (∀ (shown : Task) (due : Date), Date.read shown.date = .ok due →
        ∃ line, Table.cellUnder? "Date" shown = some [line] ∧
          line = Numeral.padded 2 due.day ++ ['.'] ++ Numeral.padded 2 due.month ++ ['.'] ++
            Numeral.padded 4 due.year.natAbs ∧
          (∀ before after : List Char, (∀ c ∈ before, Blank.isBlank c = true) →
            (∀ c ∈ after, Blank.isBlank c = true) →
            Query.ofText? (String.ofList (before ++ line ++ after)) = some (.onDate due)) ∧
          ∀ task : Task, (Query.onDate due).matches task = true ↔ task.date = shown.date) ∧
      ∀ (input : String) (d : Date), Query.ofText? input = some (.onDate d) →
        ∀ task : Task, (Query.onDate d).matches task = true ↔ Date.read task.date = .ok d := by
  constructor
  · intro shown due read
    obtain ⟨text, storable⟩ := Date.read_eq_ok_iff.mp read
    refine ⟨due.displayText.toList, ?_, ?_, ?_, ?_⟩
    · show some (Table.dateCell shown.date) = _
      rw [Table.dateCell_of_read read]
    · simp [Date.displayText, Date.yearText_of_isStorable storable]
    · intro before after hb ha
      refine Query.ofText?_eq_onDate_iff.mpr ⟨?_, storable⟩
      rw [String.toList_ofList]
      exact Blank.trim_surrounded hb ha (Date.notBlank_of_mem_displayText storable)
        due.displayText_ne_nil
    · intro task
      rw [Query.matches_onDate_iff, text]
  · intro input d searched task
    have storable := (Query.ofText?_eq_onDate_iff.mp searched).2
    rw [Query.matches_onDate_iff, Date.read_eq_ok_iff, eq_comm]
    exact (and_iff_left storable).symm

/-- The leap day of the year 0, with an ideographic space and a tab around it: a search for it finds
    a task of that day and none of the day after, nor one whose date is no stored date. -/
theorem leapDay_shown_finds_its_tasks :
    let due : Date := ⟨0, 2, 29, by decide, by decide⟩
    let shown : Task := { title := "leap", date := "00000229" }
    Date.read shown.date = .ok due ∧
      (∃ line, Table.cellUnder? "Date" shown = some [line] ∧ String.ofList line = "29.02.0000") ∧
      Query.ofText? "\u3000 29.02.0000\t" = some (.onDate due) ∧
      (Query.onDate due).matches { title := "other", date := "00000229" } = true ∧
      (Query.onDate due).matches { title := "next day", date := "00000301" } = false ∧
      (Query.onDate due).matches { title := "as shown", date := "29.02.0000" } = false := by
  intro due shown
  have read : Date.read shown.date = .ok due := by cbv
  have unread : Date.read "29.02.0000" = .error (.invalidDate "29.02.0000") := by cbv
  obtain ⟨finds, anySearch⟩ := shown_date_finds_its_tasks
  obtain ⟨line, inTable, line_eq, searched, found⟩ := finds shown due read
  obtain rfl : line = "29.02.0000".toList := line_eq.trans (by cbv)
  have search := searched ['\u3000', ' '] ['\t'] (List.all_eq_true.mp (by cbv))
    (List.all_eq_true.mp (by cbv))
  have typed : String.ofList (['\u3000', ' '] ++ "29.02.0000".toList ++ ['\t']) =
      "\u3000 29.02.0000\t" := by cbv
  rw [typed] at search
  refine ⟨read, ⟨_, inTable, String.ofList_toList⟩, search, (found _).mpr rfl, ?_, ?_⟩
  · rw [Bool.eq_false_iff, ne_eq, found]
    decide
  · rw [Bool.eq_false_iff, ne_eq, anySearch _ due search, unread]
    intro same
    cases same

end Agenda
