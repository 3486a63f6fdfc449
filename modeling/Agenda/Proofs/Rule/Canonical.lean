import Mathlib.Tactic
import Agenda.Table
import Agenda.Proofs.Rule.Written

/-! # The canonical text of a rule

A text that is read as a rule may be rewritten as the text of that rule: it says the same, it counts
the same next dates, and rewriting it again changes nothing. Tables show it in place of the text
that is stored.
-/

namespace Agenda

namespace Rule

variable {text : String} {rule : Rule}

theorem validated_of_ofText (h : ofText text = .ok rule) : rule.validated = .ok rule :=
  validated_of_isChecked (isChecked_of_ofText h).1

theorem ofText_text_of_ofText (h : ofText text = .ok rule) : ofText rule.text = .ok rule := by
  rw [ofText_text (isChecked_of_ofText h).2, validated_of_ofText h]

end Rule

theorem nextDate_of_sameRule {text other : String} (h : Rule.ofText text = Rule.ofText other)
    (now : Date) (anchor : String) : nextDate now anchor text = nextDate now anchor other := by
  rw [nextDate, nextDate, h]

namespace Table

/-- The cell of a task in the column with a heading. -/
def cellUnder? (name : String) (task : Task) : Option Cell :=
  (heading.zip (row task)).lookup (cell name)

theorem cellUnder?_repeat {task : Task} {rule : Rule} (h : task.rule = .ok rule) :
    cellUnder? "Repeat" task = some (cell rule.text) := by
  show some (repeatCell task) = _
  rw [repeatCell, h]

end Table

/-- A text that is read as a rule says the same as the text of this rule. That is read as the same
    rule, which the check leaves as it is, and so it is its own canonical text. Both texts have the
    same next dates, or none for the same reason. The table shows a text with this meaning too. -/
theorem canonical_text_says_the_same {text : String} {rule : Rule}
    (h : Rule.ofText text = .ok rule) :
    Rule.ofText rule.text = .ok rule ∧ rule.validated = .ok rule ∧
      (Rule.ofText rule.text).map Rule.text = .ok rule.text ∧
      (∀ now anchor, nextDate now anchor text = nextDate now anchor rule.text) ∧
      ∀ task : Task, task.repeatText = text → ∃ shown,
        Table.cellUnder? "Repeat" task = some (Table.cell shown) ∧ Rule.ofText shown = .ok rule := by
  have again := Rule.ofText_text_of_ofText h
  refine ⟨again, Rule.validated_of_ofText h, ?_, fun now anchor => ?_, fun task stored => ?_⟩
  · rw [again]
    rfl
  · exact nextDate_of_sameRule (h.trans again.symm) now anchor
  · have parsed : task.rule = .ok rule := by rw [Task.rule, stored, h]
    exact ⟨rule.text, Table.cellUnder?_repeat parsed, again⟩

/-- Sundays, Mondays and Wednesdays, written with a sign, a leading zero and a day too many. -/
theorem untidy_weekdays_say_the_same :
    let rule : Rule := .weekly [1, 3, 7]
    let task : Task := { date := "20231226", repeatText := "w 07,+1,7,3" }
    let newYear : Date := ⟨2024, 1, 1, by decide, by decide⟩
    Rule.ofText "w 07,+1,7,3" = .ok rule ∧ Rule.ofText "w 1,3,7" = .ok rule ∧
      rule.validated = .ok rule ∧ (Rule.ofText "w 1,3,7").map Rule.text = .ok "w 1,3,7" ∧
      nextDate newYear "20231226" "w 07,+1,7,3" = nextDate newYear "20231226" "w 1,3,7" ∧
      ∃ shown, Table.cellUnder? "Repeat" task = some (Table.cell shown) ∧
        Rule.ofText shown = .ok rule := by
  intro rule task newYear
  have read : Rule.ofText "w 07,+1,7,3" = .ok rule := by cbv
  have text : rule.text = "w 1,3,7" := by cbv
  obtain ⟨again, checked, fixed, dates, shown⟩ := canonical_text_says_the_same read
  rw [text] at again fixed dates
  exact ⟨read, again, checked, fixed, dates newYear "20231226", shown task rfl⟩

end Agenda
