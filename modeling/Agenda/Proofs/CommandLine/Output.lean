import Mathlib.Tactic
import Agenda.Proofs.CommandLine.FoundTasks
import Agenda.Proofs.CommandLine.Run
import Agenda.Proofs.Json.Printable

/-! # Results for other programs

The result of every command but a search for a table is one line, so that other programs can read
it. A command that fails prints no part of a result.
-/

namespace Agenda

namespace CommandLine

def IsLine (text : String) : Prop :=
  ∃ line, text = line ++ "\n" ∧ '\n' ∉ line.toList

/-- Whether a command prints its result as one line: any but a search for a table. -/
def Command.printsLine : Command → Bool
  | .search _ _ json _ => json
  | _ => true

theorem isLine_render {value : Json.Value} (h : value.IsNumberFree) :
    IsLine (String.ofList value.render ++ "\n") := by
  refine ⟨_, rfl, ?_⟩
  rw [String.toList_ofList]
  exact h.isPrintable_render.newline_notMem

theorem isLine_of_nextDate {today : Date} {date rule text : String}
    (h : nextDate today date rule = .ok text) : IsLine (text ++ "\n") := by
  obtain ⟨due, checked, next, -, -, -, rfl⟩ := nextDate_eq_ok_iff.mp h
  exact ⟨_, rfl, next.newline_notMem_text⟩

variable {around : Surroundings} {settings : Settings}

theorem Succeeds.isLine {invocation : Invocation} {printed : Printed}
    (h : Succeeds around settings invocation printed)
    (forPrograms : invocation.command.printsLine = true) : IsLine printed.stdout := by
  cases h with
  | next _ _ counted => exact isLine_of_nextDate counted
  | add => exact isLine_render (Task.isNumberFree_toJson _)
  | done => exact isLine_render (Completion.isNumberFree_toJson _)
  | check => exact ⟨"ok", rfl, by decide⟩
  | search =>
      cases forPrograms
      exact isLine_render (isNumberFree_foundValue _)

end CommandLine

open CommandLine

/-- A run whose arguments are understood ends in one of two ways. Its command succeeds, and all of
    the result is printed, as one line unless it is a table. Or it fails, and nothing is printed. -/
theorem run_prints_all_or_nothing (around : Surroundings) {arguments : List String}
    {invocation : Invocation} (parsed : Invocation.ofArguments arguments = .ok invocation) :
    let outcome := run around arguments
    (∃ printed, Succeeds around (loadSettings around).1 invocation printed ∧
        outcome.status = 0 ∧ outcome.stdout = printed.stdout ∧
        (invocation.command.printsLine = true → IsLine outcome.stdout)) ∨
      ((∀ printed, ¬Succeeds around (loadSettings around).1 invocation printed) ∧
        outcome.status = 1 ∧ outcome.stdout = "") := by
  intro outcome
  cases performed : invocation.perform around (loadSettings around).1 with
  | ok printed =>
      have succeeds := perform_eq_ok_iff.mp performed
      have ends : outcome = _ := run_of_perform parsed performed
      refine Or.inl ⟨printed, succeeds, ?_⟩
      rw [ends]
      exact ⟨rfl, rfl, succeeds.isLine⟩
  | error failure =>
      have ends : outcome = _ := run_of_failure parsed performed
      refine Or.inr ⟨fun printed succeeds => ?_, ?_⟩
      · rw [perform_eq_ok_iff.mpr succeeds] at performed
        cases performed
      · rw [ends]
        exact ⟨rfl, rfl⟩

/-- A new task with line breaks and control characters in its title and comment, and one whose title
is nothing but a line break. -/
theorem broken_lines_print_all_or_nothing :
    let around : Surroundings :=
      { today := ⟨2024, 1, 10, by decide, by decide⟩, read := fun _ => .error .missing }
    let accepted := run around ["add", "--title", "a\n\"\x01", "--comment=\r\n"]
    let refused := run around ["add", "--title", "\n"]
    (accepted.status = 0 ∧ IsLine accepted.stdout) ∧ refused.status = 1 ∧ refused.stdout = "" := by
  intro around
  have parsed : Invocation.ofArguments ["add", "--title", "a\n\"\x01", "--comment=\r\n"] =
      .ok ⟨none, .add "a\n\"\x01" none (some "\r\n") none⟩ := by cbv
  have blankParsed : Invocation.ofArguments ["add", "--title", "\n"] =
      .ok ⟨none, .add "\n" none none none⟩ := by cbv
  have titled : Blank.isBlankText "a\n\"\x01" = false := by cbv
  have blank : Blank.isBlankText "\n" = true := by cbv
  have settles : ((describedTask "a\n\"\x01" none (some "\r\n") none).dated
      around.today).settledDate around.today = .ok "20240110" := by cbv
  have normal := Task.normalize_eq_ok_iff.mpr ⟨titled, "20240110", settles, rfl⟩
  constructor
  · rcases run_prints_all_or_nothing around parsed with
      ⟨printed, -, status, -, line⟩ | ⟨never, -, -⟩
    · exact ⟨status, line rfl⟩
    · exact (never _ (.add rfl normal)).elim
  · rcases run_prints_all_or_nothing around blankParsed with
      ⟨printed, succeeds, -⟩ | ⟨-, status, stdout⟩
    · cases succeeds with
      | add day accepted =>
          have notBlank := (Task.normalize_eq_ok_iff.mp accepted).1
          rw [describedTask, blank] at notBlank
          cases notBlank
    · exact ⟨status, stdout⟩

end Agenda
