import Mathlib.Tactic
import Agenda.CommandLine.Arguments

/-! # Understanding arguments

A command is understood from its name, options with their values in one argument each, and one
argument that is no option. One lemma for each kind of argument is enough to read such lines,
whatever the values are.
-/

namespace Agenda.CommandLine

variable {grammar : Grammar} {given : Given} {rest : List String}

/-- An option with its value, in one argument. -/
def optionText (name value : String) : String :=
  "--" ++ name ++ "=" ++ value

theorem Shape.ofArgument_optionText {name : String} (h : '=' ∉ name.toList) (value : String) :
    Shape.ofArgument (optionText name value) = .long name (some value) := by
  have characters : (optionText name value).toList =
      '-' :: '-' :: (name.toList ++ '=' :: value.toList) := by
    simp [optionText]
  have before : (name.toList ++ '=' :: value.toList).takeWhile (· != '=') = name.toList := by
    rw [List.takeWhile_append_of_pos]
    · simp
    · intro c member
      exact bne_iff_ne.mpr fun same => h (same ▸ member)
  have after : (name.toList ++ '=' :: value.toList).dropWhile (· != '=') = '=' :: value.toList := by
    rw [List.dropWhile_append_of_pos]
    · simp
    · intro c member
      exact bne_iff_ne.mpr fun same => h (same ▸ member)
  rw [Shape.ofArgument, characters]
  split
  · next ends => simp at ends
  · next tail _ eq =>
      obtain rfl : _ = tail := by simpa using eq
      simp [before, after]
  · next notLong eq =>
      cases eq
      exact (notLong rfl).elim
  · next notLong _ => exact (notLong _ rfl).elim

theorem Grammar.scan_optionText {name value : String} (h : '=' ∉ name.toList)
    (found : grammar.switches.find? (·.name == name) = some { name })
    (fresh : given.value? name = none) :
    grammar.scan given (optionText name value :: rest) =
      grammar.scan { given with values := (name, value) :: given.values } rest := by
  rw [Grammar.scan]
  simp [Grammar.read, Shape.ofArgument_optionText h, Grammar.readLong, found, Grammar.readSwitch,
    Given.addValue, fresh, ValueForm.admits]

theorem Grammar.scan_operand {argument : String} (h : Shape.ofArgument argument = .plain)
    (noCommands : grammar.commands = []) (fits : given.operands.length < grammar.operands) :
    grammar.scan given (argument :: rest) =
      grammar.scan { given with operands := argument :: given.operands } rest := by
  rw [Grammar.scan]
  simp [Grammar.read, h, noCommands, Given.addOperand, fits]

theorem Grammar.scan_onlyOperand {argument : String} {values : List (String × String)}
    (h : Shape.ofArgument argument = .plain) (noCommands : grammar.commands = [])
    (fits : 0 < grammar.operands) :
    grammar.scan ⟨values, []⟩ [argument] = .ok (⟨values, [argument]⟩, none) := by
  have room : (⟨values, []⟩ : Given).operands.length < grammar.operands := fits
  rw [Grammar.scan_operand h noCommands room]
  rfl

theorem ofArguments_of_scan {name : String} {command : Command}
    (isCommand : programGrammar.read name = .command) (notHelp : name ≠ "help")
    (scanned : (commandGrammar name).scan {} rest = .ok (given, none))
    (built : Command.ofGiven name given = .ok command) :
    Invocation.ofArguments (name :: rest) = .ok ⟨given.value? "today", command⟩ := by
  have found : programGrammar.scan {} (name :: rest) = .ok ({}, some (name, rest)) := by
    rw [Grammar.scan, isCommand]
  simp [Invocation.ofArguments, found, scanned, built, Given.value?, bind, Except.bind,
    pure, Except.pure]

end Agenda.CommandLine
