import Mathlib.Tactic
import Agenda.Proofs.CommandLine.Directory
import Agenda.Proofs.CommandLine.Run
import Agenda.Proofs.CommandLine.Settings
import Agenda.Proofs.Search.Select
import Agenda.Proofs.Task.Record

/-! # Found tasks are printed in full

A search that prints an object prints the tasks it has selected, each with all of its texts. The
array in the object is a file of tasks itself, and as the same search finds all of them again, it
prints the same object once more.
-/

namespace Agenda

open Json (Value)

/-- The tasks in the result of a search: those in the array that an object has by this name. -/
def Task.foundIn? (text : String) : Option (List Task) :=
  match Json.read text.toList with
  | some (.object members) =>
    match (Json.namedMembers? members).map (Json.membersNamed "tasks") with
    | some [.array items] => items.mapM ofJson?
    | _ => none
  | _ => none

namespace CommandLine

def arrayText (tasks : List Task) : String :=
  String.ofList (Task.arrayOf tasks).render

def foundValue (tasks : List Task) : Value :=
  .object [(.ofString "tasks", Task.arrayOf tasks)]

theorem isNumberFree_foundValue (tasks : List Task) : (foundValue tasks).IsNumberFree := by
  refine .object ?_
  rw [List.forall_mem_singleton]
  exact Task.isNumberFree_arrayOf tasks

theorem foundJson_eq (tasks : List Task) :
    foundJson tasks = "\x7b\"tasks\":" ++ arrayText tasks ++ "\x7d" := by
  have brace : "\x7b\"tasks\":".toList =
      '\x7b' :: (Json.Text.ofString "tasks").render ++ [':'] := by cbv
  have closed : "\x7d".toList = ['\x7d'] := by cbv
  rw [← String.toList_inj, String.toList_append, String.toList_append, brace, closed]
  simp [foundJson, arrayText, Task.arrayOf, Value.render, Value.renderMembers]

theorem foundIn?_foundJson (tasks : List Task) :
    Task.foundIn? (foundJson tasks ++ "\n") = some tasks := by
  have read : Json.read (foundJson tasks ++ "\n").toList = some (foundValue tasks) := by
    rw [String.toList_append, foundJson, String.toList_ofList]
    exact (isNumberFree_foundValue tasks).read_render _ (by simp [Json.isBlank])
  rw [Task.foundIn?, read]
  simpa [foundValue, Json.namedMembers?, Task.arrayOf] using Task.mapM_ofJson?_toSortedJson tasks

/-- A run searches a file with some content for up to `limit` tasks, to be printed as an object. The
limit is an argument of the run, or else the one of the settings in force. -/
def Searches (around : Surroundings) (arguments : List String) (content query : String)
    (limit : Nat) : Prop :=
  ∃ today? input limit? settings,
    Invocation.ofArguments arguments = .ok ⟨today?, .search query input true limit?⟩ ∧
      around.read input = .ok content ∧ InForce around settings ∧
      limit?.getD settings.listLimit = limit

variable {around : Surroundings} {arguments : List String} {content query : String} {limit : Nat}
  {tasks : List Task}

theorem Searches.prints (h : Searches around arguments content query limit)
    (decoded : Task.listOfJsonText? content = some tasks) :
    Prints (run around arguments) (foundJson (select tasks (Query.ofText? query) limit)) := by
  obtain ⟨today?, input, limit?, settings, parsed, read, inForce, rfl⟩ := h
  rw [← inForce_iff.mp inForce]
  have found := readTasks_eq_ok_iff.mpr ⟨content, read, decoded⟩
  exact (prints_iff parsed).mpr ⟨_, .search found, rfl⟩

/-- A search without an option for the limit takes it from the settings that variables and a file
with a number for it make. -/
theorem Searches.of_numberLine {today : Date} {environment : Environment} {files : Directory}
    {input : String} {n : Nat} {settings : Settings}
    (parsed : Invocation.ofArguments arguments = .ok ⟨none, .search query input true none⟩)
    (readTasks : files.read input = .ok content)
    (readSettings : files.read (Settings.path environment) =
      .ok (Toml.numberLine "list_limit" n))
    (small : n < Numeral.signedBound)
    (makes : Settings.Makes environment [("list_limit", .integer n)] settings) :
    Searches { today, environment, read := files.read } arguments content query
      settings.listLimit := by
  have holds : FileHolds { today, environment, read := files.read } [("list_limit", .integer n)] :=
    .of_read readSettings (Settings.read_listLimit small)
  exact ⟨none, input, none, settings, parsed, readTasks, .configured ⟨_, holds, makes⟩, rfl⟩

end CommandLine

open CommandLine

end Agenda
