import Agenda.Search.Select
import Agenda.Settings.Variable
import Agenda.Text.Blank
import Agenda.Toml.Document

/-! # Settings

What can be set for a run of the program: in a file, and above it in environment variables whose
names start with `SKED_`. Settings that cannot be read are an error as a whole.
-/

namespace Agenda

/-- What can be set for a run of the program. -/
structure Settings where
  /-- The number of tasks that a search shows. -/
  listLimit : Nat := defaultListLimit
  /-- How much is reported while the program works. -/
  logLevel : String := "warn"
  deriving Repr, DecidableEq

abbrev Environment := List (String × String)

namespace Settings

/-- The variable that names the file with the settings. -/
def pathVariable : String := "SKED_CONFIG"

/-- The file with the settings: the one that a variable names, or the usual one. -/
def path (environment : Environment) : String :=
  (environment.lookup pathVariable).getD "sked.toml"

/-- Where the file with the settings may be. A path that does not start at the root is followed from
the working directory first, and then from each of the directories above it. -/
def places (environment : Environment) (parents : List String) : List String :=
  let path := path environment
  if path.toList.head? == some '/' then [path]
  else
    path :: parents.map fun parent =>
      if parent.toList.getLast? == some '/' then parent ++ path else parent ++ "/" ++ path

/-- The name of the setting that a variable is for, in lower case and without blanks at either end. -/
def key? (name : String) : Option String :=
  match (Blank.trim name.toList).map Char.toLower with
  | 's' :: 'k' :: 'e' :: 'd' :: '_' :: key => some (String.ofList (Blank.trim key))
  | _ => none

/-- The setting that a variable makes. A point in a variable's name leads into a table. -/
def ofVariable? (name value : String) : Option (String × Setting) := do
  let key ← key? name
  if key == "config" then none
  else
    let parts := Fields.split '.' key.toList
    if parts.any (·.isEmpty) then none
    else
      match parts with
      | [_] => some (key, .ofVariable value)
      | first :: _ => some (String.ofList first, .other)
      | [] => none

/-- The setting that a value in the file makes. -/
def ofToml : Toml.Value → Setting
  | .integer n => if 0 ≤ n then .count n.toNat else .other
  | .string value => .text value
  | _ => .other

/-- The settings that the environment and the entries of the file make, those of the environment
first and of these the last one first. -/
def layers (environment : Environment) (entries : Toml.Entries) : List (String × Setting) :=
  (environment.filterMap fun (name, value) => ofVariable? name value).reverse ++
    entries.map fun (key, value) => (key, ofToml value)

/-- The settings of a run, from the environment and the text of the file if there is one. -/
def load? (environment : Environment) (file : Option String) : Option Settings := do
  let entries ←
    match file with
    | some text => Toml.read text
    | none => some []
  let layers := layers environment entries
  let listLimit ←
    match layers.lookup "list_limit" with
    | none => some defaultListLimit
    | some (.count n) => some n
    | some _ => none
  let logLevel ←
    match layers.lookup "log_level" with
    | none => some "warn"
    | some (.text value) => some value
    | some _ => none
  return { listLimit, logLevel }

end Settings

end Agenda
