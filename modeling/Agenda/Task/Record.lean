import Agenda.Json.Magnitude
import Agenda.Json.Printer
import Agenda.Json.Reader
import Agenda.Task.Basic

/-! # Tasks and completions as JSON

A task is written as an object that leaves out empty texts other than the title. It is read from an
object, with any further members ignored, or from an array of its texts in order. A completion is
told by its `action`; all that comes with it has to be readable, whether or not it is kept.
-/

namespace Agenda

open Json (Value Text)

namespace Json

/-- The members of an object, with keys that stand for characters. -/
def namedMembers? (members : List (Text × Value)) : Option (List (String × Value)) :=
  members.mapM fun (key, value) => key.string?.map (·, value)

def membersNamed (name : String) (members : List (String × Value)) : List Value :=
  (members.filter (·.1 == name)).map (·.2)

def requiredString? (name : String) (members : List (String × Value)) : Option String :=
  match membersNamed name members with
  | [value] => value.string?
  | _ => none

/-- The string of the one member with a name, and an empty one if there is none. -/
def optionalString? (name : String) (members : List (String × Value)) : Option String :=
  match membersNamed name members with
  | [] => some ""
  | [value] => value.string?
  | _ => none

/-- The member with a name and a string, left out if the string is empty. -/
def memberUnlessEmpty (name value : String) : List (Text × Value) :=
  if value.isEmpty then [] else [(.ofString name, .string value)]

mutual

/-- Whether a value can be kept: its texts stand for characters, its numbers fit a double, and it
holds no more than `depth` containers inside one another. -/
def Value.isKeepable (depth : Nat) : Value → Bool
  | .null => true
  | .bool _ => true
  | .number n => n.isFinite
  | .text text => text.chars?.isSome
  | .array items => 0 < depth && keepableItems (depth - 1) items
  | .object members => 0 < depth && keepableMembers (depth - 1) members

def keepableItems (depth : Nat) : List Value → Bool
  | [] => true
  | item :: rest => item.isKeepable depth && keepableItems depth rest

def keepableMembers (depth : Nat) : List (Text × Value) → Bool
  | [] => true
  | (key, value) :: rest =>
    key.chars?.isSome && value.isKeepable depth && keepableMembers depth rest

end

/-- The number of containers that a kept value may hold inside one another, itself included. -/
def depthLimit : Nat := 127

end Json

namespace Task

def toJson (task : Task) : Value :=
  .object (Json.memberUnlessEmpty "id" task.id ++ Json.memberUnlessEmpty "date" task.date ++
    [(.ofString "title", .string task.title)] ++
    Json.memberUnlessEmpty "comment" task.comment ++
    Json.memberUnlessEmpty "repeat" task.repeatText)

/-- The task as an object with its members in alphabetical order. -/
def toSortedJson (task : Task) : Value :=
  .object (Json.memberUnlessEmpty "comment" task.comment ++
    Json.memberUnlessEmpty "date" task.date ++ Json.memberUnlessEmpty "id" task.id ++
    Json.memberUnlessEmpty "repeat" task.repeatText ++
    [(.ofString "title", .string task.title)])

/-- The task with these texts, in order; missing ones are empty. -/
def ofStrings? : List String → Option Task
  | [] => some {}
  | [id] => some { id }
  | [id, date] => some { id, date }
  | [id, date, title] => some { id, date, title }
  | [id, date, title, comment] => some { id, date, title, comment }
  | [id, date, title, comment, repeatText] => some { id, date, title, comment, repeatText }
  | _ => none

def ofJson? : Value → Option Task
  | .object members => do
    let members ← Json.namedMembers? members
    let id ← Json.optionalString? "id" members
    let date ← Json.optionalString? "date" members
    let title ← Json.optionalString? "title" members
    let comment ← Json.optionalString? "comment" members
    let repeatText ← Json.optionalString? "repeat" members
    return { id, date, title, comment, repeatText }
  | .array items => do
    let strings ← items.mapM Value.string?
    ofStrings? strings
  | _ => none

def json (task : Task) : String :=
  String.ofList task.toJson.render

def ofJsonText? (text : String) : Option Task :=
  (Json.read text.toList).bind ofJson?

/-- The tasks that a text is written for, in an array. -/
def listOfJsonText? (text : String) : Option (List Task) :=
  match Json.read text.toList with
  | some (.array items) => items.mapM ofJson?
  | _ => none

end Task

namespace Completion

def toJson : Completion → Value
  | delete => .object [(.ofString "action", .string "delete")]
  | reschedule date =>
    .object [(.ofString "action", .string "reschedule"), (.ofString "date", .string date)]

def ofJson? : Value → Option Completion
  | .object members => do
    let members ← Json.namedMembers? members
    match ← Json.requiredString? "action" members with
    | "delete" => return delete
    | "reschedule" => (Json.requiredString? "date" members).map reschedule
    | _ => none
  | .array items => do
    match ← items.mapM Value.string? with
    | ["delete"] => return delete
    | ["reschedule", date] => return reschedule date
    | _ => none
  | _ => none

def json (completion : Completion) : String :=
  String.ofList completion.toJson.render

def ofJsonText? (text : String) : Option Completion := do
  let value ← Json.read text.toList
  if value.isKeepable Json.depthLimit then ofJson? value else none

end Completion

end Agenda
