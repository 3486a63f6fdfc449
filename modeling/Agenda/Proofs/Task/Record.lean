import Mathlib.Tactic
import Agenda.Task.Record
import Agenda.Proofs.Json.RoundTrip

/-! # Tasks and completions read back

A task is written without its empty texts, and a member that is missing is read as an empty text.
So each text comes back from the members with its name, of which there is one or none.
-/

namespace Agenda

open Json (Value Text)

namespace Json

variable {name value : String}

/-- The members with a name in what was written for some texts: none for an empty text. -/
def valuesUnlessEmpty (value : String) : List Value :=
  if value.isEmpty then [] else [.string value]

theorem namedMembers?_append {before after : List (Text × Value)}
    {namedBefore namedAfter : List (String × Value)}
    (hb : namedMembers? before = some namedBefore) (ha : namedMembers? after = some namedAfter) :
    namedMembers? (before ++ after) = some (namedBefore ++ namedAfter) := by
  rw [namedMembers?] at hb ha ⊢
  rw [List.mapM_append, hb, ha]
  rfl

theorem namedMembers?_string (name value : String) :
    namedMembers? [(.ofString name, .string value)] = some [(name, .string value)] := by
  simp [namedMembers?]

theorem namedMembers?_memberUnlessEmpty (name value : String) :
    namedMembers? (memberUnlessEmpty name value) =
      some ((valuesUnlessEmpty value).map (name, ·)) := by
  unfold memberUnlessEmpty valuesUnlessEmpty
  split
  · rfl
  · exact namedMembers?_string name value

@[simp] theorem membersNamed_nil (name : String) : membersNamed name [] = [] := rfl

@[simp] theorem membersNamed_cons (name other : String) (value : Value)
    (rest : List (String × Value)) :
    membersNamed name ((other, value) :: rest) =
      if other = name then value :: membersNamed name rest else membersNamed name rest := by
  split
  · next same => simp [membersNamed, same]
  · next different => simp [membersNamed, different]

@[simp] theorem membersNamed_append (name : String) (before after : List (String × Value)) :
    membersNamed name (before ++ after) = membersNamed name before ++ membersNamed name after := by
  simp [membersNamed]

@[simp] theorem membersNamed_map (name other : String) (values : List Value) :
    membersNamed name (values.map (other, ·)) = if other = name then values else [] := by
  split
  · next same => simp [membersNamed, List.filter_map, Function.comp_def, same]
  · next different => simp [membersNamed, different]

theorem optionalString?_of_unlessEmpty {members : List (String × Value)}
    (h : membersNamed name members = valuesUnlessEmpty value) :
    optionalString? name members = some value := by
  by_cases empty : value.isEmpty = true
  · obtain rfl := String.isEmpty_iff.mp empty
    rw [optionalString?, h]
    rfl
  · simp [optionalString?, h, valuesUnlessEmpty, empty]

theorem optionalString?_of_one {members : List (String × Value)}
    (h : membersNamed name members = [.string value]) :
    optionalString? name members = some value := by
  simp [optionalString?, h]

@[simp] theorem chars?_ofString (s : String) : (Text.ofString s).chars? = some s.toList :=
  Text.chars?_ofChars s.toList

@[simp] theorem isKeepable_string (depth : Nat) (s : String) :
    (Value.string s).isKeepable depth = true := by
  simp [Value.string, Value.isKeepable]

theorem isNumberFree_string (s : String) : (Value.string s).IsNumberFree :=
  .text (.ofString s)

theorem isNumberFree_memberUnlessEmpty (name value : String) :
    ∀ member ∈ memberUnlessEmpty name value, member.2.IsNumberFree := by
  intro member among
  unfold memberUnlessEmpty at among
  split at among
  · cases among
  · rw [List.mem_singleton.mp among]
    exact isNumberFree_string value

end Json

namespace Task

/-- A task is read from an object if the members with each name are those that the task has. -/
theorem ofJson?_object {task : Task} {members : List (Text × Value)}
    {named : List (String × Value)} (h : Json.namedMembers? members = some named)
    (id : Json.membersNamed "id" named = Json.valuesUnlessEmpty task.id)
    (date : Json.membersNamed "date" named = Json.valuesUnlessEmpty task.date)
    (title : Json.membersNamed "title" named = [.string task.title])
    (comment : Json.membersNamed "comment" named = Json.valuesUnlessEmpty task.comment)
    (repeatText : Json.membersNamed "repeat" named = Json.valuesUnlessEmpty task.repeatText) :
    ofJson? (.object members) = some task := by
  simp only [ofJson?, h, Json.optionalString?_of_unlessEmpty id,
    Json.optionalString?_of_unlessEmpty date, Json.optionalString?_of_one title,
    Json.optionalString?_of_unlessEmpty comment, Json.optionalString?_of_unlessEmpty repeatText,
    Option.bind_eq_bind, Option.bind_some]
  rfl

variable (task : Task)

theorem ofJson?_toJson : ofJson? task.toJson = some task := by
  have named := Json.namedMembers?_append
    (Json.namedMembers?_append
      (Json.namedMembers?_append
        (Json.namedMembers?_append (Json.namedMembers?_memberUnlessEmpty "id" task.id)
          (Json.namedMembers?_memberUnlessEmpty "date" task.date))
        (Json.namedMembers?_string "title" task.title))
      (Json.namedMembers?_memberUnlessEmpty "comment" task.comment))
    (Json.namedMembers?_memberUnlessEmpty "repeat" task.repeatText)
  apply ofJson?_object named <;> simp

theorem ofJson?_toSortedJson : ofJson? task.toSortedJson = some task := by
  have named := Json.namedMembers?_append
    (Json.namedMembers?_append
      (Json.namedMembers?_append
        (Json.namedMembers?_append (Json.namedMembers?_memberUnlessEmpty "comment" task.comment)
          (Json.namedMembers?_memberUnlessEmpty "date" task.date))
        (Json.namedMembers?_memberUnlessEmpty "id" task.id))
      (Json.namedMembers?_memberUnlessEmpty "repeat" task.repeatText))
    (Json.namedMembers?_string "title" task.title)
  apply ofJson?_object named <;> simp

theorem isNumberFree_toJson : task.toJson.IsNumberFree := by
  refine .object ?_
  simp only [List.forall_mem_append, List.forall_mem_singleton]
  exact ⟨⟨⟨⟨Json.isNumberFree_memberUnlessEmpty "id" task.id,
    Json.isNumberFree_memberUnlessEmpty "date" task.date⟩,
    Json.isNumberFree_string task.title⟩,
    Json.isNumberFree_memberUnlessEmpty "comment" task.comment⟩,
    Json.isNumberFree_memberUnlessEmpty "repeat" task.repeatText⟩

theorem isNumberFree_toSortedJson : task.toSortedJson.IsNumberFree := by
  refine .object ?_
  simp only [List.forall_mem_append, List.forall_mem_singleton]
  exact ⟨⟨⟨⟨Json.isNumberFree_memberUnlessEmpty "comment" task.comment,
    Json.isNumberFree_memberUnlessEmpty "date" task.date⟩,
    Json.isNumberFree_memberUnlessEmpty "id" task.id⟩,
    Json.isNumberFree_memberUnlessEmpty "repeat" task.repeatText⟩,
    Json.isNumberFree_string task.title⟩

theorem ofJsonText?_json_append (blanks : String)
    (h : ∀ c ∈ blanks.toList, Json.isBlank c = true) :
    ofJsonText? (task.json ++ blanks) = some task := by
  simp [ofJsonText?, json, task.isNumberFree_toJson.read_render _ h, ofJson?_toJson]

theorem ofJsonText?_json : ofJsonText? task.json = some task := by
  simpa using task.ofJsonText?_json_append "" (by simp)

theorem json_injective : Function.Injective json := by
  intro a b same
  have read := b.ofJsonText?_json
  rw [← same, a.ofJsonText?_json] at read
  exact Option.some_inj.mp read

/-- Tasks in an array, each as an object with its members in alphabetical order. -/
def arrayOf (tasks : List Task) : Value :=
  .array (tasks.map toSortedJson)

theorem mapM_ofJson?_toSortedJson (tasks : List Task) :
    (tasks.map toSortedJson).mapM ofJson? = some tasks := by
  induction tasks with
  | nil => rfl
  | cons task rest ih =>
      rw [List.map_cons, List.mapM_cons, ofJson?_toSortedJson, ih]
      rfl

theorem isNumberFree_arrayOf (tasks : List Task) : (arrayOf tasks).IsNumberFree := by
  refine .array fun item among => ?_
  obtain ⟨task, -, rfl⟩ := List.mem_map.mp among
  exact task.isNumberFree_toSortedJson

theorem listOfJsonText?_render (tasks : List Task) :
    listOfJsonText? (String.ofList (arrayOf tasks).render) = some tasks := by
  rw [listOfJsonText?, String.toList_ofList, (isNumberFree_arrayOf tasks).read_render_self]
  exact mapM_ofJson?_toSortedJson tasks

end Task

namespace Completion

theorem ofJson?_toJson (completion : Completion) :
    ofJson? completion.toJson = some completion := by
  cases completion with
  | delete =>
      simp [toJson, ofJson?, Json.namedMembers?, Json.requiredString?]
  | reschedule date =>
      simp [toJson, ofJson?, Json.namedMembers?, Json.requiredString?]

theorem isKeepable_toJson (completion : Completion) :
    completion.toJson.isKeepable Json.depthLimit = true := by
  cases completion with
  | delete => rfl
  | reschedule date =>
      simp [toJson, Value.isKeepable, Json.keepableMembers, Json.depthLimit]

theorem isNumberFree_toJson (completion : Completion) : completion.toJson.IsNumberFree := by
  cases completion with
  | delete =>
      refine .object fun member among => ?_
      rw [List.mem_singleton.mp among]
      exact Json.isNumberFree_string "delete"
  | reschedule date =>
      refine .object fun member among => ?_
      rcases List.mem_pair.mp among with rfl | rfl
      · exact Json.isNumberFree_string "reschedule"
      · exact Json.isNumberFree_string date

theorem ofJsonText?_json (completion : Completion) :
    ofJsonText? completion.json = some completion := by
  simp [ofJsonText?, json, completion.isNumberFree_toJson.read_render_self, isKeepable_toJson,
    ofJson?_toJson]

theorem json_injective : Function.Injective json := by
  intro a b same
  have read := b.ofJsonText?_json
  rw [← same, a.ofJsonText?_json] at read
  exact Option.some_inj.mp read

end Completion

end Agenda
