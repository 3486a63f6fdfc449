import Mathlib.Tactic
import Mathlib.Data.List.TakeWhile
import Agenda.Proofs.Json.Text

/-! # Reading a written value

The reader takes the compact text of a value without numbers back to that value, whatever containers
are open around it. The stack of open containers carries the induction: to read a value is to end it
on the same stack.
-/

namespace Agenda.Json

theorem skipBlanks_cons {c : Char} (h : isBlank c = false) (s : List Char) :
    skipBlanks (c :: s) = c :: s :=
  List.dropWhile_cons_of_neg (by simp [h])

namespace State

theorem finish_of_step {state next : State} {s rest : List Char}
    (h : state.step (skipBlanks s) = some (next, rest)) : state.finish s = next.finish rest := by
  rw [finish]
  · split
    · next found =>
        rw [h] at found
        cases found
        rfl
    · next stuck =>
        rw [h] at stuck
        cases stuck
  · -- At the end of the text no step is left.
    rintro value rfl atEnd
    rw [atEnd] at h
    cases h

/-- With no container open, a value may only be followed by blanks. -/
theorem finish_ended {value : Value} {s : List Char} (h : ∀ c ∈ s, isBlank c = true) :
    (State.mk [] (.ended value)).finish s = some value := by
  rw [finish]
  exact List.dropWhile_eq_nil_iff.mpr h

end State

variable {item : Value} {items : List Value} {key : Text} {value : Value}
  {members : List (Text × Value)}

theorem readKey_render (key : Text) (rest : List Char) :
    readKey (key.render ++ ':' :: rest) = some (key, rest) := by
  simp only [Text.render, List.cons_append, List.append_assoc, List.nil_append, readKey,
    readText_render]
  rfl

theorem openValue_quote (stack : List Frame) (s : List Char) :
    openValue stack ('"' :: s) =
      (readText s).map fun (read, rest) => (⟨stack, .ended (.text read)⟩, rest) := by
  rw [openValue]
  · cases readText_eq : readText s <;> simp [readScalar, readText_eq]
  all_goals simp

theorem openValue_bracket {c : Char} (notBlank : isBlank c = false) (notBracket : c ≠ ']')
    (stack : List Frame) (s : List Char) :
    openValue stack ('[' :: c :: s) = some (⟨.array [] :: stack, .wanted⟩, c :: s) := by
  simp [openValue, skipBlanks_cons notBlank, notBracket]

theorem openValue_brace {s rest : List Char} (h : readKey (skipBlanks s) = some (key, rest))
    (stack : List Frame) :
    openValue stack ('{' :: s) = some (⟨.object [] key :: stack, .wanted⟩, rest) := by
  simp only [openValue]
  split
  · next closed =>
      rw [closed] at h
      cases h
  · rw [h, Option.map_some]

theorem finish_item_comma (before : List Value) (stack : List Frame) (s : List Char) :
    (State.mk (.array before :: stack) (.ended item)).finish (',' :: s) =
      (State.mk (.array (item :: before) :: stack) .wanted).finish s :=
  State.finish_of_step rfl

theorem finish_item_bracket (before : List Value) (stack : List Frame) (s : List Char) :
    (State.mk (.array before :: stack) (.ended item)).finish (']' :: s) =
      (State.mk stack (.ended (.array (item :: before).reverse))).finish s :=
  State.finish_of_step rfl

theorem finish_member_comma {next : Text} {s rest : List Char}
    (h : readKey (skipBlanks s) = some (next, rest)) (before : List (Text × Value))
    (stack : List Frame) :
    (State.mk (.object before key :: stack) (.ended value)).finish (',' :: s) =
      (State.mk (.object ((key, value) :: before) next :: stack) .wanted).finish rest := by
  refine State.finish_of_step ?_
  rw [skipBlanks_cons (by decide)]
  simp only [State.step, placeValue, h, Option.map_some]

theorem finish_member_brace (before : List (Text × Value)) (stack : List Frame) (s : List Char) :
    (State.mk (.object before key :: stack) (.ended value)).finish ('}' :: s) =
      (State.mk stack (.ended (.object ((key, value) :: before).reverse))).finish s :=
  State.finish_of_step rfl

namespace Value

/-- A value without numbers: what tasks and completions are written as. -/
inductive IsNumberFree : Value → Prop
  | null : IsNumberFree null
  | bool (value : Bool) : IsNumberFree (bool value)
  | text (value : Text) : IsNumberFree (text value)
  | array {items : List Value} (h : ∀ item ∈ items, IsNumberFree item) : IsNumberFree (array items)
  | object {members : List (Text × Value)} (h : ∀ member ∈ members, IsNumberFree member.2) :
    IsNumberFree (object members)

/-- Reading the text of a value ends the value, whatever is open and whatever follows. -/
def ReadsBack (value : Value) : Prop :=
  ∀ (stack : List Frame) (rest : List Char),
    (State.mk stack .wanted).finish (value.render ++ rest) =
      (State.mk stack (.ended value)).finish rest

/-- The text of a value starts with a character that is neither a blank nor a closing bracket. -/
theorem IsNumberFree.exists_render_eq {value : Value} (h : value.IsNumberFree) :
    ∃ c s, value.render = c :: s ∧ isBlank c = false ∧ c ≠ ']' := by
  cases h with
  | null => exact ⟨_, _, rfl, by decide, by decide⟩
  | bool value => cases value <;> exact ⟨_, _, rfl, by decide, by decide⟩
  | text => exact ⟨_, _, rfl, by decide, by decide⟩
  | array => exact ⟨_, _, rfl, by decide, by decide⟩
  | object => exact ⟨_, _, rfl, by decide, by decide⟩

end Value

open Value

/-- Reading the items of an array, after those that were read already. -/
theorem finish_renderItems (h : ∀ v ∈ item :: items, v.ReadsBack) (before : List Value)
    (stack : List Frame) (rest : List Char) :
    (State.mk (.array before :: stack) .wanted).finish (renderItems (item :: items) ++ rest) =
      (State.mk stack (.ended (.array (before.reverse ++ item :: items)))).finish rest := by
  induction items generalizing item before with
  | nil =>
      rw [renderItems, List.append_assoc, h item List.mem_cons_self, List.singleton_append,
        finish_item_bracket, List.reverse_cons]
  | cons next items ih =>
      rw [renderItems, List.append_assoc, h item List.mem_cons_self, List.cons_append,
        finish_item_comma, ih fun v member => h v (List.mem_cons_of_mem item member),
        List.reverse_cons, List.append_assoc, List.singleton_append]

theorem skipBlanks_renderMembers (members : List (Text × Value)) (rest : List Char) :
    skipBlanks (renderMembers members ++ rest) = renderMembers members ++ rest := by
  match members with
  | [] => exact skipBlanks_cons rfl _
  | [_] => exact skipBlanks_cons rfl _
  | _ :: _ :: _ => exact skipBlanks_cons rfl _

theorem exists_readKey_renderMembers (h : ∀ member ∈ (key, value) :: members, member.2.ReadsBack)
    (rest : List Char) :
    ∃ s, readKey (renderMembers ((key, value) :: members) ++ rest) = some (key, s) ∧
      ∀ (before : List (Text × Value)) (stack : List Frame),
        (State.mk (.object before key :: stack) .wanted).finish s =
          (State.mk stack (.ended (.object (before.reverse ++ (key, value) :: members)))).finish
            rest := by
  induction members generalizing key value with
  | nil =>
      refine ⟨value.render ++ '}' :: rest, ?_, fun before stack => ?_⟩
      · simp only [renderMembers, List.append_assoc, List.cons_append, List.nil_append,
          readKey_render]
      · rw [h _ List.mem_cons_self, finish_member_brace, List.reverse_cons]
  | cons next members ih =>
      obtain ⟨s, nextKey, goesOn⟩ := ih fun member among => h member (List.mem_cons_of_mem _ among)
      refine ⟨value.render ++ ',' :: (renderMembers (next :: members) ++ rest), ?_,
        fun before stack => ?_⟩
      · simp only [renderMembers, List.append_assoc, List.cons_append, readKey_render]
      · rw [h _ List.mem_cons_self, finish_member_comma (skipBlanks_renderMembers _ _ ▸ nextKey),
          goesOn, List.reverse_cons, List.append_assoc, List.singleton_append]

namespace Value

theorem readsBack_text (value : Text) : (text value).ReadsBack := by
  intro stack rest
  refine State.finish_of_step ?_
  rw [render, Text.render, List.cons_append, List.cons_append, skipBlanks_cons (by decide),
    List.append_assoc, List.singleton_append, State.step, openValue_quote, readText_render,
    Option.map_some]

theorem readsBack_array {items : List Value} (numberFree : ∀ item ∈ items, item.IsNumberFree)
    (h : ∀ item ∈ items, item.ReadsBack) : (array items).ReadsBack := by
  intro stack rest
  cases items with
  | nil => exact State.finish_of_step rfl
  | cons item items =>
      refine Eq.trans (State.finish_of_step ?_) (finish_renderItems h [] stack rest)
      obtain ⟨c, s, item_eq, notBlank, notBracket⟩ :=
        (numberFree item List.mem_cons_self).exists_render_eq
      obtain ⟨s, items_eq⟩ : ∃ s, renderItems (item :: items) ++ rest = c :: s := by
        cases items <;> simp [renderItems, item_eq]
      rw [render, List.cons_append, skipBlanks_cons (by decide), items_eq, State.step,
        openValue_bracket notBlank notBracket]

theorem readsBack_object {members : List (Text × Value)}
    (h : ∀ member ∈ members, member.2.ReadsBack) : (object members).ReadsBack := by
  intro stack rest
  cases members with
  | nil => exact State.finish_of_step rfl
  | cons member members =>
      obtain ⟨s, firstKey, goesOn⟩ := exists_readKey_renderMembers h rest
      refine Eq.trans (State.finish_of_step ?_) (goesOn [] stack)
      rw [render, List.cons_append, skipBlanks_cons (by decide), State.step]
      exact openValue_brace ((skipBlanks_renderMembers _ _).symm ▸ firstKey) stack

theorem IsNumberFree.readsBack {value : Value} (h : value.IsNumberFree) : value.ReadsBack := by
  induction h with
  | null => exact fun stack rest => State.finish_of_step rfl
  | bool value => cases value <;> exact fun stack rest => State.finish_of_step rfl
  | text value => exact readsBack_text value
  | array numberFree ih => exact readsBack_array numberFree ih
  | object _ ih => exact readsBack_object ih

/-- The reader inverts the printer, with blanks after the text. -/
theorem IsNumberFree.read_render {value : Value} (h : value.IsNumberFree) (blanks : List Char)
    (hb : ∀ c ∈ blanks, isBlank c = true) : read (value.render ++ blanks) = some value := by
  rw [read, h.readsBack, State.finish_ended hb]

theorem IsNumberFree.read_render_self {value : Value} (h : value.IsNumberFree) :
    read value.render = some value := by
  simpa using h.read_render [] (by simp)

end Value

end Agenda.Json
