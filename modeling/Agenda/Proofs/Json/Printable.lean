import Mathlib.Tactic
import Agenda.Proofs.Json.RoundTrip

/-! # A written value is one line

The printer writes every control character of a text as an escape. So there is none left in the
compact text of a value without numbers, and a line that holds it goes on to its end.
-/

namespace Agenda.Json

def IsPrintable (cs : List Char) : Prop :=
  ∀ c ∈ cs, ' ' ≤ c

namespace IsPrintable

variable {cs ds : List Char} {c : Char}

theorem nil : IsPrintable [] := by
  simp [IsPrintable]

theorem cons (h : ' ' ≤ c) (rest : IsPrintable cs) : IsPrintable (c :: cs) :=
  List.forall_mem_cons.mpr ⟨h, rest⟩

theorem append (before : IsPrintable cs) (after : IsPrintable ds) : IsPrintable (cs ++ ds) :=
  List.forall_mem_append.mpr ⟨before, after⟩

theorem newline_notMem (h : IsPrintable cs) : '\n' ∉ cs :=
  fun member => absurd (h '\n' member) (by decide)

end IsPrintable

theorem le_hexDigit (n : Nat) : ' ' ≤ hexDigit (n % 16) := by
  have digits : ∀ d < 16, ' ' ≤ hexDigit d := by decide
  exact digits _ (Nat.mod_lt n (by decide))

theorem isPrintable_escapeCode (code : Nat) : IsPrintable (escapeCode code) := by
  simp [IsPrintable, escapeCode, le_hexDigit]

theorem TextUnit.isPrintable_render (unit : TextUnit) : IsPrintable unit.render := by
  fun_cases TextUnit.render unit with
  | case1 | case2 | case3 | case4 | case5 | case6 | case7 => simp [IsPrintable]
  | case8 c => exact isPrintable_escapeCode c.toNat
  | case9 c _ _ _ _ _ _ _ plain => exact .cons (Char.not_lt.mp plain) .nil
  | case10 bits => exact isPrintable_escapeCode _
  | case11 bits => exact isPrintable_escapeCode _

theorem Text.isPrintable_render (text : Text) : IsPrintable text.render := by
  have units : IsPrintable (text.flatMap TextUnit.render) := by
    intro c member
    obtain ⟨unit, -, among⟩ := List.mem_flatMap.mp member
    exact unit.isPrintable_render c among
  exact .cons (by decide) (units.append (.cons (by decide) .nil))

namespace Value

theorem isPrintable_renderItems {items : List Value}
    (h : ∀ item ∈ items, IsPrintable item.render) : IsPrintable (renderItems items) := by
  induction items with
  | nil => exact .cons (by decide) .nil
  | cons item rest ih =>
      obtain ⟨first, others⟩ := List.forall_mem_cons.mp h
      cases rest with
      | nil => exact first.append (.cons (by decide) .nil)
      | cons next rest => exact first.append (.cons (by decide) (ih others))

theorem isPrintable_renderMembers {members : List (Text × Value)}
    (h : ∀ member ∈ members, IsPrintable member.2.render) :
    IsPrintable (renderMembers members) := by
  induction members with
  | nil => exact .cons (by decide) .nil
  | cons member rest ih =>
      obtain ⟨key, value⟩ := member
      obtain ⟨first, others⟩ := List.forall_mem_cons.mp h
      have named (after : List Char) (ha : IsPrintable after) :
          IsPrintable (key.render ++ ':' :: value.render ++ after) :=
        (key.isPrintable_render.append (.cons (by decide) first)).append ha
      cases rest with
      | nil => exact named _ (.cons (by decide) .nil)
      | cons next rest => exact named _ (.cons (by decide) (ih others))

/-- The text of a value has no control characters, whatever its texts have. -/
theorem IsNumberFree.isPrintable_render {value : Value} (h : value.IsNumberFree) :
    IsPrintable value.render := by
  induction h with
  | null => simp [IsPrintable, render]
  | bool value => cases value <;> simp [IsPrintable, render]
  | text value => exact value.isPrintable_render
  | array _ ih => exact .cons (by decide) (isPrintable_renderItems ih)
  | object _ ih => exact .cons (by decide) (isPrintable_renderMembers ih)

end Value

end Agenda.Json
