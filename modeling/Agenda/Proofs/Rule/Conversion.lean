import Mathlib.Tactic
import Agenda.Proofs.Arithmetic
import Agenda.Proofs.Rule.Grammar

/-! # The numbers of a rule text

Numbers are read with a sign, and most parts of a rule keep them without one. By then each has been
found within range, so that it keeps its value.
-/

namespace Agenda

theorem RuleField.Allows.bounds {field : RuleField} {value : Int} (allows : field.Allows value)
    (otherPart : field ≠ .monthDay) : 1 ≤ value ∧ value ≤ 400 := by
  cases field with
  | monthDay => exact absurd rfl otherPart
  | interval => exact allows
  | weekday | month =>
      obtain ⟨low, high⟩ := allows
      omega

namespace Rule

def loggedNumber (value : Int) : Logged Nat :=
  Logged.natural (.convert .signed32 .unsigned32 value)

def loggedNumbers : List Int → Logged (List Nat)
  | [] => pure []
  | value :: rest => do
    let number ← loggedNumber value
    let numbers ← loggedNumbers rest
    return number :: numbers

/-- The reading of a rule, with the conversions of its numbers. -/
def loggedOfText (text : String) : Logged (Except Error Rule) :=
  match text.toList with
  | [] => pure (.ok once)
  | ['y'] => pure (.ok yearly)
  | 'd' :: ' ' :: number =>
    Logged.afterReading (readValue .interval number) fun n => do
      let n ← loggedNumber n
      return .ok (everyDays n)
  | 'w' :: ' ' :: list =>
    Logged.afterReading (readList .weekday list) fun days => do
      let days ← loggedNumbers days
      return .ok (weekly days)
  | 'm' :: ' ' :: lists =>
    match Fields.split ' ' lists with
    | [] => pure (.error (.unsupportedRule text))
    | [dayList] =>
      Logged.afterReading (readList .monthDay dayList) fun days => pure (.ok (monthly days []))
    | dayList :: monthList :: more =>
      Logged.afterReading (readList .monthDay dayList) fun days =>
        Logged.afterReading (readList .month monthList) fun months => do
          let months ← loggedNumbers months
          return if more.isEmpty then .ok (monthly days months) else .error (.unsupportedRule text)
  | _ => pure (.error (.unsupportedRule text))

@[simp] theorem answer_loggedNumber (value : Int) : (loggedNumber value).answer = value.toNat := rfl

@[simp] theorem answer_loggedNumbers (values : List Int) :
    (loggedNumbers values).answer = values.map Int.toNat := by
  induction values with
  | nil => rfl
  | cons value rest ih => simp [loggedNumbers, ih]

theorem answer_loggedOfText (text : String) : (loggedOfText text).answer = ofText text := by
  fun_cases loggedOfText text with
  | case1 shape | case2 shape => simp [ofText, shape]
  | case3 number shape =>
      simp only [ofText, shape, Logged.answer_afterReading, Logged.answer_bind, answer_loggedNumber]
      rfl
  | case4 list shape =>
      simp only [ofText, shape, Logged.answer_afterReading, Logged.answer_bind, answer_loggedNumbers]
      rfl
  | case5 lists shape fields => simp [ofText, shape, fields]
  | case6 lists shape dayList fields =>
      simp only [ofText, shape, fields, Logged.answer_afterReading]
      rfl
  | case7 lists shape dayList monthList more fields =>
      simp only [ofText, shape, fields, Logged.answer_afterReading, Logged.answer_bind,
        answer_loggedNumbers]
      rfl
  | case8 => simp [ofText]

theorem isSafe_loggedNumber {value : Int} (low : 1 ≤ value) (high : value ≤ 400) :
    (loggedNumber value).IsSafe :=
  Logged.isSafe_natural_iff.mpr (Operation.isSafe_convert (by omega) (by omega))

theorem isSafe_loggedNumbers {values : List Int} (range : ∀ value ∈ values, 1 ≤ value ∧ value ≤ 400) :
    (loggedNumbers values).IsSafe := by
  induction values with
  | nil => exact Logged.isSafe_pure []
  | cons value rest ih =>
      obtain ⟨⟨low, high⟩, others⟩ := List.forall_mem_cons.mp range
      exact Logged.isSafe_bind_iff.mpr ⟨isSafe_loggedNumber low high, (ih others).map _⟩

theorem isSafe_loggedNumbers_of_readList {field : RuleField} {list : List Char} {values : List Int}
    (otherPart : field ≠ .monthDay) (read : readList field list = .ok values) :
    (loggedNumbers values).IsSafe := by
  obtain ⟨written, -, allowed, rfl⟩ := readList_eq_ok_iff.mp read
  apply isSafe_loggedNumbers
  intro value member
  exact (allowed value (mem_ascending.mp member)).bounds otherPart

theorem isSafe_loggedOfText (text : String) : (loggedOfText text).IsSafe := by
  fun_cases loggedOfText text with
  | case1 | case2 | case5 | case8 => exact Logged.isSafe_pure _
  | case3 number =>
      apply Logged.isSafe_afterReading
      intro n read
      obtain ⟨low, high⟩ := (readValue_eq_ok_iff.mp read).2
      exact (isSafe_loggedNumber low high).map _
  | case4 list =>
      apply Logged.isSafe_afterReading
      intro days read
      exact (isSafe_loggedNumbers_of_readList (by decide) read).map _
  | case6 lists _ dayList => exact Logged.isSafe_afterReading fun days _ => Logged.isSafe_pure _
  | case7 lists _ dayList monthList =>
      apply Logged.isSafe_afterReading
      intro days _
      apply Logged.isSafe_afterReading
      intro months read
      exact (isSafe_loggedNumbers_of_readList (by decide) read).map _

end Rule

end Agenda
