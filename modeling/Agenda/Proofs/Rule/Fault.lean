import Mathlib.Tactic
import Agenda.Proofs.Rule.Grammar

/-! # The first fault of a rule text

Why a text is no rule. A text may have many faults: tokens of either list that are no numbers within
range, empty ones between two separators, more parts than two. The error names the first one in the
order of reading, days before months and both before the number of parts.
-/

namespace Agenda

/-- A part of a rule takes the numerals of the numbers that it may have. -/
def RuleField.Takes (field : RuleField) (token : List Char) : Prop :=
  ∃ value, Numeral.Signed token value ∧ field.Allows value

namespace Rule

def Faultless (field : RuleField) (list : List Char) : Prop :=
  ∃ tokens, Fields.Cuts ',' list tokens ∧ ∀ token ∈ tokens, field.Takes token

/-- The token of a list that is not taken, while all tokens before it are. -/
def FirstFault (field : RuleField) (list fault : List Char) : Prop :=
  ∃ before after, Fields.Cuts ',' list (before ++ fault :: after) ∧
    (∀ token ∈ before, field.Takes token) ∧ ¬ field.Takes fault

/-- The error that names the first fault of a text, one case for each place where it can be. -/
inductive Fault (text : String) : Error → Prop
  | interval {number : List Char} (shape : text.toList = 'd' :: ' ' :: number)
      (fault : ¬ RuleField.interval.Takes number) :
      Fault text (.invalidRuleValue .interval (String.ofList number))
  | weekday {list token : List Char} (shape : text.toList = 'w' :: ' ' :: list)
      (fault : FirstFault .weekday list token) :
      Fault text (.invalidRuleValue .weekday (String.ofList token))
  | monthDay {lists days token : List Char} {others : List (List Char)}
      (shape : text.toList = 'm' :: ' ' :: lists) (parts : Fields.Cuts ' ' lists (days :: others))
      (fault : FirstFault .monthDay days token) :
      Fault text (.invalidRuleValue .monthDay (String.ofList token))
  | month {lists days months token : List Char} {others : List (List Char)}
      (shape : text.toList = 'm' :: ' ' :: lists)
      (parts : Fields.Cuts ' ' lists (days :: months :: others))
      (daysTaken : Faultless .monthDay days) (fault : FirstFault .month months token) :
      Fault text (.invalidRuleValue .month (String.ofList token))
  | thirdPart {lists days months third : List Char} {others : List (List Char)}
      (shape : text.toList = 'm' :: ' ' :: lists)
      (parts : Fields.Cuts ' ' lists (days :: months :: third :: others))
      (daysTaken : Faultless .monthDay days) (monthsTaken : Faultless .month months) :
      Fault text (.unsupportedRule text)
  | noForm (notNothing : text.toList ≠ []) (notYearly : text.toList ≠ ['y'])
      (noNumbers : ∀ letter ∈ ['d', 'w', 'm'], ∀ rest, text.toList ≠ letter :: ' ' :: rest) :
      Fault text (.unsupportedRule text)

variable {field : RuleField} {error : Error}

theorem readValue_eq_error_iff {token : List Char} :
    readValue field token = .error error ↔
      ¬ field.Takes token ∧ error = .invalidRuleValue field (String.ofList token) := by
  by_cases taken : field.Takes token
  · obtain ⟨value, read⟩ := taken
    have accepted := readValue_eq_ok_iff.mpr read
    simp only [accepted, reduceCtorEq, false_iff, not_and]
    exact fun notTaken => absurd ⟨value, read⟩ notTaken
  · have refused : readValue field token =
        .error (.invalidRuleValue field (String.ofList token)) := by
      unfold readValue
      split
      · next value numeral =>
          refine if_neg fun allows => taken ⟨value, ?_, allows⟩
          exact Numeral.integer?_eq_some_iff.mp numeral
      · rfl
    simp [refused, taken, eq_comm]

theorem exists_readValues_iff {tokens : List (List Char)} :
    (∃ values, readValues field tokens = .ok values) ↔ ∀ token ∈ tokens, field.Takes token := by
  induction tokens with
  | nil => simp [readValues]
  | cons token rest ih =>
      simp only [List.forall_mem_cons, ← ih, readValues, Error.bind_eq_ok_iff, readValue_eq_ok_iff]
      constructor
      · rintro ⟨_, value, taken, values, others, -⟩
        exact ⟨⟨value, taken⟩, values, others⟩
      · rintro ⟨⟨value, taken⟩, values, others⟩
        exact ⟨_, value, taken, values, others, rfl⟩

theorem readValues_eq_error_iff {tokens : List (List Char)} :
    readValues field tokens = .error error ↔
      ∃ before fault after, tokens = before ++ fault :: after ∧
        (∀ token ∈ before, field.Takes token) ∧ ¬ field.Takes fault ∧
        error = .invalidRuleValue field (String.ofList fault) := by
  induction tokens with
  | nil => simp [readValues]
  | cons token rest ih =>
      rw [readValues, Error.bind_eq_error_iff]
      simp only [Error.bind_pure_eq_error_iff, readValue_eq_error_iff, ih]
      constructor
      · rintro (⟨fault, eq⟩ | ⟨value, read, before, fault, after, rfl, taken, rest⟩)
        · exact ⟨[], token, rest, rfl, by simp, fault, eq⟩
        · exact ⟨token :: before, fault, after, rfl,
            List.forall_mem_cons.mpr ⟨⟨value, readValue_eq_ok_iff.mp read⟩, taken⟩, rest⟩
      · rintro ⟨before, fault, after, shape, taken, notTaken, eq⟩
        cases before with
        | nil =>
            cases shape
            exact .inl ⟨notTaken, eq⟩
        | cons first before =>
            cases shape
            obtain ⟨⟨value, read⟩, taken⟩ := List.forall_mem_cons.mp taken
            exact .inr ⟨value, readValue_eq_ok_iff.mpr read, before, fault, after, rfl, taken,
              notTaken, eq⟩

theorem exists_readList_iff {list : List Char} :
    (∃ values, readList field list = .ok values) ↔ Faultless field list := by
  simp only [readList, Error.bind_eq_ok_iff, Faultless, ← Fields.split_eq_iff, exists_eq_left',
    ← exists_readValues_iff]
  constructor
  · rintro ⟨_, values, read, -⟩
    exact ⟨values, read⟩
  · rintro ⟨values, read⟩
    exact ⟨_, values, read, rfl⟩

theorem readList_eq_error_iff {list : List Char} :
    readList field list = .error error ↔
      ∃ fault, FirstFault field list fault ∧
        error = .invalidRuleValue field (String.ofList fault) := by
  simp only [readList, Error.bind_pure_eq_error_iff, readValues_eq_error_iff, FirstFault,
    Fields.split_eq_iff]
  constructor
  · rintro ⟨before, fault, after, cut, taken, notTaken, eq⟩
    exact ⟨fault, ⟨before, after, cut, taken, notTaken⟩, eq⟩
  · rintro ⟨fault, ⟨before, after, cut, taken, notTaken⟩, eq⟩
    exact ⟨before, fault, after, cut, taken, notTaken, eq⟩

variable {text : String}

theorem fault_of_ofText (h : ofText text = .error error) : Fault text error := by
  unfold ofText at h
  split at h
  · cases h
  · cases h
  · next number shape =>
      obtain ⟨fault, rfl⟩ := readValue_eq_error_iff.mp (Error.bind_pure_eq_error_iff.mp h)
      exact .interval shape fault
  · next list shape =>
      obtain ⟨token, fault, rfl⟩ := readList_eq_error_iff.mp (Error.bind_pure_eq_error_iff.mp h)
      exact .weekday shape fault
  · next lists shape =>
      split at h
      · next none => exact absurd none (Fields.split_ne_nil ' ' lists)
      · next days parts =>
          obtain ⟨token, fault, rfl⟩ :=
            readList_eq_error_iff.mp (Error.bind_pure_eq_error_iff.mp h)
          exact .monthDay shape (Fields.split_eq_iff.mp parts) fault
      · next days months more parts =>
          have cut := Fields.split_eq_iff.mp parts
          rcases Error.bind_eq_error_iff.mp h with refused | ⟨codes, readDays, rest⟩
          · obtain ⟨token, fault, rfl⟩ := readList_eq_error_iff.mp refused
            exact .monthDay shape cut fault
          · have daysTaken := exists_readList_iff.mp ⟨codes, readDays⟩
            rcases Error.bind_eq_error_iff.mp rest with refused | ⟨numbers, readMonths, rest⟩
            · obtain ⟨token, fault, rfl⟩ := readList_eq_error_iff.mp refused
              exact .month shape cut daysTaken fault
            · have monthsTaken := exists_readList_iff.mp ⟨numbers, readMonths⟩
              cases more with
              | nil => cases rest
              | cons third others =>
                  cases rest
                  exact .thirdPart shape cut daysTaken monthsTaken
  · next notNothing notYearly noInterval noWeekdays noMonthDays =>
      cases h
      refine .noForm notNothing notYearly fun letter among rest shape => ?_
      simp only [List.mem_cons, List.not_mem_nil, or_false] at among
      rcases among with rfl | rfl | rfl
      · exact noInterval rest shape
      · exact noWeekdays rest shape
      · exact noMonthDays rest shape

theorem ofText_of_fault (h : Fault text error) : ofText text = .error error := by
  unfold ofText
  cases h with
  | interval shape fault =>
      rw [shape]
      exact Error.bind_pure_eq_error_iff.mpr (readValue_eq_error_iff.mpr ⟨fault, rfl⟩)
  | weekday shape fault =>
      rw [shape]
      exact Error.bind_pure_eq_error_iff.mpr (readList_eq_error_iff.mpr ⟨_, fault, rfl⟩)
  | @monthDay _ _ _ others shape parts fault =>
      have refused := readList_eq_error_iff.mpr ⟨_, fault, rfl⟩
      rw [shape]
      cases others <;> simp only [Fields.split_eq_iff.mpr parts] <;>
        exact Error.bind_eq_error_iff.mpr (.inl refused)
  | month shape parts daysTaken fault =>
      obtain ⟨codes, readDays⟩ := exists_readList_iff.mpr daysTaken
      have refused := readList_eq_error_iff.mpr ⟨_, fault, rfl⟩
      rw [shape]
      simp only [Fields.split_eq_iff.mpr parts]
      exact Error.bind_eq_error_iff.mpr
        (.inr ⟨codes, readDays, Error.bind_eq_error_iff.mpr (.inl refused)⟩)
  | thirdPart shape parts daysTaken monthsTaken =>
      obtain ⟨codes, readDays⟩ := exists_readList_iff.mpr daysTaken
      obtain ⟨numbers, readMonths⟩ := exists_readList_iff.mpr monthsTaken
      rw [shape]
      simp only [Fields.split_eq_iff.mpr parts, readDays, readMonths]
      rfl
  | noForm notNothing notYearly noNumbers =>
      split
      · next shape => exact absurd shape notNothing
      · next shape => exact absurd shape notYearly
      · next shape => exact absurd shape (noNumbers 'd' (by simp) _)
      · next shape => exact absurd shape (noNumbers 'w' (by simp) _)
      · next shape => exact absurd shape (noNumbers 'm' (by simp) _)
      · rfl

/-- A text is refused exactly for its first fault. -/
theorem ofText_eq_error_iff : ofText text = .error error ↔ Fault text error :=
  ⟨fault_of_ofText, ofText_of_fault⟩

/-- The error of a text that is no rule names the first fault in it. After `d` this is all that
    follows, after `w` the first token that is no weekday, and after `m` the first token of the first
    part that is no day of a month, else the first one of the second part that is no month, else
    that there is a third part. Any other text is named as a whole. All tokens before the named one
    are numbers within range. -/
theorem error_names_first_fault (h : ofText text = .error error) :
    (∀ number, text.toList = 'd' :: ' ' :: number →
        error = .invalidRuleValue .interval (String.ofList number)) ∧
      (∀ list, text.toList = 'w' :: ' ' :: list → ∃ token, FirstFault .weekday list token ∧
        error = .invalidRuleValue .weekday (String.ofList token)) ∧
      (∀ lists, text.toList = 'm' :: ' ' :: lists →
        ∃ days others, Fields.Cuts ' ' lists (days :: others) ∧
          ((∃ token, FirstFault .monthDay days token ∧
              error = .invalidRuleValue .monthDay (String.ofList token)) ∨
            Faultless .monthDay days ∧ ∃ months more, others = months :: more ∧
              ((∃ token, FirstFault .month months token ∧
                  error = .invalidRuleValue .month (String.ofList token)) ∨
                Faultless .month months ∧ more ≠ [] ∧ error = .unsupportedRule text))) ∧
      ((∀ letter ∈ ['d', 'w', 'm'], ∀ rest, text.toList ≠ letter :: ' ' :: rest) →
        error = .unsupportedRule text) := by
  have first := fault_of_ofText h
  refine ⟨fun number shape => ?_, fun list shape => ?_, fun lists shape => ?_, fun noNumbers => ?_⟩
  · cases first with
    | interval same =>
        cases shape.symm.trans same
        rfl
    | noForm _ _ noNumbers => exact absurd shape (noNumbers 'd' (by simp) number)
    | weekday same | monthDay same | month same | thirdPart same => cases shape.symm.trans same
  · cases first with
    | weekday same fault =>
        cases shape.symm.trans same
        exact ⟨_, fault, rfl⟩
    | noForm _ _ noNumbers => exact absurd shape (noNumbers 'w' (by simp) list)
    | interval same | monthDay same | month same | thirdPart same => cases shape.symm.trans same
  · cases first with
    | monthDay same parts fault =>
        cases shape.symm.trans same
        exact ⟨_, _, parts, .inl ⟨_, fault, rfl⟩⟩
    | month same parts daysTaken fault =>
        cases shape.symm.trans same
        exact ⟨_, _, parts, .inr ⟨daysTaken, _, _, rfl, .inl ⟨_, fault, rfl⟩⟩⟩
    | thirdPart same parts daysTaken monthsTaken =>
        cases shape.symm.trans same
        exact ⟨_, _, parts, .inr ⟨daysTaken, _, _, rfl,
          .inr ⟨monthsTaken, List.cons_ne_nil _ _, rfl⟩⟩⟩
    | noForm _ _ noNumbers => exact absurd shape (noNumbers 'm' (by simp) lists)
    | interval same | weekday same => cases shape.symm.trans same
  · cases first with
    | noForm => rfl
    | interval same => exact absurd same (noNumbers 'd' (by simp) _)
    | weekday same => exact absurd same (noNumbers 'w' (by simp) _)
    | monthDay same | month same | thirdPart same => exact absurd same (noNumbers 'm' (by simp) _)

/-- The eighth weekday in front of a token that is no number, and a month that is missing between two
    commas in front of a month too many and of a third part. -/
theorem missing_month_is_named :
    (ofText "w 07,8,x" = .error (.invalidRuleValue .weekday "8") ∧
        FirstFault .weekday ['0', '7', ',', '8', ',', 'x'] ['8']) ∧
      (ofText "m -2 2,,13 x" = .error (.invalidRuleValue .month "") ∧
        ∃ days months more,
          Fields.Cuts ' ' ['-', '2', ' ', '2', ',', ',', '1', '3', ' ', 'x']
            (days :: months :: more) ∧
          Faultless .monthDay days ∧ FirstFault .month months []) := by
  have weekday : ofText "w 07,8,x" = .error (.invalidRuleValue .weekday "8") := by cbv
  have month : ofText "m -2 2,,13 x" = .error (.invalidRuleValue .month "") := by cbv
  obtain ⟨-, weekdays, -, -⟩ := error_names_first_fault weekday
  obtain ⟨-, -, monthDays, -⟩ := error_names_first_fault month
  obtain ⟨token, fault, named⟩ := weekdays _ rfl
  obtain ⟨days, others, parts, ⟨_, -, other⟩ | ⟨daysTaken, months, more, rfl, faulty⟩⟩ :=
    monthDays _ rfl
  · cases other
  · obtain ⟨missing, monthFault, empty⟩ | ⟨-, -, other⟩ := faulty
    · obtain rfl : missing = [] := by simpa using empty.symm
      obtain rfl : token = ['8'] := by simpa [String.ext_iff, eq_comm] using named
      exact ⟨⟨weekday, fault⟩, month, days, months, more, parts, daysTaken, monthFault⟩
    · cases other

end Rule

end Agenda
