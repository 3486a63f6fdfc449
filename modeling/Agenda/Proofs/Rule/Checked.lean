import Mathlib.Tactic
import Agenda.Proofs.Rule.Grammar

/-! # Checked rules

The rules that next dates are counted by: every number within range and every list strictly
increasing. Both ways to such a rule, checking one and reading one, give nothing else. A check
refuses the first number that is out of range and leaves such a rule as it is.
-/

namespace Agenda

/-- A rule whose numbers are within range, with strictly increasing lists. -/
def Rule.IsChecked : Rule → Prop
  | .once | .yearly => True
  | .everyDays n => 1 ≤ n ∧ n ≤ 400
  | .weekly days => IncreasingIn 1 7 days
  | .monthly codes allowed => IncreasingIn (-2) 31 codes ∧ IncreasingIn 1 12 allowed

/-- A rule for weekdays or for days of the month lists at least one. -/
def Rule.HasDays : Rule → Prop
  | .once | .yearly | .everyDays _ => True
  | .weekly days => days ≠ []
  | .monthly codes _ => codes ≠ []

instance (rule : Rule) : Decidable rule.HasDays := by
  cases rule <;> unfold Rule.HasDays <;> infer_instance

namespace Rule

/-- The numbers of a rule in the order of writing, each with the part that it belongs to. -/
def numbers : Rule → List (RuleField × Int)
  | once | yearly => []
  | everyDays n => [(RuleField.interval, (n : Int))]
  | weekly days => (days.map Int.ofNat).map (Prod.mk RuleField.weekday)
  | monthly codes allowed =>
      codes.map (Prod.mk RuleField.monthDay) ++
        (allowed.map Int.ofNat).map (Prod.mk RuleField.month)

/-- The first of some numbers that its part of a rule may not have. -/
def firstRefused? (numbers : List (RuleField × Int)) : Option (RuleField × Int) :=
  numbers.find? fun number => !decide (number.1.Allows number.2)

/-- The refusal of a number, if there is one to refuse. -/
def refuse : Option (RuleField × Int) → Except Error Unit
  | none => .ok ()
  | some number =>
      .error (.invalidRuleValue number.1 (String.ofList (Numeral.signed number.2)))

/-- The rule with each list in the one form that stands for its set of values. -/
def normalized : Rule → Rule
  | weekly days => weekly (ascending days)
  | monthly codes allowed => monthly (ascending codes) (ascending allowed)
  | rule => rule

theorem check_eq_refuse (field : RuleField) (values : List Int) :
    field.check values = refuse (firstRefused? (values.map (Prod.mk field))) := by
  induction values with
  | nil => rfl
  | cons value rest ih =>
      rw [RuleField.check, ih, List.map_cons, firstRefused?, firstRefused?, List.find?_cons]
      by_cases allows : field.Allows value
      · simp only [allows, if_true, decide_true, Bool.not_true]
      · simp only [allows, if_false, decide_false, Bool.not_false, refuse]

/-- A check refuses the first number out of range, and else puts the lists into their form. -/
theorem validated_eq (rule : Rule) :
    rule.validated = (refuse (firstRefused? rule.numbers)).map fun _ => rule.normalized := by
  cases rule with
  | once => rfl
  | yearly => rfl
  | everyDays n =>
      rw [validated, check_eq_refuse, numbers, List.map_singleton]
      cases firstRefused? _ <;> rfl
  | weekly days =>
      rw [validated, check_eq_refuse, numbers]
      cases firstRefused? _ <;> rfl
  | monthly codes allowed =>
      rw [validated, check_eq_refuse, check_eq_refuse, numbers]
      simp only [firstRefused?, List.find?_append]
      cases (codes.map (Prod.mk RuleField.monthDay)).find? _ with
      | some day => rfl
      | none => cases ((allowed.map Int.ofNat).map (Prod.mk RuleField.month)).find? _ <;> rfl

theorem refuse_eq_error_iff {number : Option (RuleField × Int)} {error : Error} :
    refuse number = .error error ↔ ∃ field value, number = some (field, value) ∧
      error = .invalidRuleValue field (String.ofList (Numeral.signed value)) := by
  cases number with
  | none => simp [refuse]
  | some number => simp [refuse, Prod.ext_iff, eq_comm]

theorem firstRefused?_eq_none_iff {numbers : List (RuleField × Int)} :
    firstRefused? numbers = none ↔ ∀ number ∈ numbers, number.1.Allows number.2 := by
  simp [firstRefused?]

theorem validated_eq_error_iff {rule : Rule} {error : Error} :
    rule.validated = .error error ↔ refuse (firstRefused? rule.numbers) = .error error := by
  rw [validated_eq]
  cases refuse (firstRefused? rule.numbers) <;> simp [Except.map]

theorem validated_eq_ok_iff {rule checked : Rule} :
    rule.validated = .ok checked ↔
      (∀ number ∈ rule.numbers, number.1.Allows number.2) ∧ checked = rule.normalized := by
  rw [validated_eq, ← firstRefused?_eq_none_iff]
  cases firstRefused? rule.numbers with
  | none => simp [refuse, Except.map, eq_comm]
  | some number => simp [refuse, Except.map]

theorem mem_numbers_normalized {rule : Rule} {number : RuleField × Int} :
    number ∈ rule.normalized.numbers ↔ number ∈ rule.numbers := by
  cases rule <;> simp [normalized, numbers]

theorem isChecked_iff {rule : Rule} :
    rule.IsChecked ↔
      (∀ number ∈ rule.numbers, number.1.Allows number.2) ∧ rule.normalized = rule := by
  cases rule with
  | once => simp [IsChecked, numbers, normalized]
  | yearly => simp [IsChecked, numbers, normalized]
  | everyDays n => simp [IsChecked, numbers, normalized, RuleField.Allows]
  | weekly days => simp [IsChecked, increasingIn_iff, numbers, normalized, RuleField.Allows]
  | monthly codes allowed =>
      simp only [IsChecked, increasingIn_iff, numbers, normalized, List.forall_mem_append,
        List.forall_mem_map, RuleField.Allows, monthly.injEq, and_and_and_comm]
      simp

theorem normalized_normalized (rule : Rule) : rule.normalized.normalized = rule.normalized := by
  cases rule <;> simp [normalized, ascending_ascending]

end Rule

theorem isChecked_of_validated {rule checked : Rule} (h : rule.validated = .ok checked) :
    checked.IsChecked := by
  obtain ⟨allowed, rfl⟩ := Rule.validated_eq_ok_iff.mp h
  refine Rule.isChecked_iff.mpr ⟨fun number member => ?_, rule.normalized_normalized⟩
  exact allowed number (Rule.mem_numbers_normalized.mp member)

theorem validated_of_isChecked {rule : Rule} (h : rule.IsChecked) : rule.validated = .ok rule := by
  obtain ⟨allowed, eq⟩ := Rule.isChecked_iff.mp h
  exact Rule.validated_eq_ok_iff.mpr ⟨allowed, eq.symm⟩

namespace Rule

theorem Lists.increasingIn {written : List Int} {numbers : List Nat} {low high : Nat}
    (lists : Lists written (numbers.map Int.ofNat))
    (range : ∀ v ∈ written, (low : Int) ≤ v ∧ v ≤ high) : IncreasingIn low high numbers := by
  refine ⟨(List.pairwise_map.mp lists.increasing).imp Int.ofNat_lt.mp, fun number member => ?_⟩
  have bounds := range number ((lists.mem_iff number).mp (List.mem_map_of_mem member))
  exact ⟨Int.ofNat_le.mp bounds.1, Int.ofNat_le.mp bounds.2⟩

theorem Lists.ne_nil {written numbers : List Int} (lists : Lists written numbers)
    (h : written ≠ []) : numbers ≠ [] := by
  obtain ⟨v, member⟩ := List.exists_mem_of_ne_nil written h
  exact List.ne_nil_of_mem ((lists.mem_iff v).mpr member)

theorem isChecked_of_ofText {text : String} {rule : Rule} (h : ofText text = .ok rule) :
    rule.IsChecked ∧ rule.HasDays := by
  obtain ⟨phrase, spelled, range, means⟩ := ofText_eq_ok_iff.mp h
  generalize text.toList = cs at spelled
  cases means with
  | nothing => exact ⟨trivial, trivial⟩
  | everyYear => exact ⟨trivial, trivial⟩
  | interval n =>
      obtain ⟨low, high⟩ := range
      exact ⟨⟨Int.ofNat_le.mp low, Int.ofNat_le.mp high⟩, trivial⟩
  | weekdays lists =>
      refine ⟨lists.increasingIn range, ?_⟩
      cases spelled with
      | weekdays list => exact fun empty => lists.ne_nil list.ne_nil (by rw [empty]; rfl)
  | monthDays days months =>
      refine ⟨⟨⟨days.increasing, fun code member => ?_⟩, months.increasingIn range.2⟩, ?_⟩
      · exact range.1 code ((days.mem_iff code).mp member)
      · cases spelled with
        | monthDays list => exact days.ne_nil list.ne_nil
        | monthDaysOf dayList _ => exact days.ne_nil dayList.ne_nil

end Rule

end Agenda
