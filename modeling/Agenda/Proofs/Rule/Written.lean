import Mathlib.Tactic
import Agenda.Proofs.Recurrence.NextDate

/-! # A rule and its text

A rule can be built from any numbers and then checked, or written down and read. Both ways refuse
the same rules, for the same number, and give the same one form to all others.
-/

namespace Agenda

namespace Rule

theorem readValue_signed (field : RuleField) (value : Int) :
    readValue field (Numeral.signed value) = (field.check [value]).map fun _ => value := by
  have numeral := Numeral.integer?_eq_some_iff.mpr (Numeral.signed_signed value)
  simp only [readValue, numeral, RuleField.check]
  split <;> rfl

theorem readValues_signed (field : RuleField) (values : List Int) :
    readValues field (values.map Numeral.signed) = (field.check values).map fun _ => values := by
  induction values with
  | nil => rfl
  | cons value rest ih =>
      simp only [List.map_cons, readValues, readValue_signed, ih, RuleField.check]
      split
      · cases field.check rest <;> rfl
      · rfl

theorem numeralList_listText {values : List Int} (nonempty : values ≠ []) :
    NumeralList (listText values) values := by
  have numerals : List.Forall₂ Numeral.Signed (values.map Numeral.signed) values :=
    List.forall₂_map_left_iff.mpr (List.forall₂_same.mpr fun value _ => Numeral.signed_signed value)
  exact .of_forall₂ numerals (mt List.map_eq_nil_iff.mp nonempty)

theorem readList_listText (field : RuleField) {values : List Int} (nonempty : values ≠ []) :
    readList field (listText values) = (field.check values).map fun _ => ascending values := by
  have fields : Fields.split ',' (listText values) = values.map Numeral.signed := by
    refine Fields.split_join (mt List.map_eq_nil_iff.mp nonempty) fun numeral member => ?_
    obtain ⟨value, -, rfl⟩ := List.mem_map.mp member
    exact (Numeral.signed_signed value).notMem rfl (by decide)
  rw [readList, fields, readValues_signed]
  cases field.check values <;> rfl

theorem toNat_ascending (numbers : List Nat) :
    (ascending (numbers.map Int.ofNat)).map Int.toNat = ascending numbers := by
  have mono : StrictMono Int.ofNat := fun _ _ less => Int.ofNat_lt.mpr less
  rw [ascending_map mono, List.map_map]
  exact List.map_id' _

/-- Reading the text of a rule is checking the rule. -/
theorem ofText_text {rule : Rule} (hasDays : rule.HasDays) :
    ofText rule.text = rule.validated := by
  cases rule with
  | once => rfl
  | yearly => rfl
  | everyDays n =>
      simp only [text, ofText, String.toList_ofList, validated, ← Numeral.signed_natCast,
        readValue_signed]
      cases RuleField.interval.check [(n : Int)] <;> rfl
  | weekly days =>
      have some : days.map Int.ofNat ≠ [] := mt List.map_eq_nil_iff.mp hasDays
      simp only [text, ofText, String.toList_ofList, validated, readList_listText _ some,
        ← toNat_ascending days]
      cases RuleField.weekday.check (days.map Int.ofNat) <;> rfl
  | monthly codes allowed =>
      cases allowed with
      | nil =>
          have one := Fields.split_of_notMem (numeralList_listText hasDays).space_notMem
          simp only [text, ofText, String.toList_ofList, validated, one, readList_listText _ hasDays]
          cases RuleField.monthDay.check codes <;> rfl
      | cons number rest =>
          have some : (number :: rest).map Int.ofNat ≠ [] := List.cons_ne_nil _ _
          have two := Fields.split_append (numeralList_listText hasDays).space_notMem
            (listText ((number :: rest).map Int.ofNat))
          rw [Fields.split_of_notMem (numeralList_listText some).space_notMem] at two
          simp only [text, ofText, String.toList_ofList, List.cons_append, validated, two,
            readList_listText _ hasDays, readList_listText _ some,
            ← toNat_ascending (number :: rest)]
          cases RuleField.monthDay.check codes with
          | error => rfl
          | ok => cases RuleField.month.check ((number :: rest).map Int.ofNat) <;> rfl

end Rule

theorem nextDate_text {rule : Rule} (hasDays : rule.HasDays) (now : Date) {anchor : Date}
    (storable : anchor.IsStorable) :
    nextDate now anchor.text rule.text = (nextOccurrence now anchor rule).map Date.text := by
  have read : Date.read anchor.text = .ok anchor := Date.read_eq_ok_iff.mpr ⟨rfl, storable⟩
  rw [nextDate, read, Rule.ofText_text hasDays, nextOccurrence]
  cases rule.validated <;> rfl

/-- A rule built from any numbers behaves like its text. Checking the rule and reading the text give
    the same rule or refuse the same number, which is the first one out of range in the order of
    writing. The next dates of both are the same too, and so are the reasons for having none. -/
theorem rule_behaves_like_its_text {rule : Rule} (hasDays : rule.HasDays) :
    Rule.ofText rule.text = rule.validated ∧
      (∀ error, rule.validated = .error error ↔
        ∃ field value, Rule.firstRefused? rule.numbers = some (field, value) ∧
          error = .invalidRuleValue field (String.ofList (Numeral.signed value))) ∧
      ∀ now anchor : Date, anchor.IsStorable →
        nextDate now anchor.text rule.text = (nextOccurrence now anchor rule).map Date.text := by
  refine ⟨Rule.ofText_text hasDays, fun error => ?_, fun now anchor storable => ?_⟩
  · exact Rule.validated_eq_error_iff.trans Rule.refuse_eq_error_iff
  · exact nextDate_text hasDays now storable

/-- A rule with its numbers out of order and repeated, and one with wrong days and a wrong month. -/
theorem unordered_rule_behaves_like_its_text :
    let winter : Rule := .monthly [31, -1, 31] [12, 2, 2]
    let broken : Rule := .monthly [1, 40, -9] [4294967295]
    let newYear : Date := ⟨2024, 1, 1, by decide, by decide⟩
    let leapDay : Date := ⟨2024, 2, 29, by decide, by decide⟩
    (winter.HasDays ∧ Rule.ofText "m 31,-1,31 12,2,2" = winter.validated ∧
        winter.validated = .ok (.monthly [-1, 31] [2, 12])) ∧
      (newYear.IsStorable ∧ nextOccurrence newYear newYear winter = .ok leapDay ∧
        nextDate newYear newYear.text "m 31,-1,31 12,2,2" = .ok leapDay.text) ∧
      broken.HasDays ∧ Rule.ofText "m 1,40,-9 4294967295" = broken.validated ∧
        broken.validated = .error (.invalidRuleValue .monthDay "40") := by
  intro winter broken newYear leapDay
  have winterDays : winter.HasDays := by decide
  have brokenDays : broken.HasDays := by decide
  have storable : newYear.IsStorable := by decide
  have counted : nextOccurrence newYear newYear winter = .ok leapDay := by cbv
  obtain ⟨read, -, next⟩ := rule_behaves_like_its_text winterDays
  obtain ⟨readBroken, refused, -⟩ := rule_behaves_like_its_text brokenDays
  have text : winter.text = "m 31,-1,31 12,2,2" := by cbv
  have brokenText : broken.text = "m 1,40,-9 4294967295" := by cbv
  rw [text] at read next
  rw [brokenText] at readBroken
  refine ⟨⟨winterDays, read, by cbv⟩, ⟨storable, counted, ?_⟩, brokenDays, readBroken, ?_⟩
  · rw [next newYear newYear storable, counted]
    rfl
  · exact (refused _).mpr ⟨.monthDay, 40, by decide, by cbv⟩

end Agenda
