import Mathlib
import Agenda.Task.Basic
import Agenda.Proofs.Ascending
import Agenda.Proofs.Error
import Agenda.Proofs.Text.Fields
import Agenda.Proofs.Text.Numeral

/-! # The grammar of repeat rules

What a rule text says, number by number and in the order in which it is written, and the rule that
this stands for. The reader accepts exactly the texts that say something within range.
-/

namespace Agenda.Rule

/-- One or more numerals with a comma between each two, and their values. -/
inductive NumeralList : List Char → List Int → Prop
  | one {cs : List Char} {v : Int} (numeral : Numeral.Signed cs v) : NumeralList cs [v]
  | more {cs rest : List Char} {v : Int} {vs : List Int} (numeral : Numeral.Signed cs v)
      (others : NumeralList rest vs) : NumeralList (cs ++ ',' :: rest) (v :: vs)

/-- What a rule text says. The days of a month come without months when no second list is written,
    and a written list is never empty. -/
inductive Phrase
  | nothing
  | everyYear
  | interval (n : Int)
  | weekdays (days : List Int)
  | monthDays (days months : List Int)

/-- The texts of a phrase. -/
inductive Spells : List Char → Phrase → Prop
  | nothing : Spells [] .nothing
  | everyYear : Spells ['y'] .everyYear
  | interval {cs : List Char} {n : Int} (numeral : Numeral.Signed cs n) :
      Spells ('d' :: ' ' :: cs) (.interval n)
  | weekdays {cs : List Char} {days : List Int} (list : NumeralList cs days) :
      Spells ('w' :: ' ' :: cs) (.weekdays days)
  | monthDays {cs : List Char} {days : List Int} (list : NumeralList cs days) :
      Spells ('m' :: ' ' :: cs) (.monthDays days [])
  | monthDaysOf {cs ds : List Char} {days months : List Int} (dayList : NumeralList cs days)
      (monthList : NumeralList ds months) :
      Spells ('m' :: ' ' :: (cs ++ ' ' :: ds)) (.monthDays days months)

/-- The numbers in the list are those written, each once and in increasing order. -/
structure Lists (written numbers : List Int) : Prop where
  increasing : numbers.Pairwise (· < ·)
  mem_iff : ∀ v, v ∈ numbers ↔ v ∈ written

namespace Phrase

/-- Every number of the phrase is one that its part of a rule may have. -/
def InRange : Phrase → Prop
  | nothing | everyYear => True
  | interval n => 1 ≤ n ∧ n ≤ 400
  | weekdays days => ∀ day ∈ days, 1 ≤ day ∧ day ≤ 7
  | monthDays days months =>
      (∀ day ∈ days, -2 ≤ day ∧ day ≤ 31) ∧ ∀ month ∈ months, 1 ≤ month ∧ month ≤ 12

/-- The rule that a phrase stands for. It is of the same kind, and where a phrase has a list the
    rule has the set of its values. -/
inductive Means : Phrase → Rule → Prop
  | nothing : Means .nothing .once
  | everyYear : Means .everyYear .yearly
  | interval (n : Nat) : Means (.interval n) (.everyDays n)
  | weekdays {written : List Int} {days : List Nat} (lists : Lists written (days.map Int.ofNat)) :
      Means (.weekdays written) (.weekly days)
  | monthDays {dayList monthList codes : List Int} {numbers : List Nat}
      (days : Lists dayList codes) (months : Lists monthList (numbers.map Int.ofNat)) :
      Means (.monthDays dayList monthList) (.monthly codes numbers)

/-- Phrases of one kind that have the same numbers, whatever their order and repetition. -/
def SameSets : Phrase → Phrase → Prop
  | nothing, nothing | everyYear, everyYear => True
  | interval m, interval n => m = n
  | weekdays xs, weekdays ys => ∀ v, v ∈ xs ↔ v ∈ ys
  | monthDays xs ms, monthDays ys ns => (∀ v, v ∈ xs ↔ v ∈ ys) ∧ ∀ v, v ∈ ms ↔ v ∈ ns
  | _, _ => False

end Phrase

namespace NumeralList

theorem ne_nil {cs : List Char} {vs : List Int} (h : NumeralList cs vs) : vs ≠ [] := by
  cases h with
  | one => exact List.cons_ne_nil _ _
  | more => exact List.cons_ne_nil _ _

theorem space_notMem {cs : List Char} {vs : List Int} (h : NumeralList cs vs) : ' ' ∉ cs := by
  induction h with
  | one numeral => exact numeral.notMem rfl (by decide)
  | more numeral _ ih =>
      have first := numeral.notMem (c := ' ') rfl (by decide)
      simp [first, ih]

theorem of_forall₂ {tokens : List (List Char)} {vs : List Int}
    (numerals : List.Forall₂ Numeral.Signed tokens vs) (nonempty : tokens ≠ []) :
    NumeralList (Fields.join ',' tokens) vs := by
  induction numerals with
  | nil => exact absurd rfl nonempty
  | cons numeral others ih =>
      cases others with
      | nil => exact .one numeral
      | cons => exact .more numeral (ih (List.cons_ne_nil _ _))

end NumeralList

theorem forall₂_split_iff {cs : List Char} {vs : List Int} :
    List.Forall₂ Numeral.Signed (Fields.split ',' cs) vs ↔ NumeralList cs vs := by
  constructor
  · intro numerals
    have list := NumeralList.of_forall₂ numerals (Fields.split_ne_nil ',' cs)
    rwa [Fields.join_split] at list
  · intro list
    induction list with
    | one numeral =>
        rw [Fields.split_of_notMem (numeral.notMem rfl (by decide))]
        exact .cons numeral .nil
    | more numeral _ ih =>
        rw [Fields.split_append (numeral.notMem rfl (by decide))]
        exact .cons numeral ih

theorem NumeralList.unique {cs : List Char} {vs ws : List Int} (left : NumeralList cs vs)
    (right : NumeralList cs ws) : vs = ws := by
  have single : Relator.RightUnique Numeral.Signed := fun _ _ _ one two => one.unique two
  exact single.forall₂ (forall₂_split_iff.mpr left) (forall₂_split_iff.mpr right)

theorem Spells.unique {cs : List Char} {p q : Phrase} (left : Spells cs p) (right : Spells cs q) :
    p = q := by
  cases left with
  | nothing =>
      cases right
      rfl
  | everyYear =>
      cases right
      rfl
  | interval numeral =>
      cases right with
      | interval other => rw [numeral.unique other]
  | weekdays list =>
      cases right with
      | weekdays other => rw [list.unique other]
  | monthDays list =>
      cases right with
      | monthDays other => rw [list.unique other]
      | monthDaysOf other months => exact absurd (by simp) list.space_notMem
  | @monthDaysOf cs ds _ _ days months =>
      generalize shape : cs ++ ' ' :: ds = both at right
      cases right with
      | monthDays other =>
          rw [← shape] at other
          exact absurd (by simp) other.space_notMem
      | @monthDaysOf cs' ds' _ _ days' months' =>
          have cut := congrArg (Fields.split ' ') shape
          rw [Fields.split_append days.space_notMem, Fields.split_append days'.space_notMem,
            Fields.split_of_notMem months.space_notMem,
            Fields.split_of_notMem months'.space_notMem] at cut
          cases cut
          rw [days.unique days', months.unique months']

theorem readValue_eq_ok_iff {field : RuleField} {token : List Char} {value : Int} :
    readValue field token = .ok value ↔ Numeral.Signed token value ∧ field.Allows value := by
  rw [← Numeral.integer?_eq_some_iff]
  unfold readValue
  cases Numeral.integer? token with
  | none => simp
  | some read =>
      by_cases allows : field.Allows read
      · simp only [allows, if_true, Except.ok.injEq, Option.some.injEq]
        exact ⟨fun eq => ⟨eq, eq ▸ allows⟩, And.left⟩
      · simp only [allows, if_false, reduceCtorEq, Option.some.injEq, false_iff, not_and]
        rintro rfl
        exact allows

theorem readValues_eq_ok_iff {field : RuleField} {tokens : List (List Char)} {values : List Int} :
    readValues field tokens = .ok values ↔
      List.Forall₂ Numeral.Signed tokens values ∧ ∀ value ∈ values, field.Allows value := by
  induction tokens generalizing values with
  | nil =>
      simp only [readValues, Except.ok.injEq, List.forall₂_nil_left_iff]
      constructor
      · rintro rfl
        simp
      · exact fun h => h.1.symm
  | cons token rest ih =>
      simp only [readValues, Error.bind_eq_ok_iff, readValue_eq_ok_iff, ih]
      constructor
      · rintro ⟨value, ⟨numeral, allows⟩, others, ⟨numerals, allow⟩, eq⟩
        cases eq
        exact ⟨.cons numeral numerals, List.forall_mem_cons.mpr ⟨allows, allow⟩⟩
      · rintro ⟨numerals, allow⟩
        cases numerals with
        | cons numeral numerals =>
            obtain ⟨allows, allow⟩ := List.forall_mem_cons.mp allow
            exact ⟨_, ⟨numeral, allows⟩, _, ⟨numerals, allow⟩, rfl⟩

theorem Lists.transfer {written others numbers : List Int} (lists : Lists written numbers)
    (same : ∀ v, v ∈ written ↔ v ∈ others) : Lists others numbers :=
  ⟨lists.increasing, fun v => (lists.mem_iff v).trans (same v)⟩

theorem lists_iff {written numbers : List Int} :
    Lists written numbers ↔ ascending written = numbers := by
  constructor
  · intro lists
    refine eq_of_increasing (pairwise_ascending written) lists.increasing fun v => ?_
    rw [mem_ascending, lists.mem_iff]
  · rintro rfl
    exact ⟨pairwise_ascending written, fun v => mem_ascending⟩

theorem lists_ofNat_iff {written : List Int} {numbers : List Nat} (positive : ∀ v ∈ written, 1 ≤ v) :
    Lists written (numbers.map Int.ofNat) ↔ (ascending written).map Int.toNat = numbers := by
  rw [lists_iff]
  constructor
  · intro eq
    rw [eq, List.map_map]
    exact List.map_id' _
  · rintro rfl
    rw [List.map_map]
    calc ascending written = (ascending written).map id := (List.map_id _).symm
      _ = (ascending written).map (Int.ofNat ∘ Int.toNat) := by
        refine List.map_congr_left fun v member => ?_
        have nonneg : 0 ≤ v := Int.le_of_lt (positive v (mem_ascending.mp member))
        exact (Int.toNat_of_nonneg nonneg).symm

theorem readList_eq_ok_iff {field : RuleField} {list : List Char} {values : List Int} :
    readList field list = .ok values ↔
      ∃ written, NumeralList list written ∧ (∀ value ∈ written, field.Allows value) ∧
        ascending written = values := by
  simp only [readList, Error.bind_eq_ok_iff, readValues_eq_ok_iff, forall₂_split_iff, pure,
    Except.pure, Except.ok.injEq, and_assoc]

/-- What is read was spelled out, within range, and stands for the rule. -/
theorem spells_of_ofText {text : String} {rule : Rule} (h : ofText text = .ok rule) :
    ∃ phrase, Spells text.toList phrase ∧ phrase.InRange ∧ phrase.Means rule := by
  unfold ofText at h
  -- One case for each way in which the reader lets a text begin.
  split at h
  · next shape =>
      cases h
      rw [shape]
      exact ⟨.nothing, .nothing, trivial, .nothing⟩
  · next shape =>
      cases h
      rw [shape]
      exact ⟨.everyYear, .everyYear, trivial, .everyYear⟩
  · next number shape =>
      obtain ⟨n, read, eq⟩ := Error.bind_eq_ok_iff.mp h
      cases eq
      obtain ⟨numeral, range⟩ := readValue_eq_ok_iff.mp read
      have nonneg : 0 ≤ n := Int.le_of_lt range.1
      rw [shape]
      refine ⟨.interval n, .interval numeral, range, ?_⟩
      have means := Phrase.Means.interval n.toNat
      rwa [Int.toNat_of_nonneg nonneg] at means
  · next list shape =>
      obtain ⟨days, read, eq⟩ := Error.bind_eq_ok_iff.mp h
      cases eq
      obtain ⟨written, numerals, range, rfl⟩ := readList_eq_ok_iff.mp read
      rw [shape]
      exact ⟨.weekdays written, .weekdays numerals, range,
        .weekdays ((lists_ofNat_iff fun v member => (range v member).1).mpr rfl)⟩
  · next lists shape =>
      have joined := Fields.join_split ' ' lists
      rw [shape]
      split at h
      · cases h
      · next dayList fields =>
          obtain ⟨codes, read, eq⟩ := Error.bind_eq_ok_iff.mp h
          cases eq
          obtain ⟨written, numerals, range, rfl⟩ := readList_eq_ok_iff.mp read
          rw [fields] at joined
          subst joined
          exact ⟨.monthDays written [], .monthDays numerals, ⟨range, by simp⟩,
            .monthDays (lists_iff.mpr rfl) (lists_iff.mpr rfl)⟩
      · next dayList monthList more fields =>
          obtain ⟨codes, readDays, rest⟩ := Error.bind_eq_ok_iff.mp h
          obtain ⟨months, readMonths, eq⟩ := Error.bind_eq_ok_iff.mp rest
          obtain ⟨days, dayNumerals, dayRange, rfl⟩ := readList_eq_ok_iff.mp readDays
          obtain ⟨numbers, monthNumerals, monthRange, rfl⟩ := readList_eq_ok_iff.mp readMonths
          split at eq
          · next last =>
              cases eq
              obtain rfl := List.isEmpty_iff.mp last
              rw [fields] at joined
              subst joined
              exact ⟨.monthDays days numbers, .monthDaysOf dayNumerals monthNumerals,
                ⟨dayRange, monthRange⟩, .monthDays (lists_iff.mpr rfl)
                  ((lists_ofNat_iff fun v member => (monthRange v member).1).mpr rfl)⟩
          · cases eq
  · cases h

/-- What is spelled out within range is read, as the rule that it stands for. -/
theorem ofText_of_spells {text : String} {phrase : Phrase} {rule : Rule}
    (spelled : Spells text.toList phrase) (range : phrase.InRange) (means : phrase.Means rule) :
    ofText text = .ok rule := by
  unfold ofText
  generalize text.toList = cs at spelled
  cases spelled with
  | nothing =>
      cases means
      rfl
  | everyYear =>
      cases means
      rfl
  | interval numeral =>
      cases means with
      | interval n => exact Error.bind_eq_ok_iff.mpr ⟨n, readValue_eq_ok_iff.mpr ⟨numeral, range⟩, rfl⟩
  | @weekdays _ written list =>
      cases means with
      | weekdays lists =>
          obtain rfl := (lists_ofNat_iff fun v member => (range v member).1).mp lists
          exact Error.bind_eq_ok_iff.mpr
            ⟨_, readList_eq_ok_iff.mpr ⟨written, list, range, rfl⟩, rfl⟩
  | @monthDays _ written list =>
      cases means with
      | monthDays days months =>
          obtain rfl := lists_iff.mp days
          obtain rfl := (lists_ofNat_iff (by simp)).mp months
          simp only [Fields.split_of_notMem list.space_notMem]
          exact Error.bind_eq_ok_iff.mpr
            ⟨_, readList_eq_ok_iff.mpr ⟨written, list, range.1, rfl⟩, rfl⟩
  | @monthDaysOf _ _ dayList monthList dayNumerals monthNumerals =>
      cases means with
      | monthDays days months =>
          obtain rfl := lists_iff.mp days
          obtain rfl := (lists_ofNat_iff fun v member => (range.2 v member).1).mp months
          simp only [Fields.split_append dayNumerals.space_notMem,
            Fields.split_of_notMem monthNumerals.space_notMem]
          exact Error.bind_eq_ok_iff.mpr
            ⟨_, readList_eq_ok_iff.mpr ⟨dayList, dayNumerals, range.1, rfl⟩,
              Error.bind_eq_ok_iff.mpr
                ⟨_, readList_eq_ok_iff.mpr ⟨monthList, monthNumerals, range.2, rfl⟩, rfl⟩⟩

theorem ofText_eq_ok_iff {text : String} {rule : Rule} :
    ofText text = .ok rule ↔
      ∃ phrase, Spells text.toList phrase ∧ phrase.InRange ∧ phrase.Means rule := by
  refine ⟨spells_of_ofText, ?_⟩
  rintro ⟨phrase, spelled, range, means⟩
  exact ofText_of_spells spelled range means

namespace Phrase

theorem exists_means {phrase : Phrase} (range : phrase.InRange) : ∃ rule, phrase.Means rule := by
  cases phrase with
  | nothing => exact ⟨_, .nothing⟩
  | everyYear => exact ⟨_, .everyYear⟩
  | interval n =>
      obtain ⟨k, rfl⟩ := Int.eq_ofNat_of_zero_le (Int.le_of_lt range.1)
      exact ⟨_, .interval k⟩
  | weekdays days =>
      exact ⟨_, .weekdays ((lists_ofNat_iff fun v member => (range v member).1).mpr rfl)⟩
  | monthDays days months =>
      exact ⟨_, .monthDays (lists_iff.mpr rfl)
        ((lists_ofNat_iff fun v member => (range.2 v member).1).mpr rfl)⟩

/-- Phrases with the same sets are within range together, and stand for the same rules. -/
theorem SameSets.transfer {p q : Phrase} (same : p.SameSets q) :
    (p.InRange → q.InRange) ∧ ∀ rule, p.Means rule → q.Means rule := by
  cases p with
  | nothing =>
      cases q with
      | nothing => exact ⟨id, fun _ => id⟩
      | _ => exact same.elim
  | everyYear =>
      cases q with
      | everyYear => exact ⟨id, fun _ => id⟩
      | _ => exact same.elim
  | interval m =>
      cases q with
      | interval n =>
          obtain rfl : m = n := same
          exact ⟨id, fun _ => id⟩
      | _ => exact same.elim
  | weekdays xs =>
      cases q with
      | weekdays ys =>
          refine ⟨fun range day member => range day ((same day).mpr member), fun rule means => ?_⟩
          cases means with
          | weekdays lists => exact .weekdays (lists.transfer same)
      | _ => exact same.elim
  | monthDays xs ms =>
      cases q with
      | monthDays ys ns =>
          obtain ⟨sameDays, sameMonths⟩ := same
          refine ⟨fun range => ⟨fun day member => range.1 day ((sameDays day).mpr member),
            fun month member => range.2 month ((sameMonths month).mpr member)⟩, fun rule means => ?_⟩
          cases means with
          | monthDays days months =>
              exact .monthDays (days.transfer sameDays) (months.transfer sameMonths)
      | _ => exact same.elim

end Phrase

theorem eq_empty_iff_of_ofText {text : String} {rule : Rule} (h : ofText text = .ok rule) :
    rule = .once ↔ text = "" := by
  constructor
  · rintro rfl
    obtain ⟨phrase, spelled, -, means⟩ := ofText_eq_ok_iff.mp h
    cases means
    generalize shape : text.toList = cs at spelled
    cases spelled
    exact String.toList_eq_nil_iff.mp shape
  · rintro rfl
    cases h
    rfl

theorem ofText_of_sameSets {text other : String} {p q : Phrase} (spelled : Spells text.toList p)
    (otherSpelled : Spells other.toList q) (same : p.SameSets q) {rule : Rule}
    (h : ofText text = .ok rule) : ofText other = .ok rule := by
  obtain ⟨phrase, again, range, means⟩ := ofText_eq_ok_iff.mp h
  obtain rfl := spelled.unique again
  exact ofText_of_spells otherSpelled (same.transfer.1 range) (same.transfer.2 rule means)

theorem isRecurring_of_rule {task : Task} {rule : Rule} (h : task.rule = .ok rule) :
    task.isRecurring = rule.isRecurring := by
  have empty := eq_empty_iff_of_ofText h
  by_cases once : rule = .once
  · have text := empty.mp once
    rw [once, Task.isRecurring, text]
    rfl
  · have nonempty : task.repeatText ≠ "" := fun text => once (empty.mpr text)
    have comesBack : task.isRecurring = true := by simpa [Task.isRecurring] using nonempty
    rw [comesBack]
    cases rule with
    | once => exact absurd rfl once
    | _ => rfl

/-- The reader accepts exactly the texts that spell out a rule within range and reads each as the
    rule that it stands for. Only the empty text is read as no rule, and texts of one kind with the
    same sets of numbers are read as the same rule. -/
theorem ofText_reads_exactly_grammar :
    (∀ text, (∃ rule, ofText text = .ok rule) ↔
      ∃ phrase, Spells text.toList phrase ∧ phrase.InRange) ∧
    (∀ text rule, ofText text = .ok rule ↔
      ∃ phrase, Spells text.toList phrase ∧ phrase.InRange ∧ phrase.Means rule) ∧
    (∀ text rule, ofText text = .ok rule → (rule = .once ↔ text = "")) ∧
    (∀ (task : Task) (rule : Rule), task.rule = .ok rule → task.isRecurring = rule.isRecurring) ∧
    ∀ (text other : String) (p q : Phrase), Spells text.toList p → Spells other.toList q →
      p.SameSets q → ∀ rule, ofText text = .ok rule → ofText other = .ok rule := by
  refine ⟨fun text => ⟨?_, ?_⟩, fun text rule => ofText_eq_ok_iff,
    fun text rule => eq_empty_iff_of_ofText, fun task rule => isRecurring_of_rule,
    fun text other p q spelled otherSpelled same rule => ofText_of_sameSets spelled otherSpelled same⟩
  · rintro ⟨rule, read⟩
    obtain ⟨phrase, spelled, range, -⟩ := spells_of_ofText read
    exact ⟨phrase, spelled, range⟩
  · rintro ⟨phrase, spelled, range⟩
    obtain ⟨rule, means⟩ := phrase.exists_means range
    exact ⟨rule, ofText_of_spells spelled range means⟩

/-- The last and the first day of February, written in two ways. -/
theorem ofText_february_two_ways :
    let rule : Rule := .monthly [-1, 1] [2]
    let task : Task := { repeatText := "m 01,-1,+1 2" }
    ofText "m 01,-1,+1 2" = .ok rule ∧ ofText "m -1,1 02" = .ok rule ∧
      (rule = .once ↔ "m 01,-1,+1 2" = "") ∧ task.isRecurring = rule.isRecurring := by
  intro rule task
  have read : ofText "m 01,-1,+1 2" = .ok rule := by cbv
  have one : Numeral.Signed ['1'] 1 := Numeral.integer?_eq_some_iff.mp (by cbv)
  have paddedOne : Numeral.Signed ['0', '1'] 1 := Numeral.integer?_eq_some_iff.mp (by cbv)
  have plusOne : Numeral.Signed ['+', '1'] 1 := Numeral.integer?_eq_some_iff.mp (by cbv)
  have last : Numeral.Signed ['-', '1'] (-1) := Numeral.integer?_eq_some_iff.mp (by cbv)
  have two : Numeral.Signed ['2'] 2 := Numeral.integer?_eq_some_iff.mp (by cbv)
  have paddedTwo : Numeral.Signed ['0', '2'] 2 := Numeral.integer?_eq_some_iff.mp (by cbv)
  have spelled : Spells "m 01,-1,+1 2".toList (.monthDays [1, -1, 1] [2]) :=
    .monthDaysOf (.more paddedOne (.more last (.one plusOne))) (.one two)
  have otherSpelled : Spells "m -1,1 02".toList (.monthDays [-1, 1] [2]) :=
    .monthDaysOf (.more last (.one one)) (.one paddedTwo)
  have same : Phrase.SameSets (.monthDays [1, -1, 1] [2]) (.monthDays [-1, 1] [2]) := by
    simp only [Phrase.SameSets, List.mem_cons, List.not_mem_nil, or_false]
    grind
  obtain ⟨-, -, none, recurring, alike⟩ := ofText_reads_exactly_grammar
  exact ⟨read, alike _ _ _ _ spelled otherSpelled same rule read, none _ rule read,
    recurring task rule read⟩

end Agenda.Rule
