import Mathlib.Data.List.TakeWhile
import Mathlib.Tactic
import Agenda.Text.LowerCase

/-! # Lower case in parts

Lower-casing a part of a text can differ from lower-casing this part on its own, but only in its
capital sigmas, the forms of which depend on the characters around them. Here it is told which texts
have the same form wherever they stand.
-/

namespace Agenda.LowerCase

/-- Whether a capital sigma takes its final form between these characters, those before it last one
    first. -/
def isFinal (before after : List Char) : Bool :=
  nextIsCased before && !nextIsCased after

/-- The lower-case form of a part of a text, between the characters before it, last one first, and
    those after it. -/
def lowerPart (before after : List Char) : List Char → List Char
  | [] => []
  | c :: rest => lowerBetween before c (rest ++ after) ++ lowerPart (c :: before) after rest

theorem lowerAfter_append (before cs after : List Char) :
    lowerAfter before (cs ++ after) =
      lowerPart before after cs ++ lowerAfter (cs.reverse ++ before) after := by
  induction cs generalizing before with
  | nil => rfl
  | cons c rest ih =>
      rw [List.cons_append, lowerAfter, ih, lowerPart, List.append_assoc, List.reverse_cons,
        List.append_assoc, List.singleton_append]

theorem lower_eq_lowerPart (cs : List Char) : lower cs = lowerPart [] [] cs := by
  have whole := lowerAfter_append [] cs []
  rwa [List.append_nil, lowerAfter, List.append_nil] at whole

theorem lowerPart_infix_lower (before cs after : List Char) :
    lowerPart before.reverse after cs <:+: lower (before ++ cs ++ after) := by
  refine ⟨lowerPart [] (cs ++ after) before, lowerAfter (cs.reverse ++ before.reverse) after, ?_⟩
  rw [lower, List.append_assoc before, lowerAfter_append, lowerAfter_append, List.append_nil,
    List.append_assoc]

theorem length_lowerBetween (before : List Char) (c : Char) (after before' after' : List Char) :
    (lowerBetween before c after).length = (lowerBetween before' c after').length := by
  unfold lowerBetween
  split
  · split <;> split <;> rfl
  · rfl

theorem length_lowerPart (cs before after before' after' : List Char) :
    (lowerPart before after cs).length = (lowerPart before' after' cs).length := by
  induction cs generalizing before before' with
  | nil => rfl
  | cons c rest ih =>
      rw [lowerPart, lowerPart, List.length_append, List.length_append, ih,
        length_lowerBetween before c _ before' (rest ++ after')]

theorem lowerBetween_sigma (before after : List Char) :
    lowerBetween before 'Σ' after = if isFinal before after then ['ς'] else ['σ'] := rfl

theorem lowerBetween_of_ne {c : Char} (h : c ≠ 'Σ') (before after before' after' : List Char) :
    lowerBetween before c after = lowerBetween before' c after' := by
  rw [lowerBetween, lowerBetween, if_neg h, if_neg h]

theorem lowerBetween_eq_iff {before after before' after' : List Char} {c : Char} :
    lowerBetween before c after = lowerBetween before' c after' ↔
      (c = 'Σ' → isFinal before after = isFinal before' after') := by
  by_cases sigma : c = 'Σ'
  · subst sigma
    rw [lowerBetween_sigma, lowerBetween_sigma]
    cases isFinal before after <;> cases isFinal before' after' <;> decide
  · exact iff_of_true (lowerBetween_of_ne sigma _ _ _ _) fun same => absurd same sigma

/-- Each capital sigma of a text has one form between two pairs of neighbours, those before it last
    one first. -/
def SameForms (cs before after before' after' : List Char) : Prop :=
  ∀ init rest, cs = init ++ 'Σ' :: rest →
    isFinal (init.reverse ++ before) (rest ++ after) =
      isFinal (init.reverse ++ before') (rest ++ after')

theorem sameForms_cons_iff {c : Char} {cs before after before' after' : List Char} :
    SameForms (c :: cs) before after before' after' ↔
      (c = 'Σ' → isFinal before (cs ++ after) = isFinal before' (cs ++ after')) ∧
        SameForms cs (c :: before) after (c :: before') after' := by
  constructor
  · intro same
    refine ⟨?_, fun init rest shape => ?_⟩
    · rintro rfl
      exact same [] cs rfl
    · simpa using same (c :: init) rest (congrArg (c :: ·) shape)
  · rintro ⟨first, others⟩ init rest shape
    cases init with
    | nil =>
        obtain ⟨rfl, rfl⟩ := List.cons.inj shape
        exact first rfl
    | cons d init =>
        obtain ⟨rfl, tail⟩ := List.cons.inj shape
        simpa using others init rest tail

theorem lowerPart_eq_iff {cs before after before' after' : List Char} :
    lowerPart before after cs = lowerPart before' after' cs ↔
      SameForms cs before after before' after' := by
  induction cs generalizing before before' with
  | nil => simp [lowerPart, SameForms]
  | cons c rest ih =>
      rw [sameForms_cons_iff, ← lowerBetween_eq_iff, ← ih, lowerPart, lowerPart]
      constructor
      · exact fun same => List.append_inj same (length_lowerBetween _ _ _ _ _)
      · rintro ⟨first, others⟩
        rw [first, others]

/-- The first character that is not passed over is a capital sigma, with no letter next after it. -/
def OpensWithSigma (cs : List Char) : Prop :=
  ∃ init rest, cs = init ++ 'Σ' :: rest ∧ (∀ c ∈ init, isIgnorable c = true) ∧
    nextIsCased rest = false

/-- The last character that is not passed over is a capital sigma, with a letter next before it. -/
def ClosesWithSigma (cs : List Char) : Prop :=
  ∃ init rest, cs = init ++ 'Σ' :: rest ∧ (∀ c ∈ rest, isIgnorable c = true) ∧
    nextIsCased init.reverse = true

section Neighbours

variable {cs ds : List Char}

theorem nextIsCased_append_of_ignorable (h : ∀ c ∈ cs, isIgnorable c = true) (ds : List Char) :
    nextIsCased (cs ++ ds) = nextIsCased ds := by
  rw [nextIsCased, List.dropWhile_append_of_pos h, ← nextIsCased]

theorem nextIsCased_of_ignorable (h : ∀ c ∈ cs, isIgnorable c = true) : nextIsCased cs = false := by
  have none := nextIsCased_append_of_ignorable h []
  rwa [List.append_nil] at none

theorem nextIsCased_append_of_not_ignorable (h : ¬ ∀ c ∈ cs, isIgnorable c = true) (ds : List Char) :
    nextIsCased (cs ++ ds) = nextIsCased cs := by
  have left : cs.dropWhile isIgnorable ≠ [] := by rwa [ne_eq, List.dropWhile_eq_nil_iff]
  obtain ⟨c, rest, shape⟩ := List.exists_cons_of_ne_nil left
  simp [nextIsCased, List.dropWhile_append, shape]

theorem not_ignorable_of_nextIsCased (h : nextIsCased cs = true) :
    ¬ ∀ c ∈ cs, isIgnorable c = true := by
  intro passed
  rw [nextIsCased_of_ignorable passed] at h
  cases h

end Neighbours

/-- Only a sigma at an edge can change its form with what is around the text. -/
theorem sameForms_of_edges {cs : List Char} (opens : ¬ OpensWithSigma cs)
    (closes : ¬ ClosesWithSigma cs) (before after : List Char) :
    SameForms cs before after [] [] := by
  intro init rest shape
  rw [List.append_nil, List.append_nil, isFinal, isFinal]
  by_cases passed : ∀ c ∈ init.reverse, isIgnorable c = true
  · have cased : nextIsCased rest = true := by
      by_contra notCased
      exact opens ⟨init, rest, shape, fun c member => passed c (List.mem_reverse.mpr member),
        Bool.eq_false_iff.mpr notCased⟩
    rw [nextIsCased_append_of_not_ignorable (not_ignorable_of_nextIsCased cased), cased]
    simp
  · rw [nextIsCased_append_of_not_ignorable passed]
    by_cases ended : ∀ c ∈ rest, isIgnorable c = true
    · have notCased : nextIsCased init.reverse = false := by
        by_contra cased
        exact closes ⟨init, rest, shape, ended, Bool.eq_true_of_not_eq_false cased⟩
      rw [notCased, Bool.false_and, Bool.false_and]
    · rw [nextIsCased_append_of_not_ignorable ended]

/-- A letter with case that is its own lower-case form. -/
structure IsPlainLetter (c : Char) : Prop where
  lowerBetween_eq : ∀ before after, lowerBetween before c after = [c]
  nextIsCased_cons : ∀ rest, nextIsCased (c :: rest) = true

theorem isPlainLetter_of_isCased {c : Char} (special : c ≠ 'Σ' ∧ c ≠ 'İ') (lowered : lowerChar c = c)
    (cased : isCased c = true) (notIgnorable : isIgnorable c = false) : IsPlainLetter c := by
  refine ⟨fun before after => ?_, fun rest => ?_⟩
  · rw [lowerBetween, if_neg special.1, if_neg special.2, lowered]
  · rw [nextIsCased, List.dropWhile_cons_of_neg (by simp [notIgnorable])]
    exact cased

theorem exists_isPlainLetter_ne (c : Char) : ∃ letter, IsPlainLetter letter ∧ letter ≠ c := by
  have a : IsPlainLetter 'a' := isPlainLetter_of_isCased (by decide) rfl rfl (by decide +kernel)
  have b : IsPlainLetter 'b' := isPlainLetter_of_isCased (by decide) rfl rfl (by decide +kernel)
  by_cases same : c = 'a'
  · exact ⟨'b', b, by simp [same]⟩
  · exact ⟨'a', a, fun eq => same eq.symm⟩

theorem lowerPart_ne_nil {cs : List Char} (nonempty : cs ≠ []) (before after : List Char) :
    lowerPart before after cs ≠ [] := by
  obtain ⟨c, rest, rfl⟩ := List.exists_cons_of_ne_nil nonempty
  have first : lowerBetween before c (rest ++ after) ≠ [] := by
    unfold lowerBetween
    split
    · split <;> exact List.cons_ne_nil _ _
    · split <;> exact List.cons_ne_nil _ _
  rw [lowerPart]
  exact List.append_ne_nil_of_left_ne_nil first _

/-- After some letter a text that opens with a sigma has another lower-case form. -/
theorem OpensWithSigma.exists_letter_before {cs : List Char} (opens : OpensWithSigma cs) :
    ∃ letter, ¬ lower cs <:+: lower (letter :: cs) := by
  obtain ⟨init, rest, shape, passed, notCased⟩ := opens
  have nonempty : cs ≠ [] := by simp [shape]
  obtain ⟨first, others, lowered⟩ := List.exists_cons_of_ne_nil (lowerPart_ne_nil nonempty [] [])
  obtain ⟨letter, plain, ne⟩ := exists_isPlainLetter_ne first
  refine ⟨letter, fun found => ?_⟩
  have after : lower (letter :: cs) = letter :: lowerPart [letter] [] cs := by
    rw [lower_eq_lowerPart, lowerPart, plain.lowerBetween_eq]
    rfl
  rw [lower_eq_lowerPart, after, List.infix_cons_iff] at found
  rcases found with atStart | inside
  · rw [lowered] at atStart
    exact ne (List.cons_prefix_cons.mp atStart).1.symm
  · have same := inside.eq_of_length (length_lowerPart cs [] [] [letter] [])
    have form := lowerPart_eq_iff.mp same init rest shape
    have before : nextIsCased (init.reverse ++ [letter]) = true := by
      have passed : ∀ c ∈ init.reverse, isIgnorable c = true :=
        fun c member => passed c (List.mem_reverse.mp member)
      rw [nextIsCased_append_of_ignorable passed, plain.nextIsCased_cons]
    have alone : nextIsCased init.reverse = false :=
      nextIsCased_of_ignorable fun c member => passed c (List.mem_reverse.mp member)
    simp [isFinal, before, alone, notCased] at form

theorem ClosesWithSigma.exists_letter_after {cs : List Char} (closes : ClosesWithSigma cs) :
    ∃ letter, ¬ lower cs <:+: lower (cs ++ [letter]) := by
  obtain ⟨init, rest, shape, passed, cased⟩ := closes
  have nonempty : cs ≠ [] := by simp [shape]
  obtain none | ⟨others, last, lowered⟩ := List.eq_nil_or_concat (lowerPart [] [] cs)
  · exact absurd none (lowerPart_ne_nil nonempty [] [])
  obtain ⟨letter, plain, ne⟩ := exists_isPlainLetter_ne last
  refine ⟨letter, fun found => ?_⟩
  have before : lower (cs ++ [letter]) = lowerPart [] [letter] cs ++ [letter] := by
    rw [lower, lowerAfter_append, lowerAfter, plain.lowerBetween_eq]
    rfl
  rw [lower_eq_lowerPart, before, List.infix_concat_iff] at found
  rcases found with atEnd | inside
  · rw [lowered, List.concat_eq_append, List.suffix_concat_iff] at atEnd
    obtain none | ⟨start, shape, -⟩ := atEnd
    · exact absurd none (List.append_ne_nil_of_right_ne_nil _ (List.cons_ne_nil _ _))
    · exact ne (List.singleton_inj.mp (List.append_inj_right' shape rfl)).symm
  · have same := inside.eq_of_length (length_lowerPart cs [] [] [] [letter])
    have form := lowerPart_eq_iff.mp same init rest shape
    have after : nextIsCased (rest ++ [letter]) = true := by
      rw [nextIsCased_append_of_ignorable passed, plain.nextIsCased_cons]
    have alone : nextIsCased rest = false := nextIsCased_of_ignorable passed
    simp [isFinal, after, alone, cased] at form

/-- The texts whose lower-case form is found wherever they stand are those without a sigma at an
    edge that can change its form. -/
theorem lower_infix_everywhere_iff {cs : List Char} :
    (∀ before after, lower cs <:+: lower (before ++ cs ++ after)) ↔
      ¬ OpensWithSigma cs ∧ ¬ ClosesWithSigma cs := by
  constructor
  · refine fun everywhere => ⟨fun opens => ?_, fun closes => ?_⟩
    · obtain ⟨letter, lost⟩ := opens.exists_letter_before
      exact lost (by simpa using everywhere [letter] [])
    · obtain ⟨letter, lost⟩ := closes.exists_letter_after
      exact lost (by simpa using everywhere [] [letter])
  · rintro ⟨opens, closes⟩ before after
    have form := lowerPart_eq_iff.mpr (sameForms_of_edges opens closes before.reverse after)
    rw [lower_eq_lowerPart cs, ← form]
    exact lowerPart_infix_lower before cs after

end Agenda.LowerCase
