import Mathlib.Tactic
import Agenda.Search.Query
import Agenda.Proofs.Text.LowerCase

/-! # Searching for a text that is there

A search compares lower-case forms. A text that stands in a task as it was typed is found if its
capital sigmas have the forms there that they have on their own, and there are queries for which that
is not so: a word that ends with a sigma, where the task goes on after it.
-/

namespace Agenda

open LowerCase

theorem occursIn_iff {needle cs : List Char} : occursIn needle cs = true ↔ needle <:+: cs := by
  induction cs with
  | nil => simp [occursIn]
  | cons c rest ih =>
      rw [occursIn, Bool.or_eq_true, ih, List.isPrefixOf_iff_prefix, List.infix_cons_iff]

namespace Query

theorem matches_text_iff {needle : String} {task : Task} :
    (text needle).matches task = true ↔
      lower needle.toList <:+: lower task.title.toList ∨
        lower needle.toList <:+: lower task.comment.toList := by
  rw [«matches», Bool.or_eq_true, occursIn_iff, occursIn_iff]

end Query

/-- A text stands in the title or in the comment of a task, as it is and all in one piece. -/
def StandsIn (needle : String) (task : Task) : Prop :=
  needle.toList <:+: task.title.toList ∨ needle.toList <:+: task.comment.toList

variable {needle : String} {task : Task}

theorem matches_of_sameForms {before after : List Char}
    (stands : task.title.toList = before ++ needle.toList ++ after ∨
      task.comment.toList = before ++ needle.toList ++ after)
    (same : SameForms needle.toList before.reverse after [] []) :
    (Query.text needle).matches task = true := by
  have found := lowerPart_infix_lower before needle.toList after
  rw [lowerPart_eq_iff.mpr same, ← lower_eq_lowerPart] at found
  rw [Query.matches_text_iff]
  rcases stands with title | comment
  · exact Or.inl (title ▸ found)
  · exact Or.inr (comment ▸ found)

theorem always_matches_iff :
    (∀ task, StandsIn needle task → (Query.text needle).matches task = true) ↔
      ¬ OpensWithSigma needle.toList ∧ ¬ ClosesWithSigma needle.toList := by
  rw [← lower_infix_everywhere_iff]
  constructor
  · intro always before after
    let around := String.ofList (before ++ needle.toList ++ after)
    have stands : needle.toList <:+: around.toList := by
      rw [String.toList_ofList]
      exact ⟨before, after, rfl⟩
    have found := always { title := around, comment := around } (Or.inl stands)
    rw [Query.matches_text_iff, or_self, String.toList_ofList] at found
    exact found
  · rintro everywhere task (⟨before, after, title⟩ | ⟨before, after, comment⟩)
    · exact Query.matches_text_iff.mpr (Or.inl (title ▸ everywhere before after))
    · exact Query.matches_text_iff.mpr (Or.inr (comment ▸ everywhere before after))

theorem no_edge_of_no_sigma {cs : List Char} (h : 'Σ' ∉ cs) :
    ¬ OpensWithSigma cs ∧ ¬ ClosesWithSigma cs := by
  constructor
  · rintro ⟨init, rest, rfl, -⟩
    exact h (by simp)
  · rintro ⟨init, rest, rfl, -⟩
    exact h (by simp)

/-- A text that stands in a title or a comment is found where each of its capital sigmas has the form
    that it has in the text alone. It is found in every task in which it stands exactly if it neither
    opens with a sigma before no letter nor closes with one after a letter, so always if it has no
    capital sigma. -/
theorem literal_text_is_found_in_same_form (needle : String) :
    (∀ (task : Task) (before after : List Char),
        (task.title.toList = before ++ needle.toList ++ after ∨
          task.comment.toList = before ++ needle.toList ++ after) →
        SameForms needle.toList before.reverse after [] [] →
        (Query.text needle).matches task = true) ∧
      ((∀ task, StandsIn needle task → (Query.text needle).matches task = true) ↔
        ¬ OpensWithSigma needle.toList ∧ ¬ ClosesWithSigma needle.toList) ∧
      ('Σ' ∉ needle.toList →
        ∀ task, StandsIn needle task → (Query.text needle).matches task = true) :=
  ⟨fun _ _ _ => matches_of_sameForms, always_matches_iff,
    fun noSigma => always_matches_iff.mpr (no_edge_of_no_sigma noSigma)⟩

/-- A query for the first syllables of a word misses the word: its last sigma is a final one, and that
    of the word is not. -/
theorem start_of_word_is_missed :
    StandsIn "ΣΕΙΣ" { title := "ΣΕΙΣΜΟΣ" } ∧
      (Query.text "ΣΕΙΣ").matches { title := "ΣΕΙΣΜΟΣ" } = false := by
  refine ⟨Or.inl ⟨[], "ΜΟΣ".toList, by decide⟩, ?_⟩
  decide +kernel

/-- The same query finds the word where it stands alone, and a capital with a dot, the lower-case form
    of which has two characters, is found in a comment. -/
theorem whole_word_and_dotted_capital_are_found :
    let word : Task := { title := "ΣΕΙΣΜΟΣ Ή ΣΕΙΣ" }
    let travel : Task := { title := "travel", comment := "İZMİR" }
    (Query.text "ΣΕΙΣ").matches word = true ∧
      'Σ' ∉ "ZMİ".toList ∧ StandsIn "ZMİ" travel ∧ (Query.text "ZMİ").matches travel = true := by
  intro word travel
  have same : SameForms "ΣΕΙΣ".toList "ΣΕΙΣΜΟΣ Ή ".toList.reverse [] [] [] :=
    lowerPart_eq_iff.mp (by decide +kernel)
  have noSigma : 'Σ' ∉ "ZMİ".toList := by decide
  have stands : StandsIn "ZMİ" travel := Or.inr ⟨['İ'], ['R'], by decide⟩
  obtain ⟨found, -, -⟩ := literal_text_is_found_in_same_form "ΣΕΙΣ"
  obtain ⟨-, -, always⟩ := literal_text_is_found_in_same_form "ZMİ"
  exact ⟨found word _ _ (Or.inl (by decide)) same, noSigma, stands, always noSigma travel stands⟩

end Agenda
