import Mathlib.Tactic
import Agenda.CommandLine.Directory
import Agenda.Proofs.Text.Fields

/-! # Reading files of a directory

A path leads to a file if nothing but parts that stay in the directory stand before its name. These
are the paths that can be read.
-/

namespace Agenda.CommandLine.Directory

/-- The parts of a path lead to a file with some content. -/
inductive LeadsTo (files : Directory) (content : String) : List (List Char) → Prop
  | stay {part : List Char} {parts : List (List Char)} (stays : part = [] ∨ part = ['.'])
      (leads : LeadsTo files content parts) : LeadsTo files content (part :: parts)
  | file {name : List Char} (named : name ≠ [] ∧ name ≠ ['.'])
      (short : (String.ofList name).utf8ByteSize ≤ nameLimit)
      (found : files.lookup (String.ofList name) = some content) : LeadsTo files content [name]

variable {files : Directory} {content name path : String} {parts : List (List Char)}

theorem leadsTo_stay_iff {part : List Char} (stays : part = [] ∨ part = ['.']) :
    LeadsTo files content (part :: parts) ↔ LeadsTo files content parts := by
  refine ⟨fun leads => ?_, .stay stays⟩
  cases leads with
  | stay _ leads => exact leads
  | file named => exact absurd stays (not_or.mpr named)

theorem leadsTo_named_iff {part : List Char} (named : part ≠ [] ∧ part ≠ ['.']) :
    LeadsTo files content (part :: parts) ↔
      parts = [] ∧ (String.ofList part).utf8ByteSize ≤ nameLimit ∧
        files.lookup (String.ofList part) = some content := by
  constructor
  · intro leads
    cases leads with
    | stay stays => exact absurd stays (not_or.mpr named)
    | file _ short found => exact ⟨rfl, short, found⟩
  · rintro ⟨rfl, short, found⟩
    exact .file named short found

theorem follow_eq_ok_iff : follow files parts = .ok content ↔ LeadsTo files content parts := by
  induction parts with
  | nil => exact ⟨nofun, nofun⟩
  | cons part parts ih =>
    by_cases stays : part = [] ∨ part = ['.']
    · rw [leadsTo_stay_iff stays, ← ih]
      rcases stays with rfl | rfl <;> rfl
    · have named := not_or.mp stays
      rw [leadsTo_named_iff named, follow.eq_4 files part parts named.1 named.2]
      by_cases long : nameLimit < (String.ofList part).utf8ByteSize
      · simp [long, Nat.not_le.mpr long]
      · cases found : files.lookup (String.ofList part) with
        | none =>
          simp only [long, if_false, reduceCtorEq, and_false, iff_false]
          split <;> nofun
        | some other => cases parts <;> simp [long, Nat.not_lt.mp long]

theorem not_leadsTo_nil : ¬LeadsTo [] content parts := by
  intro leads
  induction leads with
  | stay _ _ ih => exact ih
  | file _ _ found => cases found

/-- Exactly the short paths that stay in the directory and lead to a file can be read. -/
theorem read_eq_ok_iff :
    read files path = .ok content ↔
      path.utf8ByteSize < pathLimit ∧ path.toList.head? ≠ some '/' ∧
        LeadsTo files content (Fields.split '/' path.toList) := by
  rw [read]
  by_cases empty : path = ""
  · subst empty
    refine ⟨nofun, fun ⟨_, _, leads⟩ => ?_⟩
    exact nomatch (leadsTo_stay_iff (.inl rfl)).mp leads
  by_cases long : pathLimit ≤ path.utf8ByteSize
  · simp [empty, long, Nat.not_lt.mpr long]
  by_cases rooted : path.toList.head? = some '/'
  · simp [empty, long, rooted, follow_eq_ok_iff, not_leadsTo_nil]
  · simp [empty, long, rooted, follow_eq_ok_iff, Nat.not_le.mp long]

theorem read_of_lookup (found : files.lookup name = some content)
    (named : name ≠ "" ∧ name ≠ ".") (whole : '/' ∉ name.toList)
    (short : name.utf8ByteSize ≤ nameLimit) : read files name = .ok content := by
  rw [read_eq_ok_iff, Fields.split_of_notMem whole]
  refine ⟨short.trans_lt (by decide), fun slash => whole (List.mem_of_head? slash), .file ?_ ?_ ?_⟩
  · exact ⟨fun empty => named.1 (String.toList_inj.mp empty),
      fun point => named.2 (String.toList_inj.mp point)⟩
  · rwa [String.ofList_toList]
  · rwa [String.ofList_toList]

end Agenda.CommandLine.Directory
