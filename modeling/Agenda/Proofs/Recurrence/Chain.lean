import Mathlib.Tactic
import Agenda.Proofs.Recurrence.MonthlyRun
import Agenda.Proofs.Rule.Canonical
import Agenda.Recurrence.Chain

/-! # Chains of dates and runs of a rule

A chain has each date counted from the one before, and ends early only where there is none. With the
reference day moved along, it is a run of the rule.
-/

namespace Agenda

open Recurrence

/-- A chain has as many dates as it was asked for, or fewer and the error that follows the last
    one. -/
theorem length_dueDates (rule : String) (follow : Bool) (count : Nat) (now : Date)
    (anchor : String) :
    let chain := dueDates rule follow count now anchor
    (chain.2 = none ∧ chain.1.length = count) ∨
      ∃ day error, chain.2 = some error ∧ chain.1.length < count ∧
        nextDate day (chain.1.getLast?.getD anchor) rule = .error error := by
  induction count generalizing now anchor with
  | zero => exact .inl ⟨rfl, rfl⟩
  | succ count ih =>
    rw [dueDates]
    cases counted : nextDate now anchor rule with
    | error error => exact .inr ⟨now, error, rfl, Nat.succ_pos count, counted⟩
    | ok date =>
      rcases ih (if follow then (Date.ofText? date).getD now else now) date with
        ⟨noError, length⟩ | ⟨day, error, isError, length, refused⟩
      · exact .inl ⟨noError, congrArg Nat.succ length⟩
      · refine .inr ⟨day, error, isError, Nat.succ_lt_succ length, ?_⟩
        rwa [List.getLast?_cons]

/-- With one reference day, each date of a chain is counted from the one before on this day. -/
theorem isChain_dueDates (rule : String) (count : Nat) (now : Date) (anchor : String) :
    List.IsChain (fun date next => nextDate now date rule = .ok next)
      (anchor :: (dueDates rule false count now anchor).1) := by
  induction count generalizing anchor with
  | zero => exact .singleton anchor
  | succ count ih =>
    rw [dueDates]
    cases counted : nextDate now anchor rule with
    | error error => exact .singleton anchor
    | ok date => exact .cons_cons counted (ih date)

variable {rule : Rule} {start day next : Date} {dates : List Date}

theorem Visits.cons (counted : nextOccurrence start start rule = .ok next)
    (run : Visits rule next dates day) : Visits rule start (next :: dates) day := by
  induction run with
  | start => exact Visits.start.next counted
  | next _ countedLast ih => exact ih.next countedLast

theorem dueDates_of_unreadable {anchor : String} (unreadable : Date.ofText? anchor = none)
    (text : String) (follow : Bool) (count : Nat) (now : Date) :
    (dueDates text follow count now anchor).1 = [] := by
  cases count with
  | zero => rfl
  | succ count =>
    have refused : nextDate now anchor text = .error (.invalidDate anchor) := by
      rw [nextDate, Date.read, unreadable]
      rfl
    rw [dueDates, refused]

/-- With the reference day moved along, a chain from a stored date is a run of the rule. -/
theorem visits_dueDates {text : String} (parsed : Rule.ofText text = .ok rule)
    (storable : start.IsStorable) (count : Nat) :
    ∃ dates day, Visits rule start dates day ∧
      (dueDates text true count start start.text).1 = dates.map Date.text := by
  induction count generalizing start with
  | zero => exact ⟨[], start, .start, rfl⟩
  | succ count ih =>
    have read := Date.read_eq_ok_iff.mpr ⟨rfl, storable⟩
    have checked : nextOccurrence start start rule = occurrence start start rule :=
      nextOccurrence_of_validated (Rule.validated_of_ofText parsed)
    rw [dueDates, nextDate_of_read read parsed, ← checked]
    cases counted : nextOccurrence start start rule with
    | error error => exact ⟨[], start, .start, rfl⟩
    | ok next =>
      by_cases storableNext : next.IsStorable
      · obtain ⟨dates, day, run, texts⟩ := ih storableNext
        refine ⟨next :: dates, day, run.cons counted, ?_⟩
        simp [Except.map, Date.ofText?_text storableNext, texts]
      · -- A date with a longer year is not read again, so that the chain ends with it.
        have unreadable : Date.ofText? next.text = none := by
          rw [Option.eq_none_iff_forall_ne_some]
          intro d readNext
          obtain rfl := Date.eq_of_ofText?_text readNext
          exact storableNext (Date.ofText?_eq_some_iff.mp readNext).2
        refine ⟨[next], next, Visits.start.next counted, ?_⟩
        simp [Except.map, dueDates_of_unreadable unreadable]

end Agenda
