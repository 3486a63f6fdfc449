import Mathlib.Tactic

/-! # Arithmetic within bounds

A computation on numbers of fixed width is written down exactly, with a log of its operations. As long
as every operation in the log is safe, numbers of fixed width give the same values at every step, and
so the same answer.
-/

namespace Agenda

/-- The whole numbers from one to another, such as those that a type of fixed width has. -/
structure Bounds where
  low : Int
  high : Int

namespace Bounds

def Holds (bounds : Bounds) (n : Int) : Prop :=
  bounds.low ≤ n ∧ n ≤ bounds.high

instance (bounds : Bounds) (n : Int) : Decidable (bounds.Holds n) :=
  inferInstanceAs (Decidable (_ ∧ _))

def signed32 : Bounds := ⟨-2147483648, 2147483647⟩

def unsigned32 : Bounds := ⟨0, 4294967295⟩

def signed64 : Bounds := ⟨-9223372036854775808, 9223372036854775807⟩

/-- The numbers of months, and 0. -/
def upToTwelve : Bounds := ⟨0, 12⟩

theorem holds_iff {low high n : Int} : (Bounds.mk low high).Holds n ↔ low ≤ n ∧ n ≤ high := Iff.rfl

end Bounds

/-- An operation that nothing checks, with its operands. A conversion takes a number from one type to
    another. -/
inductive Operation
  | add (bounds : Bounds) (a b : Int)
  | subtract (bounds : Bounds) (a b : Int)
  | multiply (bounds : Bounds) (a b : Int)
  | divide (bounds : Bounds) (a b : Int)
  | convert (source target : Bounds) (a : Int)

namespace Operation

/-- The exact result. Division goes toward zero. -/
def result : Operation → Int
  | add _ a b => a + b
  | subtract _ a b => a - b
  | multiply _ a b => a * b
  | divide _ a b => a.tdiv b
  | convert _ _ a => a

/-- Operands and result are numbers of the type, and no division is by zero. A converted number belongs
    to both types, and so keeps its value. -/
def IsSafe : Operation → Prop
  | add bounds a b => bounds.Holds a ∧ bounds.Holds b ∧ bounds.Holds (a + b)
  | subtract bounds a b => bounds.Holds a ∧ bounds.Holds b ∧ bounds.Holds (a - b)
  | multiply bounds a b => bounds.Holds a ∧ bounds.Holds b ∧ bounds.Holds (a * b)
  | divide bounds a b => bounds.Holds a ∧ bounds.Holds b ∧ b ≠ 0 ∧ bounds.Holds (a.tdiv b)
  | convert source target a => source.Holds a ∧ target.Holds a

instance : DecidablePred IsSafe
  | add _ _ _ | subtract _ _ _ | multiply _ _ _ => inferInstanceAs (Decidable (_ ∧ _ ∧ _))
  | divide _ _ _ => inferInstanceAs (Decidable (_ ∧ _ ∧ _ ∧ _))
  | convert _ _ _ => inferInstanceAs (Decidable (_ ∧ _))

theorem isSafe_subtract {a b : Int} (nonneg : 0 ≤ b) (le : b ≤ a) (small : a ≤ 4294967295) :
    (subtract .unsigned32 a b).IsSafe := by
  simp only [IsSafe, Bounds.unsigned32, Bounds.holds_iff]
  omega

theorem isSafe_convert {a : Int} (nonneg : 0 ≤ a) (small : a ≤ 2147483647) :
    (convert .signed32 .unsigned32 a).IsSafe := by
  simp only [IsSafe, Bounds.signed32, Bounds.unsigned32, Bounds.holds_iff]
  omega

end Operation

/-- An exact answer, and the operations that led to it. -/
structure Logged (α : Type) where
  answer : α
  log : List Operation

namespace Logged

variable {α β : Type}

instance : Monad Logged where
  pure a := ⟨a, []⟩
  bind x next := ⟨(next x.answer).answer, x.log ++ (next x.answer).log⟩

/-- Every operation on the way to the answer is safe. -/
def IsSafe (x : Logged α) : Prop :=
  ∀ op ∈ x.log, op.IsSafe

def run (op : Operation) : Logged Int :=
  ⟨op.result, [op]⟩

def natural (op : Operation) : Logged Nat :=
  ⟨op.result.toNat, [op]⟩

/-- Go on from what was read, or stop with its refusal. -/
def afterReading {ε : Type} (read : Except ε α) (next : α → Logged (Except ε β)) :
    Logged (Except ε β) :=
  match read with
  | .ok a => next a
  | .error error => pure (.error error)

@[simp] theorem answer_pure (a : α) : (pure a : Logged α).answer = a := rfl

@[simp] theorem answer_bind (x : Logged α) (next : α → Logged β) :
    (x >>= next).answer = (next x.answer).answer := rfl

@[simp] theorem answer_run (op : Operation) : (run op).answer = op.result := rfl

@[simp] theorem answer_natural (op : Operation) : (natural op).answer = op.result.toNat := rfl

@[simp] theorem isSafe_pure (a : α) : (pure a : Logged α).IsSafe := by
  intro op member
  cases member

@[simp] theorem isSafe_bind_iff {x : Logged α} {next : α → Logged β} :
    (x >>= next).IsSafe ↔ x.IsSafe ∧ (next x.answer).IsSafe :=
  List.forall_mem_append

@[simp] theorem isSafe_run_iff {op : Operation} : (run op).IsSafe ↔ op.IsSafe :=
  List.forall_mem_singleton

@[simp] theorem isSafe_natural_iff {op : Operation} : (natural op).IsSafe ↔ op.IsSafe :=
  List.forall_mem_singleton

theorem IsSafe.map {x : Logged α} (safe : x.IsSafe) (f : α → β) :
    (x >>= fun a => pure (f a)).IsSafe :=
  isSafe_bind_iff.mpr ⟨safe, isSafe_pure _⟩

variable {ε : Type} {read : Except ε α} {next : α → Logged (Except ε β)}

@[simp] theorem answer_afterReading :
    (afterReading read next).answer = read >>= fun a => (next a).answer := by
  cases read <;> rfl

theorem isSafe_afterReading (h : ∀ a, read = .ok a → (next a).IsSafe) :
    (afterReading read next).IsSafe := by
  cases read with
  | ok a => exact h a rfl
  | error error => exact isSafe_pure _

end Logged

example : ¬ (Operation.subtract .unsigned32 28 29).IsSafe := by decide

end Agenda
