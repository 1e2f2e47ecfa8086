import Mathlib.Algebra.Ring.Int.Defs
import Mathlib.Algebra.Ring.Nat
import Mathlib.Data.List.Basic
import Mathlib.Tactic.Lemma

/-!
# Computations in range

Computations on machine words and slices that stop where the machine would: an addition that leaves
its range, a subtraction below zero, a slice outside its bounds. Besides these faults a computation
may fail with an error of its own.
-/

namespace QuickFix

/-- Where a computation leaves the range of its machine. -/
inductive Fault where
  | overflow
  | underflow
  | slice
  deriving DecidableEq

/-- A computation that may fault, or fail with an error. -/
abbrev Ranged (ε α : Type) := Except (Fault ⊕ ε) α

namespace Ranged

variable {ε α β : Type}

/-- Fails with an error of its own. -/
def fail (e : ε) : Ranged ε α := .error (.inr e)

/-- A number below a bound. -/
def within (bound a : Nat) : Ranged ε Nat :=
  if a < bound then .ok a else .error (.inl .overflow)

/-- An addition below a bound. -/
def add (bound a b : Nat) : Ranged ε Nat :=
  if a + b < bound then .ok (a + b) else .error (.inl .overflow)

/-- A subtraction of unsigned numbers. -/
def sub (a b : Nat) : Ranged ε Nat := if b ≤ a then .ok (a - b) else .error (.inl .underflow)

/-- The elements from `i` to before `j`. -/
def slice (xs : List α) (i j : Nat) : Ranged ε (List α) :=
  if i ≤ j ∧ j ≤ xs.length then .ok ((xs.drop i).take (j - i)) else .error (.inl .slice)

/-- A computation without faults. -/
def lift (x : Except ε α) : Ranged ε α := x.mapError .inr

/-- The computation did not fault. -/
def Safe (x : Ranged ε α) : Prop := ∀ fault, x ≠ .error (.inl fault)

/-- A value is lifted to itself. -/
@[simp] lemma lift_ok (a : α) : (lift (.ok a) : Ranged ε α) = .ok a := rfl

/-- An error is lifted to a failure. -/
@[simp] lemma lift_error (e : ε) : (lift (.error e) : Ranged ε α) = fail e := rfl

/-- A value is handed on. -/
@[simp] lemma ok_bind (a : α) (f : α → Ranged ε β) : (Except.ok a >>= f) = f a := rfl

/-- Nothing follows on a failure. -/
@[simp] lemma fail_bind (e : ε) (f : α → Ranged ε β) : (fail e >>= f) = fail e := rfl

/-- Nothing follows on a fault. -/
@[simp] lemma fault_bind (x : Fault) (f : α → Ranged ε β) :
    ((Except.error (.inl x) : Ranged ε α) >>= f) = .error (.inl x) := rfl

/-- Where a computation succeeds, its parts do. -/
lemma bind_ok {x : Ranged ε α} {f : α → Ranged ε β} {b} (h : (x >>= f) = .ok b) :
    ∃ a, x = .ok a ∧ f a = .ok b := by
  cases x with
  | ok a => exact ⟨a, rfl, h⟩
  | error e => cases h

/-- A computation succeeds where its parts do, one after the other. -/
lemma bind_eq_ok {δ : Type} {x : Except δ α} {f : α → Except δ β} {b} :
    (x >>= f) = .ok b ↔ ∃ a, x = .ok a ∧ f a = .ok b := by
  constructor
  · intro h
    cases x with
    | ok a => exact ⟨a, rfl, h⟩
    | error e => cases h
  · rintro ⟨a, rfl, h⟩
    exact h

/-- A computation fails where one of its parts does. -/
lemma bind_eq_fail {x : Ranged ε α} {f : α → Ranged ε β} {e} (h : (x >>= f) = fail e) :
    x = fail e ∨ ∃ a, x = .ok a ∧ f a = fail e := by
  cases x with
  | ok a => exact .inr ⟨a, rfl, h⟩
  | error e' => exact .inl (congrArg Except.error (Except.error.inj h))

/-- To change the errors changes no result. -/
lemma mapError_eq_ok {δ δ' : Type} {x : Except δ α} {f : δ → δ'} {a} : x.mapError f = .ok a ↔ x = .ok a := by
  cases x <;> simp [Except.mapError]

/-- Below the bound a number is what it is. -/
@[simp] lemma within_of_lt {bound a} (h : a < bound) : (within bound a : Ranged ε Nat) = .ok a := if_pos h

/-- Below the bound an addition is exact. -/
@[simp] lemma add_of_lt {bound a b} (h : a + b < bound) : (add bound a b : Ranged ε Nat) = .ok (a + b) :=
  if_pos h

/-- From the bound on an addition overflows. -/
lemma add_of_le {bound a b} (h : bound ≤ a + b) :
    (add bound a b : Ranged ε Nat) = .error (.inl .overflow) := if_neg (Nat.not_lt.mpr h)

/-- A subtraction that stays above zero is exact. -/
lemma sub_of_le {a b} (h : b ≤ a) : (sub a b : Ranged ε Nat) = .ok (a - b) := if_pos h

/-- The rest of a list is a slice of it. -/
lemma slice_end {xs : List α} {i} (h : i ≤ xs.length) :
    (slice xs i xs.length : Ranged ε (List α)) = .ok (xs.drop i) := by
  rw [slice, if_pos ⟨h, Nat.le_refl _⟩, List.take_of_length_le (by simp)]

/-- A slice within bounds. -/
lemma slice_of_le {xs : List α} {i j} (h : i ≤ j) (h' : j ≤ xs.length) :
    (slice xs i j : Ranged ε (List α)) = .ok ((xs.drop i).take (j - i)) := if_pos ⟨h, h'⟩

/-- A value is safe. -/
lemma safe_ok (a : α) : Safe (.ok a : Ranged ε α) := by
  intro fault eq
  cases eq

/-- A failure is safe. -/
lemma safe_fail (e : ε) : Safe (fail e : Ranged ε α) := by
  intro fault eq
  cases eq

/-- What was computed without faults is safe. -/
lemma safe_lift (x : Except ε α) : Safe (lift x) := by
  cases x with
  | ok a => exact safe_ok a
  | error e => exact safe_fail e

/-- The sum of a list, one addition after another. -/
def sum (bound : Nat) : Nat → List Nat → Ranged ε Nat
  | total, [] => .ok total
  | total, n :: ns => do
    let total ← add bound total n
    sum bound total ns

/-- A sum overflows exactly where its total does. -/
lemma sum_eq {bound total} (start : total < bound) (ns) :
    (sum bound total ns : Ranged ε Nat) =
      if total + ns.sum < bound then .ok (total + ns.sum) else .error (.inl .overflow) := by
  induction ns generalizing total with
  | nil => simp [sum, start]
  | cons n ns ih =>
    rw [sum, List.sum_cons, ← Nat.add_assoc]
    by_cases h : total + n < bound
    · rw [add_of_lt h, ok_bind, ih h]
    · rw [add_of_le (Nat.not_lt.mp h), fault_bind, if_neg]
      omega

end Ranged

end QuickFix
