import QuickFix.Lib.Runs
import Mathlib.Data.List.Sort
import Mathlib.Data.List.Perm.Subperm

/-!
# A delivery service

What a one-way channel of numbered items is for, whatever carries them: items are accepted with growing
keys, and of those accepted some are delivered, with growing keys too. In every run of the service
what was delivered is a part of what was accepted, in the same order, and nothing twice.
-/

namespace QuickFix

open Relation

/-- What a service accepted and what it delivered, each the earliest first. -/
@[ext] structure Service (α : Type*) where
  accepted : List α := []
  delivered : List α := []

namespace Service

variable {α κ : Type*} [Preorder κ] (key : α → κ)

/-- The service accepts an item, or delivers one it has accepted. -/
inductive Step : Service α → Service α → Prop
  | accept {s} (x) (later : ∀ y ∈ s.accepted, key y < key x) :
      Step s { s with accepted := s.accepted ++ [x] }
  | deliver {s} (x) (known : x ∈ s.accepted) (later : ∀ y ∈ s.delivered, key y < key x) :
      Step s { s with delivered := s.delivered ++ [x] }

/-- Steps of the service, one after the other. -/
abbrev Reaches : Service α → Service α → Prop := ReflTransGen (Step key)

/-- Keys grow on both sides, and nothing is delivered that was not accepted. -/
structure Sound (s : Service α) : Prop where
  accepted : s.accepted.Pairwise (key · < key ·)
  delivered : s.delivered.Pairwise (key · < key ·)
  known : ∀ x ∈ s.delivered, x ∈ s.accepted

variable {key} {s t : Service α}

/-- A list whose keys grow grows by an item with a later key. -/
lemma pairwise_snoc {xs : List α} {x : α} (sorted : xs.Pairwise (key · < key ·))
    (later : ∀ y ∈ xs, key y < key x) : (xs ++ [x]).Pairwise (key · < key ·) := by
  apply List.pairwise_append.mpr
  refine ⟨sorted, List.pairwise_singleton _ _, fun y mem z last => ?_⟩
  rw [List.mem_singleton.mp last]
  exact later y mem

/-- Every step keeps the service sound. -/
lemma Step.sound (step : Step key s t) (h : Sound key s) : Sound key t := by
  cases step with
  | accept x later =>
    exact ⟨pairwise_snoc h.accepted later, h.delivered, fun y mem =>
      List.mem_append_left _ (h.known y mem)⟩
  | deliver x known later =>
    refine ⟨h.accepted, pairwise_snoc h.delivered later, fun y mem => ?_⟩
    cases List.mem_append.mp mem with
    | inl old => exact h.known y old
    | inr new => exact List.mem_singleton.mp new ▸ known

/-- So does every run. -/
theorem Reaches.sound (run : Reaches key s t) (h : Sound key s) : Sound key t :=
  runs_keep Step.sound run h

/-- A list that grows with its keys is a part of any other such list that has its items. -/
lemma sublist_of_pairwise {xs ys : List α} (sorted : xs.Pairwise (key · < key ·))
    (sorted' : ys.Pairwise (key · < key ·)) (sub : ∀ x ∈ xs, x ∈ ys) : xs.Sublist ys := by
  have anti : Std.Antisymm (α := α) (key · < key ·) := ⟨fun _ _ lt gt => absurd gt lt.asymm⟩
  have nodup : xs.Nodup := by
    apply sorted.imp
    rintro x y lt rfl
    exact lt_irrefl _ lt
  exact List.sublist_of_subperm_of_pairwise (nodup.subperm sub) sorted sorted'

/-- It is the part of that list that satisfies a predicate when its items are those that do. -/
lemma eq_filter_of_pairwise {xs ys : List α} {p : α → Bool} (sorted : xs.Pairwise (key · < key ·))
    (sorted' : ys.Pairwise (key · < key ·)) (items : ∀ x, x ∈ xs ↔ x ∈ ys ∧ p x = true) :
    xs = ys.filter p := by
  have part := sorted'.filter p
  have sub : xs.Sublist (ys.filter p) :=
    sublist_of_pairwise sorted part fun x mem => List.mem_filter.mpr ((items x).mp mem)
  have sup : (ys.filter p).Sublist xs :=
    sublist_of_pairwise part sorted fun x mem => (items x).mpr (List.mem_filter.mp mem)
  exact sub.antisymm sup

/-- In a list that grows with its keys, an item is known by its key. -/
lemma eq_of_key_eq {xs : List α} {x y : α} (sorted : xs.Pairwise (key · < key ·)) (memx : x ∈ xs)
    (memy : y ∈ xs) (same : key x = key y) : x = y := by
  by_contra ne
  rcases List.pairwise_iff_get.mp sorted with order
  obtain ⟨i, rfl⟩ := List.mem_iff_get.mp memx
  obtain ⟨j, rfl⟩ := List.mem_iff_get.mp memy
  rcases lt_trichotomy i j with lt | rfl | lt
  · exact (order i j lt).ne same
  · exact ne rfl
  · exact (order j i lt).ne same.symm

/-- What was delivered is a part of what was accepted, in the same order. -/
theorem Sound.sublist (h : Sound key s) : s.delivered.Sublist s.accepted :=
  sublist_of_pairwise h.delivered h.accepted h.known

/-! ## Several steps at once -/

/-- The service accepts items whose keys go on growing. -/
lemma reaches_accept {xs : List α} (sorted : (s.accepted ++ xs).Pairwise (key · < key ·)) :
    Reaches key s { s with accepted := s.accepted ++ xs } := by
  induction xs generalizing s with
  | nil => rw [List.append_nil]
  | cons x xs ih =>
    have later : ∀ y ∈ s.accepted, key y < key x := fun y mem =>
      (List.pairwise_append.mp sorted).2.2 y mem x List.mem_cons_self
    rw [List.append_cons] at sorted ⊢
    exact .head (.accept x later) (ih (s := { s with accepted := s.accepted ++ [x] }) sorted)

/-- The service delivers items it has accepted, whose keys go on growing. -/
lemma reaches_deliver {xs : List α} (sorted : (s.delivered ++ xs).Pairwise (key · < key ·))
    (known : ∀ x ∈ xs, x ∈ s.accepted) :
    Reaches key s { s with delivered := s.delivered ++ xs } := by
  induction xs generalizing s with
  | nil => rw [List.append_nil]
  | cons x xs ih =>
    obtain ⟨here, rest⟩ := List.forall_mem_cons.mp known
    have later : ∀ y ∈ s.delivered, key y < key x := fun y mem =>
      (List.pairwise_append.mp sorted).2.2 y mem x List.mem_cons_self
    rw [List.append_cons] at sorted ⊢
    exact .head (.deliver x here later) (ih (s := { s with delivered := s.delivered ++ [x] }) sorted rest)

end Service

end QuickFix
