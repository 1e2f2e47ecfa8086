import Mathlib.Logic.Relation
import Mathlib.Data.List.Infix

/-!
# Runs and histories

Invariants of the runs of a transition relation, and properties of histories: lists of entries, the
latest first, in which every entry is judged by the entries before it.
-/

namespace QuickFix

open Relation

variable {α : Type*}

/-! ## Runs -/

/-- An invariant that every step keeps holds after any number of steps. -/
theorem runs_keep {r : α → α → Prop} {I : α → Prop} {a b} (step : ∀ {a b}, r a b → I a → I b)
    (run : ReflTransGen r a b) (h : I a) : I b := by
  induction run with
  | refl => exact h
  | tail _ last ih => exact step last ih

/-- A run of a smaller relation is a run of a larger one. -/
lemma runs_mono {r q : α → α → Prop} {a b} (sub : ∀ {a b}, r a b → q a b)
    (run : ReflTransGen r a b) : ReflTransGen q a b := by
  induction run with
  | refl => exact .refl
  | tail _ last ih => exact ih.tail (sub last)

/-! ## Histories -/

/-- Every entry of a history satisfies `P` together with the entries before it. -/
def Along (P : α → List α → Prop) : List α → Prop
  | [] => True
  | x :: xs => P x xs ∧ Along P xs

instance {P : α → List α → Prop} [∀ x xs, Decidable (P x xs)] : ∀ xs, Decidable (Along P xs)
  | [] => .isTrue trivial
  | _ :: xs =>
    have : Decidable (Along P xs) := instDecidableAlong xs
    inferInstanceAs (Decidable (_ ∧ _))

/-- `Along` in terms of the suffixes of the history. -/
lemma along_iff {P : α → List α → Prop} {xs} :
    Along P xs ↔ ∀ x rest, x :: rest <:+ xs → P x rest := by
  induction xs with
  | nil => simp [Along]
  | cons y ys ih =>
    simp only [Along, ih, List.suffix_cons_iff, List.cons.injEq]
    constructor
    · rintro ⟨hd, tl⟩ x rest (⟨rfl, rfl⟩ | suf)
      · exact hd
      · exact tl x rest suf
    · intro h
      exact ⟨h y ys (.inl ⟨rfl, rfl⟩), fun x rest suf => h x rest (.inr suf)⟩

/-- Every entry of a history has the property, for what was before it. -/
lemma Along.of_mem {P : α → List α → Prop} {x} {xs} (h : Along P xs) (mem : x ∈ xs) :
    ∃ rest, x :: rest <:+ xs ∧ P x rest := by
  obtain ⟨later, rest, rfl⟩ := List.append_of_mem mem
  have suf : x :: rest <:+ later ++ x :: rest := List.suffix_append later _
  exact ⟨rest, suf, along_iff.mp h x rest suf⟩

/-- What follows from `P` for every entry holds along the history. -/
lemma Along.imp {P Q : α → List α → Prop} {xs} (imp : ∀ x rest, P x rest → Q x rest)
    (h : Along P xs) : Along Q xs := by
  induction xs with
  | nil => trivial
  | cons y ys ih => exact ⟨imp _ _ h.1, ih h.2⟩

/-- A shorter history has the property too. -/
lemma Along.of_suffix {P : α → List α → Prop} {xs ys} (h : Along P xs) (suf : ys <:+ xs) :
    Along P ys := by
  rw [along_iff] at h ⊢
  exact fun x rest hx => h x rest (hx.trans suf)

/-- Later entries that satisfy `P` after any history keep it. -/
lemma Along.append {P : α → List α → Prop} {r xs} (h : Along P xs)
    (holds : ∀ x ∈ r, ∀ rest, P x rest) : Along P (r ++ xs) := by
  induction r with
  | nil => exact h
  | cons x r ih =>
    obtain ⟨here, later⟩ := List.forall_mem_cons.mp holds
    exact ⟨here _, ih later⟩

/-- The entries since the last boundary. -/
def since (boundary : α → Bool) (xs : List α) : List α := xs.takeWhile fun x => !boundary x

/-- What came since the last boundary, after one more. -/
@[simp] lemma since_cons {boundary : α → Bool} {x : α} {xs} :
    since boundary (x :: xs) = if boundary x then [] else x :: since boundary xs := by
  cases h : boundary x <;> simp [since, h]

/-- The entries since the last boundary are entries. -/
lemma mem_of_mem_since {boundary : α → Bool} {x : α} {xs} (h : x ∈ since boundary xs) : x ∈ xs :=
  (List.takeWhile_sublist _).subset h

/-- Nothing came before the start. -/
@[simp] lemma since_nil {boundary : α → Bool} : since boundary [] = [] := rfl

end QuickFix
