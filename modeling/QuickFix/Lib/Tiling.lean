import Mathlib.Data.List.Chain
import Mathlib.Tactic.Lemma

/-!
# Tilings of ranges

Lists of pieces that cover a range of numbers in ascending order, without a gap and without an
overlap. A piece covers the numbers from its first one to before its next one.
-/

namespace QuickFix

variable {α : Type} (first next : α → Nat)

/-- The pieces cover the numbers from `lo` to before `hi`, each one once. -/
def Tiles : Nat → List α → Nat → Prop
  | lo, [], hi => lo = hi
  | lo, p :: ps, hi => first p = lo ∧ lo < next p ∧ Tiles (next p) ps hi

variable {first next} {lo mid hi : Nat} {ps qs : List α}

/-- Adjacent tilings are one. -/
lemma Tiles.append (h : Tiles first next lo ps mid) (h' : Tiles first next mid qs hi) :
    Tiles first next lo (ps ++ qs) hi := by
  induction ps generalizing lo with
  | nil => exact h ▸ h'
  | cons p ps ih => exact ⟨h.1, h.2.1, ih h.2.2⟩

/-- A piece after a tiling. -/
lemma Tiles.snoc {p} (h : Tiles first next lo ps mid) (here : first p = mid) (lt : mid < next p) :
    Tiles first next lo (ps ++ [p]) (next p) :=
  h.append ⟨here, lt, rfl⟩

/-- A tiling of a range is one of its parts. -/
lemma Tiles.split (h : Tiles first next lo (ps ++ qs) hi) :
    ∃ mid, Tiles first next lo ps mid ∧ Tiles first next mid qs hi := by
  induction ps generalizing lo with
  | nil => exact ⟨lo, rfl, h⟩
  | cons p ps ih =>
    obtain ⟨here, lt, rest⟩ := h
    obtain ⟨mid, tiles, tiles'⟩ := ih rest
    exact ⟨mid, ⟨here, lt, tiles⟩, tiles'⟩

/-- A tiling ends behind its start. -/
lemma Tiles.le (h : Tiles first next lo ps hi) : lo ≤ hi := by
  induction ps generalizing lo with
  | nil => exact Nat.le_of_eq h
  | cons p ps ih => exact (Nat.le_of_lt h.2.1).trans (ih h.2.2)

/-- A piece of a tiling lies within its range. -/
lemma Tiles.within {p} (h : Tiles first next lo ps hi) (mem : p ∈ ps) : lo ≤ first p ∧ first p < hi := by
  obtain ⟨before, after, rfl⟩ := List.append_of_mem mem
  obtain ⟨mid, tiles, here, lt, rest⟩ := h.split
  rw [here]
  exact ⟨tiles.le, lt.trans_le rest.le⟩

/-- No piece of a tiling is empty. -/
lemma Tiles.nonempty {p} (h : Tiles first next lo ps hi) (mem : p ∈ ps) : first p < next p := by
  obtain ⟨before, after, rfl⟩ := List.append_of_mem mem
  obtain ⟨mid, -, here, lt, -⟩ := h.split
  exact here ▸ lt

/-- A piece of a tiling ends within its range. -/
lemma Tiles.next_le {p} (h : Tiles first next lo ps hi) (mem : p ∈ ps) : next p ≤ hi := by
  obtain ⟨before, after, rfl⟩ := List.append_of_mem mem
  obtain ⟨mid, -, -, -, rest⟩ := h.split
  exact rest.le

/-- Every number of the range is covered. -/
lemma Tiles.covers {n : Nat} (h : Tiles first next lo ps hi) (low : lo ≤ n) (high : n < hi) :
    ∃ p ∈ ps, first p ≤ n ∧ n < next p := by
  induction ps generalizing lo with
  | nil =>
    have same : lo = hi := h
    omega
  | cons p ps ih =>
    obtain ⟨here, -, rest⟩ := h
    rcases Nat.lt_or_ge n (next p) with inside | behind
    · exact ⟨p, List.mem_cons_self, here ▸ low, inside⟩
    · obtain ⟨q, mem, covered⟩ := ih rest behind
      exact ⟨q, List.mem_cons_of_mem p mem, covered⟩

/-- A number is covered by one piece only. -/
lemma Tiles.unique {p q} {n : Nat} (h : Tiles first next lo ps hi) (mem : p ∈ ps) (mem' : q ∈ ps)
    (covers : first p ≤ n ∧ n < next p) (covers' : first q ≤ n ∧ n < next q) : p = q := by
  induction ps generalizing lo with
  | nil => cases mem
  | cons r ps ih =>
    obtain ⟨-, -, rest⟩ := h
    cases mem with
    | head =>
      cases mem' with
      | head => rfl
      | tail _ mem' => exact absurd ((rest.within mem').1.trans covers'.1) (Nat.not_le.mpr covers.2)
    | tail _ mem =>
      cases mem' with
      | head => exact absurd ((rest.within mem).1.trans covers.1) (Nat.not_le.mpr covers'.2)
      | tail _ mem' => exact ih rest mem mem'

/-- A piece of a tiling is its first one, or follows another. -/
lemma Tiles.predecessor {R : α → α → Prop} {p} (h : Tiles first next lo ps hi) (chain : ps.IsChain R)
    (mem : p ∈ ps) : first p = lo ∨ ∃ q ∈ ps, next q = first p ∧ R q p := by
  obtain ⟨before, after, rfl⟩ := List.append_of_mem mem
  obtain ⟨mid, tiles, here, -⟩ := h.split
  cases before using List.reverseRecOn with
  | nil => exact .inl (here.trans tiles.symm)
  | append_singleton before q =>
    obtain ⟨last, -, -, -, done⟩ := tiles.split
    refine .inr ⟨q, by simp, done.trans here.symm, ?_⟩
    rw [List.append_assoc] at chain
    exact chain.right_of_append.rel

/-- A piece of a tiling is its last one, or has another behind it. -/
lemma Tiles.successor {p} (h : Tiles first next lo ps hi) (mem : p ∈ ps) :
    next p = hi ∨ ∃ q ∈ ps, first q = next p := by
  obtain ⟨before, after, rfl⟩ := List.append_of_mem mem
  obtain ⟨mid, -, -, -, rest⟩ := h.split
  cases after with
  | nil => exact .inl rest
  | cons q after => exact .inr ⟨q, by simp, rest.1⟩

end QuickFix
