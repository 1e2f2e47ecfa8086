import Mathlib.Data.Finset.Max

/-!
# The largest elements of a finite set

A buffer that drops its smallest element whenever it grows past a bound holds the largest elements
of all that was put into it (`largest_insert`): what was dropped would be dropped again.
-/

namespace QuickFix

variable {α : Type} [LinearOrder α] {c : Nat} {s t : Finset α} {a b : α}

/-- The `c` largest elements of a set: those with fewer than `c` above them. -/
def largest (c : Nat) (s : Finset α) : Finset α := s.filter fun a => (s.filter (a < ·)).card < c

/-- What is among the largest has fewer than `c` above it. -/
lemma mem_largest : a ∈ largest c s ↔ a ∈ s ∧ (s.filter (a < ·)).card < c := Finset.mem_filter

/-- The largest are taken from the set. -/
lemma largest_subset (c : Nat) (s : Finset α) : largest c s ⊆ s := Finset.filter_subset _ s

/-- What is above one of the largest is one of them. -/
lemma mem_largest_of_lt (ha : a ∈ largest c s) (hb : b ∈ s) (lt : a < b) : b ∈ largest c s := by
  rw [mem_largest] at ha ⊢
  refine ⟨hb, (Finset.card_le_card fun x hx => ?_).trans_lt ha.2⟩
  rw [Finset.mem_filter] at hx ⊢
  exact ⟨hx.1, lt.trans hx.2⟩

/-- A set that fits is kept whole. -/
lemma largest_eq_self (fits : s.card ≤ c) : largest c s = s := by
  apply Finset.filter_true_of_mem
  intro a ha
  refine (Finset.card_lt_card ?_).trans_le fits
  rw [Finset.filter_ssubset]
  exact ⟨a, ha, lt_irrefl a⟩

/-- The smallest element of a set that is too large is not among its largest ones. -/
lemma least_notMem_largest (ha : a ∈ s) (least : ∀ b ∈ s, a ≤ b) (more : c < s.card) :
    a ∉ largest c s := by
  intro h
  have all : s.erase a ⊆ s.filter (a < ·) := by
    intro x hx
    obtain ⟨ne, hx⟩ := Finset.mem_erase.mp hx
    exact Finset.mem_filter.mpr ⟨hx, lt_of_le_of_ne (least x hx) ne.symm⟩
  have many := Finset.card_le_card all
  have few := (mem_largest.mp h).2
  rw [Finset.card_erase_of_mem ha] at many
  omega

/-- The largest elements of a set are those of every part of it that has them all. -/
lemma largest_of_subset (large : largest c s ⊆ t) (part : t ⊆ s) : largest c t = largest c s := by
  ext a
  constructor
  · intro h
    obtain ⟨ha, few⟩ := mem_largest.mp h
    by_contra out
    -- above the highest element left out are only elements of the part
    have some : (s \ largest c s).Nonempty := ⟨a, Finset.mem_sdiff.mpr ⟨part ha, out⟩⟩
    obtain ⟨high, left⟩ := Finset.mem_sdiff.mp (Finset.max'_mem _ some)
    have le := Finset.le_max' _ a (Finset.mem_sdiff.mpr ⟨part ha, out⟩)
    have above : s.filter ((s \ largest c s).max' some < ·) ⊆ t.filter (a < ·) := by
      intro x hx
      obtain ⟨hx, lt⟩ := Finset.mem_filter.mp hx
      refine Finset.mem_filter.mpr ⟨large ?_, le.trans_lt lt⟩
      by_contra out
      exact absurd (Finset.le_max' _ x (Finset.mem_sdiff.mpr ⟨hx, out⟩)) (not_le.mpr lt)
    exact left (mem_largest.mpr ⟨high, (Finset.card_le_card above).trans_lt few⟩)
  · intro h
    refine mem_largest.mpr ⟨large h, (Finset.card_le_card ?_).trans_lt (mem_largest.mp h).2⟩
    exact Finset.filter_subset_filter _ part

/-- Without its smallest element, a set that is too large has the same largest ones. -/
lemma largest_erase (ha : a ∈ s) (least : ∀ b ∈ s, a ≤ b) (more : c < s.card) :
    largest c (s.erase a) = largest c s := by
  refine largest_of_subset (fun b hb => ?_) (Finset.erase_subset a s)
  refine Finset.mem_erase.mpr ⟨?_, largest_subset c s hb⟩
  rintro rfl
  exact least_notMem_largest ha least more hb

/-- Of what is no longer among the largest, nothing is missed when an element is put in. -/
lemma largest_insert (c : Nat) (s : Finset α) (a : α) :
    largest c (insert a (largest c s)) = largest c (insert a s) := by
  refine largest_of_subset (fun b hb => ?_) (Finset.insert_subset_insert a (largest_subset c s))
  obtain ⟨hb, few⟩ := mem_largest.mp hb
  apply Finset.mem_insert.mpr
  cases Finset.mem_insert.mp hb with
  | inl same => exact .inl same
  | inr hb =>
    refine .inr (mem_largest.mpr ⟨hb, (Finset.card_le_card ?_).trans_lt few⟩)
    exact Finset.filter_subset_filter _ (Finset.subset_insert a s)

/-- A part that fits, and fills the bound if anything is left out of it, holds the largest elements
exactly if all of it is above what is left out. -/
lemma largest_eq_iff (part : t ⊆ s) (fits : t.card ≤ c) (full : t.card < c → s ⊆ t) :
    largest c s = t ↔ ∀ a ∈ t, ∀ b ∈ s \ t, b < a := by
  constructor
  · rintro rfl a ha b hb
    obtain ⟨hb, out⟩ := Finset.mem_sdiff.mp hb
    by_contra le
    cases (not_lt.mp le).lt_or_eq with
    | inl lt => exact out (mem_largest_of_lt ha hb lt)
    | inr same => exact out (same ▸ ha)
  · intro above
    ext a
    constructor
    · intro h
      obtain ⟨ha, few⟩ := mem_largest.mp h
      by_contra out
      have all : t ⊆ s.filter (a < ·) := fun x hx =>
        Finset.mem_filter.mpr ⟨part hx, above x hx a (Finset.mem_sdiff.mpr ⟨ha, out⟩)⟩
      exact out (full ((Finset.card_le_card all).trans_lt few) ha)
    · intro ha
      have others : s.filter (a < ·) ⊆ t.erase a := by
        intro x hx
        obtain ⟨hx, lt⟩ := Finset.mem_filter.mp hx
        refine Finset.mem_erase.mpr ⟨lt.ne', ?_⟩
        by_contra out
        exact lt_asymm lt (above a ha x (Finset.mem_sdiff.mpr ⟨hx, out⟩))
      have few := Finset.card_le_card others
      have some := Finset.card_pos.mpr ⟨a, ha⟩
      rw [Finset.card_erase_of_mem ha] at few
      exact mem_largest.mpr ⟨part ha, by omega⟩

end QuickFix
