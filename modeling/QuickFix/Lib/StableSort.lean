import Mathlib.Data.List.Sort

/-!
# Stable sorting

A list in the order of its keys, where elements that have a key in common stay in the order they had.
Insertion sort makes one.
-/

namespace QuickFix

variable {α κ : Type} [DecidableEq κ]

/-- The elements of a list, in the order of their keys; those with one key are in the order they
had. -/
structure StablySorted (r : κ → κ → Prop) (key : α → κ) (l l' : List α) : Prop where
  ordered : l'.Pairwise fun a b => r (key a) (key b)
  stable : ∀ k, (l'.filter fun a => key a = k) = l.filter fun a => key a = k

/-- Sorting what is sorted stably. -/
lemma StablySorted.trans {r : κ → κ → Prop} {key : α → κ} {l l' l'' : List α}
    (h : StablySorted r key l l') (h' : StablySorted r key l' l'') : StablySorted r key l l'' where
  ordered := h'.ordered
  stable k := (h'.stable k).trans (h.stable k)

/-- There is one order only. -/
lemma StablySorted.unique {r : κ → κ → Prop} [Std.Antisymm r] {key : α → κ} {l l' l'' : List α}
    (h : StablySorted r key l l') (h' : StablySorted r key l l'') : l' = l'' := by
  have same (k) : (l'.filter fun a => key a = k) = l''.filter fun a => key a = k :=
    (h.stable k).trans (h'.stable k).symm
  have first := h.ordered
  have second := h'.ordered
  clear h h'
  induction l' generalizing l'' with
  | nil =>
    cases l'' with
    | nil => rfl
    | cons b l'' => simpa using same (key b)
  | cons a l' ih =>
    cases l'' with
    | nil => simpa using same (key a)
    | cons b l'' =>
      obtain ⟨least, later⟩ := List.pairwise_cons.mp first
      obtain ⟨least', later'⟩ := List.pairwise_cons.mp second
      -- each head is somewhere in the other list
      have tied : key a = key b := by
        by_contra other
        have mem : b ∈ (a :: l').filter fun c => key c = key b := by simp [same]
        have mem' : a ∈ (b :: l'').filter fun c => key c = key a := by simp [← same]
        rw [List.filter_cons_of_neg (by simpa using other), List.mem_filter] at mem
        rw [List.filter_cons_of_neg (by simpa using Ne.symm other), List.mem_filter] at mem'
        exact other (antisymm_of r (least b mem.1) (least' a mem'.1))
      have heads := same (key a)
      rw [List.filter_cons_of_pos (by simp), List.filter_cons_of_pos (by simp [tied])] at heads
      obtain ⟨rfl, -⟩ := List.cons.inj heads
      refine congrArg (a :: ·) (ih (fun k => ?_) later later')
      have rest := same k
      rw [List.filter_cons, List.filter_cons] at rest
      split at rest
      · exact (List.cons.inj rest).2
      · exact rest

section Split

variable {r : κ → κ → Prop} {key : α → κ} {l l' : List α}

/-- A list in the order of its keys is what comes before a key, what has it, and what comes after it. -/
lemma ordered_split [DecidableRel r] [Std.Total r] [IsTrans κ r] [Std.Antisymm r]
    (ordered : l.Pairwise fun a b => r (key a) (key b)) (k : κ) :
    l = (l.filter fun a => ¬ r k (key a)) ++ ((l.filter fun a => key a = k) ++
      l.filter fun a => ¬ r (key a) k) := by
  induction l with
  | nil => rfl
  | cons a l ih =>
    obtain ⟨first, later⟩ := List.pairwise_cons.mp ordered
    have none (from' : r k (key a)) : (l.filter fun b => ¬ r k (key b)) = [] :=
      List.filter_eq_nil_iff.mpr fun b mem => by simp [trans_of r from' (first b mem)]
    by_cases from' : r k (key a)
    · by_cases upTo : r (key a) k
      · have here : key a = k := antisymm_of r upTo from'
        have refl : r k k := here ▸ upTo
        have rest := ih later
        rw [none from', List.nil_append] at rest
        simp only [List.filter_cons, here, refl, not_true, decide_false, decide_true, if_true,
          none from', List.nil_append, List.cons_append, Bool.false_eq_true, if_false]
        exact congrArg _ rest
      · have other : key a ≠ k := by
          rintro rfl
          exact upTo from'
        have behind (b) (mem : b ∈ l) : ¬ r (key b) k := fun le => upTo (trans_of r (first b mem) le)
        have apart (b) (mem : b ∈ l) : key b ≠ k := by
          rintro rfl
          exact upTo (first b mem)
        simp only [List.filter_cons, other, from', upTo, not_true, not_false_eq_true, decide_false,
          decide_true, if_true, none from', Bool.false_eq_true, if_false, List.nil_append]
        rw [List.filter_eq_nil_iff.mpr fun b mem => by simp [apart b mem],
          List.filter_eq_self.mpr fun b mem => by simp [behind b mem]]
        rfl
    · have upTo : r (key a) k := (Std.Total.total (r := r) k (key a)).resolve_left from'
      have other : key a ≠ k := by
        rintro rfl
        exact from' upTo
      simp only [List.filter_cons, other, from', upTo, not_true, not_false_eq_true, decide_false,
        decide_true, if_true, Bool.false_eq_true, if_false, List.cons_append]
      exact congrArg _ (ih later)

/-- What a sorted list has at a key is what the list had. -/
lemma StablySorted.split [DecidableRel r] [Std.Total r] [IsTrans κ r] [Std.Antisymm r]
    (h : StablySorted r key l l') (k : κ) :
    l' = (l'.filter fun a => ¬ r k (key a)) ++ ((l.filter fun a => key a = k) ++
      l'.filter fun a => ¬ r (key a) k) := by
  rw [← h.stable k]
  exact ordered_split h.ordered k

/-- A part of a sorted list that keys choose is that part, sorted. -/
lemma StablySorted.filter (h : StablySorted r key l l') (p : κ → Bool) :
    StablySorted r key (l.filter (p <| key ·)) (l'.filter (p <| key ·)) where
  ordered := h.ordered.filter _
  stable k := by
    rw [List.filter_filter, List.filter_filter]
    have swap (l : List α) : (l.filter fun a => decide (key a = k) && p (key a)) =
        (l.filter fun a => key a = k).filter (p <| key ·) := by
      rw [List.filter_filter]
      exact List.filter_congr fun a _ => Bool.and_comm _ _
    rw [swap, swap, h.stable k]

/-- Two keys with none between them stand next to each other. -/
lemma StablySorted.split_pair [DecidableRel r] [Std.Total r] [IsTrans κ r] [Std.Antisymm r]
    (h : StablySorted r key l l') {i j : κ} (upTo : r i j) (ne : i ≠ j)
    (between : ∀ a ∈ l', r i (key a) → r (key a) j → key a = i ∨ key a = j) :
    l' = (l'.filter fun a => ¬ r i (key a)) ++ ((l.filter fun a => key a = i) ++
      ((l.filter fun a => key a = j) ++ l'.filter fun a => ¬ r (key a) j)) := by
  have refl (k : κ) : r k k := (Std.Total.total (r := r) k k).elim id id
  have apart : ¬ r j i := fun down => ne (antisymm_of r upTo down)
  have rest := (h.filter (fun k => ¬ r k i)).split j
  have empty : ((l'.filter fun a => ¬ r (key a) i).filter fun a => ¬ r j (key a)) = [] := by
    rw [List.filter_filter, List.filter_eq_nil_iff]
    intro a mem both
    simp only [Bool.and_eq_true, decide_eq_true_eq] at both
    have after : r i (key a) := (Std.Total.total (r := r) i (key a)).resolve_right both.2
    have before : r (key a) j := (Std.Total.total (r := r) (key a) j).resolve_right both.1
    rcases between a mem after before with here | here
    · exact both.2 (here ▸ refl _)
    · exact both.1 (here ▸ refl _)
  have data : ((l.filter fun a => ¬ r (key a) i).filter fun a => key a = j) =
      l.filter fun a => key a = j := by
    rw [List.filter_filter]
    apply List.filter_congr
    intro a _
    by_cases here : key a = j
    · simp [here, apart]
    · simp [here]
  have behind : ((l'.filter fun a => ¬ r (key a) i).filter fun a => ¬ r (key a) j) =
      l'.filter fun a => ¬ r (key a) j := by
    rw [List.filter_filter]
    apply List.filter_congr
    intro a _
    by_cases before : r (key a) j
    · simp [before]
    · have after : ¬ r (key a) i := fun down => before (trans_of r down upTo)
      simp [before, after]
  rw [empty, data, behind, List.nil_append] at rest
  rw [← rest]
  exact h.split i

/-- The first element with a key is the one it was. -/
lemma StablySorted.find?_eq (h : StablySorted r key l l') (k : κ) :
    l'.find? (fun a => key a = k) = l.find? (fun a => key a = k) := by
  rw [← List.head?_filter, ← List.head?_filter, h.stable k]

end Split

/-- Insertion sort is stable. -/
lemma stablySorted_insertionSort (r : κ → κ → Prop) [DecidableRel r] [Std.Total r] [IsTrans κ r]
    (key : α → κ) (l : List α) :
    StablySorted r key l (l.insertionSort fun a b => r (key a) (key b)) := by
  have total : Std.Total fun a b => r (key a) (key b) := ⟨fun a b => Std.Total.total (key a) (key b)⟩
  have trans : IsTrans α fun a b => r (key a) (key b) := ⟨fun a b c => IsTrans.trans (r := r) _ _ _⟩
  refine ⟨List.pairwise_insertionSort _ l, fun k => ?_⟩
  have equal : (l.filter fun a => key a = k).Pairwise fun a b => r (key a) (key b) := by
    apply List.pairwise_of_forall_mem_list
    intro a mem b mem'
    have first : key a = k := of_decide_eq_true (List.mem_filter.mp mem).2
    have second : key b = k := of_decide_eq_true (List.mem_filter.mp mem').2
    rw [first, second]
    exact (Std.Total.total (r := r) k k).elim id id
  have sub := (List.sublist_insertionSort equal List.filter_sublist).filter fun a => key a = k
  rw [List.filter_filter] at sub
  simp only [Bool.and_self] at sub
  have size := ((List.perm_insertionSort (fun a b => r (key a) (key b)) l).filter
    fun a => key a = k).length_eq
  exact (sub.eq_of_length size.symm).symm

end QuickFix
