import Std.Data.ExtTreeMap
import Mathlib.Tactic.ByContra

/-!
# Maps from numbers

Ordered maps from natural numbers, with the lookups of the operations used on them decided by
equality of keys.
-/

namespace QuickFix

open Std (ExtTreeMap)

/-- An ordered map from natural numbers. -/
abbrev SeqMap (α : Type) := ExtTreeMap Nat α

namespace SeqMap

variable {α : Type} {m : SeqMap α} {k j : Nat}

/-- Looking up after an insertion. -/
lemma get_insert {v : α} : (m.insert k v)[j]? = if k = j then some v else m[j]? := by
  simp [ExtTreeMap.getElem?_insert]

/-- Looking up after a removal. -/
lemma get_erase : (m.erase k)[j]? = if k = j then none else m[j]? := by
  simp [ExtTreeMap.getElem?_erase]

/-- Looking up after a removal by key. -/
lemma get_filter {p : Nat → Bool} :
    (m.filter fun k _ => p k)[j]? = if p j then m[j]? else none := by
  rw [ExtTreeMap.getElem?_filter']
  cases m[j]? <;> simp [Option.filter]

/-- Looking up after the insertion of pairs. -/
lemma mem_of_get_insertMany {l : List (Nat × α)} {v : α} (found : (m.insertMany l)[k]? = some v) :
    (k, v) ∈ l ∨ m[k]? = some v := by
  induction l generalizing m with
  | nil => exact .inr (by simpa using found)
  | cons p l ih =>
    rw [ExtTreeMap.insertMany_cons] at found
    rcases ih found with mem | here
    · exact .inl (List.mem_cons_of_mem p mem)
    · rw [get_insert] at here
      split at here
      case isTrue same =>
        cases here
        exact .inl (same ▸ List.mem_cons_self)
      case isFalse => exact .inr here

/-- Looking up in a map made from pairs. -/
lemma mem_of_get_ofList {l : List (Nat × α)} {v : α}
    (found : (ExtTreeMap.ofList l : SeqMap α)[k]? = some v) : (k, v) ∈ l := by
  rw [ExtTreeMap.ofList_eq_insertMany_empty] at found
  rcases mem_of_get_insertMany found with mem | none
  · exact mem
  · simp at none

/-- A map without entries is empty. -/
lemma eq_empty (h : ∀ j : Nat, m[j]? = none) : m = ∅ := by
  apply ExtTreeMap.ext_getElem?
  simpa using h

/-- A map with an entry is not empty. -/
lemma exists_of_ne_empty (h : m ≠ ∅) : ∃ (j : Nat) (v : α), m[j]? = some v := by
  by_contra no
  refine h (eq_empty fun j => ?_)
  cases e : m[j]? with
  | none => rfl
  | some v => exact absurd ⟨j, v, e⟩ no

end SeqMap

end QuickFix
