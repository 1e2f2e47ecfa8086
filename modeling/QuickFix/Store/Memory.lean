import QuickFix.Store.Basic
import QuickFix.Lib.SeqMap

/-!
# The memory store

Model of `MemoryStore` of `src/store.rs`: counters and messages in memory, with an optional bound on
the number of messages kept.
-/

namespace QuickFix

/-- Counters and sent messages in memory. -/
structure MemoryStore where
  nextSender : Nat := 1
  nextTarget : Nat := 1
  creationTime : UtcTime
  messages : SeqMap Bytes := ∅
  /-- Cap on retained sent messages; `none` is unbounded. -/
  capacity : Option Nat := none

namespace MemoryStore

/-- Removes the `n` entries with the smallest keys. -/
def dropOldest : Nat → SeqMap Bytes → SeqMap Bytes
  | 0, ms => ms
  | n + 1, ms =>
    match ms.minKey? with
    | none => ms
    | some oldest => dropOldest n (ms.erase oldest)

/-- Drop the oldest retained messages beyond the capacity. -/
def trim (s : MemoryStore) : MemoryStore :=
  match s.capacity with
  | none => s
  | some cap => { s with messages := dropOldest (s.messages.size - cap) s.messages }

/-- The entries of a range of sequence numbers, ascending. -/
def range {α : Type} (ms : SeqMap α) (b e : Nat) : List (Nat × α) :=
  ms.toList.filter fun (k, _) => b ≤ k && k ≤ e

/-- An entry is in the range of its number. -/
lemma mem_range_self {α : Type} {ms : SeqMap α} {k : Nat} {v : α} (h : ms[k]? = some v) :
    (k, v) ∈ range ms k k := by
  rw [range, List.mem_filter]
  exact ⟨Std.ExtTreeMap.mem_toList_iff_getElem?_eq_some.mpr h, by simp⟩

/-- The range of one number. -/
lemma range_self {α : Type} (ms : SeqMap α) (k : Nat) : range ms k k = (ms[k]?.map (k, ·)).toList := by
  have mem (x : Nat × α) : x ∈ range ms k k ↔ x.1 = k ∧ ms[k]? = some x.2 := by
    rw [range, List.mem_filter, Std.ExtTreeMap.mem_toList_iff_getElem?_eq_some]
    simp only [Bool.and_eq_true, decide_eq_true_eq]
    constructor
    · rintro ⟨entry, le, ge⟩
      have same := le_antisymm ge le
      exact ⟨same, same ▸ entry⟩
    · rintro ⟨rfl, entry⟩
      exact ⟨entry, le_rfl, le_rfl⟩
  have distinct : (range ms k k).Pairwise fun x y => x.1 ≠ y.1 := by
    refine (List.Pairwise.filter _ ms.distinct_keys_toList).imp fun ne same => ne ?_
    simp [same]
  cases r : range ms k k with
  | nil =>
    cases found : ms[k]? with
    | none => rfl
    | some v =>
      have here := (mem (k, v)).mpr ⟨rfl, found⟩
      rw [r] at here
      cases here
  | cons x xs =>
    rw [r] at mem distinct
    obtain ⟨key, entry⟩ := (mem x).mp List.mem_cons_self
    have last : xs = [] := by
      cases xs with
      | nil => rfl
      | cons y ys =>
        have key' := ((mem y).mp (by simp)).1
        rw [List.pairwise_cons] at distinct
        exact absurd (key.trans key'.symm) (distinct.1 y List.mem_cons_self)
    obtain ⟨j, v⟩ := x
    cases key
    rw [entry, last]
    rfl

/-- The range of a map with other values. -/
lemma range_map {α β : Type} (ms : SeqMap α) (g : α → β) (b e : Nat) :
    range (ms.map fun _ v => g v) b e = (range ms b e).map fun x => (x.1, g x.2) := by
  rw [range, Std.ExtTreeMap.toList_map, List.filter_map]
  rfl

instance : MessageStore MemoryStore where
  nextSenderSeqNum s := s.nextSender
  nextTargetSeqNum s := s.nextTarget
  creationTime s := s.creationTime
  incrNextSenderSeqNum s := (.ok (), { s with nextSender := incremented s.nextSender })
  incrNextTargetSeqNum s := (.ok (), { s with nextTarget := incremented s.nextTarget })
  setNextSenderSeqNum n s := (.ok (), { s with nextSender := n })
  setNextTargetSeqNum n s := (.ok (), { s with nextTarget := n })
  saveMessage n raw s := (.ok (), trim { s with messages := s.messages.insert n raw })
  getMessages b e s := (.ok (range s.messages b e), s)
  refresh _ s := (.ok (), s)
  reset now s :=
    (.ok (), { s with nextSender := 1, nextTarget := 1, creationTime := now, messages := ∅ })

/-- Dropping entries adds none. -/
lemma getElem?_dropOldest {n k : Nat} {r} {ms : SeqMap Bytes} (h : (dropOldest n ms)[k]? = some r) :
    ms[k]? = some r := by
  induction n generalizing ms with
  | zero => exact h
  | succ n ih =>
    simp only [dropOldest] at h
    split at h
    case h_1 => exact h
    case h_2 oldest _ =>
      have h := ih h
      rw [SeqMap.get_erase] at h
      split at h
      case isTrue => simp at h
      case isFalse => exact h

/-- Trimming touches the messages alone. -/
lemma trim_counters (s : MemoryStore) :
    (trim s).nextSender = s.nextSender ∧ (trim s).nextTarget = s.nextTarget := by
  unfold trim
  split <;> exact ⟨rfl, rfl⟩

/-- A store without a bound keeps every message. -/
lemma saveMessage_unbounded {s : MemoryStore} (h : s.capacity = none) (n raw) :
    MessageStore.saveMessage n raw s = (.ok (), { s with messages := s.messages.insert n raw }) := by
  simp only [MessageStore.saveMessage, trim, h]

/-- Trimming adds no message. -/
lemma getElem?_trim {s : MemoryStore} {k : Nat} {r} (h : (trim s).messages[k]? = some r) :
    s.messages[k]? = some r := by
  unfold trim at h
  split at h
  case h_1 => exact h
  case h_2 => exact getElem?_dropOldest h

instance : LawfulStore MemoryStore where
  Valid s := s.nextSender < 2 ^ 64 ∧ s.nextTarget < 2 ^ 64
  messages s k := s.messages[k]?
  bounded _ valid := valid
  incrSender _ valid := ⟨⟨incremented_lt _, valid.2⟩, rfl⟩
  incrTarget _ valid := ⟨⟨valid.1, incremented_lt _⟩, rfl⟩
  setSender _ bound _ valid := ⟨⟨bound, valid.2⟩, rfl⟩
  setTarget _ bound _ valid := ⟨⟨valid.1, bound⟩, rfl⟩
  save n raw s valid := by
    obtain ⟨sender, target⟩ := trim_counters { s with messages := s.messages.insert n raw }
    refine ⟨⟨sender ▸ valid.1, target ▸ valid.2⟩, sender, target, fun k r h => ?_⟩
    have h := getElem?_trim h
    rw [SeqMap.get_insert] at h
    split at h
    case isTrue e => rw [if_pos e.symm]; exact (Option.some.inj h).symm
    case isFalse ne => rw [if_neg (Ne.symm ne)]; exact h
  get _ _ _ valid := ⟨valid, rfl⟩
  refresh _ _ valid := ⟨valid, trivial⟩
  reset _ _ _ := by
    refine ⟨⟨by simp [MessageStore.reset], by simp [MessageStore.reset]⟩, ?_⟩
    simp [MessageStore.reset, viewWith, MessageStore.nextSenderSeqNum, MessageStore.nextTargetSeqNum]

/-- An operation of the memory store that fails has no effect. -/
instance : FailStopStore MemoryStore where
  incrSender_stops _ _ e h := by simp [MessageStore.incrNextSenderSeqNum] at h
  incrTarget_stops _ _ e h := by simp [MessageStore.incrNextTargetSeqNum] at h
  setSender_stops _ _ _ _ e h := by simp [MessageStore.setNextSenderSeqNum] at h
  setTarget_stops _ _ _ _ e h := by simp [MessageStore.setNextTargetSeqNum] at h
  save_stops _ _ _ _ e h := by simp [MessageStore.saveMessage] at h
  refresh_stops _ _ _ e h := by simp [MessageStore.refresh] at h
  reset_stops _ _ _ e h := by simp [MessageStore.reset] at h

/-- An empty memory store is valid. -/
lemma valid_empty (t : UtcTime) : LawfulStore.Valid ({ creationTime := t } : MemoryStore) :=
  show 1 < 2 ^ 64 ∧ 1 < 2 ^ 64 by decide

end MemoryStore

end QuickFix
