import QuickFix.Store.Mirror
import QuickFix.Lib.Largest

/-!
# What a bounded memory store keeps

A memory store with a capacity drops the messages with the smallest numbers. Through every sequence
of operations it holds what a store without a bound holds, for the largest numbers saved since the
last reset (`Keeps.after`). These are the numbers saved last exactly when each of them is above all
that were saved before (`retains_latest_iff`).
-/

namespace QuickFix

open MessageStore

namespace SeqMap

variable {α : Type} {m : SeqMap α} {k j : Nat}

/-- The keys with an entry. -/
def keySet (m : SeqMap α) : Finset Nat := m.keys.toFinset

/-- The keys of a map. -/
lemma mem_keySet : k ∈ m.keySet ↔ k ∈ m := by
  rw [keySet, List.mem_toFinset, Std.ExtTreeMap.mem_keys]

/-- There are as many keys as entries. -/
lemma card_keySet : m.keySet.card = m.size := by
  rw [keySet, List.toFinset_card_of_nodup Std.ExtTreeMap.nodup_keys, Std.ExtTreeMap.length_keys]

/-- Inserting adds a key. -/
lemma keySet_insert {v : α} : keySet (m.insert k v) = insert k m.keySet := by
  ext j
  rw [mem_keySet, Std.ExtTreeMap.mem_insert, Finset.mem_insert, mem_keySet, eq_comm (a := j)]
  simp

/-- Erasing takes a key away. -/
lemma keySet_erase : keySet (m.erase k) = m.keySet.erase k := by
  ext j
  rw [mem_keySet, Std.ExtTreeMap.mem_erase, Finset.mem_erase, mem_keySet, ne_comm (a := j)]
  simp

/-- The entries of some keys. -/
def restrict (m : SeqMap α) (s : Finset Nat) : SeqMap α := m.filter fun k _ => k ∈ s

/-- What is left of a map on some keys. -/
lemma get_restrict {s : Finset Nat} : (m.restrict s)[j]? = if j ∈ s then m[j]? else none := by
  rw [restrict, get_filter]
  simp

/-- The keys that are left. -/
lemma keySet_restrict {s : Finset Nat} (sub : s ⊆ m.keySet) : keySet (m.restrict s) = s := by
  ext k
  rw [mem_keySet, Std.ExtTreeMap.mem_iff_isSome_getElem?, get_restrict]
  split
  case isTrue mem =>
    have here := mem_keySet.mp (sub mem)
    rw [Std.ExtTreeMap.mem_iff_isSome_getElem?] at here
    exact iff_of_true here mem
  case isFalse out => exact iff_of_false Bool.false_ne_true out

end SeqMap

namespace MemoryStore

open SeqMap

/-- Of what is held, the entries with the largest numbers stay. -/
lemma dropOldest_eq {c n : Nat} {ms : SeqMap Bytes} (h : n = ms.size - c) :
    dropOldest n ms = ms.restrict (largest c ms.keySet) := by
  induction n generalizing ms with
  | zero =>
    have fits : ms.keySet.card ≤ c := by
      rw [card_keySet]
      omega
    apply Std.ExtTreeMap.ext_getElem?
    intro k
    rw [largest_eq_self fits, get_restrict]
    split
    case isTrue => rfl
    case isFalse out => exact Std.ExtTreeMap.getElem?_eq_none fun mem => out (mem_keySet.mpr mem)
  | succ n ih =>
    rw [dropOldest]
    cases least : ms.minKey? with
    | none =>
      rw [Std.ExtTreeMap.minKey?_eq_none_iff] at least
      rw [least, Std.ExtTreeMap.size_empty] at h
      omega
    | some k =>
      obtain ⟨mem, le⟩ := Std.ExtTreeMap.minKey?_eq_some_iff_mem_and_forall.mp least
      have mem' := mem_keySet.mpr mem
      have least (j) (hj : j ∈ ms.keySet) : k ≤ j :=
        Nat.isLE_compare.mp (le j (mem_keySet.mp hj))
      have more : c < ms.keySet.card := by
        rw [card_keySet]
        omega
      have size : n = (ms.erase k).size - c := by
        rw [Std.ExtTreeMap.size_erase, if_pos (Std.ExtTreeMap.contains_iff_mem.mpr mem)]
        omega
      show dropOldest n (ms.erase k) = _
      rw [ih size, keySet_erase, largest_erase mem' least more]
      apply Std.ExtTreeMap.ext_getElem?
      intro j
      rw [get_restrict, get_restrict, get_erase]
      split
      case isFalse => rfl
      case isTrue stays =>
        have ne : k ≠ j := fun same => least_notMem_largest mem' least more (same ▸ stays)
        rw [if_neg ne]

/-- The range of some of the entries. -/
lemma range_restrict {α : Type} (ms : SeqMap α) (s : Finset Nat) (b e : Nat) :
    range (ms.restrict s) b e = (range ms b e).filter fun x => x.1 ∈ s := by
  rw [range, restrict, Std.ExtTreeMap.toList_filter, range, List.filter_filter, List.filter_filter]
  apply List.filter_congr
  intro x _
  exact Bool.and_comm _ _

/-- A store of at most some number of messages. -/
def withCapacity (capacity : Nat) (now : UtcTime) : MemoryStore :=
  { creationTime := now, capacity := some capacity }

/-- A store without a bound. -/
def new (now : UtcTime) : MemoryStore := { creationTime := now }

/-- One store holds the messages of another with the `c` largest numbers. -/
structure Keeps (c : Nat) (m u : MemoryStore) : Prop where
  capacity : m.capacity = some c
  unbounded : u.capacity = none
  messages : m.messages = u.messages.restrict (largest c u.messages.keySet)

namespace Keeps

variable {c : Nat} {m u : MemoryStore}

/-- A message that is saved is kept if its number is among the largest. -/
lemma saveMessage (h : Keeps c m u) (n : Nat) (raw : Bytes) :
    Keeps c (MessageStore.saveMessage n raw m).2 (MessageStore.saveMessage n raw u).2 := by
  rw [saveMessage_unbounded h.unbounded]
  refine ⟨?_, h.unbounded, ?_⟩
  · simp only [MessageStore.saveMessage, trim, h.capacity]
  have trimmed : (MessageStore.saveMessage n raw m).2.messages =
      dropOldest ((m.messages.insert n raw).size - c) (m.messages.insert n raw) := by
    simp only [MessageStore.saveMessage, trim, h.capacity]
  have held : m.messages.keySet = largest c u.messages.keySet := by
    rw [h.messages, keySet_restrict (largest_subset c _)]
  rw [trimmed, dropOldest_eq rfl, keySet_insert, keySet_insert, held, largest_insert]
  apply Std.ExtTreeMap.ext_getElem?
  intro k
  rw [get_restrict, get_restrict, get_insert, get_insert, h.messages, get_restrict]
  split
  case isFalse => rfl
  case isTrue stays =>
    by_cases new : n = k
    case pos => rw [if_pos new, if_pos new]
    -- a number that stays was among the largest before
    obtain ⟨mem, few⟩ := mem_largest.mp stays
    have mem := Finset.mem_of_mem_insert_of_ne mem (Ne.symm new)
    have stayed : k ∈ largest c u.messages.keySet := by
      refine mem_largest.mpr ⟨mem, (Finset.card_le_card ?_).trans_lt few⟩
      exact Finset.filter_subset_filter _ (Finset.subset_insert n _)
    rw [if_neg new, if_neg new, if_pos stayed]

/-- Counters play no part. -/
lemma incrSender (h : Keeps c m u) :
    Keeps c (incrNextSenderSeqNum m).2 (incrNextSenderSeqNum u).2 :=
  ⟨h.capacity, h.unbounded, h.messages⟩

/-- One operation on both. -/
lemma onMemory (h : Keeps c m u) (op : StoreOp) : Keeps c (op.onMemory m) (op.onMemory u) := by
  cases op with
  | incrSender => exact h.incrSender
  | incrTarget => exact ⟨h.capacity, h.unbounded, h.messages⟩
  | setSender n => exact ⟨h.capacity, h.unbounded, h.messages⟩
  | setTarget n => exact ⟨h.capacity, h.unbounded, h.messages⟩
  | save n raw => exact h.saveMessage n raw
  | saveAndIncr n raw => exact (h.saveMessage n raw).incrSender
  | get b e => exact h
  | refresh now => exact h
  | reopen sync now => exact h
  | reset now =>
    refine ⟨h.capacity, h.unbounded, Std.ExtTreeMap.ext_getElem? fun k => ?_⟩
    rw [get_restrict]
    split <;> rfl

/-- Operations on both. -/
lemma after (h : Keeps c m u) (ops : List StoreOp) : Keeps c (m.after ops) (u.after ops) := by
  induction ops generalizing m u with
  | nil => exact h
  | cons op ops ih => exact ih (h.onMemory op)

end Keeps

/-- A new store keeps what it has. -/
lemma keeps_new (c : Nat) (now : UtcTime) : Keeps c (withCapacity c now) (new now) := by
  refine ⟨rfl, rfl, Std.ExtTreeMap.ext_getElem? fun k => ?_⟩
  rw [get_restrict]
  split <;> rfl

end MemoryStore

/-- The numbers saved since the last reset, the latest first, after an operation. -/
def StoreOp.latest (ks : List Nat) : StoreOp → List Nat
  | .save n _ | .saveAndIncr n _ => n :: ks.erase n
  | .reset _ => []
  | _ => ks

/-- The numbers saved since the last reset, the latest first. -/
def latest (ops : List StoreOp) : List Nat := ops.foldl StoreOp.latest []

namespace MemoryStore

open SeqMap

/-- A store without a bound holds the numbers saved since the last reset. -/
structure Saved (ks : List Nat) (u : MemoryStore) : Prop where
  nodup : ks.Nodup
  unbounded : u.capacity = none
  keys : u.messages.keySet = ks.toFinset

namespace Saved

variable {ks : List Nat} {u : MemoryStore}

/-- Saving a message makes its number the latest. -/
lemma saveMessage (h : Saved ks u) (n : Nat) (raw : Bytes) :
    Saved (n :: ks.erase n) (MessageStore.saveMessage n raw u).2 := by
  rw [saveMessage_unbounded h.unbounded]
  refine ⟨?_, h.unbounded, ?_⟩
  · apply List.nodup_cons.mpr
    exact ⟨h.nodup.not_mem_erase, h.nodup.erase n⟩
  rw [keySet_insert, h.keys]
  ext k
  rw [Finset.mem_insert, List.mem_toFinset, List.mem_toFinset, List.mem_cons, h.nodup.mem_erase_iff]
  tauto

/-- Counting saves nothing. -/
lemma incrSender (h : Saved ks u) : Saved ks (incrNextSenderSeqNum u).2 :=
  ⟨h.nodup, h.unbounded, h.keys⟩

/-- One operation. -/
lemma onMemory (h : Saved ks u) (op : StoreOp) : Saved (op.latest ks) (op.onMemory u) := by
  cases op with
  | incrSender => exact h.incrSender
  | incrTarget => exact ⟨h.nodup, h.unbounded, h.keys⟩
  | setSender n => exact ⟨h.nodup, h.unbounded, h.keys⟩
  | setTarget n => exact ⟨h.nodup, h.unbounded, h.keys⟩
  | save n raw => exact h.saveMessage n raw
  | saveAndIncr n raw => exact (h.saveMessage n raw).incrSender
  | get b e => exact h
  | refresh now => exact h
  | reopen sync now => exact h
  | reset now => exact ⟨List.nodup_nil, h.unbounded, rfl⟩

/-- Operations from some point on. -/
lemma after (h : Saved ks u) (ops : List StoreOp) :
    Saved (ops.foldl StoreOp.latest ks) (u.after ops) := by
  induction ops generalizing ks u with
  | nil => exact h
  | cons op ops ih => exact ih (h.onMemory op)

end Saved

/-- From a new store. -/
lemma saved_latest (now : UtcTime) (ops : List StoreOp) : Saved (latest ops) ((new now).after ops) :=
  Saved.after ⟨List.nodup_nil, rfl, rfl⟩ ops

/-- A saved number has a message. -/
lemma Saved.entry {ks : List Nat} {u : MemoryStore} (h : Saved ks u) {k : Nat} (hk : k ∈ ks) :
    ∃ v, u.messages[k]? = some v := by
  have mem : k ∈ u.messages.keySet := by
    rw [h.keys, List.mem_toFinset]
    exact hk
  rw [mem_keySet, Std.ExtTreeMap.mem_iff_isSome_getElem?, Option.isSome_iff_exists] at mem
  exact mem

/-- What a store without a bound returns over the full range, of the given numbers alone. -/
def messagesOf (ns : List Nat) (u : MemoryStore) : Except Error (List (Nat × Bytes)) :=
  (getMessages 0 (2 ^ 64 - 1) u).1.map fun found => found.filter fun x => x.1 ∈ ns

/-- Over the full range, one store returns what another does for some of its numbers exactly if these
are the largest. -/
lemma Keeps.getMessages_iff {c : Nat} {m u : MemoryStore} {ks ns : List Nat} (h : Keeps c m u)
    (saved : Saved ks u) (sub : ns ⊆ ks) (fits : ∀ k ∈ ks, k < 2 ^ 64) :
    (getMessages 0 (2 ^ 64 - 1) m).1 = messagesOf ns u ↔
      largest c ks.toFinset = ns.toFinset := by
  have found : (getMessages 0 (2 ^ 64 - 1) m).1 = .ok ((range u.messages 0 (2 ^ 64 - 1)).filter
      fun x => x.1 ∈ largest c ks.toFinset) := by
    show Except.ok (range m.messages 0 (2 ^ 64 - 1)) = _
    rw [h.messages, range_restrict, saved.keys]
  rw [found]
  show Except.ok _ = Except.ok _ ↔ _
  rw [Except.ok.injEq]
  constructor
  · intro same
    have held (k) (hk : k ∈ ks) : k ∈ largest c ks.toFinset ↔ k ∈ ns := by
      obtain ⟨v, hv⟩ := saved.entry hk
      have entry : (k, v) ∈ range u.messages 0 (2 ^ 64 - 1) := by
        have lt := fits k hk
        rw [range, List.mem_filter, Std.ExtTreeMap.mem_toList_iff_getElem?_eq_some]
        refine ⟨hv, ?_⟩
        simp only [Nat.zero_le, decide_true, Bool.true_and, decide_eq_true_eq]
        omega
      have mem := congrArg ((k, v) ∈ ·) same
      simp only [List.mem_filter, entry, true_and, decide_eq_true_eq] at mem
      exact mem.to_iff
    ext k
    rw [List.mem_toFinset]
    constructor
    · intro mem
      exact (held k (List.mem_toFinset.mp (largest_subset c _ mem))).mp mem
    · intro mem
      exact (held k (sub mem)).mpr mem
  · intro same
    apply List.filter_congr
    intro x _
    rw [same]
    simp

/-- A bounded store returns over the full range exactly what a store without a bound does, for the
`c` numbers saved last since the last reset (all of them, where there are no more), if and only if
these are above the numbers saved before them. -/
theorem retains_latest_iff {c : Nat} {now : UtcTime} {ops : List StoreOp}
    (fits : ∀ k ∈ latest ops, k < 2 ^ 64) :
    (getMessages 0 (2 ^ 64 - 1) ((withCapacity c now).after ops)).1 =
        messagesOf ((latest ops).take c) ((new now).after ops) ↔
      ∀ k ∈ (latest ops).take c, ∀ j ∈ (latest ops).drop c, j < k := by
  have saved := saved_latest now ops
  rw [((keeps_new c now).after ops).getMessages_iff saved (List.take_subset c _) fits]
  have split := List.take_append_drop c (latest ops)
  have rest (j) : j ∈ (latest ops).toFinset \ ((latest ops).take c).toFinset ↔
      j ∈ (latest ops).drop c := by
    have nodup := split ▸ saved.nodup
    rw [Finset.mem_sdiff, List.mem_toFinset, List.mem_toFinset]
    constructor
    · rintro ⟨mem, out⟩
      rw [← split, List.mem_append] at mem
      exact mem.resolve_left out
    · intro mem
      exact ⟨List.mem_of_mem_drop mem, fun early => (List.nodup_append.mp nodup).2.2 j early j mem rfl⟩
  have card : ((latest ops).take c).toFinset.card = min c (latest ops).length := by
    rw [List.toFinset_card_of_nodup (saved.nodup.sublist (List.take_sublist c _)), List.length_take]
  rw [largest_eq_iff]
  · simp only [List.mem_toFinset, rest]
  · intro k mem
    rw [List.mem_toFinset] at mem ⊢
    exact List.mem_of_mem_take mem
  · omega
  · intro few k mem
    rw [card] at few
    rw [List.mem_toFinset] at mem ⊢
    rwa [List.take_of_length_le (by omega)]

/-- An operator sets the numbers back: the message sent last is the one that is dropped. -/
def setBack : List StoreOp :=
  [.saveAndIncr 5 (ascii "five"), .saveAndIncr 6 (ascii "six"), .setSender 1,
    .saveAndIncr 1 (ascii "one")]

/-- Messages sent in the order of their numbers are kept as they should be. -/
theorem retains_latest_ascending :
    (getMessages 0 (2 ^ 64 - 1) ((withCapacity 1 0).after (setBack.take 2))).1 =
      messagesOf [6] ((new 0).after (setBack.take 2)) :=
  (retains_latest_iff (c := 1) (by decide)).mpr (by decide)

/-- After the numbers are set back they are not. -/
theorem drops_latest_setBack :
    (getMessages 0 (2 ^ 64 - 1) ((withCapacity 2 0).after setBack)).1 ≠
      messagesOf ((latest setBack).take 2) ((new 0).after setBack) := by
  have saved := saved_latest 0 setBack
  rw [ne_eq, ((keeps_new 2 0).after setBack).getMessages_iff saved (List.take_subset 2 _) (by decide)]
  decide

end MemoryStore

end QuickFix
