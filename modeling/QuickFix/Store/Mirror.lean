import QuickFix.Store.Loading

/-!
# The file store mirrors the memory store

Whatever is done to a file store on which no call fails, it shows what a memory store without a bound
shows to which the same was done (`files_shows`). Reloading and reopening change nothing.
-/

namespace QuickFix

open MessageStore

namespace FileStore

/-! ## Records and messages -/

/-- A record is in the index under its number. -/
lemma mem_of_indexAll {rs : List (Nat × Nat × Nat)} {k : Nat} {r : Nat × Nat}
    (h : (indexAll rs ∅)[k]? = some r) : (k, r) ∈ rs := by
  induction rs using List.reverseRecOn with
  | nil => simp [indexAll] at h
  | append_singleton rs r' ih =>
    rw [indexAll, List.foldl_append] at h
    have h : ((indexAll rs ∅).insert r'.1 r'.2)[k]? = some r := h
    rw [SeqMap.get_insert] at h
    split at h
    case isTrue same =>
      cases h
      rw [← same]
      simp
    case isFalse => exact List.mem_append_left _ (ih h)

/-- One more record. -/
lemma indexAll_snoc (rs : List (Nat × Nat × Nat)) (r) (m) :
    indexAll (rs ++ [r]) m = (indexAll rs m).insert r.1 r.2 := List.foldl_append

/-- The messages of the records of an index. -/
def messagesOf (d : Disk) (rs : List (Nat × Nat × Nat)) : SeqMap Bytes :=
  (indexAll rs ∅).map fun _ r => bytesAt d r

/-- The message of a record. -/
lemma messagesOf_get (d : Disk) (rs : List (Nat × Nat × Nat)) (k : Nat) :
    (messagesOf d rs)[k]? = (indexAll rs ∅)[k]?.map (bytesAt d) := by
  rw [messagesOf, Std.ExtTreeMap.getElem?_map]

/-- The messages of a range. -/
lemma range_messagesOf (d : Disk) (rs : List (Nat × Nat × Nat)) (b e : Nat) :
    MemoryStore.range (messagesOf d rs) b e =
      (MemoryStore.range (indexAll rs ∅) b e).map fun r => (r.1, bytesAt d r.2) :=
  MemoryStore.range_map _ (bytesAt d) b e

/-- The bytes of a record are as many as it says. -/
lemma length_bytesAt {d : Disk} {r : Nat × Nat} (within : r.1 + r.2 ≤ d.body.length) :
    (bytesAt d r).length = r.2 := by
  rw [bytesAt, List.length_take, List.length_drop]
  omega

/-- What is read at a record is not changed by what comes after it. -/
lemma bytesAt_append {d : Disk} {r : Nat × Nat} (within : r.1 + r.2 ≤ d.body.length) (raw) :
    bytesAt (withBody raw d) r = bytesAt d r := by
  simp only [bytesAt, withBody]
  rw [List.drop_append_of_le_length (by omega), List.take_append_of_le_length]
  rw [List.length_drop]
  omega

/-- A message is read back where it was appended. -/
lemma bytesAt_end (d : Disk) (raw : Bytes) :
    bytesAt (withBody raw d) (d.body.length, raw.length) = raw := by
  simp [bytesAt, withBody]

/-- One more message. -/
lemma messagesOf_snoc {d : Disk} {rs : List (Nat × Nat × Nat)}
    (within : ∀ r ∈ rs, r.2.1 + r.2.2 ≤ d.body.length) (n) (raw : Bytes) :
    messagesOf (withBody raw d) (rs ++ [(n, d.body.length, raw.length)]) =
      (messagesOf d rs).insert n raw := by
  apply Std.ExtTreeMap.ext_getElem?
  intro k
  rw [messagesOf_get, indexAll_snoc, SeqMap.get_insert, SeqMap.get_insert]
  split
  case isTrue => exact congrArg some (bytesAt_end d raw)
  case isFalse =>
    rw [messagesOf_get]
    cases found : (indexAll rs ∅)[k]? with
    | none => rfl
    | some r => exact congrArg some (bytesAt_append (within _ (mem_of_indexAll found)) raw)

/-! ## Counters -/

/-- Every line of counters has the same length. -/
lemma length_seqnumsLine {sender target} (h : sender < 2 ^ 64) (h' : target < 2 ^ 64) :
    (seqnumsLine sender target).length = 43 := by
  have room : 2 ^ 64 < 10 ^ 20 := by decide
  simp only [seqnumsLine, List.length_append, length_padded (by decide : 0 < 20) (h.trans room),
    length_padded (by decide : 0 < 20) (h'.trans room)]
  rfl

/-- Counters are written over counters. -/
lemma Holds.withCounters {d : Disk} {rs sender target s t} (h : Holds d rs sender target)
    (bound : s < 2 ^ 64) (bound' : t < 2 ^ 64) : Holds (withCounters s t d) rs s t := by
  refine ⟨.inl ?_, h.header, h.fits, bound, bound'⟩
  show seqnumsLine s t ++ d.seqnums.drop (seqnumsLine s t).length = _
  have short : d.seqnums.length ≤ (seqnumsLine s t).length := by
    rw [length_seqnumsLine bound bound']
    rcases h.seqnums with line | ⟨empty, -, -⟩
    · rw [line, length_seqnumsLine h.bounds.1 h.bounds.2]
    · rw [empty]
      decide
  rw [List.drop_eq_nil_of_le short, List.append_nil]

/-! ## The mirror -/

variable [Rfc3339] {f : Files} {m : MemoryStore} {rs : List (Nat × Nat × Nat)}

/-- A file store shows what a memory store holds: its files hold records and counters, its index is
that of the records, and their bytes are the messages. -/
structure Mirrors (rs : List (Nat × Nat × Nat)) (f : Files) (m : MemoryStore) : Prop where
  quiet : f.Quiet
  holds : Holds f.disk rs m.nextSender m.nextTarget
  stamped : f.disk.session = some (Rfc3339.toRfc3339 m.creationTime)
  back : ReadsBack m.creationTime
  within : ∀ r ∈ rs, r.2.1 + r.2.2 ≤ f.disk.body.length
  messages : m.messages = messagesOf f.disk rs
  unbounded : m.capacity = none
  nextSender : f.store.cache.nextSender = m.nextSender
  nextTarget : f.store.cache.nextTarget = m.nextTarget
  creationTime : f.store.cache.creationTime = m.creationTime
  bodyLen : f.store.bodyLen = f.disk.body.length
  offsets : f.store.offsets = indexAll rs ∅

/-- Only the disk and what is kept in memory matter. -/
lemma Mirrors.congr {g : Files} (h : Mirrors rs f m) (quiet : g.Quiet) (disk : g.disk = f.disk)
    (store : g.store = f.store) : Mirrors rs g m := by
  obtain ⟨_, holds, stamped, back, within, messages, unbounded, sender, target, time, len, offsets⟩ := h
  constructor
  all_goals first | rw [disk] | skip
  all_goals first | rw [store] | skip
  all_goals assumption

/-- What was loaded mirrors what the files hold. -/
lemma Mirrors.loaded {u : Files} (h : Mirrors rs f m) {sync} (quiet : u.Quiet) (disk : u.disk = f.disk)
    (store : u.store = loaded rs m.nextSender m.nextTarget m.creationTime f.disk sync) :
    Mirrors rs u m := by
  obtain ⟨-, holds, stamped, back, within, messages, unbounded, -⟩ := h
  refine ⟨quiet, ?_, ?_, back, ?_, ?_, unbounded, ?_, ?_, ?_, ?_, ?_⟩
  · rw [disk]; exact holds
  · rw [disk]; exact stamped
  · rw [disk]; exact within
  · rw [disk]; exact messages
  all_goals rw [store]
  all_goals first | rfl | skip
  rw [disk]
  rfl

/-- Counters that were set mirror each other. -/
lemma Mirrors.setCounters (h : Mirrors rs f m) {sender target} (bound : sender < 2 ^ 64)
    (bound' : target < 2 ^ 64) : ∃ u, setCounters sender target f = (.ok (), u) ∧
      u.disk.body = f.disk.body ∧
      Mirrors rs u { m with nextSender := sender, nextTarget := target } := by
  refine ⟨_, setCounters_run h.quiet sender target, rfl, ?_⟩
  exact ⟨h.quiet, h.holds.withCounters bound bound', h.stamped, h.back, h.within, h.messages,
    h.unbounded, rfl, rfl, h.creationTime, h.bodyLen, h.offsets⟩

/-- A message that was saved is mirrored. -/
lemma Mirrors.saveMessage (h : Mirrors rs f m) {n} {raw : Bytes} (number : n < 2 ^ 64)
    (small : f.disk.body.length + raw.length < 2 ^ 64) : ∃ u, saveMessage n raw f = (.ok (), u) ∧
      u.disk.body = f.disk.body ++ raw ∧
      Mirrors (rs ++ [(n, f.disk.body.length, raw.length)]) u
        { m with messages := m.messages.insert n raw } := by
  refine ⟨_, saveMessage_run h.quiet n raw, rfl, ?_⟩
  rw [h.bodyLen]
  refine ⟨h.quiet, ⟨h.holds.seqnums, ?_, ?_, h.holds.bounds⟩, h.stamped, h.back, ?_, ?_, h.unbounded,
    h.nextSender, h.nextTarget, h.creationTime, ?_, ?_⟩
  · show f.disk.header ++ _ = _
    rw [h.holds.header]
    simp [headerOf]
  · intro r mem
    rcases List.mem_append.mp mem with old | new
    · exact h.holds.fits r old
    · cases List.mem_singleton.mp new
      exact ⟨number, by simp only; omega, by simp only; omega⟩
  · intro r mem
    show _ ≤ (f.disk.body ++ raw).length
    rw [List.length_append]
    rcases List.mem_append.mp mem with old | new
    · exact (h.within r old).trans (Nat.le_add_right _ _)
    · cases List.mem_singleton.mp new
      exact le_rfl
  · show m.messages.insert n raw = messagesOf (withBody raw f.disk) _
    rw [messagesOf_snoc h.within, h.messages]
  · show f.store.bodyLen + raw.length = (f.disk.body ++ raw).length
    rw [h.bodyLen, List.length_append]
  · show f.store.offsets.insert n _ = _
    rw [h.offsets, indexAll_snoc]

/-- A reset empties both. -/
lemma Mirrors.reset (h : Mirrors rs f m) {now} (back : ReadsBack now) :
    ∃ u, FileStore.reset now f = (.ok (), u) ∧ Mirrors [] u (MessageStore.reset now m).2 := by
  refine ⟨_, reset_run h.quiet now, ?_⟩
  have start : 1 < 2 ^ 64 := by decide
  refine ⟨h.quiet, ⟨.inl ?_, rfl, by simp, start, start⟩, rfl, back, by simp, rfl, h.unbounded, rfl,
    rfl, rfl, rfl, rfl⟩
  show overwrite (seqnumsLine 1 1) [] = seqnumsLine 1 1
  rw [overwrite, List.drop_nil, List.append_nil]

/-- So are counters that were incremented. -/
lemma Mirrors.incrSender (h : Mirrors rs f m) : ∃ u,
    FileStore.incrNextSenderSeqNum f = ((MessageStore.incrNextSenderSeqNum m).1, u) ∧
      u.disk.body = f.disk.body ∧ Mirrors rs u (MessageStore.incrNextSenderSeqNum m).2 := by
  obtain ⟨u, run, body, mirrors⟩ := h.setCounters (incremented_lt m.nextSender) h.holds.bounds.2
  rw [incrNextSenderSeqNum_run, h.nextSender, h.nextTarget, run]
  exact ⟨u, rfl, body, mirrors⟩

/-- Counting what came is mirrored. -/
lemma Mirrors.incrTarget (h : Mirrors rs f m) : ∃ u,
    FileStore.incrNextTargetSeqNum f = ((MessageStore.incrNextTargetSeqNum m).1, u) ∧
      Mirrors rs u (MessageStore.incrNextTargetSeqNum m).2 := by
  obtain ⟨u, run, -, mirrors⟩ := h.setCounters h.holds.bounds.1 (incremented_lt m.nextTarget)
  rw [incrNextTargetSeqNum_run, h.nextSender, h.nextTarget, run]
  exact ⟨u, rfl, mirrors⟩

omit [Rfc3339] in
/-- Counters are not in the body. -/
lemma body_incrNextSender (h : f.Quiet) :
    (FileStore.incrNextSenderSeqNum f).2.disk.body = f.disk.body := by
  rw [incrNextSenderSeqNum_run, setCounters_run h]
  rfl

/-- Setting one counter leaves the other. -/
lemma Mirrors.setSender (h : Mirrors rs f m) {n} (bound : n < 2 ^ 64) : ∃ u,
    FileStore.setNextSenderSeqNum n f = (.ok (), u) ∧ Mirrors rs u { m with nextSender := n } := by
  obtain ⟨u, run, -, mirrors⟩ := h.setCounters bound h.holds.bounds.2
  rw [FileStore.setNextSenderSeqNum, bind_ok kept_run, h.nextTarget]
  exact ⟨u, run, mirrors⟩

/-- Setting the next target number is mirrored. -/
lemma Mirrors.setTarget (h : Mirrors rs f m) {n} (bound : n < 2 ^ 64) : ∃ u,
    FileStore.setNextTargetSeqNum n f = (.ok (), u) ∧ Mirrors rs u { m with nextTarget := n } := by
  obtain ⟨u, run, -, mirrors⟩ := h.setCounters h.holds.bounds.1 bound
  rw [FileStore.setNextTargetSeqNum, bind_ok kept_run, h.nextSender]
  exact ⟨u, run, mirrors⟩

/-- The messages that are read are those of the mirror. -/
lemma Mirrors.getMessages (h : Mirrors rs f m) (b e) : ∃ u,
    FileStore.getMessages b e f = (.ok (MemoryStore.range m.messages b e), u) ∧ Mirrors rs u m := by
  have inBody : ∀ r ∈ MemoryStore.range f.store.offsets b e, InBody f.disk r.2 := by
    intro r mem
    rw [h.offsets] at mem
    have entry := Std.ExtTreeMap.mem_toList_iff_getElem?_eq_some.mp (List.mem_filter.mp mem).1
    exact .inr (h.within r (mem_of_indexAll entry))
  refine ⟨f.touched (2 * (MemoryStore.range f.store.offsets b e).length), ?_,
    h.congr h.quiet rfl rfl⟩
  rw [FileStore.getMessages, bind_ok kept_run, readRecords_run h.quiet inBody, h.messages,
    range_messagesOf, h.offsets]

end FileStore

/-! ## Runs of operations -/

open FileStore

/-- The operations on a store, and closing and opening it again. -/
inductive StoreOp where
  | incrSender
  | incrTarget
  | setSender (n : Nat)
  | setTarget (n : Nat)
  | save (n : Nat) (raw : Bytes)
  | saveAndIncr (n : Nat) (raw : Bytes)
  | get (b e : Nat)
  | refresh (now : UtcTime)
  | reset (now : UtcTime)
  | reopen (sync : Bool) (now : UtcTime)

namespace StoreOp

/-- Numbers are 64-bit, and clock readings are read back from what is printed of them. -/
def Fits [Rfc3339] : StoreOp → Prop
  | .setSender n | .setTarget n | .save n _ | .saveAndIncr n _ => n < 2 ^ 64
  | .reset now => ReadsBack now
  | _ => True

variable [Rfc3339]

/-- On the files. -/
def onFiles : StoreOp → Files → Files
  | .incrSender, f => (MessageStore.incrNextSenderSeqNum f).2
  | .incrTarget, f => (MessageStore.incrNextTargetSeqNum f).2
  | .setSender n, f => (MessageStore.setNextSenderSeqNum n f).2
  | .setTarget n, f => (MessageStore.setNextTargetSeqNum n f).2
  | .save n raw, f => (MessageStore.saveMessage n raw f).2
  | .saveAndIncr n raw, f => (saveMessageAndIncr n raw f).2
  | .get b e, f => (MessageStore.getMessages b e f).2
  | .refresh now, f => (MessageStore.refresh now f).2
  | .reset now, f => (MessageStore.reset now f).2
  | .reopen sync now, f => (openWithSync sync now f).2

/-- In memory, where reloading and reopening are left out. -/
def onMemory : StoreOp → MemoryStore → MemoryStore
  | .incrSender, m => (MessageStore.incrNextSenderSeqNum m).2
  | .incrTarget, m => (MessageStore.incrNextTargetSeqNum m).2
  | .setSender n, m => (MessageStore.setNextSenderSeqNum n m).2
  | .setTarget n, m => (MessageStore.setNextTargetSeqNum n m).2
  | .save n raw, m => (MessageStore.saveMessage n raw m).2
  | .saveAndIncr n raw, m => (saveMessageAndIncr n raw m).2
  | .get b e, m => (MessageStore.getMessages b e m).2
  | .reset now, m => (MessageStore.reset now m).2
  | .refresh _, m | .reopen _ _, m => m

/-- The lengths of files are 64-bit. -/
def Short (f : Files) : Prop := f.disk.body.length < 2 ^ 64

instance (f : Files) : Decidable (Short f) := inferInstanceAs (Decidable (_ < _))

/-- Files that are short after a save had room for the message. -/
lemma room_of_short {f : Files} (quiet : f.Quiet) {n} {raw : Bytes}
    (short : Short (onFiles (.saveAndIncr n raw) f)) : f.disk.body.length + raw.length < 2 ^ 64 := by
  have save : MessageStore.saveMessage n raw f = (.ok (), _) := saveMessage_run quiet n raw
  rw [Short, onFiles, saveMessageAndIncr, save] at short
  have same := body_incrNextSender (f := (FileStore.saveMessage n raw f).2)
    (by rw [saveMessage_run quiet]; exact quiet)
  rw [saveMessage_run quiet] at same
  have short := (congrArg List.length same).symm.trans_lt short
  simpa [withBody, withRecord] using short

/-- An operation on both keeps the mirror. -/
lemma mirrors {op : StoreOp} {f : Files} {m : MemoryStore} {rs} (h : Mirrors rs f m) (fits : op.Fits)
    (short : Short (op.onFiles f)) : ∃ rs', Mirrors rs' (op.onFiles f) (op.onMemory m) := by
  cases op with
  | incrSender =>
    obtain ⟨u, run, -, mirrors⟩ := h.incrSender
    have after : onFiles .incrSender f = u := congrArg Prod.snd run
    exact ⟨rs, after ▸ mirrors⟩
  | incrTarget =>
    obtain ⟨u, run, mirrors⟩ := h.incrTarget
    have after : onFiles .incrTarget f = u := congrArg Prod.snd run
    exact ⟨rs, after ▸ mirrors⟩
  | setSender n =>
    obtain ⟨u, run, mirrors⟩ := h.setSender fits
    have after : onFiles (.setSender n) f = u := congrArg Prod.snd run
    exact ⟨rs, after ▸ mirrors⟩
  | setTarget n =>
    obtain ⟨u, run, mirrors⟩ := h.setTarget fits
    have after : onFiles (.setTarget n) f = u := congrArg Prod.snd run
    exact ⟨rs, after ▸ mirrors⟩
  | save n raw =>
    have saved : onFiles (.save n raw) f = _ := congrArg Prod.snd (saveMessage_run h.quiet n raw)
    have room : f.disk.body.length + raw.length < 2 ^ 64 := by
      rw [saved, Short] at short
      simpa [withBody, withRecord] using short
    obtain ⟨u, run, -, mirrors⟩ := h.saveMessage fits room
    have after : onFiles (.save n raw) f = u := congrArg Prod.snd run
    rw [after, onMemory, MemoryStore.saveMessage_unbounded h.unbounded]
    exact ⟨_, mirrors⟩
  | saveAndIncr n raw =>
    obtain ⟨u, run, -, mirrors⟩ := h.saveMessage fits (room_of_short h.quiet short)
    obtain ⟨v, run', -, mirrors'⟩ := mirrors.incrSender
    have after : onFiles (.saveAndIncr n raw) f = v := by
      have save : MessageStore.saveMessage n raw f = (.ok (), u) := run
      rw [onFiles, saveMessageAndIncr, save]
      exact congrArg Prod.snd run'
    rw [after, onMemory, saveMessageAndIncr, MemoryStore.saveMessage_unbounded h.unbounded]
    exact ⟨_, mirrors'⟩
  | get b e =>
    obtain ⟨u, run, mirrors⟩ := h.getMessages b e
    have after : onFiles (.get b e) f = u := congrArg Prod.snd run
    exact ⟨rs, after ▸ mirrors⟩
  | refresh now =>
    obtain ⟨u, run, quiet, disk, store⟩ := refresh_holds now h.quiet h.holds h.stamped h.back
    have after : onFiles (.refresh now) f = u := congrArg Prod.snd run
    exact ⟨rs, after ▸ h.loaded quiet disk store⟩
  | reset now =>
    obtain ⟨u, run, mirrors⟩ := h.reset fits
    have after : onFiles (.reset now) f = u := congrArg Prod.snd run
    exact ⟨[], after ▸ mirrors⟩
  | reopen sync now =>
    obtain ⟨u, run, quiet, disk, store⟩ := open_holds sync now h.quiet h.holds h.stamped h.back
    have after : onFiles (.reopen sync now) f = u := congrArg Prod.snd run
    exact ⟨rs, after ▸ h.loaded quiet disk store⟩

end StoreOp

section

variable [Rfc3339]

/-- What a file store and a memory store show is the same. -/
structure Shows (f : Files) (m : MemoryStore) : Prop where
  nextSender : nextSenderSeqNum f = nextSenderSeqNum m
  nextTarget : nextTargetSeqNum f = nextTargetSeqNum m
  creationTime : MessageStore.creationTime f = MessageStore.creationTime m
  messages : ∀ b e, b ≤ e → (MessageStore.getMessages b e f).1 = (MessageStore.getMessages b e m).1

/-- A mirror shows the same. -/
lemma FileStore.Mirrors.shows {f : Files} {m : MemoryStore} {rs} (h : Mirrors rs f m) : Shows f m where
  nextSender := h.nextSender
  nextTarget := h.nextTarget
  creationTime := h.creationTime
  messages := fun b e _ => by
    obtain ⟨u, run, -⟩ := h.getMessages b e
    exact congrArg Prod.fst run

/-- A file store after operations. -/
def Files.after (ops : List StoreOp) (f : Files) : Files := ops.foldl (fun f op => op.onFiles f) f

/-- A memory store after operations. -/
def MemoryStore.after (ops : List StoreOp) (m : MemoryStore) : MemoryStore :=
  ops.foldl (fun m op => op.onMemory m) m

/-- Operations on both keep the mirror. -/
lemma FileStore.Mirrors.after {ops : List StoreOp} {f : Files} {m : MemoryStore} {rs}
    (h : Mirrors rs f m) (fits : ∀ op ∈ ops, op.Fits)
    (short : ∀ ops' ∈ ops.inits, StoreOp.Short (f.after ops')) :
    ∃ rs', Mirrors rs' (f.after ops) (m.after ops) := by
  induction ops generalizing f m rs with
  | nil => exact ⟨rs, h⟩
  | cons op ops ih =>
    obtain ⟨here, later⟩ := List.forall_mem_cons.mp fits
    obtain ⟨rs', mirrors⟩ := StoreOp.mirrors h here (short [op] (by simp))
    refine ih mirrors later fun ops' mem => short (op :: ops') ?_
    simpa using mem

/-- From an empty directory, through every sequence of operations in which no call fails, a file store
mirrors a memory store. -/
lemma mirrors_after {f : Files} {now : UtcTime} {sync : Bool} {ops : List StoreOp} (quiet : f.Quiet)
    (empty : f.disk = {}) (back : ReadsBack now) (fits : ∀ op ∈ ops, op.Fits)
    (short : ∀ ops' ∈ ops.inits, StoreOp.Short ((openWithSync sync now f).2.after ops')) :
    (openWithSync sync now f).1 = .ok () ∧
      ∃ rs, Mirrors rs ((openWithSync sync now f).2.after ops)
        (({ creationTime := now } : MemoryStore).after ops) := by
  obtain ⟨u, run, quiet, disk, store⟩ := open_empty sync now quiet empty
  have holds : Holds u.disk [] 1 1 := by
    rw [disk]
    exact ⟨.inr ⟨rfl, rfl, rfl⟩, rfl, by simp, by decide⟩
  have start : Mirrors [] u { creationTime := now } :=
    ⟨quiet, holds, by rw [disk], back, by simp, rfl, rfl, by rw [store]; rfl, by rw [store]; rfl,
      by rw [store]; rfl, by rw [store]; rfl, by rw [store]; rfl⟩
  rw [run] at short ⊢
  exact ⟨rfl, start.after fits short⟩

/-- So it shows what a memory store shows that has no bound. -/
theorem files_shows {f : Files} {now : UtcTime} {sync : Bool} {ops : List StoreOp} (quiet : f.Quiet)
    (empty : f.disk = {}) (back : ReadsBack now) (fits : ∀ op ∈ ops, op.Fits)
    (short : ∀ ops' ∈ ops.inits, StoreOp.Short ((openWithSync sync now f).2.after ops')) :
    (openWithSync sync now f).1 = .ok () ∧
      Shows ((openWithSync sync now f).2.after ops)
        (({ creationTime := now } : MemoryStore).after ops) := by
  obtain ⟨opened, rs, mirrors⟩ := mirrors_after quiet empty back fits short
  exact ⟨opened, mirrors.shows⟩

end

/-- The epoch in RFC 3339; other instants as numbers. -/
@[reducible] def epochText : Rfc3339 where
  toRfc3339 t := if t = 0 then ascii "1970-01-01T00:00:00+00:00" else itoa t
  parseRfc3339 bs := if bs = ascii "1970-01-01T00:00:00+00:00" then some 0 else parseSigned 64 bs

/-- The epoch is read back. -/
lemma readsBack_epoch : @ReadsBack epochText 0 :=
  let := epochText
  ⟨by decide +kernel, by decide +kernel⟩

/-- An empty directory. -/
def emptyFiles : Files := { store := { cache := { creationTime := 0 } } }

/-- Messages, one of them stored again, a reopening, a reset and a reload. -/
def busyDay : List StoreOp :=
  [.saveAndIncr 1 (ascii "one"), .incrTarget, .reopen true 0, .save 1 (ascii "again"), .reset 0,
    .save 2 (ascii "two"), .refresh 0]

/-- A store shows the same after them. -/
theorem files_shows_busyDay :
    letI := epochText
    Shows ((openWithSync false 0 emptyFiles).2.after busyDay)
      (({ creationTime := 0 } : MemoryStore).after busyDay) :=
  let := epochText
  have quiet : emptyFiles.Quiet := rfl
  (files_shows quiet rfl readsBack_epoch (by simp [busyDay, StoreOp.Fits, readsBack_epoch])
    (by decide +kernel)).2

end QuickFix
