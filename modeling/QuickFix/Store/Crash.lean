import QuickFix.Store.Mirror

/-!
# Crashes of the file store

A process may stop before any call of the file system. What it leaves is opened again and shows what
was stored before the operation, or after it; where a message was saved and its number not counted, that.
Only a reset may leave files that show neither (`crash_recovers`): it empties them one after another.
-/

namespace QuickFix

open MessageStore FileStore

section

variable [Rfc3339]

/-- The disks that may be left when the process stops: before each call of an operation, and at its
end. -/
def crashes (op : StoreOp) (f : Files) : List Disk :=
  let g := op.onFiles { f with past := [] }
  g.disk :: g.past

/-- Opening the files succeeds, as does reading any range of messages, and they show what one of the
memory stores holds. -/
def Recovers (d : Disk) (ms : List MemoryStore) : Prop :=
  ∀ store sync now,
    let g := openWithSync sync now { store := store, disk := d }
    g.1 = .ok () ∧ ∃ m ∈ ms, nextSenderSeqNum g.2 = m.nextSender ∧
      nextTargetSeqNum g.2 = m.nextTarget ∧
      ∀ b e, b ≤ e → (MessageStore.getMessages b e g.2).1 = .ok (MemoryStore.range m.messages b e)

namespace StoreOp

/-- What may be found after a crash: what was stored before the operation, or after it; or a message was
saved and its number not counted. -/
def found (op : StoreOp) (m : MemoryStore) : List MemoryStore :=
  match op with
  | .saveAndIncr n raw => [m, (MessageStore.saveMessage n raw m).2, op.onMemory m]
  | _ => [m, op.onMemory m]

/-- A reset may be left half done without harm: every message is empty, and there is none or the
counters are at their start. -/
def Survives : StoreOp → MemoryStore → Prop
  | .reset _, m => (∀ (k : Nat) raw, m.messages[k]? = some raw → raw = []) ∧
      (m.messages = ∅ ∨ m.nextSender = 1 ∧ m.nextTarget = 1)
  | _, _ => True

end StoreOp

/-! ## Opening what was left -/

section Opening

variable {d : Disk} {rs : List (Nat × Nat × Nat)} {sender target : Nat} {t : UtcTime}

/-- Reading the messages of files that were opened. -/
lemma getMessages_loaded {u : Files} {sync} (quiet : u.Quiet) (disk : u.disk = d)
    (store : u.store = loaded rs sender target t d sync)
    (inBody : ∀ (k : Nat) r, (indexAll rs ∅)[k]? = some r → InBody d r) (b e) :
    (MessageStore.getMessages b e u).1 = .ok (MemoryStore.range (messagesOf d rs) b e) := by
  have records : ∀ r ∈ MemoryStore.range u.store.offsets b e, InBody u.disk r.2 := by
    intro r mem
    rw [store] at mem
    rw [disk]
    exact inBody r.1 r.2 (Std.ExtTreeMap.mem_toList_iff_getElem?_eq_some.mp (List.mem_filter.mp mem).1)
  show (FileStore.getMessages b e u).1 = _
  rw [FileStore.getMessages, bind_ok kept_run, readRecords_run quiet records, range_messagesOf, disk,
    store]
  rfl

/-- Opening the files that were left. -/
lemma opened (store : FileStore) (sync now) (holds : Holds d rs sender target)
    (stamped : d.session = some (Rfc3339.toRfc3339 t)) (back : ReadsBack t) :
    ∃ u, openWithSync sync now { store := store, disk := d } = (.ok (), u) ∧ u.Quiet ∧ u.disk = d ∧
      u.store = loaded rs sender target t d sync :=
  open_holds (f := { store := store, disk := d }) sync now rfl holds stamped back

/-- Files whose records are in the body recover what they hold. -/
lemma recovers_of {ms} {m : MemoryStore} (holds : Holds d rs sender target)
    (stamped : d.session = some (Rfc3339.toRfc3339 t)) (back : ReadsBack t)
    (inBody : ∀ (k : Nat) r, (indexAll rs ∅)[k]? = some r → InBody d r) (mem : m ∈ ms)
    (nextSender : sender = m.nextSender) (nextTarget : target = m.nextTarget)
    (messages : messagesOf d rs = m.messages) : Recovers d ms := by
  intro store sync now
  obtain ⟨u, run, quiet, disk, store⟩ := opened store sync now holds stamped back
  simp only [run]
  refine ⟨trivial, m, mem, ?_, ?_, fun b e _ => ?_⟩
  · show u.store.cache.nextSender = _
    rw [store, ← nextSender]
    rfl
  · show u.store.cache.nextTarget = _
    rw [store, ← nextTarget]
    rfl
  · rw [getMessages_loaded quiet disk store inBody, messages]

end Opening

/-! ## Each operation -/

section Operations

variable {f : Files} {m : MemoryStore} {rs : List (Nat × Nat × Nat)} {ms : List MemoryStore}

/-- The records of a mirror are in the body. -/
lemma inBody_of_mirrors (h : Mirrors rs f m) (k : Nat) (r) (entry : (indexAll rs ∅)[k]? = some r) :
    InBody f.disk r := .inr (h.within _ (mem_of_indexAll entry))

/-- The disk of a mirror recovers. -/
lemma recovers_mirror (h : Mirrors rs f m) (mem : m ∈ ms) : Recovers f.disk ms :=
  recovers_of h.holds h.stamped h.back (inBody_of_mirrors h) mem rfl rfl h.messages.symm

omit [Rfc3339] in
/-- Counters are on the disk as they were, or as they were set. -/
lemma left_setCounters (sender target) (h : f.Quiet) {d}
    (left : d ∈ (setCounters sender target f).2.past) :
    d = f.disk ∨ d = (setCounters sender target f).2.disk ∨ d ∈ f.past := by
  rw [setCounters_run h] at left ⊢
  simp only [Files.touched_disk, Files.touched_past, Files.passed_disk, Files.passed_past,
    Files.keeping_disk, Files.keeping_past, id_eq, List.mem_cons, List.mem_append,
    List.mem_replicate] at left ⊢
  tauto

omit [Rfc3339] in
/-- So are counters that were incremented. -/
lemma left_incrSender (h : f.Quiet) {d} (left : d ∈ (FileStore.incrNextSenderSeqNum f).2.past) :
    d = f.disk ∨ d = (FileStore.incrNextSenderSeqNum f).2.disk ∨ d ∈ f.past := by
  rw [incrNextSenderSeqNum_run] at left ⊢
  exact left_setCounters _ _ h left

omit [Rfc3339] in
/-- Counting leaves the disk as it was, or as it is. -/
lemma left_incrTarget (h : f.Quiet) {d} (left : d ∈ (FileStore.incrNextTargetSeqNum f).2.past) :
    d = f.disk ∨ d = (FileStore.incrNextTargetSeqNum f).2.disk ∨ d ∈ f.past := by
  rw [incrNextTargetSeqNum_run] at left ⊢
  exact left_setCounters _ _ h left

omit [Rfc3339] in
/-- A message is not there, in the body only, or saved. -/
lemma left_saveMessage (n raw) (h : f.Quiet) {d} (left : d ∈ (FileStore.saveMessage n raw f).2.past) :
    d = f.disk ∨ d = withBody raw f.disk ∨ d = (FileStore.saveMessage n raw f).2.disk ∨ d ∈ f.past := by
  rw [saveMessage_run h] at left ⊢
  simp only [Files.touched_disk, Files.touched_past, Files.passed_disk, Files.passed_past,
    Files.keeping_disk, Files.keeping_past, id_eq, List.mem_cons, List.mem_append,
    List.mem_replicate] at left ⊢
  tauto

/-- A message in the body without a record is not found. -/
lemma recovers_body (h : Mirrors rs f m) (raw : Bytes) (mem : m ∈ ms) :
    Recovers (withBody raw f.disk) ms := by
  have holds : Holds (withBody raw f.disk) rs m.nextSender m.nextTarget :=
    ⟨h.holds.seqnums, h.holds.header, h.holds.fits, h.holds.bounds⟩
  have within (k : Nat) (r) (entry : (indexAll rs ∅)[k]? = some r) : r.1 + r.2 ≤ f.disk.body.length :=
    h.within _ (mem_of_indexAll entry)
  refine recovers_of holds h.stamped h.back (fun k r entry => .inr ?_) mem rfl rfl ?_
  · show _ ≤ (f.disk.body ++ raw).length
    rw [List.length_append]
    exact (within k r entry).trans (Nat.le_add_right _ _)
  · rw [h.messages]
    apply Std.ExtTreeMap.ext_getElem?
    intro k
    rw [messagesOf_get, messagesOf_get]
    cases entry : (indexAll rs ∅)[k]? with
    | none => rfl
    | some r => exact congrArg some (bytesAt_append (within k r entry) raw)

/-! ## A reset -/

/-- The files while a reset goes on: without messages, without the index as well, without the counters
as well, with the time of the reset, and with new counters. -/
def resetDisks (now : UtcTime) (d : Disk) : List Disk :=
  let d1 : Disk := { d with body := [] }
  let d2 : Disk := { d1 with header := [] }
  let d3 : Disk := { d2 with seqnums := [] }
  let d4 : Disk := { d3 with session := some (Rfc3339.toRfc3339 now) }
  [d, d1, d2, d3, d4, withCounters 1 1 d4]

/-- What a reset may leave. -/
lemma crashes_reset (h : f.Quiet) {now d} :
    d ∈ crashes (.reset now) f ↔ d ∈ resetDisks now f.disk := by
  have run : StoreOp.onFiles (.reset now) { f with past := [] } = _ :=
    congrArg Prod.snd (reset_run (f := { f with past := [] }) h now)
  simp only [crashes, run, resetDisks, Files.passed_disk, Files.passed_past, Files.keeping_disk,
    Files.keeping_past, id_eq, List.mem_cons, List.not_mem_nil, or_false]
  tauto

/-- Where every message is empty, the body is not needed. -/
lemma recovers_noBody (h : Mirrors rs f m)
    (blank : ∀ (k : Nat) raw, m.messages[k]? = some raw → raw = []) (mem : m ∈ ms) :
    Recovers { f.disk with body := [] } ms := by
  have zero (k : Nat) (r) (entry : (indexAll rs ∅)[k]? = some r) :
      bytesAt f.disk r = [] ∧ r.2 = 0 := by
    have stored : m.messages[k]? = some (bytesAt f.disk r) := by
      rw [h.messages, messagesOf_get, entry]
      rfl
    have empty := blank k _ stored
    refine ⟨empty, ?_⟩
    rw [← length_bytesAt (h.within _ (mem_of_indexAll entry)), empty]
    rfl
  refine recovers_of ⟨h.holds.seqnums, h.holds.header, h.holds.fits, h.holds.bounds⟩ h.stamped h.back
    (fun k r entry => .inl (zero k r entry).2) mem rfl rfl ?_
  rw [h.messages]
  apply Std.ExtTreeMap.ext_getElem?
  intro k
  rw [messagesOf_get, messagesOf_get]
  cases entry : (indexAll rs ∅)[k]? with
  | none => rfl
  | some r =>
    rw [Option.map_some, Option.map_some, (zero k r entry).1, bytesAt, (zero k r entry).2]
    rfl

/-- Files without records recover what holds no message. -/
lemma recovers_bare {d : Disk} {sender target t} {m' : MemoryStore} (holds : Holds d [] sender target)
    (stamped : d.session = some (Rfc3339.toRfc3339 t)) (back : ReadsBack t) (mem : m' ∈ ms)
    (nextSender : sender = m'.nextSender) (nextTarget : target = m'.nextTarget)
    (messages : m'.messages = ∅) : Recovers d ms :=
  recovers_of holds stamped back (by simp [indexAll]) mem nextSender nextTarget
    (messages.symm ▸ rfl)

/-- A message that is in the index, but not in the body, cannot be read. -/
lemma blank_of_recovers (h : Mirrors rs f m) (recovers : Recovers { f.disk with body := [] } ms)
    (k : Nat) (raw) (stored : m.messages[k]? = some raw) : raw = [] := by
  rw [h.messages, messagesOf_get, Option.map_eq_some_iff] at stored
  obtain ⟨r, entry, rfl⟩ := stored
  by_contra filled
  have out : ¬ InBody { f.disk with body := [] } r := by
    have len : (bytesAt f.disk r).length = r.2 := length_bytesAt (h.within _ (mem_of_indexAll entry))
    have pos := List.length_pos_of_ne_nil filled
    rintro (zero | within)
    · omega
    · simp only [List.length_nil] at within
      omega
  obtain ⟨u, run, quiet, disk, store⟩ :=
    opened (d := { f.disk with body := [] }) f.store false 0
      ⟨h.holds.seqnums, h.holds.header, h.holds.fits, h.holds.bounds⟩ h.stamped h.back
  obtain ⟨-, m', -, -, -, messages⟩ := run ▸ recovers f.store false 0
  have mem : (k, r) ∈ MemoryStore.range u.store.offsets k k := by
    rw [store]
    exact MemoryStore.mem_range_self entry
  obtain ⟨t, error⟩ := readRecords_error quiet mem (disk ▸ out)
  have read : (MessageStore.getMessages k k u).1 = .error .io := by
    show (FileStore.getMessages k k u).1 = _
    rw [FileStore.getMessages, bind_ok kept_run, error]
  have ok := messages k k le_rfl
  rw [read] at ok
  cases ok

/-- A reset may be left half done without harm exactly when there is nothing to lose. -/
lemma recovers_reset (h : Mirrors rs f m) {now} (back : ReadsBack now) :
    (∀ d ∈ resetDisks now f.disk, Recovers d (StoreOp.found (.reset now) m)) ↔
      StoreOp.Survives (.reset now) m := by
  constructor
  case mp =>
    intro recovers
    simp only [resetDisks, List.forall_mem_cons] at recovers
    obtain ⟨-, noBody, bare, -⟩ := recovers
    refine ⟨blank_of_recovers h noBody, ?_⟩
    have holds : Holds { f.disk with body := [], header := [] } [] m.nextSender m.nextTarget :=
      ⟨h.holds.seqnums, rfl, by simp, h.holds.bounds⟩
    obtain ⟨u, run, quiet, disk, store⟩ := opened f.store false 0 holds h.stamped h.back
    obtain ⟨-, m', mem, sender, target, messages⟩ := run ▸ bare f.store false 0
    have none (b e) : (MessageStore.getMessages b e u).1 = .ok [] := by
      rw [getMessages_loaded quiet disk store (by simp [indexAll])]
      rfl
    simp only [StoreOp.found, List.mem_cons, List.not_mem_nil, or_false] at mem
    rcases mem with rfl | rfl
    · refine .inl (SeqMap.eq_empty fun k => ?_)
      cases stored : m'.messages[k]? with
      | none => rfl
      | some raw =>
        have same := (messages k k le_rfl).symm.trans (none k k)
        have mem := MemoryStore.mem_range_self stored
        rw [Except.ok.inj same] at mem
        cases mem
    · refine .inr ⟨?_, ?_⟩
      · exact (show u.store.cache.nextSender = m.nextSender by rw [store]; rfl).symm.trans sender
      · exact (show u.store.cache.nextTarget = m.nextTarget by rw [store]; rfl).symm.trans target
  case mpr =>
    rintro ⟨blank, spare⟩
    have start : 1 < 2 ^ 64 := by decide
    have empty : Holds { f.disk with body := [], header := [], seqnums := [] } [] 1 1 :=
      ⟨.inr ⟨rfl, rfl, rfl⟩, rfl, by simp, start, start⟩
    have last : (MessageStore.reset now m).2 ∈ StoreOp.found (.reset now) m := by
      simp [StoreOp.found, StoreOp.onMemory]
    have first : m ∈ StoreOp.found (.reset now) m := by simp [StoreOp.found]
    simp only [resetDisks, List.forall_mem_cons]
    refine ⟨recovers_mirror h first, recovers_noBody h blank first, ?_, ?_, ?_, ?_, by simp⟩
    · have holds : Holds { f.disk with body := [], header := [] } [] m.nextSender m.nextTarget :=
        ⟨h.holds.seqnums, rfl, by simp, h.holds.bounds⟩
      rcases spare with none | ⟨sender, target⟩
      · exact recovers_bare holds h.stamped h.back first rfl rfl none
      · exact recovers_bare holds h.stamped h.back last sender target rfl
    · exact recovers_bare empty h.stamped h.back last rfl rfl rfl
    · exact recovers_bare (t := now) ⟨empty.seqnums, rfl, by simp, empty.bounds⟩ rfl back last rfl rfl rfl
    · have wiped : Holds { session := some (Rfc3339.toRfc3339 now) } [] 1 1 :=
        ⟨empty.seqnums, rfl, by simp, empty.bounds⟩
      exact recovers_bare (wiped.withCounters start start) rfl back last rfl rfl rfl

/-! ## Every operation -/

/-- The operations that write to the files at once: counters, a message with its number, a reset. -/
def StoreOp.Changes : StoreOp → Prop
  | .incrSender | .incrTarget | .setSender _ | .setTarget _ | .saveAndIncr .. | .reset _ => True
  | _ => False

omit [Rfc3339] in
/-- What was stored before an operation may be found after a crash, and what is stored after it. -/
lemma StoreOp.mem_found (op : StoreOp) (m) : m ∈ op.found m ∧ op.onMemory m ∈ op.found m := by
  cases op <;> simp [found]

/-- What an operation may leave recovers, where the disk is either as it was or as it will be. -/
lemma recovers_between {op : StoreOp} {u : Files} {rs'} (h : Mirrors rs f m)
    (run : op.onFiles { f with past := [] } = u) (h' : Mirrors rs' u (op.onMemory m))
    (left : ∀ d ∈ u.past, d = f.disk ∨ d = u.disk ∨ d ∈ ([] : List Disk)) :
    ∀ d ∈ crashes op f, Recovers d (op.found m) := by
  obtain ⟨first, last⟩ := op.mem_found m
  intro d mem
  rw [crashes, run, List.mem_cons] at mem
  have either : d = f.disk ∨ d = u.disk := by
    rcases mem with here | past
    · exact .inr here
    · simpa using left d past
  rcases either with rfl | rfl
  · exact recovers_mirror h first
  · exact recovers_mirror h' last

/-- What a save with its count may leave recovers. -/
lemma recovers_saveAndIncr {n} {raw : Bytes} (h : Mirrors rs f m) (fits : n < 2 ^ 64)
    (room : f.disk.body.length + raw.length < 2 ^ 64) :
    ∀ d ∈ crashes (.saveAndIncr n raw) f, Recovers d (StoreOp.found (.saveAndIncr n raw) m) := by
  have begun : Mirrors rs { f with past := [] } m := h.congr h.quiet rfl rfl
  obtain ⟨u, run, -, mirrors⟩ := begun.saveMessage fits room
  obtain ⟨v, run', -, mirrors'⟩ := mirrors.incrSender
  have save : MessageStore.saveMessage n raw { f with past := [] } = (.ok (), u) := run
  have saved : (MessageStore.saveMessage n raw m).2 = { m with messages := m.messages.insert n raw } := by
    rw [MemoryStore.saveMessage_unbounded h.unbounded]
  have counted : StoreOp.onMemory (.saveAndIncr n raw) m =
      (MessageStore.incrNextSenderSeqNum { m with messages := m.messages.insert n raw }).2 := by
    rw [StoreOp.onMemory, saveMessageAndIncr, MemoryStore.saveMessage_unbounded h.unbounded]
  have after : StoreOp.onFiles (.saveAndIncr n raw) { f with past := [] } = v := by
    rw [StoreOp.onFiles, saveMessageAndIncr, save]
    exact congrArg Prod.snd run'
  rw [crashes, after, StoreOp.found, counted, saved]
  intro d mem
  have places : d = f.disk ∨ d = withBody raw f.disk ∨ d = u.disk ∨ d = v.disk := by
    have last := left_incrSender mirrors.quiet (d := d)
    have early := left_saveMessage (f := { f with past := [] }) n raw h.quiet (d := d)
    rw [run'] at last
    rw [run] at early
    simp only [List.not_mem_nil, or_false] at early
    rcases List.mem_cons.mp mem with here | past
    · exact .inr (.inr (.inr here))
    · tauto
  rcases places with rfl | rfl | rfl | rfl
  · exact recovers_mirror h (by simp)
  · exact recovers_body h raw (by simp)
  · exact recovers_mirror mirrors (by simp)
  · exact recovers_mirror mirrors' (by simp)

/-- What an operation may leave recovers, a reset where it survives. -/
lemma recovers_op {op : StoreOp} (h : Mirrors rs f m) (changes : op.Changes) (fits : op.Fits)
    (short : StoreOp.Short (op.onFiles f)) :
    (∀ d ∈ crashes op f, Recovers d (op.found m)) ↔ op.Survives m := by
  have begun : Mirrors rs { f with past := [] } m := h.congr h.quiet rfl rfl
  have quiet : Files.Quiet { f with past := [] } := h.quiet
  cases op with
  | incrSender =>
    obtain ⟨u, run, -, mirrors⟩ := begun.incrSender
    have left (d) := left_incrSender quiet (d := d)
    rw [run] at left
    exact iff_of_true (recovers_between h (congrArg Prod.snd run) mirrors left) trivial
  | incrTarget =>
    obtain ⟨u, run, mirrors⟩ := begun.incrTarget
    have left (d) := left_incrTarget quiet (d := d)
    rw [run] at left
    exact iff_of_true (recovers_between h (congrArg Prod.snd run) mirrors left) trivial
  | setSender n =>
    obtain ⟨u, run, mirrors⟩ := begun.setSender fits
    have run' : setCounters n f.store.cache.nextTarget { f with past := [] } = (.ok (), u) := run
    have left (d) := left_setCounters n f.store.cache.nextTarget quiet (d := d)
    rw [run'] at left
    exact iff_of_true (recovers_between h (congrArg Prod.snd run) mirrors left) trivial
  | setTarget n =>
    obtain ⟨u, run, mirrors⟩ := begun.setTarget fits
    have run' : setCounters f.store.cache.nextSender n { f with past := [] } = (.ok (), u) := run
    have left (d) := left_setCounters f.store.cache.nextSender n quiet (d := d)
    rw [run'] at left
    exact iff_of_true (recovers_between h (congrArg Prod.snd run) mirrors left) trivial
  | saveAndIncr n raw =>
    exact iff_of_true (recovers_saveAndIncr h fits (StoreOp.room_of_short h.quiet short)) trivial
  | reset now =>
    simp only [crashes_reset h.quiet]
    exact recovers_reset h fits
  | save | get | refresh | reopen => exact changes.elim

end Operations

/-- What any operation may leave of a store that was reached without a failed call can be opened and
read, and shows what was stored before or after it, exactly when the operation is no reset, or one that
survives. -/
theorem crash_recovers {f : Files} {now : UtcTime} {sync : Bool} {ops : List StoreOp} {op : StoreOp}
    (quiet : f.Quiet) (empty : f.disk = {}) (back : ReadsBack now) (fits : ∀ o ∈ ops ++ [op], o.Fits)
    (short : ∀ ops' ∈ (ops ++ [op]).inits, StoreOp.Short ((openWithSync sync now f).2.after ops'))
    (changes : op.Changes) :
    (∀ d ∈ crashes op ((openWithSync sync now f).2.after ops),
        Recovers d (op.found (({ creationTime := now } : MemoryStore).after ops))) ↔
      op.Survives (({ creationTime := now } : MemoryStore).after ops) := by
  obtain ⟨-, rs, mirrors⟩ := mirrors_after quiet empty back
    (fun o mem => fits o (List.mem_append_left _ mem)) fun ops' mem => short ops' (by
      rw [List.inits_append]
      exact List.mem_append_left _ mem)
  refine recovers_op mirrors changes (fits op (by simp)) ?_
  have whole := short (ops ++ [op]) (by simp)
  rw [Files.after, List.foldl_append] at whole
  exact whole

end

/-- One message is stored. -/
def oneMessage : List StoreOp := [.saveAndIncr 1 (ascii "one")]

/-- Counting another message leaves one of three directories; each recovers. -/
theorem crash_recovers_incrTarget :
    letI := epochText
    (crashes .incrTarget ((openWithSync false 0 emptyFiles).2.after oneMessage)).length = 3 ∧
      ∀ d ∈ crashes .incrTarget ((openWithSync false 0 emptyFiles).2.after oneMessage),
        Recovers d (StoreOp.found .incrTarget
          (({ creationTime := 0 } : MemoryStore).after oneMessage)) :=
  let := epochText
  have quiet : emptyFiles.Quiet := rfl
  have changes : StoreOp.Changes .incrTarget := trivial
  ⟨by decide +kernel, (crash_recovers quiet rfl readsBack_epoch (by simp [oneMessage, StoreOp.Fits])
    (by decide +kernel) changes).mpr trivial⟩

/-- A reset that stops after the body was emptied leaves a message in the index that cannot be read. -/
theorem not_recovers_reset :
    letI := epochText
    ¬ ∀ d ∈ crashes (.reset 0) ((openWithSync false 0 emptyFiles).2.after oneMessage),
      Recovers d (StoreOp.found (.reset 0)
        (({ creationTime := 0 } : MemoryStore).after oneMessage)) := by
  intro recovers
  have quiet : letI := epochText
      ((openWithSync false 0 emptyFiles).2.after oneMessage).Quiet := by
    show _ = []
    decide +kernel
  have left := (@crashes_reset epochText _ quiet 0 _).mpr (List.mem_cons_of_mem _ List.mem_cons_self)
  obtain ⟨-, m, -, -, -, messages⟩ := recovers _ left emptyFiles.store false 0
  have fails : letI := epochText
      (MessageStore.getMessages 1 1 (openWithSync false 0 { store := emptyFiles.store, disk :=
        { ((openWithSync false 0 emptyFiles).2.after oneMessage).disk with body := [] } }).2).1 =
      .error .io := by
    decide +kernel
  have read := fails.symm.trans (messages 1 1 le_rfl)
  cases read

end QuickFix
