import QuickFix.Store.Files

/-!
# Runs without failures

What each operation of the file store does when no call of the file system fails: the disk it leaves,
the disks it went through, and what it keeps in memory.
-/

namespace QuickFix

namespace Files

/-- No call to come fails. -/
def Quiet (f : Files) : Prop := f.completions = []

/-- After a call. -/
def passed (effect : Disk → Disk) (f : Files) : Files :=
  { f with disk := effect f.disk, past := f.disk :: f.past }

/-- After a change of what is kept in memory. -/
def keeping (g : FileStore → FileStore) (f : Files) : Files := { f with store := g f.store }

/-- After calls that left the files as they are. -/
def touched (n : Nat) (f : Files) : Files := { f with past := List.replicate n f.disk ++ f.past }

variable {f : Files} {effect : Disk → Disk} {g : FileStore → FileStore} {n : Nat}

/-- The disk after a call that passed. -/
@[simp] lemma passed_disk : (f.passed effect).disk = effect f.disk := rfl
@[simp] lemma passed_store : (f.passed effect).store = f.store := rfl
@[simp] lemma passed_past : (f.passed effect).past = f.disk :: f.past := rfl
@[simp] lemma keeping_disk : (f.keeping g).disk = f.disk := rfl
@[simp] lemma keeping_store : (f.keeping g).store = g f.store := rfl
@[simp] lemma keeping_past : (f.keeping g).past = f.past := rfl
@[simp] lemma touched_disk : (f.touched n).disk = f.disk := rfl
@[simp] lemma touched_store : (f.touched n).store = f.store := rfl
@[simp] lemma touched_past : (f.touched n).past = List.replicate n f.disk ++ f.past := rfl

/-- No failure comes nearer at a call. -/
@[simp] lemma quiet_passed : (f.passed effect).Quiet ↔ f.Quiet := .rfl
@[simp] lemma quiet_keeping : (f.keeping g).Quiet ↔ f.Quiet := .rfl
@[simp] lemma quiet_touched : (f.touched n).Quiet ↔ f.Quiet := .rfl

/-- A change that leaves what is kept in memory. -/
lemma keeping_self (same : g f.store = f.store) : f.keeping g = f := by
  rw [keeping, same]

/-- One call more that leaves the files as they are. -/
lemma touched_passed (f : Files) (n) : (f.passed id).touched n = f.touched (n + 1) := by
  simp [touched, passed, List.replicate_succ']

end Files

namespace FileStore

variable {f : Files} {α β : Type}

/-! ## Calls -/

/-- One operation after another. -/
lemma bind_run (x : FileM α) (y : α → FileM β) (f : Files) :
    (x >>= y) f = match x f with
      | (.ok a, t) => y a t
      | (.error e, t) => (.error e, t) := by
  show (ExceptT.bind x y) f = _
  simp only [ExceptT.bind, ExceptT.mk, bind, StateT.bind, ExceptT.bindCont]
  rcases x f with ⟨a | e, t⟩ <;> rfl

/-- An operation after one that succeeded. -/
lemma bind_ok {x : FileM α} {a t} (h : x f = (.ok a, t)) (y : α → FileM β) : (x >>= y) f = y a t := by
  rw [bind_run, h]

/-- No operation after one that failed. -/
lemma bind_error {x : FileM α} {e t} (h : x f = (.error e, t)) (y : α → FileM β) :
    (x >>= y) f = (.error e, t) := by
  rw [bind_run, h]

/-- Returning a value. -/
@[simp] lemma pure_run (a : α) : (pure a : FileM α) f = (.ok a, f) := rfl

/-- Failing. -/
@[simp] lemma throw_run (e : Error) : (throw e : FileM α) f = (.error e, f) := rfl

/-- Keeping something in memory. -/
@[simp] lemma keep_run (g) : keep g f = (.ok (), f.keeping g) := rfl

/-- Reading the memory. -/
@[simp] lemma kept_run : kept f = (.ok f.store, f) := rfl

/-- A call that does not fail. -/
lemma call_run (h : f.Quiet) (effect landing) (result : Disk → Except Error α) :
    call effect landing result f = (result f.disk, f.passed effect) := by
  have none : f.completions = [] := h
  simp only [call, none, List.head?_nil, List.tail_nil]
  rw [Files.passed, ← none]

/-- A call without effect passes. -/
@[simp] lemma touch_run (h : f.Quiet) : touch f = (.ok (), f.passed id) := call_run h _ _ _

/-- A write passes. -/
@[simp] lemma write_run (h : f.Quiet) (effect landing) :
    write effect landing f = (.ok (), f.passed effect) := call_run h _ _ _

/-- Reading text passes. -/
@[simp] lemma readToString_run (h : f.Quiet) {file : Disk → Bytes} (text : utf8Valid (file f.disk) = true) :
    readToString file f = (.ok (file f.disk), f.passed id) := by
  rw [readToString, call_run h, if_pos text]

/-- Reading the session file passes. -/
@[simp] lemma readSession_run (h : f.Quiet) :
    readSession f = (.ok (f.disk.session.filter utf8Valid), f.passed id) := by
  have read := call_run h id (fun _ => id) fun d : Disk =>
    (.ok (d.session.filter utf8Valid) : Except Error (Option Bytes))
  show (tryCatch _ _ : FileM (Option Bytes)) f = _
  simp only [tryCatch, tryCatchThe, MonadExceptOf.tryCatch, ExceptT.tryCatch, ExceptT.mk, bind,
    StateT.bind]
  rw [read]
  rfl

/-- Calls that do not fail. -/
@[simp] lemma touches_run (h : f.Quiet) (n) : touches n f = (.ok (), f.touched n) := by
  induction n generalizing f with
  | zero => rfl
  | succ n ih =>
    rw [touches, bind_ok (touch_run h), ih (f.quiet_passed.mpr h), f.touched_passed]

/-- How many calls a flush makes. -/
def syncs (s : FileStore) (files : Nat) : Nat := if s.sync then 2 * files else 0

/-- A sync passes. -/
@[simp] lemma fsync_run (h : f.Quiet) (n) : fsync n f = (.ok (), f.touched (f.store.syncs n)) := by
  rw [fsync, bind_ok kept_run, syncs]
  split
  · exact touches_run h _
  · rfl

/-! ## Operations -/

/-- The files with these counters. -/
def withCounters (sender target : Nat) (d : Disk) : Disk :=
  { d with seqnums := overwrite (seqnumsLine sender target) d.seqnums }

/-- The files with another message in the body. -/
def withBody (raw : Bytes) (d : Disk) : Disk := { d with body := d.body ++ raw }

/-- The files with another record in the header. -/
def withRecord (r : Nat × Nat × Nat) (d : Disk) : Disk :=
  { d with header := d.header ++ (recordLine r ++ [10]) }

/-- Writing the counters. -/
lemma writeSeqnums_run (h : f.Quiet) : writeSeqnums f = (.ok (), (f.passed id).passed
    (withCounters f.store.cache.nextSender f.store.cache.nextTarget)) := by
  simp only [writeSeqnums, bind_run, touch_run h, kept_run, write_run, Files.quiet_passed, h]
  rfl

/-- Setting the counters. -/
lemma setCounters_run (h : f.Quiet) (sender target) : setCounters sender target f =
    (.ok (), (((f.keeping (counting sender target)).passed id).passed
      (withCounters sender target)).touched (f.store.syncs 1)) := by
  simp only [setCounters, bind_run, keep_run, writeSeqnums_run, fsync_run, Files.quiet_passed,
    Files.quiet_keeping, h]
  rfl

/-- Saving a message. -/
lemma saveMessage_run (h : f.Quiet) (seq raw) : saveMessage seq raw f = (.ok (),
    ((((((f.passed id).passed (withBody raw)).keeping
      fun s => { s with bodyLen := s.bodyLen + raw.length }).passed id).passed
        (withRecord (seq, f.store.bodyLen, raw.length))).keeping
          (index (seq, f.store.bodyLen, raw.length))).touched (f.store.syncs 2)) := by
  simp only [saveMessage, bind_run, kept_run, touch_run, appendBody, write_run, keep_run,
    appendHeader, fsync_run, Files.quiet_passed, Files.quiet_keeping, h]
  rfl

/-- Incrementing the sender's counter. -/
lemma incrNextSenderSeqNum_run : incrNextSenderSeqNum f =
    setCounters (incremented f.store.cache.nextSender) f.store.cache.nextTarget f := rfl

/-- Incrementing the target's counter. -/
lemma incrNextTargetSeqNum_run : incrNextTargetSeqNum f =
    setCounters f.store.cache.nextSender (incremented f.store.cache.nextTarget) f := rfl

/-- A reset. -/
lemma reset_run [Rfc3339] (h : f.Quiet) (now) : reset now f = (.ok (),
    ((((((f.keeping fun s => { s with
      cache := (MessageStore.reset now s.cache).2
      offsets := ∅
      bodyLen := 0 }).passed fun d => { d with body := [] }).passed
        fun d => { d with header := [] }).passed fun d => { d with seqnums := [] }).passed
          fun d => { d with session := some (Rfc3339.toRfc3339 now) }).passed id).passed
            (withCounters 1 1)) := by
  simp only [reset, bind_run, keep_run, truncate, write_run, writeSession, kept_run,
    writeSeqnums_run, Files.quiet_passed, Files.quiet_keeping, h]
  rfl

/-! ## Reading messages -/

/-- The bytes of a record. -/
def bytesAt (d : Disk) (r : Nat × Nat) : Bytes := (d.body.drop r.1).take r.2

/-- The bytes of a record are in the body. -/
def InBody (d : Disk) (r : Nat × Nat) : Prop := r.2 = 0 ∨ r.1 + r.2 ≤ d.body.length

/-- Reading a record that is in the body. -/
lemma readExact_run (h : f.Quiet) {r} (inBody : InBody f.disk r) :
    readExact r.1 r.2 f = (.ok (bytesAt f.disk r), f.passed id) := by
  rw [readExact, call_run h]
  exact congrArg (·, _) (if_pos inBody)

/-- Reading the messages of records that are in the body. -/
lemma readRecords_run (h : f.Quiet) {rs} (inBody : ∀ r ∈ rs, InBody f.disk r.2) :
    readRecords rs f =
      (.ok (rs.map fun r => (r.1, bytesAt f.disk r.2)), f.touched (2 * rs.length)) := by
  induction rs generalizing f with
  | nil => rfl
  | cons r rs ih =>
    obtain ⟨here, later⟩ := List.forall_mem_cons.mp inBody
    have read : readExact r.2.1 r.2.2 (f.passed id) =
        (.ok (bytesAt f.disk r.2), (f.passed id).passed id) :=
      readExact_run (f.quiet_passed.mpr h) here
    have rest := ih (f := (f.passed id).passed id) h later
    rw [readRecords, bind_ok (touch_run h), bind_ok read, bind_ok rest, pure_run,
      Files.touched_passed, Files.touched_passed]
    rfl

/-- Reading fails at a record that is not in the body. -/
lemma readRecords_error (h : f.Quiet) {rs r} (mem : r ∈ rs) (out : ¬ InBody f.disk r.2) :
    ∃ t, readRecords rs f = (.error .io, t) := by
  induction rs generalizing f with
  | nil => cases mem
  | cons r' rs ih =>
    by_cases here : InBody f.disk r'.2
    · have read : readExact r'.2.1 r'.2.2 (f.passed id) =
          (.ok (bytesAt f.disk r'.2), (f.passed id).passed id) :=
        readExact_run (f.quiet_passed.mpr h) here
      have mem : r ∈ rs := by
        cases mem with
        | head => exact absurd here out
        | tail _ mem => exact mem
      obtain ⟨t, rest⟩ := ih (f := (f.passed id).passed id) h mem out
      exact ⟨t, by rw [readRecords, bind_ok (touch_run h), bind_ok read, bind_error rest]⟩
    · have read : readExact r'.2.1 r'.2.2 (f.passed id) = (.error .io, (f.passed id).passed id) := by
        rw [readExact, call_run (f.quiet_passed.mpr h)]
        exact congrArg (·, _) (if_neg here)
      exact ⟨_, by rw [readRecords, bind_ok (touch_run h), bind_error read]⟩

end FileStore

end QuickFix
