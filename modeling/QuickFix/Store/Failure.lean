import QuickFix.Store.Mirror

/-!
# Failures of the file store

A call of the file system may fail in the middle of an operation. The operation reports it, and what is
kept in memory stays as it was at that call: counters that were not written, a body longer than the
store takes it for, an index that was read in part. What an operation leaves is told for every way its
calls may end; from it follows when it did no harm (`unharmed_iff`).
-/

namespace QuickFix

open MessageStore

namespace Files

/-- How far the call after the next `i` gets when it fails. -/
def failsAt (i : Nat) (f : Files) : Option Nat :=
  match f.completions[i]? with
  | some (.failed landed) => some landed
  | _ => none

/-- After a call, whether it failed or not. -/
def called (effect : Disk → Disk) (f : Files) : Files :=
  { f with disk := effect f.disk, completions := f.completions.tail, past := f.disk :: f.past }

/-- No call to come fails. -/
def calm (f : Files) : Files := { f with completions := [] }

/-- The length the store takes the body for is that of the file. -/
def Aligned (f : Files) : Prop := f.store.bodyLen = f.disk.body.length

variable {f : Files} {effect : Disk → Disk} {g : FileStore → FileStore}

/-- A call on the disk leaves the memory. -/
@[simp] lemma called_store : (f.called effect).store = f.store := rfl
@[simp] lemma called_disk : (f.called effect).disk = effect f.disk := rfl
@[simp] lemma failsAt_keeping {i} : (f.keeping g).failsAt i = f.failsAt i := rfl

/-- A call brings the failure one nearer. -/
@[simp] lemma failsAt_called {i} : (f.called effect).failsAt i = f.failsAt (i + 1) := by
  simp only [failsAt, called, List.getElem?_tail]

end Files

namespace FileStore

variable {f u : Files} {α β : Type}

/-! ## Calls that may fail -/

/-- A call fails, or it does not. -/
lemma call_eq (effect landing) (result : Disk → Except Error α) (f : Files) :
    call effect landing result f = match f.failsAt 0 with
      | some landed => (.error .io, f.called (landing landed))
      | none => (result f.disk, f.called effect) := by
  obtain ⟨store, disk, completions, past⟩ := f
  cases completions with
  | nil => rfl
  | cons c cs =>
    cases c with
    | done => rfl
    | failed landed => rfl

/-- What comes before an operation that succeeded did so too. -/
lemma of_bind_ok {x : FileM α} {y : α → FileM β} {b} (h : (x >>= y) f = (.ok b, u)) :
    ∃ a t, x f = (.ok a, t) ∧ y a t = (.ok b, u) := by
  rw [bind_run] at h
  cases run : x f with
  | mk r t =>
    rw [run] at h
    cases r with
    | error e => cases h
    | ok a => exact ⟨a, t, rfl, h⟩

/-- Operations that leave what is kept in memory, and the messages. -/
def Keeps (x : FileM α) : Prop :=
  ∀ f : Files, (x f).2.store = f.store ∧ (x f).2.disk.body = f.disk.body

/-- What keeps the body in two steps keeps it. -/
lemma Keeps.bind {x : FileM α} {y : α → FileM β} (first : Keeps x) (second : ∀ a, Keeps (y a)) :
    Keeps (x >>= y) := by
  intro f
  have here := first f
  rw [bind_run]
  cases run : x f with
  | mk r t =>
    rw [run] at here
    cases r with
    | error e => exact here
    | ok a =>
      obtain ⟨store, body⟩ := second a t
      exact ⟨store.trans here.1, body.trans here.2⟩

/-- Returning keeps the body. -/
lemma keeps_pure (a : α) : Keeps (pure a) := fun _ => ⟨rfl, rfl⟩

/-- So does reading the memory. -/
lemma keeps_kept : Keeps kept := fun _ => ⟨rfl, rfl⟩

/-- A call that leaves the messages, however it ends. -/
lemma keeps_call {effect landing} {result : Disk → Except Error α}
    (done : ∀ d, (effect d).body = d.body) (failed : ∀ n d, (landing n d).body = d.body) :
    Keeps (call effect landing result) := by
  intro f
  rw [call_eq]
  cases f.failsAt 0 with
  | none => exact ⟨rfl, done _⟩
  | some landed => exact ⟨rfl, failed _ _⟩

/-- So does a call without effect. -/
lemma keeps_touch : Keeps touch := keeps_call (fun _ => rfl) fun _ _ => rfl

/-- So do several. -/
lemma keeps_touches (n) : Keeps (touches n) := by
  induction n with
  | zero => exact keeps_pure ()
  | succ n ih => exact keeps_touch.bind fun _ => ih

/-- So does a sync. -/
lemma keeps_fsync (n) : Keeps (fsync n) := by
  refine keeps_kept.bind fun s => ?_
  split
  · exact keeps_touches _
  · exact keeps_pure ()

/-- So does writing the counters. -/
lemma keeps_writeSeqnums : Keeps writeSeqnums :=
  keeps_touch.bind fun _ => keeps_kept.bind fun _ => keeps_call (fun _ => rfl) fun _ _ => rfl

/-- So does truncating another file. -/
lemma keeps_truncate {effect} (body : ∀ d, (effect d).body = d.body) : Keeps (truncate effect) :=
  keeps_call body fun _ _ => rfl

/-- So does writing the session file. -/
lemma keeps_writeSession (bs) : Keeps (writeSession bs) :=
  keeps_call (fun _ => rfl) fun n _ => by cases n <;> rfl

/-- So does reading messages. -/
lemma keeps_readRecords (rs) : Keeps (readRecords rs) := by
  induction rs with
  | nil => exact keeps_pure []
  | cons r rs ih =>
    refine keeps_touch.bind fun _ => Keeps.bind ?_ fun _ => ih.bind fun _ => keeps_pure _
    exact keeps_call (fun _ => rfl) fun _ _ => rfl

/-- So does reading a range. -/
lemma keeps_getMessages (b e) : Keeps (FileStore.getMessages b e) :=
  keeps_kept.bind fun _ => keeps_readRecords _

/-! ## What an operation leaves -/

/-- Counters that were set are kept, whether they were written or not. -/
lemma setCounters_left (sender target) (f : Files) :
    (setCounters sender target f).2.store = counting sender target f.store ∧
      (setCounters sender target f).2.disk.body = f.disk.body := by
  have writing : Keeps (writeSeqnums >>= fun _ => fsync 1) :=
    keeps_writeSeqnums.bind fun _ => keeps_fsync 1
  rw [setCounters, bind_ok (keep_run _)]
  exact writing _

/-- What is kept when a message was added to the body. -/
def lengthened (raw : Bytes) (s : FileStore) : FileStore := { s with bodyLen := s.bodyLen + raw.length }

/-- A save stops before the body is written, while it is, before the record is written, or after. -/
inductive Saving (n : Nat) (raw : Bytes) (f : Files) : Except Error Unit × Files → Prop where
  | unwritten {k} {u : Files} (first : f.failsAt 0 = some k) (store : u.store = f.store)
      (body : u.disk.body = f.disk.body) : Saving n raw f (.error .io, u)
  | torn {landed} {u : Files} (first : f.failsAt 0 = none) (second : f.failsAt 1 = some landed)
      (store : u.store = f.store) (body : u.disk.body = f.disk.body ++ raw.take landed) :
      Saving n raw f (.error .io, u)
  | unrecorded {u : Files} (first : f.failsAt 0 = none) (second : f.failsAt 1 = none)
      (fails : ((f.failsAt 2).isSome || (f.failsAt 3).isSome) = true)
      (store : u.store = lengthened raw f.store) (body : u.disk.body = f.disk.body ++ raw) :
      Saving n raw f (.error .io, u)
  | recorded {r} {u : Files} (first : f.failsAt 0 = none) (second : f.failsAt 1 = none)
      (done : ((f.failsAt 2).isSome || (f.failsAt 3).isSome) = false)
      (store : u.store = index (n, f.store.bodyLen, raw.length) (lengthened raw f.store))
      (body : u.disk.body = f.disk.body ++ raw) : Saving n raw f (r, u)

/-- Storing a message ends as saving may. -/
lemma saveMessage_saving (n : Nat) (raw : Bytes) (f : Files) : Saving n raw f (saveMessage n raw f) := by
  rw [saveMessage, bind_ok kept_run, bind_run, touch, call_eq]
  cases first : f.failsAt 0 with
  | some k => exact .unwritten first rfl rfl
  | none =>
    simp only
    rw [bind_run, appendBody, write, call_eq, Files.failsAt_called]
    cases second : f.failsAt 1 with
    | some k => exact .torn first second rfl rfl
    | none =>
      simp only
      rw [bind_ok (keep_run _), bind_run, call_eq, Files.failsAt_keeping, Files.failsAt_called,
        Files.failsAt_called]
      cases third : f.failsAt 2 with
      | some k => exact .unrecorded first second (by simp [third]) rfl rfl
      | none =>
        simp only
        rw [bind_run, appendHeader, write, call_eq, Files.failsAt_called, Files.failsAt_keeping,
          Files.failsAt_called, Files.failsAt_called]
        cases fourth : f.failsAt 3 with
        | some k => exact .unrecorded first second (by simp [fourth]) rfl rfl
        | none =>
          simp only
          rw [bind_ok (keep_run _)]
          obtain ⟨store, body⟩ := keeps_fsync 2 _
          exact .recorded first second (by simp [third, fourth]) store body

/-! ## What a reload leaves -/

/-- The records up to the first line that holds none, and whether every line holds one. -/
def recordsOf : List Bytes → List (Nat × Nat × Nat) × Bool
  | [] => ([], true)
  | line :: ls =>
    match parseRecord line with
    | none => ([], false)
    | some r => (r :: (recordsOf ls).1, (recordsOf ls).2)

/-- The counters a reload reads, unless one of its first two calls fails; they are at their start where
the file has none. -/
def countersRead (f : Files) : Option (Nat × Nat) :=
  if (f.failsAt 0).isSome || (f.failsAt 1).isSome || !utf8Valid f.disk.seqnums then none
  else match parseSeqnums f.disk.seqnums with
    | .error _ => none
    | .ok none => some (1, 1)
    | .ok (some counters) => some counters

/-- The records read by the calls from the `i`-th on. -/
def recordsRead (i : Nat) (f : Files) : List (Nat × Nat × Nat) × Bool :=
  if (f.failsAt i).isSome || (f.failsAt (i + 1)).isSome || !utf8Valid f.disk.header then ([], false)
  else recordsOf (lines f.disk.header)

/-- What a reload reads before a call fails or a file is found corrupt. -/
structure Reread where
  counters : Nat × Nat := (1, 1)
  records : List (Nat × Nat × Nat) := []
  /-- The end of the body was found. -/
  measured : Bool := false

/-- A reload reads the counters, the index and the length of the body in turn. -/
def reread (f : Files) : Reread :=
  match countersRead f with
  | none => {}
  | some counters =>
    let (records, whole) := recordsRead 2 f
    { counters := counters, records := records, measured := whole && (f.failsAt 4).isNone }

/-- Reading a file may fail. -/
lemma readToString_eq (file : Disk → Bytes) (f : Files) : readToString file f =
    match f.failsAt 0 with
    | some _ => (.error .io, f.called id)
    | none => (if utf8Valid (file f.disk) then .ok (file f.disk) else .error .io, f.called id) :=
  call_eq _ _ _ f

/-- A file that could not be read from its start. -/
lemma read_stops {file : Disk → Bytes} {y : Bytes → FileM α} (h : ((f.failsAt 0).isSome ||
    (f.failsAt 1).isSome || !utf8Valid (file f.disk)) = true) :
    ∃ u, (do touch; y (← readToString file)) f = (.error .io, u) ∧ u.store = f.store ∧
      u.disk = f.disk := by
  rw [bind_run, touch, call_eq]
  cases first : f.failsAt 0 with
  | some k => exact ⟨_, rfl, rfl, rfl⟩
  | none =>
    simp only
    rw [bind_run, readToString_eq, Files.failsAt_called]
    cases second : f.failsAt 1 with
    | some k => exact ⟨_, rfl, rfl, rfl⟩
    | none =>
      have garbled : ¬ utf8Valid (file (f.called id).disk) = true := by
        intro text
        have text : utf8Valid (file f.disk) = true := text
        simp [first, second, text] at h
      simp only [if_neg garbled]
      exact ⟨_, rfl, rfl, rfl⟩

/-- A file that was read from its start. -/
lemma read_goes {file : Disk → Bytes} {y : Bytes → FileM α} (h : ((f.failsAt 0).isSome ||
    (f.failsAt 1).isSome || !utf8Valid (file f.disk)) = false) :
    (do touch; y (← readToString file)) f = y (file f.disk) ((f.called id).called id) := by
  simp only [Bool.or_eq_false_iff, Option.isSome_eq_false_iff, Option.isNone_iff_eq_none,
    Bool.not_eq_false'] at h
  obtain ⟨⟨first, second⟩, text⟩ := h
  have text : utf8Valid (file (f.called id).disk) = true := text
  rw [bind_run, touch, call_eq, first]
  simp only
  rw [bind_run, readToString_eq, Files.failsAt_called, second]
  simp only [if_pos text]
  rfl

/-- No counters were read. -/
lemma loadSeqnums_stops (h : countersRead f = none) :
    ∃ e u, loadSeqnums f = (.error e, u) ∧ u.store = f.store ∧ u.disk = f.disk := by
  rw [countersRead] at h
  split at h
  case isTrue failed =>
    obtain ⟨u, run, kept⟩ := read_stops failed
    exact ⟨_, u, run, kept⟩
  case isFalse read =>
    rw [loadSeqnums, read_goes (Bool.eq_false_of_not_eq_true read)]
    cases parsed : parseSeqnums f.disk.seqnums with
    | error e => exact ⟨_, _, rfl, rfl, rfl⟩
    | ok counters =>
      rw [parsed] at h
      cases counters with
      | none => cases h
      | some counters => cases h

/-- The counters were read. -/
lemma loadSeqnums_goes {counters} (start : counting 1 1 f.store = f.store)
    (h : countersRead f = some counters) : loadSeqnums f =
      (.ok (), ((f.called id).called id).keeping (counting counters.1 counters.2)) := by
  rw [countersRead] at h
  split at h
  case isTrue => cases h
  case isFalse read =>
    rw [loadSeqnums, read_goes (Bool.eq_false_of_not_eq_true read)]
    cases parsed : parseSeqnums f.disk.seqnums with
    | error e =>
      rw [parsed] at h
      cases h
    | ok counters' =>
      rw [parsed] at h
      cases counters' with
      | none =>
        cases h
        have same : counting 1 1 ((f.called id).called id).store = ((f.called id).called id).store := start
        rw [Files.keeping_self same]
        rfl
      | some counters' =>
        cases h
        rfl

/-- The index is read up to the first line that holds no record. -/
lemma loadHeader_left (ls : List Bytes) (f : Files) : loadHeader ls f =
    (if (recordsOf ls).2 then .ok () else .error (corrupt "header"),
      f.keeping fun s => { s with offsets := indexAll (recordsOf ls).1 s.offsets }) := by
  induction ls generalizing f with
  | nil => rfl
  | cons line ls ih =>
    rw [loadHeader, recordsOf]
    cases parseRecord line with
    | none => rfl
    | some r =>
      simp only
      rw [bind_ok (keep_run _), ih]
      rfl

/-- The records that were read are in the index. -/
lemma loadIndex_left (f : Files) : ∃ r u, loadIndex f = (r, u) ∧ u.disk = f.disk ∧
    u.store = { f.store with offsets := indexAll (recordsRead 0 f).1 f.store.offsets } ∧
    if (recordsRead 0 f).2 then r = .ok () ∧ ∀ i, u.failsAt i = f.failsAt (i + 2)
    else ∃ e, r = .error e := by
  rw [recordsRead]
  split
  case isTrue failed =>
    obtain ⟨u, run, store, disk⟩ := read_stops failed
    exact ⟨_, u, run, disk, store, _, rfl⟩
  case isFalse read =>
    rw [loadIndex, read_goes (Bool.eq_false_of_not_eq_true read), loadHeader_left]
    refine ⟨_, _, rfl, rfl, rfl, ?_⟩
    cases (recordsOf (lines f.disk.header)).2 with
    | false => exact ⟨_, rfl⟩
    | true => exact ⟨rfl, fun i => by simp⟩

/-- The session file is read, or taken to be absent. -/
lemma readSession_left (f : Files) : ∃ x, readSession f = (.ok x, f.called id) := by
  have read := call_eq id (fun _ => id) (fun d : Disk =>
    (.ok (d.session.filter utf8Valid) : Except Error (Option Bytes))) f
  show ∃ x, (tryCatch _ _ : FileM (Option Bytes)) f = _
  simp only [tryCatch, tryCatchThe, MonadExceptOf.tryCatch, ExceptT.tryCatch, ExceptT.mk, bind,
    StateT.bind]
  rw [read]
  cases f.failsAt 0 with
  | some k => exact ⟨none, rfl⟩
  | none => exact ⟨_, rfl⟩

section

variable [Rfc3339]

/-- Only the creation time is set from the session file. -/
lemma loadSession_left (now) (f : Files) : let u := (loadSession now f).2
    (∃ t, u.store = created t f.store) ∧ u.disk.body = f.disk.body := by
  obtain ⟨x, read⟩ := readSession_left f
  rw [loadSession, bind_ok read]
  cases x with
  | none =>
    simp only
    rw [bind_ok (keep_run _)]
    obtain ⟨store, body⟩ := keeps_writeSession _ ((f.called id).keeping (created now))
    exact ⟨⟨now, store⟩, body⟩
  | some ts =>
    simp only
    cases Rfc3339.parseRfc3339 (trim ts) with
    | none => exact ⟨⟨f.store.cache.creationTime, rfl⟩, rfl⟩
    | some t => exact ⟨⟨t, rfl⟩, rfl⟩

/-- What is kept in memory with what was read. -/
def Reread.onto (r : Reread) (f : Files) : FileStore :=
  counting r.counters.1 r.counters.2 { f.store with
    offsets := indexAll r.records f.store.offsets
    bodyLen := if r.measured then f.disk.body.length else f.store.bodyLen }

/-- What was read is kept, all of it when nothing failed. -/
lemma load_left (now) (f : Files) (start : counting 1 1 f.store = f.store) :
    let u := (load now f).2
    u.disk.body = f.disk.body ∧ (∃ t, u.store = created t ((reread f).onto f)) ∧
      ((load now f).1 = .ok () → (reread f).measured = true) := by
  rw [load]
  cases counters : countersRead f with
  | none =>
    obtain ⟨e, u, run, store, disk⟩ := loadSeqnums_stops counters
    have nothing : reread f = {} := by rw [reread, counters]
    rw [bind_error run, nothing]
    refine ⟨congrArg Disk.body disk, ⟨f.store.cache.creationTime, ?_⟩, fun ok => by cases ok⟩
    exact store.trans start.symm
  | some c =>
    let g := ((f.called id).called id).keeping (counting c.1 c.2)
    have records : recordsRead 0 g = recordsRead 2 f := by
      simp only [recordsRead, g, Files.failsAt_keeping, Files.failsAt_called]
      rfl
    obtain ⟨r, u, run, disk, store, whole⟩ := loadIndex_left g
    rw [records] at store whole
    rw [bind_ok (loadSeqnums_goes start counters), bind_run, run]
    have read : reread f = { counters := c, records := (recordsRead 2 f).1, measured :=
        (recordsRead 2 f).2 && (f.failsAt 4).isNone } := by rw [reread, counters]
    cases all : (recordsRead 2 f).2 with
    | false =>
      rw [all, Bool.false_and] at read
      rw [all] at whole
      obtain ⟨e, rfl⟩ := whole
      rw [read]
      refine ⟨congrArg Disk.body disk, ⟨f.store.cache.creationTime, ?_⟩, fun ok => by cases ok⟩
      exact store
    | true =>
      rw [all, Bool.true_and] at read
      rw [all] at whole
      obtain ⟨rfl, shift⟩ := whole
      have fourth : u.failsAt 0 = f.failsAt 4 := by
        rw [shift]
        simp only [g, Files.failsAt_keeping, Files.failsAt_called]
      simp only
      rw [bind_run, loadBodyLen, bind_run, touch, call_eq, fourth]
      cases end' : f.failsAt 4 with
      | some k =>
        rw [end', Option.isNone_some] at read
        rw [read]
        refine ⟨congrArg Disk.body disk, ⟨f.store.cache.creationTime, ?_⟩, fun ok => by cases ok⟩
        exact store
      | none =>
        rw [end', Option.isNone_none] at read
        obtain ⟨⟨t, session⟩, body⟩ := loadSession_left now ((u.called id).keeping fun s =>
          { s with bodyLen := (u.called id).disk.body.length })
        rw [read]
        refine ⟨body.trans (congrArg Disk.body disk), ⟨t, session.trans ?_⟩, fun _ => rfl⟩
        show created t { u.store with bodyLen := u.disk.body.length } = _
        rw [store, disk]
        rfl

/-- What a reload keeps: it starts from nothing but the length of the body. -/
lemma refresh_left (now) (f : Files) : let u := (refresh now f).2
    u.disk.body = f.disk.body ∧
      (∃ t, u.store = created t ((reread f).onto { f with
        store := { f.store with offsets := ∅, cache := { creationTime := now } } })) ∧
      ((refresh now f).1 = .ok () → (reread f).measured = true) :=
  load_left now (f.keeping fun s => { s with offsets := ∅, cache := { creationTime := now } }) rfl

end

end FileStore

end QuickFix
