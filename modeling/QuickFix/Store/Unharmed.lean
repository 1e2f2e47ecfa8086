import QuickFix.Store.Failure

/-!
# What a failed operation does to a store

A store should show after a failed operation what it showed before, and messages saved later should be
read back. An operation that fails does that exactly when it spares the store (`failed_unharmed`): no
counter was set to another value, no part of a message is left at the end of the body, the message that
could not be flushed was stored before, a reload had read what the store held.
-/

namespace QuickFix

open MessageStore

namespace FileStore

/-! ## What is read -/

instance (d : Disk) (r : Nat × Nat) : Decidable (InBody d r) := inferInstanceAs (Decidable (_ ∨ _))

/-- What reading a record comes to. -/
def readAt (d : Disk) (r : Nat × Nat) : Except Error Bytes :=
  if InBody d r then .ok (bytesAt d r) else .error .io

/-- What is read under each number. -/
def shown (d : Disk) (offsets : SeqMap (Nat × Nat)) : SeqMap (Except Error Bytes) :=
  offsets.map fun _ r => readAt d r

/-- A message under its number. -/
def numbered (m : Nat × Except Error Bytes) : Except Error (Nat × Bytes) := m.2.map (m.1, ·)

variable {f u : Files} {d : Disk} {offsets : SeqMap (Nat × Nat)}

/-- The message that a number shows. -/
lemma shown_get (d : Disk) (offsets : SeqMap (Nat × Nat)) (k : Nat) :
    (shown d offsets)[k]? = offsets[k]?.map (readAt d) := by
  rw [shown, Std.ExtTreeMap.getElem?_map]

/-- Reading stops at the first record that is not in the body. -/
lemma readRecords_shown (h : f.Quiet) (rs : List (Nat × Nat × Nat)) :
    (readRecords rs f).1 = rs.mapM fun r => numbered (r.1, readAt f.disk r.2) := by
  induction rs generalizing f with
  | nil => rfl
  | cons r rs ih =>
    have rest := ih (f := (f.passed id).passed id) h
    have read : readExact r.2.1 r.2.2 (f.passed id) = (readAt f.disk r.2, (f.passed id).passed id) :=
      call_run (f.quiet_passed.mpr h) _ _ _
    rw [readRecords, bind_ok (touch_run h), bind_run, read, List.mapM_cons]
    cases found : readAt f.disk r.2 with
    | error e => rfl
    | ok raw =>
      simp only
      rw [bind_run]
      have same : ((f.passed id).passed id).disk = f.disk := rfl
      rw [same] at rest
      cases run : readRecords rs ((f.passed id).passed id) with
      | mk result t =>
        rw [run] at rest
        rw [← rest]
        cases result with
        | error e => rfl
        | ok ms => rfl

/-- The messages of a range are what is shown of it. -/
lemma getMessages_calm (b e) (f : Files) : (FileStore.getMessages b e f.calm).1 =
    (MemoryStore.range (shown f.disk f.store.offsets) b e).mapM numbered := by
  have quiet : f.calm.Quiet := rfl
  rw [FileStore.getMessages, bind_ok kept_run, readRecords_shown quiet, shown, MemoryStore.range_map,
    List.mapM_map]
  rfl

/-- Every range reads the same exactly when every number does. -/
lemma reads_same : (∀ b e, b ≤ e → (FileStore.getMessages b e u.calm).1 =
      (FileStore.getMessages b e f.calm).1) ↔
    shown u.disk u.store.offsets = shown f.disk f.store.offsets := by
  simp only [getMessages_calm]
  constructor
  case mp =>
    intro same
    apply Std.ExtTreeMap.ext_getElem?
    intro k
    have here := same k k le_rfl
    rw [MemoryStore.range_self, MemoryStore.range_self] at here
    cases left : (shown u.disk u.store.offsets)[k]? with
    | none =>
      cases right : (shown f.disk f.store.offsets)[k]? with
      | none => rfl
      | some y =>
        rw [left, right] at here
        cases y <;> cases here
    | some x =>
      cases right : (shown f.disk f.store.offsets)[k]? with
      | none =>
        rw [left, right] at here
        cases x <;> cases here
      | some y =>
        rw [left, right] at here
        cases x <;> cases y <;> cases here <;> rfl
  case mpr =>
    intro same b e _
    rw [same]

/-- Only the body matters for what is read. -/
lemma shown_congr {d' : Disk} (body : d'.body = d.body) : shown d' offsets = shown d offsets := by
  obtain ⟨bytes, header, seqnums, session⟩ := d
  obtain ⟨bytes', header', seqnums', session'⟩ := d'
  cases body
  rfl

/-! ## More bytes in the body -/

/-- No record that ran past the end of the body fits in it with more bytes. -/
def Past (d : Disk) (offsets : SeqMap (Nat × Nat)) (added : Bytes) : Prop :=
  ∀ (k : Nat) r, offsets[k]? = some r → InBody (withBody added d) r → InBody d r

/-- A record reads as before exactly when it was not completed. -/
lemma readAt_withBody (d : Disk) (added : Bytes) (r : Nat × Nat) :
    readAt (withBody added d) r = readAt d r ↔ (InBody (withBody added d) r → InBody d r) := by
  have longer : (withBody added d).body.length = d.body.length + added.length := by simp [withBody]
  by_cases here : InBody d r
  · have there : InBody (withBody added d) r := by
      simp only [InBody, longer] at here ⊢
      omega
    have same : bytesAt (withBody added d) r = bytesAt d r := by
      rcases here with none | within
      · simp [bytesAt, none]
      · exact bytesAt_append within added
    refine iff_of_true ?_ fun _ => here
    rw [readAt, readAt, if_pos here, if_pos there, same]
  · by_cases there : InBody (withBody added d) r
    · refine iff_of_false ?_ fun completed => here (completed there)
      rw [readAt, readAt, if_neg here, if_pos there]
      intro same
      cases same
    · refine iff_of_true ?_ fun completed => absurd completed there
      rw [readAt, readAt, if_neg here, if_neg there]

/-- Every record reads as before exactly when none was completed. -/
lemma shown_withBody (d : Disk) (offsets : SeqMap (Nat × Nat)) (added : Bytes) :
    shown (withBody added d) offsets = shown d offsets ↔ Past d offsets added := by
  constructor
  case mp =>
    intro same k r entry
    have here := congrArg (fun m : SeqMap _ => m[k]?) same
    simp only [shown_get, entry, Option.map_some, Option.some.injEq] at here
    exact (readAt_withBody d added r).mp here
  case mpr =>
    intro past
    apply Std.ExtTreeMap.ext_getElem?
    intro k
    rw [shown_get, shown_get]
    cases entry : offsets[k]? with
    | none => rfl
    | some r => exact congrArg some ((readAt_withBody d added r).mpr (past k r entry))

/-- A message at the end of the body reads as what was read before under its number. -/
lemma shown_insert (d : Disk) (offsets : SeqMap (Nat × Nat)) (n : Nat) (raw : Bytes) :
    shown (withBody raw d) (offsets.insert n (d.body.length, raw.length)) = shown d offsets ↔
      Past d (offsets.erase n) raw ∧ (shown d offsets)[n]? = some (.ok raw) := by
  have whole : readAt (withBody raw d) (d.body.length, raw.length) = .ok raw := by
    have inBody : InBody (withBody raw d) (d.body.length, raw.length) := by simp [InBody, withBody]
    rw [readAt, if_pos inBody, bytesAt_end]
  constructor
  case mp =>
    intro same
    have at' (k : Nat) := congrArg (fun m : SeqMap _ => m[k]?) same
    simp only [shown_get, SeqMap.get_insert] at at'
    constructor
    · intro k r entry
      rw [SeqMap.get_erase] at entry
      split at entry
      case isTrue => cases entry
      case isFalse other =>
        have here := at' k
        rw [if_neg other, entry] at here
        exact (readAt_withBody d raw r).mp (Option.some.inj here)
    · have here := at' n
      rw [if_pos rfl, Option.map_some, whole] at here
      rw [shown_get]
      exact here.symm
  case mpr =>
    rintro ⟨past, stored⟩
    apply Std.ExtTreeMap.ext_getElem?
    intro k
    rw [shown_get, shown_get, SeqMap.get_insert]
    split
    case isTrue same =>
      rw [← same, ← shown_get, stored, Option.map_some, whole]
    case isFalse other =>
      cases entry : offsets[k]? with
      | none => rfl
      | some r =>
        refine congrArg some ((readAt_withBody d raw r).mpr (past k r ?_))
        rw [SeqMap.get_erase, if_neg other, entry]

end FileStore

/-! ## The length of the body -/

open FileStore

namespace Files

variable {f u : Files}

/-- Only the length of the body matters. -/
lemma Aligned.congr (h : f.Aligned) (length : u.store.bodyLen = f.store.bodyLen)
    (body : u.disk.body = f.disk.body) : u.Aligned := by
  rw [Aligned, length, body]
  exact h

/-- Setting the counters keeps the body aligned. -/
lemma Aligned.setCounters (h : f.Aligned) (sender target) :
    Aligned (FileStore.setCounters sender target f).2 := by
  obtain ⟨store, body⟩ := setCounters_left sender target f
  exact h.congr (by rw [store]; rfl) body

/-- Counting what was sent keeps it aligned. -/
lemma Aligned.incrSender (h : f.Aligned) : Aligned (FileStore.incrNextSenderSeqNum f).2 := by
  rw [incrNextSenderSeqNum_run]
  exact h.setCounters _ _

/-- Counting what came keeps it aligned. -/
lemma Aligned.incrTarget (h : f.Aligned) : Aligned (FileStore.incrNextTargetSeqNum f).2 := by
  rw [incrNextTargetSeqNum_run]
  exact h.setCounters _ _

/-- A message that was saved is at the end of the body. -/
lemma Aligned.save (h : f.Aligned) {n raw} (ok : (FileStore.saveMessage n raw f).1 = .ok ()) :
    Aligned (FileStore.saveMessage n raw f).2 ∧
      (FileStore.getMessages n n (FileStore.saveMessage n raw f).2.calm).1 = .ok [(n, raw)] := by
  have saving := saveMessage_saving n raw f
  cases run : FileStore.saveMessage n raw f with
  | mk r u =>
    rw [run] at ok saving
    cases saving with
    | unwritten => cases ok
    | torn => cases ok
    | unrecorded => cases ok
    | recorded _ _ _ store body =>
      constructor
      · show u.store.bodyLen = u.disk.body.length
        rw [store, body, List.length_append]
        exact congrArg (· + raw.length) h
      · have entry : u.store.offsets[n]? = some (f.disk.body.length, raw.length) := by
          rw [store, ← h]
          exact SeqMap.get_insert.trans (if_pos rfl)
        have read : readAt u.disk (f.disk.body.length, raw.length) = .ok raw := by
          have inBody : InBody u.disk (f.disk.body.length, raw.length) := by
            simp [InBody, body]
          rw [readAt, if_pos inBody]
          simp [bytesAt, body]
        rw [getMessages_calm, MemoryStore.range_self, shown_get, entry, Option.map_some, read]
        rfl

end Files

/-! ## Operations that succeed -/

section

variable [Rfc3339]

/-- What an operation reports. -/
def StoreOp.outcome : StoreOp → Files → Except Error Unit
  | .incrSender, f => (MessageStore.incrNextSenderSeqNum f).1
  | .incrTarget, f => (MessageStore.incrNextTargetSeqNum f).1
  | .setSender n, f => (MessageStore.setNextSenderSeqNum n f).1
  | .setTarget n, f => (MessageStore.setNextTargetSeqNum n f).1
  | .save n raw, f => (MessageStore.saveMessage n raw f).1
  | .saveAndIncr n raw, f => (saveMessageAndIncr n raw f).1
  | .get b e, f => (MessageStore.getMessages b e f).1.map fun _ => ()
  | .refresh now, f => (MessageStore.refresh now f).1
  | .reset now, f => (MessageStore.reset now f).1
  | .reopen sync now, f => (openWithSync sync now f).1

/-- Each of the operations succeeds. -/
def Files.Succeeds (f : Files) : List StoreOp → Prop
  | [] => True
  | op :: ops => op.outcome f = .ok () ∧ (op.onFiles f).Succeeds ops

namespace Files

variable {f : Files}

/-- A reload that succeeds finds the end of the body. -/
lemma aligned_load {now} (start : counting 1 1 f.store = f.store) (ok : (load now f).1 = .ok ()) :
    Aligned (load now f).2 := by
  obtain ⟨body, ⟨t, store⟩, measured⟩ := load_left now f start
  show (load now f).2.store.bodyLen = _
  rw [store, body]
  exact if_pos (measured ok)

/-- A reset that succeeds leaves an empty body. -/
lemma aligned_reset {now} (ok : (FileStore.reset now f).1 = .ok ()) :
    Aligned (FileStore.reset now f).2 := by
  have rest : Keeps (do
      truncate fun d => { d with header := [] }
      truncate fun d => { d with seqnums := [] }
      writeSession (Rfc3339.toRfc3339 (← FileStore.kept).cache.creationTime)
      writeSeqnums) := by
    refine Keeps.bind (keeps_truncate ?_) fun _ => Keeps.bind (keeps_truncate ?_) fun _ =>
      keeps_kept.bind fun _ => (keeps_writeSession _).bind fun _ => keeps_writeSeqnums
    · exact fun _ => rfl
    · exact fun _ => rfl
  rw [FileStore.reset, bind_ok (keep_run _), bind_run, truncate, write, call_eq,
    Files.failsAt_keeping] at ok ⊢
  cases first : f.failsAt 0 with
  | some k =>
    rw [first] at ok
    cases ok
  | none =>
    obtain ⟨store, body⟩ := rest ((f.keeping fun s => { s with
      cache := (MessageStore.reset now s.cache).2
      offsets := ∅
      bodyLen := 0 }).called fun d => { d with body := [] })
    simp only
    show FileStore.bodyLen _ = List.length _
    rw [body, store]
    rfl

/-- Whatever succeeds leaves the length of the body right. -/
lemma Aligned.onFiles {op : StoreOp} (h : f.Aligned) (ok : op.outcome f = .ok ()) :
    (op.onFiles f).Aligned := by
  cases op with
  | incrSender => exact h.incrSender
  | incrTarget => exact h.incrTarget
  | setSender n => exact h.setCounters n f.store.cache.nextTarget
  | setTarget n => exact h.setCounters f.store.cache.nextSender n
  | save n raw => exact (h.save ok).1
  | saveAndIncr n raw =>
    simp only [StoreOp.outcome, StoreOp.onFiles, saveMessageAndIncr] at ok ⊢
    cases run : MessageStore.saveMessage n raw f with
    | mk r u =>
      rw [run] at ok
      cases r with
      | error e => cases ok
      | ok =>
        have saved : Aligned (FileStore.saveMessage n raw f).2 := (h.save (congrArg Prod.fst run)).1
        have same : (FileStore.saveMessage n raw f).2 = u := congrArg Prod.snd run
        rw [same] at saved
        exact saved.incrSender
  | get b e =>
    obtain ⟨store, body⟩ := keeps_getMessages b e f
    exact h.congr (congrArg FileStore.bodyLen store) body
  | refresh now => exact aligned_load rfl ok
  | reset now => exact aligned_reset ok
  | reopen sync now =>
    cases run : openWithSync sync now f with
    | mk r u =>
      have ok : r = .ok () := (congrArg Prod.fst run).symm.trans ok
      subst ok
      show Aligned (openWithSync sync now f).2
      rw [run]
      obtain ⟨-, t1, -, run⟩ := of_bind_ok run
      obtain ⟨-, t2, -, run⟩ := of_bind_ok run
      obtain ⟨-, t3, -, run⟩ := of_bind_ok run
      obtain ⟨-, t4, -, run⟩ := of_bind_ok run
      rw [bind_ok (keep_run _)] at run
      have aligned := aligned_load (f := t4.keeping fun _ =>
        { cache := { creationTime := now }, sync := sync }) rfl (congrArg Prod.fst run)
      rw [run] at aligned
      exact aligned

end Files

/-! ## Harm -/

namespace Files

/-- A message is read back that is saved later, after whatever else succeeds. -/
def ReadsSaved (u : Files) : Prop := ∀ completions ops n raw,
  let v := { u with completions := completions }
  v.Succeeds (ops ++ [.save n raw]) →
    (MessageStore.getMessages n n (v.after (ops ++ [.save n raw])).calm).1 = .ok [(n, raw)]

/-- The store shows what it showed before, and can be used. -/
structure Unharmed (f u : Files) : Prop where
  nextSender : nextSenderSeqNum u = nextSenderSeqNum f
  nextTarget : nextTargetSeqNum u = nextTargetSeqNum f
  messages : ∀ b e, b ≤ e →
    (MessageStore.getMessages b e u.calm).1 = (MessageStore.getMessages b e f.calm).1
  readsSaved : u.ReadsSaved

variable {f u : Files}

omit [Rfc3339] in
/-- What is saved next is read back whatever it is only if the length of the body is right. -/
lemma aligned_of_read (read : ∀ raw : Bytes,
    readAt (withBody raw f.disk) (f.store.bodyLen, raw.length) = .ok raw) : f.Aligned := by
  have saved (raw) : InBody (withBody raw f.disk) (f.store.bodyLen, raw.length) ∧
      bytesAt (withBody raw f.disk) (f.store.bodyLen, raw.length) = raw := by
    have here := read raw
    rw [readAt] at here
    split at here
    case isTrue inBody => exact ⟨inBody, Except.ok.inj here⟩
    case isFalse => cases here
  have le : f.store.bodyLen ≤ f.disk.body.length := by
    have inBody := (saved [0]).1
    simp only [InBody, withBody, List.length_append, List.length_singleton] at inBody
    omega
  rcases le.eq_or_lt with aligned | lt
  · exact aligned
  · have same := (saved [f.disk.body[f.store.bodyLen] + 1]).2
    simp only [bytesAt, withBody] at same
    rw [List.drop_append_of_le_length le, List.drop_eq_getElem_cons lt] at same
    have next := (List.cons.inj same).1
    simp at next

/-- Messages that are saved later are read back exactly when the length of the body is right. -/
lemma readsSaved_iff : u.ReadsSaved ↔ u.Aligned := by
  constructor
  case mp =>
    intro reads
    apply aligned_of_read
    intro raw
    have quiet : Files.Quiet { u with completions := [] } := rfl
    have here := reads [] [] 0 raw ⟨congrArg Prod.fst (saveMessage_run quiet 0 raw), trivial⟩
    have left : Files.after [.save 0 raw] { u with completions := [] } = _ :=
      congrArg Prod.snd (saveMessage_run quiet 0 raw)
    change (FileStore.getMessages 0 0 _).1 = _ at here
    rw [List.nil_append, left, getMessages_calm, MemoryStore.range_self, shown_get] at here
    have entry : (u.store.offsets.insert 0 (u.store.bodyLen, raw.length))[0]? =
        some (u.store.bodyLen, raw.length) := SeqMap.get_insert.trans (if_pos rfl)
    change List.mapM numbered (((u.store.offsets.insert 0 (u.store.bodyLen, raw.length))[0]?.map
      (readAt (withBody raw u.disk))).map (0, ·)).toList = _ at here
    rw [entry] at here
    cases read : readAt (withBody raw u.disk) (u.store.bodyLen, raw.length) with
    | error e =>
      rw [Option.map_some, read] at here
      cases here
    | ok raw' =>
      rw [Option.map_some, read] at here
      cases here
      rfl
  case mpr =>
    intro aligned completions ops n raw v
    have aligned : v.Aligned := aligned
    clear_value v
    induction ops generalizing v with
    | nil =>
      rintro ⟨ok, -⟩
      exact (aligned.save ok).2
    | cons op ops ih =>
      rintro ⟨ok, later⟩
      exact ih _ (aligned.onFiles ok) later

/-- What a failed operation must leave. -/
lemma unharmed_iff : Unharmed f u ↔
    (u.store.cache.nextSender = f.store.cache.nextSender ∧
      u.store.cache.nextTarget = f.store.cache.nextTarget) ∧
      shown u.disk u.store.offsets = shown f.disk f.store.offsets ∧ u.Aligned := by
  constructor
  case mp =>
    rintro ⟨sender, target, messages, reads⟩
    exact ⟨⟨sender, target⟩, reads_same.mp messages, readsSaved_iff.mp reads⟩
  case mpr =>
    rintro ⟨⟨sender, target⟩, messages, aligned⟩
    exact ⟨sender, target, reads_same.mpr messages, readsSaved_iff.mpr aligned⟩

end Files

/-! ## Operations that fail -/

namespace StoreOp

/-- Saving a message, counting, and reloading. -/
def Retriable : StoreOp → Prop
  | .incrSender | .incrTarget | .setSender _ | .setTarget _ | .save .. | .refresh _ => True
  | _ => False

omit [Rfc3339] in
/-- When an operation that fails does no harm. A counter was set to the value it had. A message was not
begun, or nothing of it got into the body; or it is in the body, and not in the index; or it is in both, and
was stored before. A reload had read what the store held, and found the end of the body if it was not
known. -/
def Spares (f : Files) : StoreOp → Prop
  | .setSender n => n = f.store.cache.nextSender ∧ f.Aligned
  | .setTarget n => n = f.store.cache.nextTarget ∧ f.Aligned
  | .save n raw =>
    match f.failsAt 0, f.failsAt 1 with
    | some _, _ => f.Aligned
    | none, some landed =>
      f.store.bodyLen = f.disk.body.length + (raw.take landed).length ∧
        Past f.disk f.store.offsets (raw.take landed)
    | none, none =>
      f.Aligned ∧
        if (f.failsAt 2).isSome || (f.failsAt 3).isSome then Past f.disk f.store.offsets raw
        else Past f.disk (f.store.offsets.erase n) raw ∧
          (shown f.disk f.store.offsets)[n]? = some (.ok raw)
  | .refresh _ =>
    (reread f).counters = (f.store.cache.nextSender, f.store.cache.nextTarget) ∧
      shown f.disk (indexAll (reread f).records ∅) = shown f.disk f.store.offsets ∧
      ((reread f).measured = true ∨ f.Aligned)
  | _ => False

variable {f : Files}

/-- A counter that was set to another value is left so. -/
lemma unharmed_setCounters (sender target) :
    Files.Unharmed f (FileStore.setCounters sender target f).2 ↔
      (sender = f.store.cache.nextSender ∧ target = f.store.cache.nextTarget) ∧ f.Aligned := by
  obtain ⟨store, body⟩ := setCounters_left sender target f
  rw [Files.unharmed_iff, store, shown_congr body, Files.Aligned, store, body]
  refine and_congr Iff.rfl ?_
  exact and_iff_right rfl

/-- A message that was saved, wholly or in part. -/
lemma unharmed_saveMessage (n raw) :
    Files.Unharmed f (FileStore.saveMessage n raw f).2 ↔ (StoreOp.save n raw).Spares f := by
  have longer (added : Bytes) : (withBody added f.disk).body.length =
      f.disk.body.length + added.length := List.length_append
  have saving := saveMessage_saving n raw f
  cases run : FileStore.saveMessage n raw f with
  | mk r u =>
    rw [run] at saving
    rw [Files.unharmed_iff]
    cases saving with
    | unwritten first store body =>
      simp only [Spares, first]
      rw [store, shown_congr body, Files.Aligned, store, body]
      exact (and_iff_right ⟨rfl, rfl⟩).trans (and_iff_right rfl)
    | @torn landed _ first second store body =>
      simp only [Spares, first, second]
      have body : u.disk.body = (withBody (raw.take landed) f.disk).body := body
      rw [store, shown_congr body, shown_withBody, Files.Aligned, store, body, longer]
      exact (and_iff_right ⟨rfl, rfl⟩).trans and_comm
    | unrecorded first second fails store body =>
      simp only [Spares, first, second, fails, if_true]
      have body : u.disk.body = (withBody raw f.disk).body := body
      have aligned : u.Aligned ↔ f.Aligned := by
        rw [Files.Aligned, store, body, longer]
        exact Nat.add_right_cancel_iff
      rw [aligned, store, shown_congr body]
      refine (and_iff_right ⟨rfl, rfl⟩).trans (and_comm.trans (and_congr_right fun _ => ?_))
      exact shown_withBody f.disk f.store.offsets raw
    | recorded first second done store body =>
      simp only [Spares, first, second, done, Bool.false_eq_true, if_false]
      have body : u.disk.body = (withBody raw f.disk).body := body
      have aligned : u.Aligned ↔ f.Aligned := by
        rw [Files.Aligned, store, body, longer]
        exact Nat.add_right_cancel_iff
      rw [aligned, store, shown_congr body]
      refine (and_iff_right ⟨rfl, rfl⟩).trans (and_comm.trans (and_congr_right fun same => ?_))
      have same : f.store.bodyLen = f.disk.body.length := same
      rw [same]
      exact shown_insert f.disk f.store.offsets n raw

/-- A reload shows what it read. -/
lemma unharmed_refresh (now) :
    Files.Unharmed f (FileStore.refresh now f).2 ↔ (StoreOp.refresh now).Spares f := by
  obtain ⟨body, ⟨t, store⟩, -⟩ := refresh_left now f
  rw [Files.unharmed_iff, store, shown_congr body, Spares, Files.Aligned, store, body]
  have counters : (reread f).counters.1 = f.store.cache.nextSender ∧
      (reread f).counters.2 = f.store.cache.nextTarget ↔
        (reread f).counters = (f.store.cache.nextSender, f.store.cache.nextTarget) := by
    rw [Prod.ext_iff]
  refine and_congr counters (and_congr Iff.rfl ?_)
  change (if (reread f).measured then f.disk.body.length else f.store.bodyLen) =
    f.disk.body.length ↔ (reread f).measured = true ∨ f.store.bodyLen = f.disk.body.length
  cases (reread f).measured with
  | true => exact iff_of_true rfl (.inl rfl)
  | false => exact (or_iff_right Bool.false_ne_true).symm

/-- A store is unharmed by an operation that fails exactly when it is spared. -/
theorem failed_unharmed {op : StoreOp} {e} (retriable : op.Retriable)
    (failed : op.outcome f = .error e) : Files.Unharmed f (op.onFiles f) ↔ op.Spares f := by
  cases op with
  | incrSender =>
    have run : onFiles .incrSender f = _ := congrArg Prod.snd incrNextSenderSeqNum_run
    rw [run, unharmed_setCounters]
    refine iff_of_false ?_ not_false
    rintro ⟨⟨same, -⟩, -⟩
    exact incremented_ne _ same
  | incrTarget =>
    have run : onFiles .incrTarget f = _ := congrArg Prod.snd incrNextTargetSeqNum_run
    rw [run, unharmed_setCounters]
    refine iff_of_false ?_ not_false
    rintro ⟨⟨-, same⟩, -⟩
    exact incremented_ne _ same
  | setSender n =>
    refine (unharmed_setCounters n f.store.cache.nextTarget).trans (and_congr_left fun _ => ?_)
    exact and_iff_left rfl
  | setTarget n =>
    refine (unharmed_setCounters f.store.cache.nextSender n).trans (and_congr_left fun _ => ?_)
    exact and_iff_right rfl
  | save n raw => exact unharmed_saveMessage n raw
  | refresh now => exact unharmed_refresh now
  | saveAndIncr | get | reset | reopen => exact absurd retriable not_false

end StoreOp

end

/-- A store with one message, whose next calls end so. -/
def oneStored (completions : List Completion) : Files :=
  letI := epochText
  { (openWithSync false 0 emptyFiles).2.after [.saveAndIncr 1 (ascii "one")] with
    completions := completions }

/-- A save that fails before anything is written does no harm. -/
theorem failed_unharmed_seek :
    letI := epochText
    Files.Unharmed (oneStored [.failed 0])
      ((StoreOp.save 2 (ascii "two")).onFiles (oneStored [.failed 0])) :=
  let := epochText
  have failed : (StoreOp.save 2 (ascii "two")).outcome (oneStored [.failed 0]) = .error .io := by
    decide +kernel
  have aligned : (oneStored [.failed 0]).store.bodyLen = (oneStored [.failed 0]).disk.body.length := by
    decide +kernel
  have retriable : (StoreOp.save 2 (ascii "two")).Retriable := trivial
  (StoreOp.failed_unharmed retriable failed).mpr aligned

/-- A save that fails with one byte in the body makes a later message read back with that byte. -/
theorem not_unharmed_torn :
    letI := epochText
    (StoreOp.save 2 (ascii "two")).outcome (oneStored [.done, .failed 1]) = .error .io ∧
      ¬ Files.Unharmed (oneStored [.done, .failed 1])
        ((StoreOp.save 2 (ascii "two")).onFiles (oneStored [.done, .failed 1])) := by
  let := epochText
  refine ⟨by decide +kernel, fun unharmed => ?_⟩
  have later := unharmed.readsSaved [] [] 2 (ascii "new") ⟨by decide +kernel, trivial⟩
  have read : (MessageStore.getMessages 2 2 (Files.calm (Files.after ([] ++ [.save 2 (ascii "new")])
      { (StoreOp.save 2 (ascii "two")).onFiles (oneStored [.done, .failed 1]) with
        completions := [] }))).1 = .ok [(2, ascii "tne")] := by
    decide +kernel
  have same := read.symm.trans later
  revert same
  decide

end QuickFix
