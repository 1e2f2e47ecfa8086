import QuickFix.Refinement.Restarts
import QuickFix.Store.Crash

/-!
# Crashes of a session

The process may die at any call of the file system. What its files then hold, a session on them had in its
store before, unless a reset was under way (`crashes_recover`).
-/

namespace QuickFix

set_option linter.unusedSectionVars false

open MessageStore FileStore

/-! ## A memory store and its history -/

/-- A store in memory that remembers what it held, and whether it was ever reset. -/
structure Recorded where
  now : MemoryStore
  past : List MemoryStore
  wiped : Bool := false

namespace Recorded

/-- The store after an operation. -/
def after {α : Type} (r : Recorded) (res : Except Error α × MemoryStore) : Except Error α × Recorded :=
  (res.1, { r with now := res.2, past := res.2 :: r.past })

instance : MessageStore Recorded where
  nextSenderSeqNum r := nextSenderSeqNum r.now
  nextTargetSeqNum r := nextTargetSeqNum r.now
  creationTime r := MessageStore.creationTime r.now
  incrNextSenderSeqNum r := r.after (incrNextSenderSeqNum r.now)
  incrNextTargetSeqNum r := r.after (incrNextTargetSeqNum r.now)
  setNextSenderSeqNum n r := r.after (setNextSenderSeqNum n r.now)
  setNextTargetSeqNum n r := r.after (setNextTargetSeqNum n r.now)
  saveMessage n raw r := r.after (saveMessage n raw r.now)
  getMessages b e r := r.after (getMessages b e r.now)
  refresh now r := r.after (refresh now r.now)
  reset now r := { r with wiped := true }.after (reset now r.now)

end Recorded

/-! ## What the files hold meanwhile -/

section Files

variable [Rfc3339] {f u : Files} {r : Recorded} {old : List Disk}

/-- A disk that recovers one of some states recovers one of more. -/
lemma Recovers.mono {d : Disk} {ms ms' : List MemoryStore} (h : Recovers d ms) (sub : ms ⊆ ms') :
    Recovers d ms' := by
  intro store sync now
  obtain ⟨done, m, mem, shown⟩ := h store sync now
  exact ⟨done, m, sub mem, shown⟩

/-- The disk is one of those before, or shows what the store in memory held, or a reset has emptied it. -/
def Held (old : List Disk) (r : Recorded) (d : Disk) : Prop :=
  d ∈ old ∨ Recovers d r.past ∨ r.wiped = true ∧ d.body = []

/-- The files show what is in memory, and all they held is held in memory. -/
structure Remembered (old : List Disk) (f : Files) (r : Recorded) : Prop where
  mirrored : Mirrored f r.now
  kept : r.now ∈ r.past
  past : ∀ d ∈ f.past, Held old r d

/-- A disk is still held to what was remembered before. -/
lemma Held.later {d : Disk} (h : Held old r d) (m) : Held old { r with now := m, past := m :: r.past } d := by
  rcases h with before | recovers | wiped
  · exact .inl before
  · exact .inr (.inl (recovers.mono (List.subset_cons_self m r.past)))
  · exact .inr (.inr wiped)

/-- The disk as it is shows what the store in memory holds. -/
lemma Remembered.here (h : Remembered old f r) (m) :
    Held old { r with now := m, past := m :: r.past } f.disk := by
  obtain ⟨rs, mirrors⟩ := h.mirrored
  exact .inr (.inl (recovers_mirror mirrors (List.mem_cons_of_mem m h.kept)))

/-- An operation that leaves the disk as it was or as it will be, or something that is shown in memory. -/
lemma Remembered.step (h : Remembered old f r) {m} (mirrored : Mirrored u m)
    (left : ∀ d ∈ u.past, d = f.disk ∨ d = u.disk ∨ Recovers d [r.now] ∨ d ∈ f.past) :
    Remembered old u { r with now := m, past := m :: r.past } where
  mirrored := mirrored
  kept := List.mem_cons_self
  past d mem := by
    rcases left d mem with rfl | rfl | recovers | before
    · exact h.here m
    · obtain ⟨rs, mirrors⟩ := mirrored
      exact .inr (.inl (recovers_mirror mirrors List.mem_cons_self))
    · refine .inr (.inl (recovers.mono fun x here => ?_))
      rw [List.mem_singleton.mp here]
      exact List.mem_cons_of_mem m h.kept
    · exact (h.past d before).later m

/-- An operation that leaves the disk as it was or as it will be. -/
lemma Remembered.between {α : Type} {op : FileM α} {res m} (h : Remembered old f r) (run : op f = (res, u))
    (mirrored : Mirrored u m)
    (left : ∀ d ∈ (op f).2.past, d = f.disk ∨ d = (op f).2.disk ∨ d ∈ f.past) :
    Remembered old u { r with now := m, past := m :: r.past } := by
  rw [run] at left
  apply h.step mirrored
  intro d mem
  rcases left d mem with first | last | before
  · exact .inl first
  · exact .inr (.inl last)
  · exact .inr (.inr (.inr before))

/-- Counting what was sent is remembered. -/
lemma Remembered.incrSender (h : Remembered old f r) : ∃ u,
    MessageStore.incrNextSenderSeqNum f = ((incrNextSenderSeqNum r).1, u) ∧
      Remembered old u (incrNextSenderSeqNum r).2 := by
  obtain ⟨rs, mirrors⟩ := h.mirrored
  obtain ⟨u, run, -, mirrors'⟩ := mirrors.incrSender
  exact ⟨u, run, h.between run ⟨rs, mirrors'⟩ fun _ => left_incrSender mirrors.quiet⟩

/-- Counting what came is remembered. -/
lemma Remembered.incrTarget (h : Remembered old f r) : ∃ u,
    MessageStore.incrNextTargetSeqNum f = ((incrNextTargetSeqNum r).1, u) ∧
      Remembered old u (incrNextTargetSeqNum r).2 := by
  obtain ⟨rs, mirrors⟩ := h.mirrored
  obtain ⟨u, run, mirrors'⟩ := mirrors.incrTarget
  exact ⟨u, run, h.between run ⟨rs, mirrors'⟩ fun _ => left_incrTarget mirrors.quiet⟩

/-- Setting the next sender number is remembered. -/
lemma Remembered.setSender (h : Remembered old f r) {n} (bound : n < 2 ^ 64) : ∃ u,
    MessageStore.setNextSenderSeqNum n f = (.ok (), u) ∧ Remembered old u (setNextSenderSeqNum n r).2 := by
  obtain ⟨rs, mirrors⟩ := h.mirrored
  obtain ⟨u, run, mirrors'⟩ := mirrors.setSender bound
  have sets : setCounters n f.store.cache.nextTarget f = (.ok (), u) := run
  exact ⟨u, run, h.between sets ⟨rs, mirrors'⟩ fun _ => left_setCounters _ _ mirrors.quiet⟩

/-- Setting the next target number is remembered. -/
lemma Remembered.setTarget (h : Remembered old f r) {n} (bound : n < 2 ^ 64) : ∃ u,
    MessageStore.setNextTargetSeqNum n f = (.ok (), u) ∧ Remembered old u (setNextTargetSeqNum n r).2 := by
  obtain ⟨rs, mirrors⟩ := h.mirrored
  obtain ⟨u, run, mirrors'⟩ := mirrors.setTarget bound
  have sets : setCounters f.store.cache.nextSender n f = (.ok (), u) := run
  exact ⟨u, run, h.between sets ⟨rs, mirrors'⟩ fun _ => left_setCounters _ _ mirrors.quiet⟩

/-- A message is in the body before it is in the index. -/
lemma Remembered.saveMessage (h : Remembered old f r) {n} {raw : Bytes} (number : n < 2 ^ 64)
    (room : f.disk.body.length + raw.length < 2 ^ 64) : ∃ u,
      MessageStore.saveMessage n raw f = (.ok (), u) ∧
        MessageStore.saveMessage n raw r = (.ok (), (MessageStore.saveMessage n raw r).2) ∧
          Remembered old u (MessageStore.saveMessage n raw r).2 := by
  obtain ⟨rs, mirrors⟩ := h.mirrored
  obtain ⟨u, run, -, mirrors'⟩ := mirrors.saveMessage number room
  have saved := MemoryStore.saveMessage_unbounded mirrors.unbounded n raw
  have same : MessageStore.saveMessage n raw r = r.after (MessageStore.saveMessage n raw r.now) := rfl
  rw [saved] at same
  rw [same]
  refine ⟨u, run, rfl, h.step ⟨_, mirrors'⟩ fun d left => ?_⟩
  have left := left_saveMessage n raw mirrors.quiet (d := d) (by rw [run]; exact left)
  rw [run] at left
  rcases left with rfl | rfl | rfl | before
  · exact .inl rfl
  · exact .inr (.inr (.inl (recovers_body mirrors raw List.mem_cons_self)))
  · exact .inr (.inl rfl)
  · exact .inr (.inr (.inr before))

/-- Reading messages is remembered. -/
lemma Remembered.getMessages (h : Remembered old f r) (b e) : ∃ u,
    MessageStore.getMessages b e f = ((MessageStore.getMessages b e r).1, u) ∧
      Remembered old u (MessageStore.getMessages b e r).2 := by
  obtain ⟨rs, mirrors⟩ := h.mirrored
  have inBody : ∀ x ∈ MemoryStore.range f.store.offsets b e, InBody f.disk x.2 := by
    intro x mem
    rw [mirrors.offsets] at mem
    have entry := Std.ExtTreeMap.mem_toList_iff_getElem?_eq_some.mp (List.mem_filter.mp mem).1
    exact inBody_of_mirrors mirrors _ _ entry
  obtain ⟨u, run, mirrors'⟩ := mirrors.getMessages b e
  refine ⟨u, run, h.step ⟨rs, mirrors'⟩ fun d left => ?_⟩
  -- the calls of the file system are told by the records
  rw [FileStore.getMessages, bind_ok kept_run, readRecords_run mirrors.quiet inBody] at run
  have same : u = f.touched (2 * (MemoryStore.range f.store.offsets b e).length) := (congrArg Prod.snd run).symm
  rw [same, Files.touched_past, List.mem_append, List.mem_replicate] at left
  tauto

/-- Loading the files reads them only. -/
lemma past_load {f : Files} {rs : List (Nat × Nat × Nat)} {sender target : Nat} {t : UtcTime} (now)
    (h : f.Quiet) (holds : FileStore.Holds f.disk rs sender target) (new : Unloaded f.store)
    (stamped : f.disk.session = some (Rfc3339.toRfc3339 t)) (back : ReadsBack t) :
    ∀ d ∈ (load now f).2.past, d = f.disk ∨ d ∈ f.past := by
  let t1 := ((f.passed id).passed id).keeping (counting sender target)
  let t2 := ((t1.passed id).passed id).keeping fun s => { s with offsets := indexAll rs s.offsets }
  have index : loadIndex t1 = (.ok (), t2) := loadIndex_run h holds
  have bodyLen : loadBodyLen t2 = (.ok (), _) := loadBodyLen_run h
  let t3 := (t2.passed id).keeping fun s => { s with bodyLen := t2.disk.body.length }
  have session : loadSession now t3 = (.ok (), (t3.passed id).keeping (created t)) :=
    loadSession_run h stamped back
  intro d mem
  rw [load, bind_ok (loadSeqnums_run h holds new), bind_ok index, bind_ok bodyLen, session] at mem
  simp only [t3, t2, t1, Files.keeping_past, Files.passed_past, Files.keeping_disk, Files.passed_disk, id_eq,
    List.mem_cons] at mem
  tauto

/-- Reloading is remembered. -/
lemma Remembered.refresh (h : Remembered old f r) (now) : ∃ u,
    MessageStore.refresh now f = (.ok (), u) ∧ Remembered old u (MessageStore.refresh now r).2 := by
  obtain ⟨rs, mirrors⟩ := h.mirrored
  obtain ⟨u, run, quiet, disk, store⟩ :=
    refresh_holds now mirrors.quiet mirrors.holds mirrors.stamped mirrors.back
  refine ⟨u, run, h.step ⟨rs, mirrors.loaded quiet disk store⟩ fun d left => ?_⟩
  let g := f.keeping fun s => { s with offsets := ∅, cache := { creationTime := now } }
  have loads : FileStore.refresh now f = load now g := by rw [FileStore.refresh, bind_ok (keep_run _)]
  have left := past_load (f := g) now mirrors.quiet mirrors.holds ⟨rfl, rfl, rfl, rfl, rfl⟩ mirrors.stamped
    mirrors.back d (by rw [← loads, run]; exact left)
  rcases left with rfl | before
  · exact .inl rfl
  · exact .inr (.inr (.inr before))

/-- Opening the files again reads them only. -/
lemma Remembered.reopened (h : Remembered old f r) (sync now) :
    Remembered old (openWithSync sync now f).2 r := by
  obtain ⟨rs, mirrors⟩ := h.mirrored
  refine ⟨h.mirrored.reopened sync now, h.kept, fun d left => ?_⟩
  let g := ((((f.passed id).passed id).passed id).passed id).keeping fun _ =>
    { cache := { creationTime := now }, sync := sync }
  have opening : openWithSync sync now f = load now g := by
    simp only [openWithSync, bind_run, touch_run, keep_run, Files.quiet_passed, mirrors.quiet]
    rfl
  rw [opening] at left
  have left := past_load (f := g) now mirrors.quiet mirrors.holds ⟨rfl, rfl, rfl, rfl, rfl⟩ mirrors.stamped
    mirrors.back d left
  have cases : d = f.disk ∨ d ∈ f.past := by
    simp only [g, Files.keeping_past, Files.passed_past, Files.keeping_disk, Files.passed_disk, id_eq,
      List.mem_cons] at left
    tauto
  rcases cases with rfl | before
  · exact .inr (.inl (recovers_mirror mirrors h.kept))
  · exact h.past d before

/-- A reset empties the body first. -/
lemma Remembered.reset (h : Remembered old f r) {now} (back : ReadsBack now) : ∃ u,
    MessageStore.reset now f = (.ok (), u) ∧ Remembered old u (MessageStore.reset now r).2 := by
  obtain ⟨rs, mirrors⟩ := h.mirrored
  obtain ⟨u, run, mirrors'⟩ := mirrors.reset back
  refine ⟨u, run, ⟨[], mirrors'⟩, List.mem_cons_self, fun d left => ?_⟩
  have resets := congrArg Prod.snd (reset_run mirrors.quiet now)
  rw [show u = _ from (congrArg Prod.snd run).symm.trans resets] at left
  simp only [Files.passed_past, Files.keeping_past, Files.passed_disk, Files.keeping_disk, id_eq,
    List.mem_cons] at left
  rcases left with rfl | rfl | rfl | rfl | rfl | rfl | before
  case inr.inr.inr.inr.inr.inl => exact (h.here _).imp_right (Or.imp_right fun wiped => ⟨rfl, wiped.2⟩)
  case inr.inr.inr.inr.inr.inr =>
    rcases h.past d before with first | recovers | wiped
    · exact .inl first
    · exact .inr (.inl (recovers.mono (List.subset_cons_self _ _)))
    · exact .inr (.inr ⟨rfl, wiped.2⟩)
  all_goals exact .inr (.inr ⟨rfl, rfl⟩)

/-- What is remembered is alike. -/
lemma Alike.of_remembered {α : Type} {x : Except Error α × Files} {y : Except Error α × Recorded}
    (h : ∃ u, x = (y.1, u) ∧ Remembered old u y.2) : Alike (Remembered old) Files.Fit x y := by
  obtain ⟨u, rfl, remembered⟩ := h
  exact .inr ⟨rfl, remembered⟩

/-- Storing a message is remembered, or fails. -/
lemma Remembered.save (h : Remembered old f r) {n} (raw : Bytes) (number : n < 2 ^ 64) :
    Alike (Remembered old) Files.Fit (saveMessageAndIncr n raw f) (saveMessageAndIncr n raw r) := by
  by_cases short : StoreOp.Short (saveMessageAndIncr n raw f).2
  case neg => exact .inl fun fit => short fit.short
  obtain ⟨rs, mirrors⟩ := h.mirrored
  obtain ⟨u, run, same, saved⟩ := h.saveMessage number (StoreOp.room_of_short mirrors.quiet short)
  rw [saveMessageAndIncr, saveMessageAndIncr, run, same]
  exact .of_remembered saved.incrSender

/-- A store on its files is the twin of one in memory that remembers what it held. -/
def crashTwins (old : List Disk) : Twins Files Recorded where
  rel := Remembered old
  fit := Files.Fit
  agrees := fun h =>
    let agrees := h.mirrored.agrees
    ⟨agrees.nextSender, agrees.nextTarget, agrees.creationTime⟩
  incrSender := fun h => .of_remembered h.incrSender
  incrTarget := fun h => .of_remembered h.incrTarget
  setSender := fun bound h => .of_remembered (h.setSender bound)
  setTarget := fun bound h => .of_remembered (h.setTarget bound)
  save := fun raw bound h => h.save raw bound
  get := fun b e h => .of_remembered (h.getMessages b e)
  refresh := fun now h => .of_remembered (h.refresh now)
  reset := fun now h => by
    by_cases back : ReadsBack now
    · exact .of_remembered (h.reset back)
    · obtain ⟨rs, mirrors⟩ := h.mirrored
      exact .inl fun fit => back (created_reset mirrors.quiet now ▸ fit.back)

end Files

/-! ## Crashes -/

section Crashes

variable {ω : Type} [Chrono] [Rfc3339] [Application ω] [Runtime ω]

/-- A store in memory that was created just now. -/
def Recorded.new (now : UtcTime) : Recorded where
  now := { creationTime := now }
  past := [{ creationTime := now }]

/-- A store that was opened on an empty disk is remembered. -/
lemma remembered_empty {f : Files} {sync now} (quiet : f.Quiet) (empty : f.disk = {}) (back : ReadsBack now) :
    Remembered (openWithSync sync now f).2.past (openWithSync sync now f).2 (.new now) where
  mirrored := mirrored_empty quiet empty back
  kept := List.mem_cons_self
  past _ mem := .inl mem

/-- From an empty directory, as long as no call of the file system fails: at whichever call the process dies, in
whichever life of the session or between two of them, the files it leaves can be opened and read and show what
the store held at some time when the session kept it in memory. Only once the session has been reset, the body
may have been emptied instead. -/
theorem crashes_recover {f : Files} {sync now} (quiet : f.Quiet) (empty : f.disk = {}) (back : ReadsBack now)
    {ls : List (Life ω)} (fit : ∀ s ∈ livesOnFiles (openWithSync sync now f).2 ls, s.Fit Files.Fit) :
    List.Forall₂ (fun s t => ∀ d ∈ s.session.store.disk :: s.session.store.past,
        Held (openWithSync sync now f).2.past t.session.store d)
      (livesOnFiles (openWithSync sync now f).2 ls) (lives (fun _ r => r) (Recorded.new now) ls) := by
  let old := (openWithSync sync now f).2.past
  have opened (life : Life ω) {f : Files} {r : Recorded} (h : (crashTwins old).rel f r) :
      (crashTwins old).rel (openWithSync life.sync life.opened f).2 r :=
    Remembered.reopened h life.sync life.opened
  have like : List.Forall₂ (Sys.Like (Remembered old)) (livesOnFiles (openWithSync sync now f).2 ls)
      (lives (fun _ r => r) (Recorded.new now) ls) :=
    lives_alike opened (remembered_empty quiet empty back) ls fit
  apply like.imp
  intro s t same
  obtain ⟨rs, mirrors⟩ := same.stores.mirrored
  have current : Held old t.session.store s.session.store.disk :=
    .inr (.inl (recovers_mirror mirrors same.stores.kept))
  exact List.forall_mem_cons.mpr ⟨current, same.stores.past⟩

end Crashes

namespace Script

attribute [local instance] epochDay epochText

/-- Whenever `T` dies in its two lives, its files recover: it resets nothing. -/
theorem crashes_recover_twoLives :
    List.Forall₂ (fun s t => ∀ d ∈ s.session.store.disk :: s.session.store.past,
        Held (openWithSync false 0 emptyFiles).2.past t.session.store d)
      (livesOnFiles (openWithSync false 0 emptyFiles).2 ofBuyer)
      (lives (fun _ r => r) (Recorded.new 0) ofBuyer) ∧
    ∀ t ∈ lives (fun _ r => r) (Recorded.new 0) ofBuyer, t.session.store.wiped = false :=
  ⟨crashes_recover quiet_emptyFiles rfl readsBack_epoch fit_ofBuyer, by decide +kernel⟩

end Script

end QuickFix
