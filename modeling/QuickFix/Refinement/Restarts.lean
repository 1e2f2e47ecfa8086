import QuickFix.Refinement.Lockstep
import QuickFix.Network.Complete
import QuickFix.Store.Mirror

/-!
# A session and its restarts

A session on its files does what it does in memory. This holds over restarts as well: a session that is
started again on the files that the one before left goes on as if it had kept its store in memory
(`restarts_transparent`), so that no message is delivered again by a later one (`delivered_once`).
-/

namespace QuickFix

set_option linter.unusedSectionVars false

open MessageStore FileStore

/-! ## Files and memory -/

section Files

variable [Rfc3339] {f : Files} {m : MemoryStore}

/-- The files show what is in memory. -/
def Mirrored (f : Files) (m : MemoryStore) : Prop := ∃ rs, Mirrors rs f m

/-- The length of the body is 64-bit, and the creation time is read back from what is printed of it. -/
structure Files.Fit (f : Files) : Prop where
  short : StoreOp.Short f
  back : ReadsBack f.store.cache.creationTime

/-- What a store mirrors it agrees with. -/
lemma Mirrored.agrees (h : Mirrored f m) : Agrees f m := by
  obtain ⟨rs, h⟩ := h
  exact ⟨h.nextSender.symm, h.nextTarget.symm, h.creationTime.symm⟩

/-- An operation that ends with this is mirrored. -/
lemma alike_of_run {α : Type} {r : Except Error α × Files} {r' : Except Error α × MemoryStore} {u}
    (run : r = (r'.1, u)) (mirrored : Mirrored u r'.2) : Alike Mirrored Files.Fit r r' := by
  subst run
  exact .inr ⟨rfl, mirrored⟩

/-- Storing a message is mirrored, or fails. -/
lemma Mirrored.save (h : Mirrored f m) {n} (raw : Bytes) (number : n < 2 ^ 64) :
    Alike Mirrored Files.Fit (saveMessageAndIncr n raw f) (saveMessageAndIncr n raw m) := by
  by_cases short : StoreOp.Short (saveMessageAndIncr n raw f).2
  case neg => exact .inl fun fit => short fit.short
  obtain ⟨rs, h⟩ := h
  obtain ⟨u, run, -, saved⟩ := h.saveMessage number (StoreOp.room_of_short h.quiet short)
  obtain ⟨v, run', -, counted⟩ := saved.incrSender
  have save : MessageStore.saveMessage n raw f = (.ok (), u) := run
  rw [saveMessageAndIncr, saveMessageAndIncr, save, MemoryStore.saveMessage_unbounded h.unbounded]
  exact alike_of_run run' ⟨_, counted⟩

/-- Reading messages is mirrored. -/
lemma Mirrored.get (h : Mirrored f m) (b e) : Alike Mirrored Files.Fit
    (MessageStore.getMessages b e f) (MessageStore.getMessages b e m) := by
  obtain ⟨rs, h⟩ := h
  obtain ⟨u, run, read⟩ := h.getMessages b e
  exact alike_of_run run ⟨rs, read⟩

/-- What is reloaded was there already. -/
lemma Mirrored.refresh (h : Mirrored f m) (now) : Alike Mirrored Files.Fit
    (MessageStore.refresh now f) (MessageStore.refresh now m) := by
  obtain ⟨rs, h⟩ := h
  obtain ⟨u, run, quiet, disk, store⟩ := refresh_holds now h.quiet h.holds h.stamped h.back
  exact alike_of_run run ⟨rs, h.loaded quiet disk store⟩

/-- Files that were reset were created then. -/
lemma created_reset (h : f.Quiet) (now) :
    (MessageStore.reset now f).2.store.cache.creationTime = now := by
  have run := congrArg Prod.snd (reset_run h now)
  rw [show (MessageStore.reset now f).2 = _ from run]
  rfl

/-- A reset is mirrored, or fails. -/
lemma Mirrored.reset (h : Mirrored f m) (now) : Alike Mirrored Files.Fit
    (MessageStore.reset now f) (MessageStore.reset now m) := by
  obtain ⟨rs, h⟩ := h
  by_cases back : ReadsBack now
  · obtain ⟨u, run, mirrors⟩ := h.reset back
    exact alike_of_run run ⟨[], mirrors⟩
  · exact .inl fun fit => back (created_reset h.quiet now ▸ fit.back)

/-- A store on its files is the twin of one in memory. -/
def filesTwins : Twins Files MemoryStore where
  rel := Mirrored
  fit := Files.Fit
  agrees := Mirrored.agrees
  incrSender := fun ⟨rs, h⟩ => by
    obtain ⟨u, run, -, mirrors⟩ := h.incrSender
    exact alike_of_run run ⟨rs, mirrors⟩
  incrTarget := fun ⟨rs, h⟩ => by
    obtain ⟨u, run, mirrors⟩ := h.incrTarget
    exact alike_of_run run ⟨rs, mirrors⟩
  setSender := fun bound ⟨rs, h⟩ => by
    obtain ⟨u, run, mirrors⟩ := h.setSender bound
    exact alike_of_run run ⟨rs, mirrors⟩
  setTarget := fun bound ⟨rs, h⟩ => by
    obtain ⟨u, run, mirrors⟩ := h.setTarget bound
    exact alike_of_run run ⟨rs, mirrors⟩
  save := fun raw bound h => h.save raw bound
  get := fun b e h => h.get b e
  refresh := fun now h => h.refresh now
  reset := fun now h => h.reset now

/-- Opening the files again changes nothing. -/
lemma Mirrored.reopened (h : Mirrored f m) (sync now) : Mirrored (openWithSync sync now f).2 m := by
  obtain ⟨rs, h⟩ := h
  obtain ⟨u, run, quiet, disk, store⟩ := open_holds sync now h.quiet h.holds h.stamped h.back
  rw [run]
  exact ⟨rs, h.loaded quiet disk store⟩

end Files

/-! ## Lives -/

/-- A life of a session: how it is configured, when it was started, and what it wakes up for. -/
structure Life (ω : Type) where
  cfg : SessionConfig
  dictionary : Option DataDictionary := none
  adminDictionary : Option DataDictionary := none
  /-- Whether its files are flushed. -/
  sync : Bool := false
  opened : UtcTime := 0
  started : Nat := 0
  world : ω
  inputs : List Input

section Lives

variable {σ τ ω : Type} [Chrono] [MessageStore σ] [MessageStore τ] [Application ω] [Runtime ω]

/-- A life with a store. -/
def Life.party (life : Life ω) (st : σ) : Party σ ω :=
  { cfg := life.cfg, dictionary := life.dictionary, adminDictionary := life.adminDictionary, store := st,
    now := life.started, world := life.world }

/-- The ends of lives, one after the other; each opens the store that the one before left. -/
def lives (reopen : Life ω → σ → σ) (st : σ) : List (Life ω) → List (Sys σ ω)
  | [] => []
  | life :: rest =>
    let s := (life.party (reopen life st)).after life.inputs
    s :: lives reopen s.session.store rest

/-- Every store of the system is fit. -/
def Sys.Fit (fit : σ → Prop) (s : Sys σ ω) : Prop :=
  fit s.session.store ∧ ∀ c ∈ s.trace, fit c.session.store

variable {twins : Twins σ τ}

/-- A life ends the same on stores that answer alike. -/
lemma Life.alike (life : Life ω) {a : σ} {b : τ} (related : twins.rel a b)
    (fit : ((life.party a).after life.inputs).Fit twins.fit) :
    ((life.party a).after life.inputs).Like twins.rel ((life.party b).after life.inputs) := by
  let s := Sys.init life.cfg life.dictionary life.adminDictionary a life.started life.world
  let t := Sys.init life.cfg life.dictionary life.adminDictionary b life.started life.world
  have : Nonempty (Sys τ ω) := ⟨t⟩
  have start : s.Like twins.rel t := ⟨rfl, rfl, related, .nil⟩
  have simulated : Lockstep (ω := ω) twins True (Session.run life.inputs) (Session.run life.inputs) :=
    Session.run_sim
  rcases simulated.ends trivial s t start with unfit | ⟨-, like⟩
  · rcases unfit with here | ⟨c, mem, there⟩
    · exact absurd fit.1 here
    · exact absurd (fit.2 c mem) there
  · exact like

/-- So do all lives, when stores that answer alike do so once they are opened again. -/
lemma lives_alike {reopen : Life ω → σ → σ} {reopen' : Life ω → τ → τ}
    (opened : ∀ life {a b}, twins.rel a b → twins.rel (reopen life a) (reopen' life b)) {a : σ} {b : τ}
    (related : twins.rel a b) (ls : List (Life ω)) (fit : ∀ s ∈ lives reopen a ls, s.Fit twins.fit) :
    List.Forall₂ (Sys.Like twins.rel) (lives reopen a ls) (lives reopen' b ls) := by
  induction ls generalizing a b with
  | nil => exact .nil
  | cons life ls ih =>
    obtain ⟨here, later⟩ := List.forall_mem_cons.mp fit
    have like := life.alike (opened life related) here
    exact .cons like (ih like.stores later)

end Lives

/-! ## What is delivered -/

section Delivered

variable {σ τ ω : Type} [MessageStore σ] [MessageStore τ] {rel : σ → τ → Prop} {cs : List (Call σ)}
variable {ds : List (Call τ)}

/-- What holds of each item of a list holds of those that are related to them. -/
lemma forall_of_forall₂ {α β : Type} {R : α → β → Prop} {p : α → Prop} {q : β → Prop} {xs : List α}
    {ys : List β} (related : List.Forall₂ R xs ys) (imp : ∀ x y, R x y → p x → q y)
    (h : ∀ x ∈ xs, p x) : ∀ y ∈ ys, q y := by
  induction related with
  | nil => intro y mem; cases mem
  | @cons x y xs ys here _ ih =>
    obtain ⟨first, rest⟩ := List.forall_mem_cons.mp h
    exact List.forall_mem_cons.mpr ⟨imp x y here first, ih rest⟩

/-- Histories that are alike deliver the same. -/
lemma delivered_of_like (like : List.Forall₂ (Call.Like rel) cs ds) :
    deliveredContents ds = deliveredContents cs := by
  rw [deliveredContents, deliveredContents]
  induction like with
  | nil => rfl
  | cons here _ ih => rw [observed_cons, observed_cons, ih, here.event]

/-- They pass over the same numbers. -/
lemma passedOver_of_like (agrees : ∀ {a b}, rel a b → Agrees a b)
    (like : List.Forall₂ (Call.Like rel) cs ds) (n : Nat) : passedOver n ds = passedOver n cs := by
  induction like with
  | nil => rfl
  | @cons c d cs ds here like ih =>
    have next : d.nextTarget = c.nextTarget := (agrees here.stores).nextTarget
    have before : delivering ds = delivering cs := by
      cases like with
      | nil => rfl
      | cons head _ => exact congrArg Event.delivers head.event
    rw [passedOver, passedOver, ih, Call.passesOver, Call.passesOver, here.event, next, before]

/-- Whether the numbering of the ends of lives, which began at a number, got to a content and did not pass it
over. -/
def reached (start : Nat) (ss : List (Sys σ ω)) (x : Content) : Bool :=
  decide (start ≤ x.seq) && ss.any (fun s => decide (x.seq < s.nextTarget)) &&
    !ss.any (fun s => passedOver x.seq s.trace)

/-- Systems that are alike reached the same contents. -/
lemma reached_of_like (agrees : ∀ {a b}, rel a b → Agrees a b) {ss : List (Sys σ ω)}
    {ts : List (Sys τ ω)} (like : List.Forall₂ (Sys.Like rel) ss ts) (start : Nat) (x : Content) :
    reached start ts x = reached start ss x := by
  have next : ts.any (fun t => decide (x.seq < t.nextTarget)) =
      ss.any (fun s => decide (x.seq < s.nextTarget)) := by
    induction like with
    | nil => rfl
    | @cons s t _ _ here _ ih =>
      have same : t.nextTarget = s.nextTarget := (agrees here.stores).nextTarget
      simp only [List.any_cons, ih, same]
  have passed : ts.any (fun t => passedOver x.seq t.trace) = ss.any (fun s => passedOver x.seq s.trace) := by
    clear next
    induction like with
    | nil => rfl
    | @cons s t _ _ here _ ih =>
      simp only [List.any_cons, ih, passedOver_of_like agrees here.trace]
  rw [reached, reached, next, passed]

/-- No operation on the store failed, and the inbound numbering went on and never ran over. -/
structure Sys.Onward (s : Sys σ ω) : Prop where
  reliable : s.Reliable
  room : s.TargetRoom
  onward : ∀ c ∈ s.trace, boundary c = false

/-- Stores that answer alike run over alike. -/
lemma Call.Like.wrapsTarget (agrees : ∀ {a b}, rel a b → Agrees a b) {c : Call σ} {d : Call τ}
    (like : c.Like rel d) : d.wrapsTarget = c.wrapsTarget := by
  have next : d.nextTarget = c.nextTarget := (agrees like.stores).nextTarget
  rw [Call.wrapsTarget, Call.wrapsTarget, like.event, next]

/-- What goes on with a store goes on with one that answers alike. -/
lemma onward_of_like (agrees : ∀ {a b}, rel a b → Agrees a b) {s : Sys σ ω} {t : Sys τ ω}
    (like : s.Like rel t) (h : s.Onward) : t.Onward where
  reliable := forall_of_forall₂ like.trace
    (fun _ _ same clean => (congrArg Event.failed same.event).trans clean) h.reliable
  room := forall_of_forall₂ like.trace (fun _ _ same room => (same.wrapsTarget agrees).trans room) h.room
  onward := forall_of_forall₂ like.trace
    (fun _ _ same inside => (congrArg Event.renumbers same.event).trans inside) h.onward

/-- Lives that are alike deliver the same. -/
lemma contents_of_like {ss : List (Sys σ ω)} {ts : List (Sys τ ω)}
    (like : List.Forall₂ (Sys.Like rel) ss ts) :
    (ts.flatMap fun t => deliveredContents t.trace) = ss.flatMap fun s => deliveredContents s.trace := by
  induction like with
  | nil => rfl
  | cons here _ ih => rw [List.flatMap_cons, List.flatMap_cons, ih, delivered_of_like here.trace]

end Delivered

section Once

variable {σ ω σ' ω' : Type} [Chrono]
variable [MessageStore σ] [Application ω] [Runtime ω] [MessageStore σ'] [Application ω'] [Runtime ω']

/-- Two sides may have been interleaved in any way that carries what arrived. -/
lemma Joined.of_wrote {a : Party σ ω} {b : Party σ' ω'} {is js : List Input}
    (wrote : ∀ raw, Arrives js raw → Wrote raw (a.after is).trace) : Joined a b is js := by
  have lefts : Joined a b is [] := by
    clear wrote
    induction is using List.reverseRecOn with
    | nil => exact .start
    | append_singleton is input ih => exact .left ih
  induction js using List.reverseRecOn with
  | nil => exact lefts
  | append_singleton js input ih =>
    apply Joined.right
    · exact ih fun raw ⟨input, mem, frame⟩ => wrote raw ⟨input, List.mem_append_left _ mem, frame⟩
    · exact fun raw frame => wrote raw ⟨input, List.mem_append_right _ (List.mem_singleton.mpr rfl), frame⟩

variable [LawfulStore σ']

/-- A number that is passed over is not below the first one. -/
lemma Ongoing.passed_ge {start st : σ'} {cs : List (Call σ')} (h : Ongoing start cs st) {n}
    (passed : passedOver n cs = true) : nextTargetSeqNum start ≤ n := by
  obtain ⟨c, rest, suf, here⟩ := exists_passesOver passed
  have low := h.start_le (suf.subset List.mem_cons_self)
  rcases Call.passesOver_cases here with ⟨m, -, le, -⟩ | ⟨-, same, -⟩
  · exact low.trans le
  · exact low.trans same.le

variable {ls : List (Life ω')} {st : σ'}

/-- The first life, from a valid store. -/
lemma Sys.Onward.counting {life : Life ω'} (h : ((life.party st).after life.inputs).Onward)
    (valid : LawfulStore.Valid st) : Counting (life.party st) life.inputs := ⟨valid, h.reliable, h.room, h.onward⟩

/-- Contents are delivered, and numbers passed over, from the first number on. -/
lemma lives_low (valid : LawfulStore.Valid st)
    (onward : ∀ s ∈ lives (fun _ st => st) st ls, s.Onward) {s : Sys σ' ω'}
    (mem : s ∈ lives (fun _ st => st) st ls) :
    (∀ x ∈ deliveredContents s.trace, nextTargetSeqNum st ≤ x.seq) ∧
      ∀ n, passedOver n s.trace = true → nextTargetSeqNum st ≤ n := by
  induction ls generalizing st with
  | nil => cases mem
  | cons life ls ih =>
    obtain ⟨here, later⟩ := List.forall_mem_cons.mp onward
    have counting := here.counting valid
    rcases List.mem_cons.mp mem with rfl | mem
    · refine ⟨fun x given => ?_, fun n => counting.ongoing.passed_ge⟩
      have arrived := counting.arrives given
      simp only [arrives, Bool.and_eq_true, decide_eq_true_eq] at arrived
      exact arrived.1.1
    · have grown := counting.ongoing.from_start
      obtain ⟨given, passed⟩ := ih (counting.ongoing.linked.valid valid).1 later mem
      exact ⟨fun x mem => grown.trans (given x mem), fun n here => grown.trans (passed n here)⟩

/-- The contents that lives deliver have numbers that increase. -/
lemma lives_sorted (valid : LawfulStore.Valid st)
    (onward : ∀ s ∈ lives (fun _ st => st) st ls, s.Onward) :
    ((lives (fun _ st => st) st ls).flatMap fun s => deliveredContents s.trace).Pairwise
      (·.seq < ·.seq) := by
  induction ls generalizing st with
  | nil => exact .nil
  | cons life ls ih =>
    obtain ⟨here, later⟩ := List.forall_mem_cons.mp onward
    have counting := here.counting valid
    have valid' := (counting.ongoing.linked.valid valid).1
    have ordered := inOrder_of_orderly valid linked_ran settled_after.along here.reliable here.room
    rw [lives, List.flatMap_cons, List.pairwise_append]
    refine ⟨delivered_sorted ordered here.onward, ih valid' later, fun x memx y memy => ?_⟩
    -- the first life counted what it delivered, and the others go on from there
    have arrived := counting.arrives memx
    simp only [arrives, Bool.and_eq_true, decide_eq_true_eq] at arrived
    obtain ⟨s, mem, given⟩ := List.mem_flatMap.mp memy
    exact arrived.1.2.trans_le ((lives_low valid' later mem).1 y given)

variable [FailStopStore σ] [FaithfulStore σ] {a : Party σ ω} {is : List Input}

/-- What lives deliver is what was accepted, as far as they got to it and did not pass it over. -/
lemma mem_lives (format : ∀ t : UtcTimestamp, soh ∉ encode t) (sender : Sender a is)
    (numbering : Numbering a is) (valid : LawfulStore.Valid st)
    (wrote : ∀ life ∈ ls, ∀ raw, Arrives life.inputs raw → Wrote raw (a.after is).trace)
    (onward : ∀ s ∈ lives (fun _ st => st) st ls, s.Onward) {x : Content} :
    (x ∈ (lives (fun _ st => st) st ls).flatMap fun s => deliveredContents s.trace) ↔
      x ∈ acceptedContents (a.after is).trace ∧
        reached (nextTargetSeqNum st) (lives (fun _ st => st) st ls) x = true := by
  induction ls generalizing st with
  | nil => simp [lives, reached]
  | cons life ls ih =>
    obtain ⟨here, later⟩ := List.forall_mem_cons.mp onward
    obtain ⟨wrote', wroteLater⟩ := List.forall_mem_cons.mp wrote
    have joined : Joined a (life.party st) is life.inputs := .of_wrote wrote'
    have counting := here.counting valid
    have valid' := (counting.ongoing.linked.valid valid).1
    have low := fun s mem => lives_low (s := s) valid' later mem
    have grown := counting.ongoing.from_start
    have ih := ih valid' wroteLater later
    simp only [reached, Bool.and_eq_true, decide_eq_true_eq, Bool.not_eq_true', List.any_eq_true,
      List.any_eq_false] at ih ⊢
    rw [lives, List.flatMap_cons, List.mem_append, ih]
    simp only [List.mem_cons, forall_eq_or_imp, exists_eq_or_imp]
    constructor
    · rintro (given | ⟨mem, ⟨start, high⟩, kept⟩)
      · have arrived := counting.arrives given
        simp only [arrives, Bool.and_eq_true, decide_eq_true_eq, Bool.not_eq_true'] at arrived
        refine ⟨accepted_of_delivered format joined sender numbering given,
          ⟨arrived.1.1, .inl arrived.1.2⟩, by simp [arrived.2], fun s mem passed => ?_⟩
        exact absurd ((low s mem).2 _ passed) (not_le.mpr arrived.1.2)
      · refine ⟨mem, ⟨grown.trans start, .inr high⟩, fun passed => ?_, kept⟩
        exact absurd (counting.ongoing.passed_lt passed) (not_lt.mpr start)
    · rintro ⟨mem, ⟨start, high⟩, kept, keptLater⟩
      by_cases soon : x.seq < ((life.party st).after life.inputs).nextTarget
      · exact .inl (delivered_of_reached format joined sender numbering counting mem start soon
          (Bool.eq_false_iff.mpr kept))
      · exact .inr ⟨mem, ⟨not_lt.mp soon, high.resolve_left soon⟩, keptLater⟩

end Once

section Restarts

variable {ω : Type} [Chrono] [Rfc3339] [Application ω] [Runtime ω]

/-- Lives on files: each opens them again. -/
def livesOnFiles : Files → List (Life ω) → List (Sys Files ω) :=
  lives fun life f => (openWithSync life.sync life.opened f).2

/-- Lives on a store that stays in memory in between. -/
def livesInMemory : MemoryStore → List (Life ω) → List (Sys MemoryStore ω) := lives fun _ m => m

/-- A store that is opened again mirrors what it did. -/
lemma opens_mirrored (life : Life ω) {f : Files} {m : MemoryStore} (h : filesTwins.rel f m) :
    filesTwins.rel (openWithSync life.sync life.opened f).2 m :=
  Mirrored.reopened h life.sync life.opened

/-- A store that is opened on an empty disk mirrors a new one. -/
lemma mirrored_empty {f : Files} {sync now} (quiet : f.Quiet) (empty : f.disk = {}) (back : ReadsBack now) :
    Mirrored (openWithSync sync now f).2 { creationTime := now } := by
  have short : StoreOp.Short (openWithSync sync now f).2 := by
    obtain ⟨u, run, -, disk, -⟩ := open_empty sync now quiet empty
    rw [run, StoreOp.Short, disk]
    exact Nat.two_pow_pos 64
  have start : ∀ ops ∈ [].inits, StoreOp.Short ((openWithSync sync now f).2.after ops) := by
    intro ops mem
    cases List.mem_singleton.mp mem
    exact short
  exact (mirrors_after quiet empty back (by simp) start).2

/-- From an empty directory, as long as no call of the file system fails: a session that is stopped and
started again on its files any number of times does all along what it does when its store stays in memory. It
makes the same calls with the same answers, leaves its surroundings in the same state, and its files show what
the store in memory holds at each call. -/
theorem restarts_transparent {f : Files} {sync now} (quiet : f.Quiet) (empty : f.disk = {})
    (back : ReadsBack now) {ls : List (Life ω)}
    (fit : ∀ s ∈ livesOnFiles (openWithSync sync now f).2 ls, s.Fit Files.Fit) :
    List.Forall₂ (Sys.Like Mirrored) (livesOnFiles (openWithSync sync now f).2 ls)
      (livesInMemory { creationTime := now } ls) := by
  exact lives_alike opens_mirrored (mirrored_empty quiet empty back) ls fit

variable {σ' ω' : Type} [MessageStore σ'] [FailStopStore σ'] [FaithfulStore σ'] [Application ω'] [Runtime ω']
variable {a : Party σ' ω'} {is : List Input}

/-- However often the receiver is stopped and started again on its files, and whatever the network loses,
repeats or reorders: its lives together deliver what the sender accepted, in that order and each content once,
as far as their numbering got and but for the numbers it passed over. -/
theorem delivered_once (format : ∀ t : UtcTimestamp, soh ∉ encode t) (sender : Sender a is)
    (numbering : Numbering a is) {f : Files} {sync now} (quiet : f.Quiet) (empty : f.disk = {})
    (back : ReadsBack now) {ls : List (Life ω)}
    (wrote : ∀ life ∈ ls, ∀ raw, Arrives life.inputs raw → Wrote raw (a.after is).trace)
    (fit : ∀ s ∈ livesOnFiles (openWithSync sync now f).2 ls, s.Fit Files.Fit)
    (onward : ∀ s ∈ livesOnFiles (openWithSync sync now f).2 ls, s.Onward) :
    ((livesOnFiles (openWithSync sync now f).2 ls).flatMap fun s => deliveredContents s.trace) =
      (acceptedContents (a.after is).trace).filter
        (reached 1 (livesOnFiles (openWithSync sync now f).2 ls)) := by
  let m : MemoryStore := { creationTime := now }
  have valid : LawfulStore.Valid m := MemoryStore.valid_empty now
  have like : List.Forall₂ (Sys.Like Mirrored) (livesOnFiles (openWithSync sync now f).2 ls)
      (livesInMemory m ls) := lives_alike opens_mirrored (mirrored_empty quiet empty back) ls fit
  have onward : ∀ t ∈ livesInMemory m ls, t.Onward :=
    forall_of_forall₂ like (fun _ _ => onward_of_like Mirrored.agrees) onward
  have accepted := accepted_sorted sender.valid linked_ran sender.plain.emitted numbering.onward
  rw [← contents_of_like like]
  apply Service.eq_filter_of_pairwise (lives_sorted valid onward) accepted
  intro x
  rw [← reached_of_like Mirrored.agrees like]
  exact mem_lives format sender numbering valid wrote onward

end Restarts

namespace Script

attribute [local instance] epochDay epochText

/-- `T` logs on, gets the first of the messages of `S` and is gone. -/
def firstLife : Life Script where
  cfg := buyer.cfg
  world := {}
  inputs := dialed ++ [carry seller answered 0] ++ [carry seller ordered 1] ++ [.dropped]

/-- `T` with the store that its first life left. -/
def resumed : Party MemoryStore Script :=
  { buyer with store := (buyer.after firstLife.inputs).session.store }

/-- `S` answers the second logon. -/
def reanswered : List Input := ordered ++ [.closed] ++ [.attach] ++ [carry resumed dialed 0]

/-- `T` logs on again, and gets the second message after the answer. -/
def secondLife : Life Script where
  cfg := buyer.cfg
  sync := true
  world := {}
  inputs := dialed ++ [carry seller reanswered 3] ++ [carry seller ordered 2]

/-- The lives of `T`. -/
def ofBuyer : List (Life Script) := [firstLife, secondLife]

/-- The files are without failures. -/
lemma quiet_emptyFiles : emptyFiles.Quiet := rfl

/-- Files are fit that are short and were created at the epoch. -/
lemma fit_of_epoch {f : Files} (h : StoreOp.Short f ∧ f.store.cache.creationTime = 0) : f.Fit :=
  ⟨h.1, h.2 ▸ readsBack_epoch⟩

/-- No life of the buyer meets a failure. -/
lemma fit_ofBuyer : ∀ s ∈ livesOnFiles (openWithSync false 0 emptyFiles).2 ofBuyer, s.Fit Files.Fit := by
  have stores : ∀ s ∈ livesOnFiles (openWithSync false 0 emptyFiles).2 ofBuyer,
      (StoreOp.Short s.session.store ∧ s.session.store.store.cache.creationTime = 0) ∧
        ∀ c ∈ s.trace, StoreOp.Short c.session.store ∧ c.session.store.store.cache.creationTime = 0 := by
    decide +kernel
  exact fun s mem => ⟨fit_of_epoch (stores s mem).1, fun c here => fit_of_epoch ((stores s mem).2 c here)⟩

/-- On its files `T` does what it does in memory. -/
theorem restarts_transparent_twoLives :
    List.Forall₂ (Sys.Like Mirrored) (livesOnFiles (openWithSync false 0 emptyFiles).2 ofBuyer)
      (livesInMemory { creationTime := 0 } ofBuyer) :=
  restarts_transparent quiet_emptyFiles rfl readsBack_epoch fit_ofBuyer

/-- What the buyer gets was written by the seller. -/
lemma wrote_ofBuyer {life : Life Script} (mem : life ∈ ofBuyer) {raw} (arrived : Arrives life.inputs raw) :
    Wrote raw (seller.after reanswered).trace := by
  have frames : ∀ life ∈ ofBuyer, ∀ input ∈ life.inputs, ∀ raw ∈ input.frames,
      Wrote raw (seller.after reanswered).trace := by
    decide +kernel
  obtain ⟨input, here, frame⟩ := arrived
  exact frames life mem input here raw frame

/-- What the seller sent comes back from its bytes. -/
lemma sender_reanswered : Sender seller reanswered where
  leaves := leavesNumber
  persist := rfl
  valid := MemoryStore.valid_empty 0
  empty _ := by simp [seller, LawfulStore.messages]
  careful := by decide +kernel

/-- Each life delivers one of the two messages. -/
theorem delivered_once_twoLives :
    ((livesOnFiles (openWithSync false 0 emptyFiles).2 ofBuyer).flatMap fun s => deliveredContents s.trace) =
        (acceptedContents (seller.after reanswered).trace).filter
          (reached 1 (livesOnFiles (openWithSync false 0 emptyFiles).2 ofBuyer)) ∧
      (livesOnFiles (openWithSync false 0 emptyFiles).2 ofBuyer).map
        (fun s => (deliveredContents s.trace).map Content.seq) = [[2], [3]] := by
  have onward : ∀ s ∈ livesOnFiles (openWithSync false 0 emptyFiles).2 ofBuyer, s.Onward := by
    have calls : ∀ s ∈ livesOnFiles (openWithSync false 0 emptyFiles).2 ofBuyer,
        s.Reliable ∧ s.TargetRoom ∧ ∀ c ∈ s.trace, boundary c = false := by
      decide +kernel
    exact fun s mem => ⟨(calls s mem).1, (calls s mem).2.1, (calls s mem).2.2⟩
  exact ⟨delivered_once (fun t => plain_formatDay t.precision t.time) sender_reanswered
    ⟨by decide +kernel, by decide +kernel⟩ quiet_emptyFiles rfl readsBack_epoch
    (fun life mem raw arrived => wrote_ofBuyer mem arrived) fit_ofBuyer onward, by decide +kernel⟩

end Script

end QuickFix
