import QuickFix.Steps.Kept
import QuickFix.Store.Failure

/-!
# The stages of a frame

While a message is handled nothing in the stash is due (`ready`), once it is counted one entry may be
(`moved`), and the replay goes on until none is left (`resting`). A reload that brings back a number at
or past one in the stash is the one thing that strands an entry.
-/

namespace QuickFix

set_option mvcgen.warning false
set_option linter.unusedSectionVars false

open Std.Do Session Relation MessageStore

/-! ## The next target number of a store -/

/-- The next target number moves only as it is told to, whether or not the operation succeeds. -/
class TargetStore (σ : Type) [MessageStore σ] : Prop where
  incrTarget : ∀ st : σ, nextTargetSeqNum (incrNextTargetSeqNum st).2 = nextTargetSeqNum st ∨
    nextTargetSeqNum (incrNextTargetSeqNum st).2 = incremented (nextTargetSeqNum st)
  setTarget : ∀ n (st : σ), nextTargetSeqNum (setNextTargetSeqNum n st).2 = nextTargetSeqNum st ∨
    nextTargetSeqNum (setNextTargetSeqNum n st).2 = n
  incrSender : ∀ st : σ, nextTargetSeqNum (incrNextSenderSeqNum st).2 = nextTargetSeqNum st
  setSender : ∀ n (st : σ), nextTargetSeqNum (setNextSenderSeqNum n st).2 = nextTargetSeqNum st
  save : ∀ n raw (st : σ), nextTargetSeqNum (saveMessage n raw st).2 = nextTargetSeqNum st
  get : ∀ b e (st : σ), nextTargetSeqNum (MessageStore.getMessages b e st).2 = nextTargetSeqNum st

instance : TargetStore MemoryStore where
  incrTarget st := .inr rfl
  setTarget n st := .inr rfl
  incrSender st := rfl
  setSender n st := rfl
  save n raw st := (MemoryStore.trim_counters _).2
  get b e st := rfl

/-- A file store counts in memory, whether or not it can write the numbers down. -/
instance [Rfc3339] : TargetStore Files where
  incrTarget f := by
    show (FileStore.incrNextTargetSeqNum f).2.store.cache.nextTarget = _ ∨
      (FileStore.incrNextTargetSeqNum f).2.store.cache.nextTarget = _
    rw [FileStore.incrNextTargetSeqNum_run, (FileStore.setCounters_left _ _ f).1]
    exact .inr rfl
  setTarget n f := .inr (congrArg (·.cache.nextTarget) (FileStore.setCounters_left _ _ f).1)
  incrSender f := by
    show (FileStore.incrNextSenderSeqNum f).2.store.cache.nextTarget = _
    rw [FileStore.incrNextSenderSeqNum_run, (FileStore.setCounters_left _ _ f).1]
    rfl
  setSender n f := congrArg (·.cache.nextTarget) (FileStore.setCounters_left _ _ f).1
  save n raw f := by
    show (FileStore.saveMessage n raw f).2.store.cache.nextTarget = _
    cases saved : FileStore.saveMessage n raw f with
    | mk r u =>
      have saving := FileStore.saveMessage_saving n raw f
      rw [saved] at saving
      cases saving with
      | unwritten _ store | torn _ _ store | unrecorded _ _ _ store | recorded _ _ _ store =>
        exact congrArg (·.cache.nextTarget) store
  get b e f := congrArg (·.cache.nextTarget) (FileStore.keeps_getMessages b e f).1

section Runs

variable {σ ω : Type} [Chrono] [MessageStore σ] [TargetStore σ] [Application ω] [Runtime ω]

/-! ## Reloads -/

/-- All messages in the stash have numbers above this one. -/
def Session.StashedAbove (n : Nat) (x : Session σ) : Prop := ∀ e ∈ x.stash.toList, n < e.1

instance (n : Nat) (x : Session σ) : Decidable (x.StashedAbove n) :=
  inferInstanceAs (Decidable (∀ e ∈ x.stash.toList, n < e.1))

/-- A stash is above a number when its entries are. -/
lemma stashedAbove_iff {n : Nat} {x : Session σ} :
    x.StashedAbove n ↔ ∀ (k : Nat) raw, x.stash[k]? = some raw → n < k := by
  constructor
  · exact fun h k raw entry => h (k, raw) (Std.ExtTreeMap.mem_toList_iff_getElem?_eq_some.mpr entry)
  · exact fun h e mem => h e.1 e.2 (Std.ExtTreeMap.mem_toList_iff_getElem?_eq_some.mp mem)

/-- Whether the numbers of the store are read or set anew. -/
def Event.reloads : Event → Bool
  | .refresh _ | .reset .. => true
  | _ => false

/-- Whenever the numbers of the store were read or set anew, the next target number came out below those
in the stash. -/
def Spares : List (Call σ) → σ → Prop
  | [], _ => True
  | c :: cs, st =>
    (c.event.reloads = true → c.session.StashedAbove (nextTargetSeqNum st)) ∧ Spares cs c.session.store

instance : ∀ (cs : List (Call σ)) (st : σ), Decidable (Spares cs st)
  | [], _ => .isTrue trivial
  | c :: cs, _ =>
    have : Decidable (Spares cs c.session.store) := instDecidableSpares cs c.session.store
    inferInstanceAs (Decidable ((_ → _) ∧ _))

/-- No reload so far stranded a message in the stash. -/
def Sys.Spared (s : Sys σ ω) : Prop := Spares s.trace s.session.store

instance (s : Sys σ ω) : Decidable s.Spared := inferInstanceAs (Decidable (Spares ..))

/-! ## The stages of a frame -/

/-- Nothing in the stash is due. -/
def Session.Drained (x : Session σ) : Prop := x.StashedAbove (nextTargetSeqNum x.store)

/-- The session has a connection. -/
def Session.Connected (x : Session σ) : Prop := x.outbound = true ∨ x.inbound = true

/-- The stages of a frame. -/
inductive Turn where
  /-- A message is handled that was not counted so far. -/
  | ready
  /-- One was counted. -/
  | moved
  /-- The connection is about to be given up. -/
  | ending
  /-- Between frames. -/
  | resting

/-- What holds of the stash at a stage. A connection that is lost while a frame is handled takes the
stash with it. -/
def Turn.Of : Turn → Session σ → Prop
  | .ready, x => x.Drained ∧ (x.Connected ∨ x.stash = ∅)
  | .moved, x => (∀ (k : Nat) raw, x.stash[k]? = some raw → nextTargetSeqNum x.store ≤ k) ∧
    (x.Connected ∨ x.Drained)
  | .ending, x => x.Connected ∨ x.Drained
  | .resting, x => x.Drained

/-- A stash without entries is drained. -/
lemma Session.drained_empty {x : Session σ} (none : x.stash = ∅) : x.Drained := by
  rw [Drained, StashedAbove, none]
  simp

/-- A stash without entries is as it should be in every turn. -/
lemma Turn.of_empty (turn : Turn) {x : Session σ} (none : x.stash = ∅) : turn.Of x := by
  have drained := Session.drained_empty none
  cases turn with
  | ready => exact ⟨drained, .inr none⟩
  | moved => exact ⟨fun k raw entry => by simp [none] at entry, .inr drained⟩
  | ending => exact .inr drained
  | resting => exact drained

/-- A stage depends on the stash, the number and the connection. -/
lemma Turn.of_same (turn : Turn) {x y : Session σ} (stash : y.stash = x.stash)
    (target : nextTargetSeqNum y.store = nextTargetSeqNum x.store) (connected : y.Connected ↔ x.Connected)
    (h : turn.Of x) : turn.Of y := by
  have drained : y.Drained ↔ x.Drained := by
    rw [Session.Drained, Session.Drained, Session.StashedAbove, Session.StashedAbove, stash, target]
  cases turn with
  | ready => rwa [Turn.Of, drained, connected, stash]
  | moved => rwa [Turn.Of, drained, connected, stash, target]
  | ending => rwa [Turn.Of, drained, connected]
  | resting => rwa [Turn.Of, drained]

/-- What is not counted yet counts as counted. -/
lemma Turn.moved_of_ready {x : Session σ} (h : Turn.ready.Of x) : Turn.moved.Of x :=
  ⟨fun k raw entry => (stashedAbove_iff.mp h.1 k raw entry).le,
    h.2.imp_right Session.drained_empty⟩

/-- A stage of a frame: the numbers of the stash, as long as no reload stranded one, and what was left
after the frames before. The stash holds messages under their numbers, and while an entry of it is
replayed no more than `room` of them. -/
structure Phase (room : Option Nat) (turn : Turn) (s : Sys σ ω) : Prop where
  room : ∀ b ∈ room, s.session.stash.size ≤ b
  filed : ∀ (k : Nat) raw, s.session.stash[k]? = some raw → Filed k raw
  turn : s.Spared → turn.Of s.session
  done : ∀ c ∈ s.trace, c.event = .done → (s.Spared → c.session.isConnected = true → c.session.Drained) ∧
    ∀ (k : Nat) raw, c.session.stash[k]? = some raw → Filed k raw

variable {room room' : Option Nat} {turn turn' : Turn} {s t u : Sys σ ω}

/-- What follows when no frame ends. -/
lemma Phase.next (h : Phase room turn s) (spared : t.Spared → s.Spared)
    (done : ∀ c ∈ t.trace, c.event = .done → c ∈ s.trace)
    (size : ∀ b ∈ room', t.session.stash.size ≤ b)
    (filed : ∀ (k : Nat) raw, t.session.stash[k]? = some raw → Filed k raw)
    (now : t.Spared → turn.Of s.session → turn'.Of t.session) : Phase room' turn' t where
  room := size
  filed := filed
  turn := fun h' => now h' (h.turn (spared h'))
  done := fun c mem ev => by
    obtain ⟨drained, kept⟩ := h.done c (done c mem ev) ev
    exact ⟨fun h' => drained (spared h'), kept⟩

/-- A phase changes with its turn. -/
lemma Phase.imp (h : Phase room turn s) (now : turn.Of s.session → turn'.Of s.session) :
    Phase room turn' s :=
  h.next id (fun _ mem _ => mem) h.room h.filed fun _ => now

/-- A session that is ready may have moved. -/
lemma Phase.moved (h : Phase room .ready s) : Phase room .moved s := h.imp Turn.moved_of_ready

/-- A session that has moved may be ending. -/
lemma Phase.ending (h : Phase room .moved s) : Phase room .ending s := h.imp And.right

/-- The stage does not depend on the bound. -/
lemma Phase.free (h : Phase room turn s) : Phase none turn s where
  room := by simp
  filed := h.filed
  turn := h.turn
  done := h.done

/-- Sending leaves the stash and the next target number alone, or loses the stash with the
connection. -/
structure Untouched (s t : Sys σ ω) : Prop where
  spared : t.Spared → s.Spared
  done : ∀ c ∈ t.trace, c.event = .done → c ∈ s.trace
  held : t.session.stash = s.session.stash ∧ t.nextTarget = s.nextTarget ∧
    (t.session.Connected ↔ s.session.Connected) ∨ t.session.stash = ∅

/-- A system does not touch its own stash. -/
lemma Untouched.refl (s : Sys σ ω) : Untouched s s :=
  ⟨id, fun _ mem _ => mem, .inl ⟨rfl, rfl, .rfl⟩⟩

/-- What is untouched in two steps is untouched. -/
lemma Untouched.trans (h : Untouched s t) (h' : Untouched t u) : Untouched s u where
  spared := h.spared ∘ h'.spared
  done := fun c mem ev => h.done c (h'.done c mem ev) ev
  held := by
    obtain ⟨stash', target', connected'⟩ | none' := h'.held
    · obtain ⟨stash, target, connected⟩ | none := h.held
      · exact .inl ⟨stash'.trans stash, target'.trans target, connected'.trans connected⟩
      · exact .inr (stash'.trans none)
    · exact .inr none'

/-- Sending keeps every stage. -/
lemma Phase.untouched (h : Phase room turn s) (calm : Untouched s t) : Phase room turn t := by
  refine h.next calm.spared calm.done ?_ ?_ ?_
  all_goals obtain ⟨stash, target, connected⟩ | none := calm.held
  · exact fun b mem => stash ▸ h.room b mem
  · exact fun b mem => by simp [none]
  · exact fun k raw entry => h.filed k raw (stash ▸ entry)
  · exact fun k raw entry => by simp [none] at entry
  · exact fun _ => turn.of_same stash target connected
  · exact fun _ _ => turn.of_empty none

/-- One more call. -/
lemma Untouched.called {e w} (h : Untouched s t) (other : e ≠ .done := by simp) :
    Untouched s (t.called e w) := by
  refine ⟨h.spared ∘ And.right, fun c mem ev => ?_, h.held⟩
  obtain rfl | mem := List.mem_cons.mp mem
  · exact absurd ev other
  · exact h.done c mem ev

/-- A store operation that leaves the next target number. -/
lemma Untouched.stored {e} {st : σ} (h : Untouched s t) (same : nextTargetSeqNum st = t.nextTarget)
    (other : e ≠ .done := by simp) : Untouched s (t.stored e st) := by
  have noted : Untouched s (t.called e t.world) := h.called other
  refine ⟨h.spared ∘ And.right, noted.done, ?_⟩
  exact h.held.imp_left fun held => ⟨held.1, same.trans held.2.1, held.2.2⟩

/-- A reset with nothing in the stash. -/
lemma Untouched.reset {e} {st : σ} (h : Untouched s t) (none : t.session.stash = ∅)
    (other : e ≠ .done := by simp) : Untouched s (t.stored e st) := by
  have noted : Untouched s (t.called e t.world) := h.called other
  exact ⟨h.spared ∘ And.right, noted.done, .inr none⟩

/-- A change of what no stage depends on. -/
lemma Untouched.updated {f : Session σ → Session σ} (h : Untouched s t)
    (store : (f t.session).store = t.session.store := by rfl)
    (stash : (f t.session).stash = t.session.stash := by rfl)
    (connected : (f t.session).Connected ↔ t.session.Connected := by rfl) : Untouched s (t.updated f) := by
  refine ⟨fun spared => h.spared ?_, h.done, ?_⟩
  · rw [Sys.Spared] at spared ⊢
    exact store ▸ spared
  · refine h.held.imp (fun held => ⟨stash.trans held.1, ?_, connected.trans held.2.2⟩) stash.trans
    exact (congrArg nextTargetSeqNum store).trans held.2.1

/-- Reading a clock. -/
lemma Untouched.clock (h : Untouched s t) (w : ω) : Untouched s { t with world := w } :=
  ⟨h.spared, h.done, h.held⟩

/-- A connection that is given up takes the stash with it. -/
lemma GivenUp.untouched (left : GivenUp s t) : Untouched s t := by
  have noted : Untouched s (s.called (.log .disconnecting) s.world) := (Untouched.refl s).called
  have detached : Untouched s ((s.called (.log .disconnecting) s.world).updated detached) :=
    ⟨noted.spared, noted.done, .inr rfl⟩
  refine left.elim (P := Untouched s) (fun cut => ?_) fun _ h => h.called
  cases cut with
  | kept => exact detached
  | reset w now => exact (detached.clock w).reset rfl

/-- Saving a message and counting it leaves the next target number. -/
lemma nextTarget_saveMessageAndIncr (n : Nat) (raw : Bytes) (st : σ) :
    nextTargetSeqNum (MessageStore.saveMessageAndIncr n raw st).2 = nextTargetSeqNum st := by
  have saved := TargetStore.save n raw st
  unfold MessageStore.saveMessageAndIncr
  cases run : saveMessage n raw st with
  | mk r st' =>
    rw [run] at saved
    cases r with
    | error e => exact saved
    | ok _ => exact (TargetStore.incrSender st').trans saved

/-- An act of the outbound half does not touch the stash. -/
lemma SendAct.untouched {fresh} (act : SendAct fresh s t) : Untouched s t := by
  have start := Untouched.refl s
  cases act with
  | quiet | adopt | logon => exact ⟨id, fun _ mem _ => mem, .inl ⟨rfl, rfl, .rfl⟩⟩
  | logout => exact start.called.updated
  | announce => exact (start.clock _).called.called
  | save => exact start.stored (nextTarget_saveMessageAndIncr ..)
  | incrSender => exact start.stored (TargetStore.incrSender _)
  | getMessages b e => exact start.stored (TargetStore.get b e _)
  | cut _ _ left => exact left.untouched
  | compute | toAdmin | toApp | transmit | write => exact start.called

/-- Sending after what left the stash alone. -/
lemma Sends.untouched (sent : Sends t u) (h : Untouched s t) : Untouched s u := by
  induction sent with
  | refl => exact h
  | tail _ act ih => exact ih.trans act.untouched

/-- Neither does dropping the connection. -/
lemma Dropped.untouched (drop : Dropped t u) (h : Untouched s t) : Untouched s u := by
  cases drop with
  | idle => exact h
  | cut _ left => exact h.trans left.untouched

/-- Starting a logout. -/
lemma logOut_untouched {reason} {s0 : Sys σ ω} :
    ⦃fun s => ⌜s = s0⌝⦄ logOut reason ⦃⇓ _ s => ⌜Untouched s0 s⌝⦄ := by
  generalize goal : Untouched s0 = R
  mvcgen [logOut, initiateLogout]
  all_goals
    rename_i s eq _ t
    intro sent
    subst goal eq
    exact Sends.untouched sent (Untouched.refl s).called.updated

/-- Answering a Logon. -/
lemma sendLogonReply_untouched {peerHbi} {s0 : Sys σ ω} :
    ⦃fun s => ⌜s = s0⌝⦄ sendLogonReply peerHbi
    ⦃post⟨fun _ s => ⌜Untouched s0 s⌝, fun _ s => ⌜Untouched s0 s⌝⟩⦄ := by
  generalize goal : Untouched s0 = R
  mvcgen [sendLogonReply]
  all_goals
    rename_i s eq _ t
    intro sent
    subst goal eq
    apply Sends.untouched sent
    have adopted : Untouched s (s.updated (adoptHeartbeat peerHbi)) := by
      cases peerHbi <;> exact (Untouched.refl s).updated
    exact adopted.updated.called.called

/-- Answering a resend range. -/
lemma answerResend_untouched {b e} {s0 : Sys σ ω} :
    ⦃fun s => ⌜s = s0⌝⦄ answerResend b e ⦃⇓ _ s => ⌜Untouched s0 s⌝⦄ := by
  generalize goal : Untouched s0 = R
  have read (s : Sys σ ω) : Untouched s
      (s.stored (.getMessages b e) (MessageStore.getMessages b e s.session.store).2) :=
    (Untouched.refl s).stored (TargetStore.get b e _)
  mvcgen [answerResend, retransmit, Session.getMessages, storeOp, utcNow, sendGapFill_spec]
  all_goals subst goal
  case vc1.isTrue s eq => exact eq ▸ .refl s
  case vc2.isFalse.isTrue.h_1.post.success.h_1.post.success s eq _ _ _ _ _ _ _ all _ _ =>
    exact fun fill _ => eq ▸ Sends.untouched (Resends.sends fill)
      (Sends.untouched (Resends.sends all) ((read s).clock _)).called
  case vc3.isFalse.isTrue.h_1.post.success.h_2 s eq _ _ _ _ _ _ all =>
    exact eq ▸ Sends.untouched (Resends.sends all) ((read s).clock _)
  case vc4.isFalse.isTrue.h_2 s eq _ _ _ => exact eq ▸ read s
  case vc5.isFalse.isFalse.post.success s eq _ _ _ =>
    exact fun fill _ => eq ▸ Sends.untouched (Resends.sends fill) (Untouched.refl s).called

/-! ## Counting -/

/-- What is said of a stage is kept by more calls. -/
lemma Phase.called {e w} (h : Phase room turn s) (other : e ≠ .done := by simp) :
    Phase room turn (s.called e w) :=
  h.untouched ((Untouched.refl s).called other)

/-- A message is counted, or would be if the store could do it. -/
lemma Phase.counted (h : Phase room .ready s) : Phase room .moved s.counted := by
  refine h.next And.right (fun c mem ev => ?_) h.room h.filed fun _ now => ⟨fun k raw entry => ?_, ?_⟩
  · obtain rfl | mem := List.mem_cons.mp mem
    · cases ev
    · exact mem
  · have lt := stashedAbove_iff.mp now.1 k raw entry
    show nextTargetSeqNum (MessageStore.incrNextTargetSeqNum s.session.store).2 ≤ k
    rcases TargetStore.incrTarget s.session.store with same | one
    · exact same ▸ lt.le
    · exact one ▸ (incremented_le _).trans lt
  · exact now.2.imp_right Session.drained_empty

/-- Rejecting a message may count it. -/
lemma Rejected.phase {msg} (rejected : Rejected msg s t) (h : Phase room .ready s) :
    Phase room .moved t := by
  cases rejected with
  | counted _ sent => exact h.counted.untouched (Sends.untouched sent (.refl _))
  | ignored _ sent => exact h.moved.untouched (Sends.untouched sent (.refl _))

/-- A reset or a reload that strands nothing in the stash. -/
lemma Phase.reloaded {e} {st : σ} (h : Phase room turn s) (reloads : e.reloads = true) :
    Phase room turn (s.stored e st) := by
  refine h.next And.right (fun c mem ev => ?_) h.room h.filed fun spared now => ?_
  · obtain rfl | mem := List.mem_cons.mp mem
    · rw [show e = .done from ev] at reloads
      cases reloads
    · exact mem
  · have drained : Session.Drained (s.stored e st).session := spared.1 reloads
    cases turn with
    | ready => exact ⟨drained, now.2⟩
    | moved => exact ⟨fun k raw entry => (stashedAbove_iff.mp drained k raw entry).le, .inr drained⟩
    | ending => exact .inr drained
    | resting => exact drained

/-- Reading a clock. -/
lemma Phase.clock (h : Phase room turn s) (w : ω) : Phase room turn { s with world := w } :=
  h.untouched ((Untouched.refl s).clock w)

end Runs

end QuickFix
