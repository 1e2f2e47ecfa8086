import QuickFix.Session.Run
import QuickFix.Lib.Simulation
import QuickFix.Steps.Handlers

/-!
# Two sessions in lockstep

A session looks at its store through the operations of the store only. So on two stores that answer
alike, as long as the first is fit for that, a session does the same: it makes the same calls with the
same answers, and its state is the same but for the store.
-/

namespace QuickFix

set_option linter.unusedSectionVars false

open MessageStore

/-! ## Stores that answer alike -/

section Twins

variable {σ τ : Type}

/-- Two operations end alike, unless the first leaves a store that is not fit. -/
def Alike {α : Type} (rel : σ → τ → Prop) (fit : σ → Prop) (r : Except Error α × σ)
    (r' : Except Error α × τ) : Prop :=
  ¬ fit r.2 ∨ r.1 = r'.1 ∧ rel r.2 r'.2

/-- The stores show the same counters and time. -/
structure Agrees [MessageStore σ] [MessageStore τ] (a : σ) (b : τ) : Prop where
  nextSender : nextSenderSeqNum b = nextSenderSeqNum a
  nextTarget : nextTargetSeqNum b = nextTargetSeqNum a
  creationTime : MessageStore.creationTime b = MessageStore.creationTime a

/-- Stores that show the same, and whose operations end alike. -/
structure Twins (σ τ : Type) [MessageStore σ] [MessageStore τ] where
  rel : σ → τ → Prop
  fit : σ → Prop
  agrees : ∀ {a b}, rel a b → Agrees a b
  incrSender : ∀ {a b}, rel a b → Alike rel fit (incrNextSenderSeqNum a) (incrNextSenderSeqNum b)
  incrTarget : ∀ {a b}, rel a b → Alike rel fit (incrNextTargetSeqNum a) (incrNextTargetSeqNum b)
  setSender : ∀ {a b n}, n < 2 ^ 64 → rel a b →
    Alike rel fit (setNextSenderSeqNum n a) (setNextSenderSeqNum n b)
  setTarget : ∀ {a b n}, n < 2 ^ 64 → rel a b →
    Alike rel fit (setNextTargetSeqNum n a) (setNextTargetSeqNum n b)
  save : ∀ {a b n} raw, n < 2 ^ 64 → rel a b →
    Alike rel fit (saveMessageAndIncr n raw a) (saveMessageAndIncr n raw b)
  get : ∀ {a b} m n, rel a b →
    Alike rel fit (MessageStore.getMessages m n a) (MessageStore.getMessages m n b)
  refresh : ∀ {a b} now, rel a b →
    Alike rel fit (MessageStore.refresh now a) (MessageStore.refresh now b)
  reset : ∀ {a b} now, rel a b → Alike rel fit (MessageStore.reset now a) (MessageStore.reset now b)

end Twins

/-! ## Sessions that are alike -/

section Alike

variable {σ τ ω : Type}

/-- The session on another store. -/
def Session.onto (st : τ) (s : Session σ) : Session τ where
  cfg := s.cfg
  dictionary := s.dictionary
  adminDictionary := s.adminDictionary
  store := st
  inbound := s.inbound
  outbound := s.outbound
  receivedLogon := s.receivedLogon
  sentLogon := s.sentLogon
  sentLogout := s.sentLogout
  sentReset := s.sentReset
  receivedReset := s.receivedReset
  heartBtInt := s.heartBtInt
  lastSent := s.lastSent
  lastReceived := s.lastReceived
  testRequestCounter := s.testRequestCounter
  resendRange := s.resendRange
  lastReceivedSeq := s.lastReceivedSeq
  stash := s.stash
  lastProcessedWasQueued := s.lastProcessedWasQueued
  sendNextExpected := s.sendNextExpected
  schedule := s.schedule
  logonSchedule := s.logonSchedule
  pendingLogon := s.pendingLogon

section Onto

variable [MessageStore σ] [MessageStore τ] {a : Session σ} {st : τ}

/-- Exchanging the store keeps the next sender number. -/
lemma Agrees.sender_onto (h : Agrees a.store st) :
    nextSenderSeqNum (a.onto st).store = nextSenderSeqNum a.store := h.nextSender

/-- Exchanging the store keeps the next target number. -/
lemma Agrees.target_onto (h : Agrees a.store st) :
    nextTargetSeqNum (a.onto st).store = nextTargetSeqNum a.store := h.nextTarget

/-- Exchanging the store keeps the creation time. -/
lemma Agrees.created_onto (h : Agrees a.store st) :
    MessageStore.creationTime (a.onto st).store = MessageStore.creationTime a.store := h.creationTime

end Onto

/-- Calls that are the same, in sessions that are. -/
structure Call.Like (rel : σ → τ → Prop) (c : Call σ) (d : Call τ) : Prop where
  event : d.event = c.event
  session : d.session = c.session.onto d.session.store
  stores : rel c.session.store d.session.store

/-- Systems that are the same but for the store. -/
structure Sys.Like (rel : σ → τ → Prop) (s : Sys σ ω) (t : Sys τ ω) : Prop where
  world : t.world = s.world
  session : t.session = s.session.onto t.session.store
  stores : rel s.session.store t.session.store
  trace : List.Forall₂ (Call.Like rel) s.trace t.trace

/-- A store of the system was not fit at some time. -/
def Sys.Unfit (fit : σ → Prop) (s : Sys σ ω) : Prop :=
  ¬ fit s.session.store ∨ ∃ c ∈ s.trace, ¬ fit c.session.store

variable {rel : σ → τ → Prop} {fit : σ → Prop} {s : Sys σ ω} {t : Sys τ ω}

/-- What the session has but for the store may change on both sides. -/
lemma Sys.Like.updated (h : s.Like rel t) {f : Session σ → Session σ} {g : Session τ → Session τ}
    (store : (f s.session).store = s.session.store)
    (same : g (s.session.onto t.session.store) = (f s.session).onto t.session.store) :
    (s.updated f).Like rel (t.updated g) where
  world := h.world
  session := by
    show g t.session = (f s.session).onto (g t.session).store
    rw [h.session, same]
    rfl
  stores := by
    show rel (f s.session).store (g t.session).store
    rw [h.session, same, store]
    exact h.stores
  trace := h.trace

/-- A call keeps two systems alike. -/
lemma Sys.Like.called (h : s.Like rel t) (e w) : (s.called e w).Like rel (t.called e w) where
  world := rfl
  session := h.session
  stores := h.stores
  trace := .cons ⟨rfl, h.session, h.stores⟩ h.trace

/-- A store operation with corresponding results keeps two systems alike. -/
lemma Sys.Like.stored (h : s.Like rel t) (e) {a b} (stores : rel a b) :
    (s.stored e a).Like rel (t.stored e b) where
  world := h.world
  session := by
    show { t.session with store := b } = _
    rw [h.session]
    rfl
  stores := stores
  trace := .cons ⟨rfl, h.session, h.stores⟩ h.trace

/-- A store that is unfit stays so when the session is updated. -/
lemma Sys.Unfit.updated (h : s.Unfit fit) {f : Session σ → Session σ}
    (store : ∀ x, (f x).store = x.store) : (s.updated f).Unfit fit := by
  refine h.imp_left fun unfit => ?_
  show ¬ fit (f s.session).store
  rwa [store]

/-- A store that is unfit stays so at a call. -/
lemma Sys.Unfit.called (h : s.Unfit fit) (e w) : (s.called e w).Unfit fit :=
  h.imp_right fun ⟨c, mem, unfit⟩ => ⟨c, List.mem_cons_of_mem _ mem, unfit⟩

/-- A history that holds an unfit store keeps holding it. -/
lemma Sys.Unfit.stored (h : s.Unfit fit) (e st) : (s.stored e st).Unfit fit := by
  refine .inr ?_
  rcases h with unfit | ⟨c, mem, unfit⟩
  · exact ⟨_, List.mem_cons_self, unfit⟩
  · exact ⟨c, List.mem_cons_of_mem _ mem, unfit⟩

end Alike

/-! ## Steps -/

section Steps

variable {σ τ ω : Type} [Chrono] [MessageStore σ] [MessageStore τ] [Application ω] [Runtime ω]
variable (twins : Twins σ τ)

/-- Given `P`, a session does the same on both stores. -/
abbrev Lockstep {α : Type} (P : Prop) (x : SessionM σ ω α) (y : SessionM τ ω α) : Prop :=
  Simulates (Sys.Like twins.rel) (Sys.Unfit twins.fit) P x y

variable {twins} {P : Prop} {α β ε : Type}

namespace Session

/-- The session as it is now. -/
lemma current_sim [Nonempty (Sys τ ω)] {k : Session σ → SessionM σ ω α} {l : Session τ → SessionM τ ω α}
    (rest : ∀ a st, Lockstep twins (P ∧ Agrees a.store st) (k a) (l (a.onto st))) :
    Lockstep twins P (current >>= k) (current >>= l) where
  stays s out := by
    obtain ⟨t⟩ := ‹Nonempty (Sys τ ω)›
    exact (rest s.session t.session.store).stays s out
  ends given s t like := by
    have last := (rest s.session t.session.store).ends ⟨given, twins.agrees like.stores⟩ s t like
    rw [← like.session] at last
    exact last

/-- Among steps that can fail. -/
lemma current_simE [Nonempty (Sys τ ω)] {k : Session σ → ExceptT ε (SessionM σ ω) α}
    {l : Session τ → ExceptT ε (SessionM τ ω) α}
    (rest : ∀ a st, Lockstep twins (P ∧ Agrees a.store st) (k a).run (l (a.onto st)).run) :
    Lockstep twins P (lift current >>= k).run (lift current >>= l).run :=
  current_sim rest

/-- An update that the exchange of stores commutes with corresponds to itself. -/
lemma update_sim {f : Session σ → Session σ} {g : Session τ → Session τ}
    (store : ∀ x, (f x).store = x.store)
    (same : ∀ x st, Agrees x.store st → g (x.onto st) = (f x).onto st) :
    Lockstep (ω := ω) twins P (update f) (update g) where
  stays _ out := out.updated store
  ends _ _ _ like := .inr ⟨rfl, like.updated (store _) (same _ _ (twins.agrees like.stores))⟩

/-- So does such an update where an error may be thrown. -/
lemma update_simE {f : Session σ → Session σ} {g : Session τ → Session τ}
    (store : ∀ x, (f x).store = x.store)
    (same : ∀ x st, Agrees x.store st → g (x.onto st) = (f x).onto st) :
    Lockstep (ω := ω) twins P (lift (update f) : ExceptT ε (SessionM σ ω) Unit).run
      (lift (update g) : ExceptT ε (SessionM τ ω) Unit).run :=
  (update_sim store same).liftE

/-- Noting a call does not look at the store. -/
lemma note_sim {e} : Lockstep (ω := ω) twins P (note e) (note e) where
  stays s out := out.called e s.world
  ends _ s t like := .inr ⟨rfl, by
    show (s.called e s.world).Like twins.rel (t.called e t.world)
    rw [like.world]
    exact like.called e s.world⟩

/-- Reading a clock does not look at the store. -/
lemma clock_sim {read : ω → α × ω} : Lockstep twins P (clock read) (clock read) where
  stays s out := out
  ends _ s t like := .inr (by
    show (read s.world).1 = (read t.world).1 ∧ Sys.Like twins.rel { s with world := (read s.world).2 }
      { t with world := (read t.world).2 }
    rw [like.world]
    exact ⟨rfl, rfl, like.session, like.stores, like.trace⟩)

/-- Calling the environment does not look at the store. -/
lemma invoke_sim {event : α → Event} {f : ω → α × ω} :
    Lockstep twins P (invoke event f) (invoke event f) where
  stays s out := out.called _ _
  ends _ s t like := .inr (by
    show (f s.world).1 = (f t.world).1 ∧ (s.called (event (f s.world).1) (f s.world).2).Like twins.rel
      (t.called (event (f t.world).1) (f t.world).2)
    rw [like.world]
    exact ⟨rfl, like.called _ _⟩)

/-- What an operation on the store does to the system. -/
lemma storeOp_run {event : Except Error α → Event} {op : σ → Except Error α × σ} (s : Sys σ ω) :
    (storeOp event op).run.run s =
      ((op s.session.store).1, s.stored (event (op s.session.store).1) (op s.session.store).2) := by
  dsimp only [storeOp, ExceptT.run, StateT.run, bind, ExceptT.bind, ExceptT.mk, StateT.bind, get, getThe,
    MonadStateOf.get, liftM, monadLift, MonadLift.monadLift, ExceptT.lift, StateT.get, Functor.map, StateT.map,
    ExceptT.bindCont, pure]
  cases (op s.session.store).1 <;> rfl

/-- A store operation corresponds to one that is alike. -/
lemma storeOp_sim {event : Except Error α → Event} {op : σ → Except Error α × σ}
    {op' : τ → Except Error α × τ}
    (alike : P → ∀ {a b}, twins.rel a b → Alike twins.rel twins.fit (op a) (op' b)) :
    Lockstep (ω := ω) twins P (storeOp event op).run (storeOp event op').run where
  stays s out := by
    rw [storeOp_run]
    exact out.stored _ _
  ends given s t like := by
    rw [storeOp_run, storeOp_run]
    rcases alike given like.stores with unfit | ⟨same, rel⟩
    · exact .inl (.inl unfit)
    · exact .inr ⟨same, same ▸ like.stored _ rel⟩

variable [Nonempty (Sys τ ω)]

/-- Ignoring an error keeps the correspondence. -/
lemma ignoring_sim {x : ExceptT ε (SessionM σ ω) α} {y : ExceptT ε (SessionM τ ω) α}
    (h : Lockstep twins P x.run y.run) : Lockstep twins P (ignoring x) (ignoring y) :=
  h.bind fun _ => .pure ()

/-- Both stores are reset. -/
lemma storeReset_sim {site} :
    Lockstep (ω := ω) twins P (storeReset site).run (storeReset site).run := by
  apply Simulates.bindE clock_sim.liftE
  intro now
  exact storeOp_sim fun _ => twins.reset now

/-- Both stores are reloaded. -/
lemma storeRefresh_sim : Lockstep (ω := ω) twins P storeRefresh.run storeRefresh.run := by
  apply Simulates.bindE clock_sim.liftE
  intro now
  exact storeOp_sim fun _ => twins.refresh now

/-! ## The outbound half -/

/-- Both sessions give up their connection. -/
lemma disconnect_sim : Lockstep (ω := ω) twins P disconnect disconnect := by
  apply current_sim
  intro a st
  apply Simulates.ite _ (.pure ())
  refine note_sim.bind fun _ => ?_
  refine Simulates.bind (update_sim (fun _ => rfl) fun _ _ _ => rfl) fun _ => ?_
  apply Simulates.iteThen (ignoring_sim storeReset_sim)
  intro _
  exact .ite invoke_sim (.pure ())

/-- The header that is filled shows the next sender number. -/
lemma filledHeader_onto {a : Session σ} {st : τ} (agree : Agrees a.store st) (now msg) :
    (a.onto st).filledHeader now msg = a.filledHeader now msg := by
  unfold filledHeader
  rw [agree.sender_onto]
  rfl

/-- Both sessions fill in the same header. -/
lemma fillHeader_sim {msg} : Lockstep (ω := ω) twins P (fillHeader msg) (fillHeader msg) := by
  apply current_sim
  intro a st
  apply clock_sim.bind
  intro now
  apply Simulates.right (fun given => by rw [filledHeader_onto given.2])
  exact .pure _

/-- Both sessions hand on the same bytes. -/
lemma transmit_sim {raw} : Lockstep (ω := ω) twins P (transmit raw) (transmit raw) := by
  refine note_sim.bind fun _ => ?_
  apply current_sim
  intro a st
  apply Simulates.ite _ (.pure ())
  apply invoke_sim.bind
  intro accepted
  apply Simulates.ite _ disconnect_sim
  apply clock_sim.bind
  intro now
  exact update_sim (fun _ => rfl) fun _ _ _ => rfl

/-- Both applications see the same outgoing message. -/
lemma outgoingCallback_sim {msg} :
    Lockstep (ω := ω) twins P (outgoingCallback msg).run (outgoingCallback msg).run := by
  apply Simulates.iteE invoke_sim.liftE
  apply Simulates.bindE invoke_sim.liftE
  intro sent
  cases sent with
  | some m => exact .pureE m
  | none => exact .throwE _

/-- Both stores keep the same bytes. -/
lemma persist_sim {seq raw} (bound : seq < 2 ^ 64) :
    Lockstep (ω := ω) twins P (persist seq raw).run (persist seq raw).run := by
  apply current_simE
  intro a st
  apply Simulates.iteE
  · exact storeOp_sim fun _ => twins.save raw bound
  · exact storeOp_sim fun _ => twins.incrSender

/-- Both sessions send the same message. -/
lemma sendMessage_sim {msg} :
    Lockstep (ω := ω) twins P (sendMessage msg).run (sendMessage msg).run := by
  apply Simulates.bindE fillHeader_sim.liftE
  intro filled
  apply Simulates.bindE outgoingCallback_sim
  intro sent
  apply current_simE
  intro a st
  show Lockstep twins _ (seqNumOf (a.canonicalized sent) >>= _).run (seqNumOf (a.canonicalized sent) >>= _).run
  unfold seqNumOf
  cases number : (a.canonicalized sent).seqNum with
  | error e => exact .throwE _
  | ok seq =>
    apply Simulates.bindE (persist_sim (Message.seqNum_lt number))
    intro _
    exact .iteE transmit_sim.liftE (.pureE ())

/-- Both sessions disconnect at the same error. -/
lemma orDisconnect_sim {x : ExceptT Error (SessionM σ ω) α} {y : ExceptT Error (SessionM τ ω) α}
    (h : Lockstep twins P x.run y.run) : Lockstep twins P (orDisconnect x).run (orDisconnect y).run :=
  h.adaptE _

/-- The Logon that starts a logon exchange shows the counters. -/
lemma logonRequest_onto {a : Session σ} {st : τ} (agree : Agrees a.store st) :
    (a.onto st).logonRequest = a.logonRequest ∧ (a.onto st).shouldReset = a.shouldReset := by
  have resets : (a.onto st).shouldReset = a.shouldReset := by
    unfold shouldReset
    rw [agree.sender_onto, agree.target_onto]
    rfl
  refine ⟨?_, resets⟩
  rw [logonRequest, logonRequest, resets, agree.target_onto]
  rfl

/-- The Logon reply does not depend on the store. -/
lemma logonReply_onto {a : Session σ} {st : τ} (agree : Agrees a.store st) :
    (a.onto st).logonReply = a.logonReply := by
  rw [logonReply, logonReply, agree.target_onto]
  rfl

/-- Both sessions send their Logon. -/
lemma sendLogon_sim : Lockstep (ω := ω) twins P sendLogon.run sendLogon.run := by
  apply current_simE
  intro a st
  refine Simulates.bindE (update_simE (fun _ => rfl) ?_) fun _ => ?_
  · intro x st agree
    rw [(logonRequest_onto agree).2]
    rfl
  apply Simulates.right (fun given => by rw [(logonRequest_onto given.2).1])
  refine Simulates.bindE note_sim.liftE fun _ => ?_
  exact orDisconnect_sim sendMessage_sim

/-- Both sessions answer a Logon. -/
lemma sendLogonReply_sim {hbi} :
    Lockstep (ω := ω) twins P (sendLogonReply hbi).run (sendLogonReply hbi).run := by
  refine Simulates.bindE (update_simE ?_ ?_) fun _ => ?_
  · intro x
    cases hbi <;> rfl
  · intro x st _
    cases hbi <;> rfl
  apply current_simE
  intro a st
  refine Simulates.bindE (update_simE (fun _ => rfl) fun _ _ _ => rfl) fun _ => ?_
  refine Simulates.bindE note_sim.liftE fun _ => ?_
  apply Simulates.right (fun given => by rw [logonReply_onto given.2])
  refine Simulates.bindE note_sim.liftE fun _ => ?_
  exact sendMessage_sim

/-- Both sessions start a logout. -/
lemma initiateLogout_sim {reason} :
    Lockstep (ω := ω) twins P (initiateLogout reason).run (initiateLogout reason).run := by
  refine Simulates.bindE note_sim.liftE fun _ => ?_
  refine Simulates.bindE (update_simE (fun _ => rfl) fun _ _ _ => rfl) fun _ => ?_
  exact sendMessage_sim

/-- Both stores count, or both fail to. -/
lemma incrTarget_simE :
    Lockstep (ω := ω) twins P incrNextTargetSeqNum.run incrNextTargetSeqNum.run :=
  storeOp_sim fun _ => twins.incrTarget

/-- Both sessions send the same Reject. -/
lemma sendReject_sim {msg rej} :
    Lockstep (ω := ω) twins P (sendReject msg rej).run (sendReject msg rej).run := by
  apply current_simE
  intro a st
  apply Simulates.right (fun given => by rw [given.2.target_onto])
  apply Simulates.iteThenE incrTarget_simE
  intro _
  exact sendMessage_sim

/-- Both sessions send the same BusinessMessageReject. -/
lemma sendBusinessReject_sim {msg} :
    Lockstep (ω := ω) twins P (sendBusinessReject msg).run (sendBusinessReject msg).run := by
  refine Simulates.bindE incrTarget_simE fun _ => ?_
  apply current_simE
  intro a st
  exact sendMessage_sim

/-- Both sessions record the same resend range. -/
lemma expect_sim {b fullEnd chunkEnd} :
    Lockstep (ω := ω) twins P (expect b fullEnd chunkEnd) (expect b fullEnd chunkEnd) :=
  note_sim.bind fun _ => update_sim (fun _ => rfl) fun _ _ _ => rfl

/-- Both sessions ask for the same numbers. -/
lemma sendResendRequest_sim {b n} :
    Lockstep (ω := ω) twins P (sendResendRequest b n).run (sendResendRequest b n).run := by
  apply current_simE
  intro a st
  refine Simulates.bindE note_sim.liftE fun _ => ?_
  refine Simulates.bindE expect_sim.liftE fun _ => ?_
  exact sendMessage_sim

/-- Both sessions ask for the next chunk. -/
lemma checkResendChunks_sim : Lockstep (ω := ω) twins P checkResendChunks checkResendChunks := by
  apply current_sim
  intro a st
  rw [show (a.onto st).resendRange = a.resendRange from rfl]
  cases a.resendRange with
  | none => exact .pure ()
  | some range =>
    obtain ⟨b, fullEnd, chunkEnd⟩ := range
    apply Simulates.right (fun given => by rw [given.2.target_onto])
    apply Simulates.ite (.pure ())
    apply Simulates.ite
    · refine note_sim.bind fun _ => ?_
      exact ignoring_sim sendResendRequest_sim
    · exact note_sim.bind fun _ => update_sim (fun _ => rfl) fun _ _ _ => rfl

/-- Both sessions send the same gap fill. -/
lemma sendGapFill_sim {b n} : Lockstep (ω := ω) twins P (sendGapFill b n) (sendGapFill b n) := by
  apply fillHeader_sim.bind
  intro m
  apply current_sim
  intro a st
  apply clock_sim.bind
  intro now
  apply invoke_sim.bind
  intro sent
  exact transmit_sim

/-! ## The inbound half -/

/-- Both sessions reject the message. -/
lemma reject_sim {msg rej} : Lockstep (ω := ω) twins P (reject msg rej) (reject msg rej) :=
  ignoring_sim sendReject_sim

/-- Both sessions log out, and ignore that this fails. -/
lemma logOut_sim {reason} : Lockstep (ω := ω) twins P (logOut reason) (logOut reason) :=
  ignoring_sim initiateLogout_sim

/-- Both sessions come to the same verdict on SendingTime. -/
lemma verifySendingTime_sim {msg} :
    Lockstep (ω := ω) twins P (verifySendingTime msg) (verifySendingTime msg) := by
  apply current_sim
  intro a st
  cases msg.headerTime Tags.sendingTime with
  | none => exact reject_sim.bind fun _ => .pure _
  | some sent =>
    apply Simulates.ite _ (.pure _)
    apply clock_sim.bind
    intro now
    apply Simulates.ite _ (.pure _)
    refine reject_sim.bind fun _ => ?_
    exact logOut_sim.bind fun _ => .pure _

/-- Both sessions come to the same verdict on the CompIDs. -/
lemma verifyCompIds_sim {msg} :
    Lockstep (ω := ω) twins P (verifyCompIds msg) (verifyCompIds msg) := by
  apply current_sim
  intro a st
  apply Simulates.ite _ (.pure _)
  refine reject_sim.bind fun _ => ?_
  exact logOut_sim.bind fun _ => .pure _

/-- Both sessions stash the message. -/
lemma stashMessage_sim {seq msg recovery} :
    Lockstep (ω := ω) twins P (stashMessage seq msg recovery) (stashMessage seq msg recovery) :=
  note_sim.bind fun _ => update_sim (fun _ => rfl) fun _ _ _ => rfl

/-- A message that is too high is so for both. -/
lemma onTargetTooHigh_sim {msg seq expected} : Lockstep (ω := ω) twins P
    (onTargetTooHigh msg seq expected).run (onTargetTooHigh msg seq expected).run := by
  apply current_simE
  intro a st
  refine Simulates.bindE stashMessage_sim.liftE fun _ => ?_
  exact .iteE (orDisconnect_sim sendResendRequest_sim) (.pureE ())

/-- A message that is too low is so for both. -/
lemma onTargetTooLow_sim {msg seq expected} : Lockstep (ω := ω) twins P
    (onTargetTooLow msg seq expected).run (onTargetTooLow msg seq expected).run := by
  apply Simulates.iteE
  · refine Simulates.bindE logOut_sim.liftE fun _ => ?_
    exact .throwE _
  · apply current_simE
    intro a st
    apply Simulates.iteE _ (.pureE _)
    cases msg.headerTime Tags.origSendingTime with
    | none => exact .bindE reject_sim.liftE fun _ => .pureE _
    | some orig =>
      cases msg.headerTime Tags.sendingTime with
      | none => exact .pureE _
      | some sent =>
        apply Simulates.iteE _ (.pureE _)
        refine Simulates.bindE reject_sim.liftE fun _ => ?_
        exact .bindE logOut_sim.liftE fun _ => .pureE _

/-- Both sessions come to the same verdict on the number. -/
lemma verifySeqNum_sim {msg high low} : Lockstep (ω := ω) twins P
    (verifySeqNum msg high low).run (verifySeqNum msg high low).run := by
  apply Simulates.iteE _ (.pureE _)
  cases msg.seqNum with
  | error e => exact .bindE reject_sim.liftE fun _ => .pureE _
  | ok seq =>
    apply current_simE
    intro a st
    apply Simulates.right (fun given => by rw [given.2.target_onto])
    apply Simulates.iteE
    · exact .bindE onTargetTooHigh_sim fun _ => .pureE _
    · apply Simulates.iteE _ (.pureE _)
      exact .iteE (.pureE _) onTargetTooLow_sim

/-- Both applications see the same incoming message. -/
lemma incomingCallback_sim {msg} :
    Lockstep (ω := ω) twins P (incomingCallback msg) (incomingCallback msg) :=
  .ite invoke_sim invoke_sim

/-- Both sessions refuse what the application refuses. -/
lemma refuse_sim {msg e} : Lockstep (ω := ω) twins P (refuse msg e).run (refuse msg e).run := by
  cases e with
  | rejectLogon reason =>
    refine Simulates.bindE (ignoring_sim incrTarget_simE).liftE fun _ => ?_
    exact .bindE logOut_sim.liftE fun _ => .throwE _
  | reject rej => exact .bindE reject_sim.liftE fun _ => .pureE _
  | unsupportedMessageType =>
    exact .bindE (ignoring_sim sendBusinessReject_sim).liftE fun _ => .pureE _

/-- Both applications come to the same verdict. -/
lemma verifyCallback_sim {msg} :
    Lockstep (ω := ω) twins P (verifyCallback msg).run (verifyCallback msg).run := by
  apply Simulates.bindE clock_sim.liftE
  intro now
  refine Simulates.bindE (update_simE (fun _ => rfl) fun _ _ _ => rfl) fun _ => ?_
  apply Simulates.bindE incomingCallback_sim.liftE
  intro answer
  cases answer with
  | ok _ => exact .pureE _
  | error e => exact refuse_sim

/-- Both sessions come to the same verdict on a message. -/
lemma verify_sim {msg high low} :
    Lockstep (ω := ω) twins P (verify msg high low).run (verify msg high low).run := by
  apply current_simE
  intro a st
  apply Simulates.iteE (.throwE _)
  apply Simulates.bindE verifySendingTime_sim.liftE
  intro flow
  cases flow with
  | stop => exact .pureE _
  | «continue» =>
    apply Simulates.bindE verifyCompIds_sim.liftE
    intro flow
    cases flow with
    | stop => exact .pureE _
    | «continue» =>
      apply Simulates.bindE verifySeqNum_sim
      intro flow
      cases flow with
      | stop => exact .pureE _
      | «continue» => exact verifyCallback_sim

/-! ## Resends -/

/-- Both sessions send one stored message again. -/
lemma retransmitOne_sim {stored now gb seq} : Lockstep (ω := ω) twins P
    (retransmitOne stored now gb seq) (retransmitOne stored now gb seq) := by
  unfold retransmitOne
  cases resendable stored seq with
  | none => exact .pure _
  | some m =>
    apply invoke_sim.bind
    intro sent
    cases sent with
    | none => exact .pure _
    | some m =>
      cases gb with
      | none => exact transmit_sim.bind fun _ => .pure _
      | some gb =>
        refine sendGapFill_sim.bind fun _ => ?_
        exact transmit_sim.bind fun _ => .pure _

/-- Both sessions send the stored messages again. -/
lemma retransmitAll_sim {stored now seqs gb} : Lockstep (ω := ω) twins P
    (retransmitAll stored now seqs gb) (retransmitAll stored now seqs gb) := by
  induction seqs generalizing gb with
  | nil => exact .pure _
  | cons seq seqs ih => exact retransmitOne_sim.bind fun _ => ih

/-- Both sessions answer a request for a range. -/
lemma retransmit_sim {b e} : Lockstep (ω := ω) twins P (retransmit b e) (retransmit b e) := by
  have read : Lockstep (ω := ω) twins P (getMessages b e).run (getMessages b e).run :=
    storeOp_sim fun _ => twins.get b e
  apply Simulates.bind read
  intro stored
  cases stored with
  | error e => exact .pure _
  | ok stored =>
    apply clock_sim.bind
    intro now
    apply current_sim
    intro a st
    apply retransmitAll_sim.bind
    intro gap
    cases gap with
    | none => exact .pure _
    | some gb => exact note_sim.bind fun _ => sendGapFill_sim

/-- Both sessions answer a ResendRequest. -/
lemma answerResend_sim {b e} :
    Lockstep (ω := ω) twins P (answerResend b e) (answerResend b e) := by
  apply Simulates.ite (.pure _)
  apply current_sim
  intro a st
  apply Simulates.ite retransmit_sim
  exact note_sim.bind fun _ => sendGapFill_sim

/-! ## Handlers -/

/-- Both sessions count, or both disconnect. -/
lemma incrTarget_sim : Lockstep (ω := ω) twins P incrTarget.run incrTarget.run :=
  orDisconnect_sim incrTarget_simE

/-- Both sessions look at the same schedule. -/
lemma logonTimeGood_sim {msg} :
    Lockstep (ω := ω) twins P (logonTimeGood msg) (logonTimeGood msg) := by
  apply current_sim
  intro a st
  apply Simulates.ite _ (.pure _)
  cases msg.headerTime Tags.sendingTime with
  | none => exact .pure _
  | some sent => exact clock_sim.bind fun now => .pure _

/-- Both sessions reset as the peer asks. -/
lemma peerReset_sim {msg} : Lockstep (ω := ω) twins P (peerReset msg).run (peerReset msg).run := by
  apply Simulates.iteE _ (.pureE _)
  apply current_simE
  intro a st
  refine Simulates.bindE (update_simE (fun _ => rfl) fun _ _ _ => rfl) fun _ => ?_
  exact .iteE (orDisconnect_sim storeReset_sim) (.pureE _)

/-- Both acceptors reset as they are configured to. -/
lemma acceptorResets_sim : Lockstep (ω := ω) twins P acceptorResets acceptorResets := by
  apply current_sim
  intro a st
  apply Simulates.iteThen (ignoring_sim storeRefresh_sim)
  intro _
  exact .ite (ignoring_sim storeReset_sim) (.pure _)

/-- Both sessions reset before a Logon is verified. -/
lemma logonResets_sim {msg} :
    Lockstep (ω := ω) twins P (logonResets msg).run (logonResets msg).run := by
  refine Simulates.bindE peerReset_sim fun _ => ?_
  apply current_simE
  intro a st
  apply Simulates.iteE (.throwE _)
  exact .iteE acceptorResets_sim.liftE (.pureE _)

/-- Both sessions send again what NextExpectedMsgSeqNum asks for. -/
lemma retransmitFrom_sim {msg} :
    Lockstep (ω := ω) twins P (retransmitFrom msg).run (retransmitFrom msg).run := by
  apply current_simE
  intro a st
  apply Simulates.iteE _ (.pureE _)
  cases msg.bodyU64 Tags.nextExpectedMsgSeqNum with
  | none => exact .pureE _
  | some peer =>
    apply Simulates.right (fun given => by rw [given.2.sender_onto])
    apply Simulates.iteE
    · exact .bindE logOut_sim.liftE fun _ => .throwE _
    · exact .iteE (.pureE _) (.pureE _)

/-- Both sessions count a Logon, or ask for what is missing. -/
lemma countLogon_sim {msg} : Lockstep (ω := ω) twins P (countLogon msg).run (countLogon msg).run := by
  unfold countLogon
  cases msg.seqNum with
  | error e => exact .throwE _
  | ok seq =>
    apply current_simE
    intro a st
    apply Simulates.right (fun given => by rw [given.2.target_onto])
    apply Simulates.iteE _ incrTarget_sim
    apply Simulates.iteE _ onTargetTooHigh_sim
    refine Simulates.bindE stashMessage_sim.liftE fun _ => ?_
    refine Simulates.bindE note_sim.liftE fun _ => ?_
    exact expect_sim.liftE

/-- Both acceptors answer a Logon. -/
lemma answerLogon_sim {msg} :
    Lockstep (ω := ω) twins P (answerLogon msg).run (answerLogon msg).run := by
  apply current_simE
  intro a st
  apply Simulates.iteThenE (orDisconnect_sim sendLogonReply_sim)
  intro _
  exact update_simE (fun _ => rfl) fun _ _ _ => rfl

/-- Both sessions are logged on. -/
lemma completeLogon_sim {start} :
    Lockstep (ω := ω) twins P (completeLogon start) (completeLogon start) := by
  apply current_sim
  intro a st
  apply Simulates.right (fun given => by rw [given.2.sender_onto])
  apply Simulates.iteThen invoke_sim
  intro _
  cases start with
  | none => exact .pure _
  | some b => exact note_sim.bind fun _ => answerResend_sim

/-- Both sessions accept a Logon. -/
lemma acceptLogon_sim {msg} :
    Lockstep (ω := ω) twins P (acceptLogon msg).run (acceptLogon msg).run := by
  refine Simulates.bindE (update_simE (fun _ => rfl) fun _ _ _ => rfl) fun _ => ?_
  apply Simulates.bindE retransmitFrom_sim
  intro start
  refine Simulates.bindE answerLogon_sim fun _ => ?_
  refine Simulates.bindE countLogon_sim fun _ => ?_
  exact completeLogon_sim.liftE

/-- Both sessions handle a Logon. -/
lemma handleLogon_sim {msg} :
    Lockstep (ω := ω) twins P (handleLogon msg).run (handleLogon msg).run := by
  apply Simulates.bindE logonTimeGood_sim.liftE
  intro good
  apply Simulates.iteE _ (.throwE _)
  refine Simulates.bindE logonResets_sim fun _ => ?_
  apply Simulates.bindE verify_sim
  intro flow
  cases flow with
  | stop => exact .pureE _
  | «continue» => exact acceptLogon_sim

/-- Both sessions handle a Heartbeat or a Reject. -/
lemma handlePlainAdmin_sim {msg} :
    Lockstep (ω := ω) twins P (handlePlainAdmin msg).run (handlePlainAdmin msg).run := by
  apply Simulates.bindE verify_sim
  intro flow
  cases flow with
  | stop => exact .pureE _
  | «continue» => exact incrTarget_sim

/-- Both sessions answer a TestRequest. -/
lemma handleTestRequest_sim {msg} :
    Lockstep (ω := ω) twins P (handleTestRequest msg).run (handleTestRequest msg).run := by
  apply Simulates.bindE verify_sim
  intro flow
  cases flow with
  | stop => exact .pureE _
  | «continue» =>
    refine Simulates.bindE (ignoring_sim sendMessage_sim).liftE fun _ => ?_
    exact incrTarget_sim

/-- Both sessions handle a ResendRequest. -/
lemma handleResendRequest_sim {msg} :
    Lockstep (ω := ω) twins P (handleResendRequest msg).run (handleResendRequest msg).run := by
  apply Simulates.bindE verify_sim
  intro flow
  cases flow with
  | stop => exact .pureE _
  | «continue» =>
    apply current_simE
    intro a st
    apply Simulates.right (fun given => by rw [given.2.sender_onto])
    refine Simulates.bindE note_sim.liftE fun _ => ?_
    refine Simulates.bindE answerResend_sim.liftE fun _ => ?_
    apply current_simE
    intro a st
    apply Simulates.right (fun given => by rw [given.2.target_onto])
    exact .iteE incrTarget_sim (.pureE _)

/-- Both sessions handle a SequenceReset. -/
lemma handleSequenceReset_sim {msg} :
    Lockstep (ω := ω) twins P (handleSequenceReset msg).run (handleSequenceReset msg).run := by
  apply Simulates.bindE verify_sim
  intro flow
  cases flow with
  | stop => exact .pureE _
  | «continue» =>
    dsimp only
    cases found : msg.bodyU64 Tags.newSeqNo with
    | none => exact .pureE _
    | some n =>
      apply current_simE
      intro a st
      apply Simulates.right (fun given => by rw [given.2.target_onto])
      apply Simulates.iteE
      · refine Simulates.bindE (orDisconnect_sim (storeOp_sim fun _ =>
          twins.setTarget (Message.bodyU64_lt found))) fun _ => ?_
        exact update_simE (fun _ => rfl) fun _ _ _ => rfl
      · exact .iteE reject_sim.liftE (.pureE _)

/-- Both sessions handle a Logout. -/
lemma handleLogout_sim {msg} :
    Lockstep (ω := ω) twins P (handleLogout msg).run (handleLogout msg).run := by
  apply Simulates.bindE verify_sim
  intro flow
  cases flow with
  | stop => exact .pureE _
  | «continue» =>
    apply current_simE
    intro a st
    apply Simulates.iteThenE logOut_sim.liftE
    intro _
    refine Simulates.bindE incrTarget_sim fun _ => ?_
    apply Simulates.iteThenE (ignoring_sim storeReset_sim).liftE
    intro _
    exact .throwE _

/-- Both sessions handle an application message. -/
lemma handleAppMessage_sim {msg} :
    Lockstep (ω := ω) twins P (handleAppMessage msg).run (handleAppMessage msg).run := by
  apply Simulates.bindE verify_sim
  intro flow
  cases flow with
  | stop => exact .pureE _
  | «continue» => exact incrTarget_sim

/-! ## Processing -/

/-- Both sessions take the same handler. -/
lemma dispatch_sim {mt msg} : Lockstep (ω := ω) twins P (dispatch mt msg).run (dispatch mt msg).run := by
  apply Simulates.iteE handleLogon_sim
  apply Simulates.iteE handlePlainAdmin_sim
  apply Simulates.iteE handleTestRequest_sim
  apply Simulates.iteE handleResendRequest_sim
  apply Simulates.iteE handleSequenceReset_sim
  exact .iteE handleLogout_sim handleAppMessage_sim

/-- Both sessions process the same message. -/
lemma process_sim {msg} : Lockstep (ω := ω) twins P (process msg).run (process msg).run := by
  unfold process
  cases msg.msgType with
  | error e => exact .pureE _
  | ok mt =>
    apply current_simE
    intro a st
    apply Simulates.iteE
    · refine Simulates.bindE (ignoring_sim incrTarget_simE).liftE fun _ => ?_
      refine Simulates.bindE logOut_sim.liftE fun _ => ?_
      exact .throwE _
    · rw [show (a.onto st).validated msg = a.validated msg from rfl]
      cases a.validated msg with
      | error rej => exact reject_sim.liftE
      | ok _ => exact dispatch_sim

/-- Both sessions replay the entry that is due. -/
lemma drainOne_sim : Lockstep (ω := ω) twins P drainOne.run drainOne.run := by
  apply current_simE
  intro a st
  apply Simulates.right (fun given => by
    rw [given.2.target_onto, show (a.onto st).stash = a.stash from rfl])
  dsimp only
  cases a.stash[nextTargetSeqNum a.store]? with
  | none => exact .pureE _
  | some raw =>
    refine Simulates.bindE note_sim.liftE fun _ => ?_
    refine Simulates.bindE (update_simE (fun _ => rfl) fun _ _ _ => rfl) fun _ => ?_
    apply Simulates.iteE
    · exact .bindE incrTarget_sim fun _ => .pureE _
    · cases Message.parse raw false with
      | error e => exact .bindE incrTarget_sim fun _ => .pureE _
      | ok msg =>
        refine Simulates.bindE note_sim.liftE fun _ => ?_
        exact .bindE process_sim fun _ => .pureE _

/-- Both sessions replay entries one after the other. -/
lemma drainLoop_sim {fuel} :
    Lockstep (ω := ω) twins P (drainLoop fuel).run (drainLoop fuel).run := by
  induction fuel with
  | zero => exact .pureE _
  | succ fuel ih => exact .bindE drainOne_sim fun _ => .iteE ih (.pureE _)

/-- Both sessions drain their stash. -/
lemma drainStash_sim : Lockstep (ω := ω) twins P drainStash.run drainStash.run := by
  apply current_simE
  intro a st
  exact drainLoop_sim

/-- Both sessions note the number of a message. -/
lemma noteReceived_sim {msg} :
    Lockstep (ω := ω) twins P (noteReceived msg) (noteReceived msg) := by
  unfold noteReceived
  cases msg.seqNum with
  | error e => exact .pure _
  | ok seq => exact update_sim (fun _ => rfl) fun _ _ _ => rfl

/-- Both sessions handle a frame that parsed. -/
lemma handleInbound_sim {msg} :
    Lockstep (ω := ω) twins P (handleInbound msg).run (handleInbound msg).run := by
  refine Simulates.bindE note_sim.liftE fun _ => ?_
  refine Simulates.bindE process_sim fun _ => ?_
  refine Simulates.bindE (update_simE (fun _ => rfl) fun _ _ _ => rfl) fun _ => ?_
  exact drainStash_sim

/-- Both sessions handle the same bytes. -/
lemma onInbound_sim {raw} : Lockstep (ω := ω) twins P (onInbound raw) (onInbound raw) := by
  apply current_sim
  intro a st
  rw [show (a.onto st).cfg = a.cfg from rfl]
  cases Message.parse raw a.cfg.validateLengthChecksum with
  | error e => exact .iteThen disconnect_sim fun _ => note_sim
  | ok msg =>
    refine noteReceived_sim.bind fun _ => ?_
    apply Simulates.bind handleInbound_sim
    intro ended
    cases ended with
    | error e => exact disconnect_sim.bind fun _ => note_sim
    | ok _ => exact checkResendChunks_sim.bind fun _ => note_sim

/-! ## The run loop -/

/-- Both sessions send a TestRequest. -/
lemma sendTestRequest_sim : Lockstep (ω := ω) twins P sendTestRequest sendTestRequest := by
  refine Simulates.bind (update_sim (fun _ => rfl) fun _ _ _ => rfl) fun _ => ?_
  exact ignoring_sim sendMessage_sim

/-- Both sessions reach a deadline of the protocol. -/
lemma onProtocolDeadline_sim :
    Lockstep (ω := ω) twins P onProtocolDeadline onProtocolDeadline := by
  apply current_sim
  intro a st
  apply Simulates.ite (.pure _)
  apply clock_sim.bind
  intro now
  apply Simulates.ite (.ite disconnect_sim (.pure _))
  apply Simulates.ite (.ite disconnect_sim (.pure _))
  apply Simulates.ite (.pure _)
  apply Simulates.ite
  · exact .iteThen logOut_sim fun _ => disconnect_sim
  · apply Simulates.ite sendTestRequest_sim
    exact .ite (ignoring_sim sendMessage_sim) (.pure _)

/-- Both initiators log on. -/
lemma logOn_sim : Lockstep (ω := ω) twins P logOn logOn := by
  apply Simulates.bind sendLogon_sim
  intro ended
  cases ended with
  | error e => exact disconnect_sim
  | ok _ => exact .pure _

/-- Both sessions leave for the same reasons. -/
lemma leave_sim {a : Session σ} {st : τ} : Lockstep (ω := ω) twins P (leave a) (leave (a.onto st)) := by
  apply Simulates.ite _ (.pure _)
  exact .iteThen logOut_sim fun _ => disconnect_sim

/-- Both sessions look at the schedule. -/
lemma onScheduleTick_sim : Lockstep (ω := ω) twins P onScheduleTick onScheduleTick := by
  apply current_sim
  intro a st
  apply Simulates.ite (.pure _)
  apply clock_sim.bind
  intro now
  apply Simulates.right (fun given => by rw [given.2.created_onto])
  apply Simulates.ite leave_sim
  apply Simulates.ite
  · exact leave_sim.bind fun _ => ignoring_sim storeReset_sim
  · apply Simulates.iteThen logOut_sim
    intro _
    apply current_sim
    intro b st
    apply Simulates.ite _ (.pure _)
    refine Simulates.bind (update_sim (fun _ => rfl) fun _ _ _ => rfl) fun _ => ?_
    exact logOn_sim

/-- Both sessions take a connection. -/
lemma connect_sim : Lockstep (ω := ω) twins P connect connect := by
  refine note_sim.bind fun _ => ?_
  apply clock_sim.bind
  intro sent
  apply clock_sim.bind
  intro received
  exact update_sim (fun _ => rfl) fun _ _ _ => rfl

/-- Both initiators reset as they are configured to. -/
lemma initiatorResets_sim : Lockstep (ω := ω) twins P initiatorResets initiatorResets := by
  apply current_sim
  intro a st
  apply Simulates.iteThen (ignoring_sim storeReset_sim)
  intro _
  exact .ite (ignoring_sim storeRefresh_sim) (.pure _)

/-- Both initiators log on, or wait for the schedule. -/
lemma logOnOrDefer_sim : Lockstep (ω := ω) twins P logOnOrDefer logOnOrDefer := by
  apply current_sim
  intro a st
  apply clock_sim.bind
  intro now
  apply Simulates.ite logOn_sim
  exact update_sim (fun _ => rfl) fun _ _ _ => rfl

/-- Both sessions are attached to a connection. -/
lemma onAttach_sim : Lockstep (ω := ω) twins P onAttach onAttach := by
  apply current_sim
  intro a st
  apply Simulates.ite (.pure _)
  refine connect_sim.bind fun _ => ?_
  apply Simulates.ite _ (.pure _)
  exact initiatorResets_sim.bind fun _ => logOnOrDefer_sim

/-- Both sessions log out by command. -/
lemma onLogoutCommand_sim : Lockstep (ω := ω) twins P onLogoutCommand onLogoutCommand := by
  apply current_sim
  intro a st
  exact .ite logOut_sim (.pure _)

/-- Both sessions set their numbers by command. -/
lemma onSetSeqNums_sim {sender target} :
    Lockstep (ω := ω) twins P (onSetSeqNums sender target) (onSetSeqNums sender target) := by
  have setTarget : Lockstep (ω := ω) twins P (onSetSeqNums none target) (onSetSeqNums none target) := by
    cases target with
    | none => exact .pure _
    | some n => exact ignoring_sim (storeOp_sim fun _ => twins.setTarget n.toNat_lt)
  cases sender with
  | none => exact setTarget
  | some n =>
    apply Simulates.bind (ignoring_sim (storeOp_sim fun _ => twins.setSender n.toNat_lt))
    intro _
    exact setTarget

/-- Both sessions wait for the Logout of the peer. -/
lemma awaitLogout_sim {deadline frames} :
    Lockstep (ω := ω) twins P (awaitLogout deadline frames) (awaitLogout deadline frames) := by
  induction frames generalizing P with
  | nil => exact .pure _
  | cons raw frames ih =>
    apply current_sim
    intro a st
    apply clock_sim.bind
    intro now
    apply Simulates.ite _ (.pure _)
    exact onInbound_sim.bind fun _ => ih

/-- Both sessions stop. -/
lemma onStop_sim {frames} : Lockstep (ω := ω) twins P (onStop frames) (onStop frames) := by
  apply current_sim
  intro a st
  apply Simulates.ite _ disconnect_sim
  refine logOut_sim.bind fun _ => ?_
  apply clock_sim.bind
  intro now
  exact awaitLogout_sim.bind fun _ => disconnect_sim

/-- Both sessions deal with an input. -/
lemma step_sim {input} : Lockstep (ω := ω) twins P (step input) (step input) := by
  apply current_sim
  intro a st
  cases input with
  | send msg => exact ignoring_sim sendMessage_sim
  | attach => exact onAttach_sim
  | logout => exact onLogoutCommand_sim
  | setSeqNums sender target => exact onSetSeqNums_sim
  | stop frames => exact onStop_sim
  | dropped => exact disconnect_sim
  | inbound raw => exact .ite onInbound_sim (.pure _)
  | closed => exact .ite disconnect_sim (.pure _)
  | scheduleTick => exact onScheduleTick_sim
  | protocolTimer => exact .ite onProtocolDeadline_sim (.pure _)

/-- Both sessions deal with their inputs, one after the other. -/
lemma run_sim {inputs} : Lockstep (ω := ω) twins P (run inputs) (run inputs) := by
  induction inputs with
  | nil => exact .pure _
  | cons input inputs ih => exact step_sim.bind fun _ => .ite ih (.pure _)

end Session

end Steps

end QuickFix
