import QuickFix.Session.Script
import QuickFix.Steps.Run
import QuickFix.Store.Mirror

/-!
# Progress of the protocol timer

The timer is set to a deadline that is computed from the instants of the last message sent and the
last one received. Acting on a deadline that has come due moves it past the instant of the timer, or
ends the connection, but for one case: a Heartbeat of ours that is due and does not get out leaves the
deadline where it is, and the timer fires again at once. The Heartbeat gets out when the session is
logged on and the store takes it (`ran_waits`).
-/

namespace QuickFix

set_option mvcgen.warning false
set_option linter.unusedSectionVars false

open Std.Do Session

section Runs

variable {σ ω : Type} [Chrono] [MessageStore σ] [Application ω] [Runtime ω]

/-- What the monotonic clock reads next. -/
abbrev reading (w : ω) : Nat := (Runtime.instantNow w).1

/-- The monotonic clock does not go back, whatever is called. -/
def Steady (ω : Type) [Application ω] [Runtime ω] : Prop :=
  ∀ {w w' : ω}, Calls w w' → reading w ≤ reading w'

/-- A steady clock does not go back over several calls. -/
lemma Steady.passes (steady : Steady ω) {w w' : ω} (h : Passes w w') : reading w ≤ reading w' := by
  induction h with
  | refl => exact le_rfl
  | tail _ call ih => exact ih.trans (steady call)

namespace Session

/-- The session has no deadline, or it is later than the instant. -/
def Waits (now : Nat) (s : Session σ) : Prop := ∀ d, s.nextProtocolDeadline = some d → now < d

/-- Of the deadlines of the session, only that of its own Heartbeat has come due. -/
structure HeartbeatDue (now : Nat) (s : Session σ) : Prop where
  connected : s.isConnected = true
  stays : s.sentLogout = false
  logon : s.receivedLogon = true
  interval : s.heartBtInt ≠ 0
  heard : now - s.lastReceived < mulTenths s.heartBtInt 12
  idle : s.heartBtInt * nanosPerSec ≤ now - s.lastSent
  asked : s.testRequestCounter = 0

/-- The administrative message that goes out for one: with the standard header and what the
application made of it, in the order of the dictionary. -/
def outgoingAdmin (s : Session σ) (msg : Message) (w : ω) : Message :=
  let (now, w) := Runtime.utcNow w
  s.canonicalized (Application.toAdmin (s.filledHeader now msg.fresh) w).1

/-- What the store answers to a message that is sent, and what it is then. -/
def persisted (s : Session σ) (seq : Nat) (raw : Bytes) : Except Error Unit × σ :=
  if s.cfg.persistMessages then MessageStore.saveMessageAndIncr seq raw s.store
  else MessageStore.incrNextSenderSeqNum s.store

/-- The session with its store in another state. -/
def storing (store : σ) (s : Session σ) : Session σ := { s with store := store }

/-- The store takes a message that is sent. -/
def Stores (s : Session σ) (m : Message) : Prop :=
  ∃ seq, m.seqNum = .ok seq ∧ (s.persisted seq m.toBytes).1 = .ok ()

/-- An administrative message that is sent goes out on the connection. -/
def GoesOut (s : Session σ) (msg : Message) (w : ω) : Prop :=
  (s.isLoggedOn = true ∨ s.sentLogon = true) ∧ s.Stores (s.outgoingAdmin msg w)

end Session

/-! ## Sending while the clock runs -/

/-- What sending a message on a connection at a time comes to, when it does or does not go out. -/
inductive Sending (goes : Prop) (time : Nat) (s : Session σ) : Session σ → Prop
  | unsent {store} : ¬ goes → Sending goes time s (s.storing store)
  | sent {store now} : goes → time ≤ now →
      Sending goes time s { s.storing store with lastSent := now }
  | gone {t} : goes → t.isConnected = false → Sending goes time s t

/-- Handing on bytes moves the instant of the last message, or the connection is gone. -/
lemma transmit_sending (steady : Steady ω) {raw} {s0 : Sys σ ω}
    (connected : s0.session.isConnected = true) :
    ⦃fun s => ⌜s = s0⌝⦄ transmit raw
    ⦃⇓ _ s => ⌜Sending True (reading s0.world) s0.session s.session⌝⦄ := by
  mvcgen [transmit, write, instantNow, disconnect_spec]
  all_goals subst_vars
  case vc1 accepted =>
    exact .sent trivial (steady (.send _ _))
  case vc2 => exact fun dropped => .gone trivial dropped.gone
  case vc3 lost => exact absurd connected lost

/-- Persisting asks the store. -/
lemma persist_answer {seq raw} {s0 : Sys σ ω} :
    ⦃fun s => ⌜s = s0⌝⦄ persist seq raw
    ⦃post⟨fun _ s => ⌜(s0.session.persisted seq raw).1 = .ok () ∧ s.world = s0.world ∧
        s.session = s0.session.storing (s0.session.persisted seq raw).2⌝,
      fun e s => ⌜(s0.session.persisted seq raw).1 = .error e ∧
        s.session = s0.session.storing (s0.session.persisted seq raw).2⌝⟩⦄ := by
  mvcgen [persist, saveMessageAndIncr, incrNextSenderSeqNum, storeOp]
  all_goals
    subst_vars
    simp_all [persisted, Sys.stored, storing]

/-- What a message comes to that is handed on once the store took it. -/
lemma Sending.stored {goes : Prop} {time time' : Nat} {s t : Session σ} {store} (yes : goes)
    (h : Sending True time (s.storing store) t) (earlier : time' ≤ time) : Sending goes time' s t := by
  cases h with
  | unsent no => exact absurd trivial no
  | sent _ later => exact .sent yes (earlier.trans later)
  | gone _ lost => exact .gone yes lost

/-- A message that is no session control is no such message once its header is filled. -/
lemma alwaysSent_filledHeader {msg : Message} (control : alwaysSent msg.msgTypeOrDefault = false)
    (s : Session σ) (now) : alwaysSent (s.filledHeader now msg.fresh).msgTypeOrDefault = false := by
  have type : (s.filledHeader now msg.fresh).msgTypeOrDefault = msg.msgTypeOrDefault := by
    simp +decide [Message.msgTypeOrDefault, Message.msgType, FieldMap.get, Message.fresh]
  rw [type, control]

/-- An administrative message that is no session control goes out when the session is logged on and
the store takes it. -/
lemma sendMessage_sending (steady : Steady ω) {msg : Message} {s0 : Sys σ ω}
    (connected : s0.session.isConnected = true) (admin : msg.isAdmin = true)
    (control : alwaysSent msg.msgTypeOrDefault = false) :
    ⦃fun s => ⌜s = s0⌝⦄ ignoring (sendMessage msg)
    ⦃⇓ _ s => ⌜Sending (s0.session.GoesOut msg s0.world) (reading s0.world) s0.session s.session⌝⦄ := by
  have transmits := @transmit_sending σ ω _ _ _ _ steady
  mvcgen [-sendMessage_spec, sendMessage, fillHeader, utcNow, outgoingCallback, seqNumOf,
    persist_answer, transmits]
  all_goals subst_vars
  case vc1.connected kept => exact kept.2.2 ▸ connected
  case vc2.isTrue.h_1.post.success.isTrue.post.success =>
    rename_i s _ seq numbered _ gate t kept _ u
    intro sent
    have goes : s.session.GoesOut msg s.world := by
      refine ⟨?_, seq, numbered, kept.1⟩
      simpa [alwaysSent_filledHeader control, Sys.called] using gate
    have later : reading s.world ≤ reading t.world := by
      rw [kept.2.1]
      exact (steady (.utcNow _)).trans (steady (.toAdmin _ _))
    rw [kept.2.2] at sent
    exact sent.stored goes later
  case vc3.isTrue.h_1.post.success.isFalse =>
    rename_i s _ seq numbered _ gate t kept
    rw [kept.2.2]
    refine .unsent fun goes => gate ?_
    simpa [alwaysSent_filledHeader control, Sys.called] using goes.1
  case vc4.isTrue.h_1.post.except.handle =>
    rename_i s _ seq numbered e t
    intro failed kept
    rw [kept]
    refine .unsent fun goes => ?_
    obtain ⟨seq', numbered', took⟩ := goes.2
    cases Except.ok.inj (numbered.symm.trans numbered')
    cases failed.symm.trans took
  case vc5.isTrue.h_2 =>
    rename_i s _ e numbered
    refine @Sending.unsent _ _ _ _ s.session.store fun goes => ?_
    obtain ⟨seq', numbered', -⟩ := goes.2
    cases numbered.symm.trans numbered'
  all_goals exact absurd ((Session.isAdmin_filledHeader _ _ msg).trans admin) ‹_›

/-! ## Acting on a deadline -/

/-- A session without a connection has no deadline. -/
lemma Session.waits_of_lost {s : Session σ} {now} (lost : s.isConnected = false) : s.Waits now := by
  intro d deadline
  simp [nextProtocolDeadline, lost] at deadline

/-- What a session that is logged on waits for. -/
lemma Session.waits_loggedOn {s : Session σ} {now} (connected : s.isConnected = true)
    (stays : s.sentLogout = false) (logon : s.receivedLogon = true) (interval : s.heartBtInt ≠ 0) :
    s.Waits now ↔ now < s.lastReceived + mulTenths s.heartBtInt 24 ∧
      now < s.lastReceived + mulTenths s.heartBtInt (12 * (s.testRequestCounter + 1)) ∧
      (s.testRequestCounter = 0 → now < s.lastSent + s.heartBtInt * nanosPerSec) := by
  unfold Waits nextProtocolDeadline
  simp only [connected, stays, logon, interval, Bool.not_true, Bool.false_eq_true, if_false]
  split
  case isTrue first =>
    simp only [Option.some.injEq, forall_eq', Nat.lt_min, first, forall_const, and_assoc]
  case isFalse again =>
    simp only [Option.some.injEq, forall_eq', Nat.lt_min, again, false_implies, and_true]

/-- While its own Heartbeat is due, a session does not give up its peer. -/
lemma Session.HeartbeatDue.not_silent {s : Session σ} {now} (h : s.HeartbeatDue now) :
    ¬ mulTenths s.heartBtInt 24 ≤ now - s.lastReceived := by
  intro silent
  have more : mulTenths s.heartBtInt 12 ≤ mulTenths s.heartBtInt 24 := mulTenths_le (by decide)
  exact absurd h.heard (not_lt_of_ge (more.trans silent))

/-- While its own Heartbeat is due, a session does not ask its peer for a sign of life. -/
lemma Session.HeartbeatDue.not_asking {s : Session σ} {now} (h : s.HeartbeatDue now) :
    ¬ mulTenths s.heartBtInt (12 * (s.testRequestCounter + 1)) ≤ now - s.lastReceived := by
  rw [h.asked]
  exact not_le_of_gt h.heard

/-- Asking a silent peer for a sign of life leaves the session waiting, whatever becomes of the
TestRequest. -/
lemma Sending.tested {goes : Prop} {time now : Nat} {s t : Session σ} (h : Sending goes time s.testing t)
    (connected : s.isConnected = true) (stays : s.sentLogout = false) (logon : s.receivedLogon = true)
    (interval : s.heartBtInt ≠ 0) (heard : now < s.lastReceived + mulTenths s.heartBtInt 24) :
    t.Waits now := by
  -- the next deadline is that of the silence, which is not due
  have tenths : 24 ≤ 12 * (s.testRequestCounter + 1 + 1) :=
    Nat.mul_le_mul_left 12 (Nat.le_add_left 2 s.testRequestCounter)
  have asked : now < s.lastReceived + mulTenths s.heartBtInt (12 * (s.testRequestCounter + 1 + 1)) :=
    heard.trans_le (Nat.add_le_add_left (mulTenths_le tenths) _)
  have again (n : Nat) (first : s.testRequestCounter + 1 = 0) : now < n :=
    absurd first (Nat.succ_ne_zero _)
  cases h with
  | @unsent store =>
    exact (waits_loggedOn (s := s.testing.storing store) connected stays logon interval).mpr
      ⟨heard, asked, again _⟩
  | @sent store read =>
    exact (waits_loggedOn (s := { s.testing.storing store with lastSent := read }) connected stays
      logon interval).mpr ⟨heard, asked, again _⟩
  | gone _ lost => exact waits_of_lost lost

/-- A Heartbeat that is due leaves the session waiting when it goes out. -/
lemma Sending.heartbeats {goes : Prop} {time now : Nat} {s t : Session σ} (h : Sending goes time s t)
    (due : s.HeartbeatDue now) (later : now ≤ time) : t.Waits now ↔ goes := by
  have some : 0 < s.heartBtInt * nanosPerSec :=
    Nat.mul_pos (Nat.pos_of_ne_zero due.interval) (by decide)
  have idle := due.idle
  have silent := due.not_silent
  have asking := due.not_asking
  cases h with
  | @unsent store no =>
    refine iff_of_false (fun waits => ?_) no
    have waits := (waits_loggedOn (s := s.storing store) due.connected due.stays due.logon
      due.interval).mp waits
    have last : now < s.lastSent + s.heartBtInt * nanosPerSec := waits.2.2 due.asked
    omega
  | @sent store read yes read_later =>
    refine iff_of_true ((waits_loggedOn (s := { s.storing store with lastSent := read }) due.connected
      due.stays due.logon due.interval).mpr ⟨?_, ?_, fun _ => ?_⟩) yes
    · show now < s.lastReceived + mulTenths s.heartBtInt 24
      omega
    · show now < s.lastReceived + mulTenths s.heartBtInt (12 * (s.testRequestCounter + 1))
      omega
    · show now < read + s.heartBtInt * nanosPerSec
      omega
  | gone yes lost => exact iff_of_true (waits_of_lost lost) yes

/-- Acting on a deadline that has come due leaves the session waiting, unless a Heartbeat is due that
does not go out. -/
lemma onProtocolDeadline_waits (steady : Steady ω) {s0 : Sys σ ω} {d}
    (deadline : s0.session.nextProtocolDeadline = some d)
    (due : d ≤ reading s0.world) :
    ⦃fun s => ⌜s = s0⌝⦄ onProtocolDeadline
    ⦃⇓ _ s => ⌜s.session.Waits (reading s0.world) ↔
      (s0.session.HeartbeatDue (reading s0.world) →
        s0.session.GoesOut (.withType MsgType.heartbeat) (Runtime.instantNow s0.world).2)⌝⦄ := by
  unfold reading at due ⊢
  have sends := @sendMessage_sending σ ω _ _ _ _ steady
  mvcgen -trivial [-ignoring_spec, -sendMessage_spec, onProtocolDeadline, instantNow, logOut_spec,
    sendTestRequest, disconnect_spec, sends]
  all_goals
    subst_vars
    simp only [Bool.not_eq_true', Bool.not_eq_true, Bool.not_eq_false] at *
  case vc1 lost => simp [nextProtocolDeadline, lost] at deadline
  case vc6 => simp_all [nextProtocolDeadline]
  case vc3 | vc5 =>
    simp_all only [nextProtocolDeadline]
    simp at deadline
    omega
  case vc7.may => exact .inr (.inl ‹_›)
  case vc2 =>
    intro dropped
    exact iff_of_true (waits_of_lost dropped.gone) fun beat => by simp_all [beat.stays]
  case vc4 =>
    intro dropped
    exact iff_of_true (waits_of_lost dropped.gone) fun beat => by simp_all [beat.logon]
  case vc8 | vc9 =>
    intro dropped
    exact iff_of_true (waits_of_lost dropped.gone) fun beat => absurd ‹_› beat.not_silent
  case vc10.connected | vc14.connected => assumption
  case vc11.admin | vc15.admin | vc12.control | vc16.control => rfl
  case vc13 =>
    rename_i s _ _ interval silent asking _ _ t connected stays logon
    intro sent
    have heard : (Runtime.instantNow s.world).1 <
        s.session.lastReceived + mulTenths s.session.heartBtInt 24 := by omega
    exact iff_of_true (sent.tested connected stays logon interval heard) fun beat =>
      absurd asking beat.not_asking
  case vc17 =>
    rename_i s _ _ interval _ heard idle _ t connected stays logon
    intro sent
    have beat : s.session.HeartbeatDue (Runtime.instantNow s.world).1 := by
      refine ⟨connected, stays, logon, interval, ?_, idle.1, idle.2⟩
      rw [idle.2] at heard
      exact not_le.mp heard
    rw [sent.heartbeats beat (steady (.instantNow _))]
    exact ⟨fun goes _ => goes, fun goes => goes beat⟩
  case vc18 =>
    rename_i s _ _ interval silent asking idle connected stays logon
    -- nothing has come due
    have waits : s.session.Waits (Runtime.instantNow s.world).1 :=
      (waits_loggedOn connected stays logon interval).mpr ⟨by omega, by omega, by omega⟩
    exact absurd due (not_le.mpr (waits d deadline))

/-- In every state a run reaches, acting on a deadline that has come due leaves the session waiting for
a later one or for none, if and only if a Heartbeat that is due goes out. -/
theorem ran_waits (steady : Steady ω) {cfg : SessionConfig}
    {dictionary adminDictionary : Option DataDictionary} {store : σ} {start : Nat} {world : ω}
    {inputs : List Input} {s : Sys σ ω} {d}
    (reached : Sys.ran cfg dictionary adminDictionary store start world inputs = s)
    (deadline : s.session.nextProtocolDeadline = some d) (due : d ≤ reading s.world) :
    (s.after onProtocolDeadline).session.Waits (reading s.world) ↔
      (s.session.HeartbeatDue (reading s.world) →
        s.session.GoesOut (.withType MsgType.heartbeat) (Runtime.instantNow s.world).2) := by
  subst reached
  exact onProtocolDeadline_waits steady deadline due _ rfl

end Runs

/-! ## Scripted runs -/

namespace Script

/-- An environment in which the interval of a Heartbeat passes after the first four readings of the
monotonic clock. -/
structure Pausing where
  reads : Nat := 0
  deriving DecidableEq

/-- What the monotonic clock reads next. -/
def Pausing.time (w : Pausing) : Nat := if w.reads < 4 then 0 else 30 * nanosPerSec

instance : Runtime Pausing where
  utcNow w := (0, w)
  instantNow w := (w.time, { reads := w.reads + 1 })
  send _ w := (true, w)

instance : Application Pausing where
  onLogon w := w
  onLogout w := w
  toAdmin m w := (m, w)
  toApp m w := (some m, w)
  fromAdmin _ w := (.ok (), w)
  fromApp _ w := (.ok (), w)

/-- Its clock does not go back. -/
lemma Pausing.steady : Steady Pausing := by
  intro w w' call
  cases call with
  | instantNow =>
    show (if w.reads < 4 then 0 else _) ≤ if w.reads + 1 < 4 then 0 else 30 * nanosPerSec
    split
    case isTrue => exact Nat.zero_le _
    case isFalse late => rw [if_neg (by omega)]
  | _ => exact le_rfl

/-- A Logon of the counterparty. -/
def logonOnly : List Input :=
  [.attach, .inbound ((fromPeer MsgType.logon 1).set Tags.heartBtInt (ascii "30")).toBytes]

/-- An acceptor on a file store whose calls end so, once a counterparty has logged on. -/
def loggedOn (completions : List Completion) : Sys Files Pausing :=
  letI := epochDay
  letI := epochText
  .ran acceptor none none { emptyFiles with completions := completions } 0 {} logonOnly

end Script

/-- A Heartbeat that the store takes goes out, and the next deadline is later. -/
theorem ran_waits_stored :
    letI := epochDay
    letI := epochText
    ((Script.loggedOn []).after onProtocolDeadline).session.Waits (30 * nanosPerSec) := by
  let := epochDay
  let := epochText
  let s := Script.loggedOn []
  have reached : Script.loggedOn [] = s := rfl
  have now : reading s.world = 30 * nanosPerSec := by decide +kernel
  have deadline : s.session.nextProtocolDeadline = some (30 * nanosPerSec) := by decide +kernel
  have goes : s.session.GoesOut (.withType MsgType.heartbeat) (Runtime.instantNow s.world).2 :=
    ⟨.inl (by decide +kernel), 2, by decide +kernel, by decide +kernel⟩
  have waits := (ran_waits Script.Pausing.steady reached deadline now.ge).mpr fun _ => goes
  rw [now] at waits
  exact waits

/-- The disk is full when the Heartbeat is stored: it does not go out, and its deadline stays. -/
theorem not_waits_full :
    letI := epochDay
    letI := epochText
    let s := Script.loggedOn (List.replicate 8 .done ++ [.failed 0])
    s.session.nextProtocolDeadline = some (30 * nanosPerSec) ∧
      reading s.world = 30 * nanosPerSec ∧
      ¬ (s.after onProtocolDeadline).session.Waits (30 * nanosPerSec) := by
  let := epochDay
  let := epochText
  refine ⟨by decide +kernel, by decide +kernel, fun waits => ?_⟩
  exact absurd (waits (30 * nanosPerSec) (by decide +kernel)) (lt_irrefl _)

end QuickFix
