import QuickFix.Session.Script
import QuickFix.Steps.Run

/-!
# The negotiated heartbeat

An acceptor adopts the heartbeat interval of a Logon unchecked, or the one that is configured to
override it, and computes deadlines with it. In every run in which the Logons that pass ask for an
interval of which 2.4 are an instant when they are added to what the clock reads, the deadlines are
instants too and are computed without a panic, at most one TestRequest is outstanding, and the reply
says the interval that was adopted (`ran_timely`).
-/

namespace QuickFix

open Session

/-- An interval of which 2.4 are an instant when they are added to a reading of the clock. -/
def Usable (latest secs : Nat) : Prop := latest + mulTenths secs 24 < maxInstant

instance (latest) : DecidablePred (Usable latest) := fun _ => inferInstanceAs (Decidable (_ < _))

/-- The heartbeat deadlines of a session are instants, and so below the largest duration. -/
structure Session.DeadlinesFit {σ : Type} (s : Session σ) : Prop where
  silence : s.lastReceived + mulTenths s.heartBtInt 24 < maxInstant
  test : s.lastReceived + mulTenths s.heartBtInt (12 * (s.testRequestCounter + 1)) < maxInstant
  idle : s.lastSent + s.heartBtInt * nanosPerSec < maxInstant

/-- A Logon that is about to be sent as a reply says the interval of the session. -/
def SaysInterval {σ : Type} (c : Call σ) : Prop :=
  ∀ logon, c.event = .log (.respondingToLogon logon) →
    logon.bodyU64 Tags.heartBtInt = some c.session.heartBtInt

/-- The heartbeat of a system can be used. -/
structure Sys.Timely {σ ω : Type} (s : Sys σ ω) : Prop where
  deadlines : s.session.DeadlinesFit
  computed : s.session.sentLogout = false → s.session.receivedLogon = true →
    s.session.nextProtocolDeadlineAt = .ok s.session.nextProtocolDeadline
  counter : s.session.testRequestCounter ≤ 1
  replies : ∀ c ∈ s.trace, SaysInterval c

/-- A Logon that passes asks an acceptor for an interval that can be used, or it does not ask. -/
def asksUsable {σ : Type} (latest : Nat) (c : Call σ) (_ : List (Call σ)) : Bool :=
  match c.event with
  | .fromAdmin msg (.ok _) =>
    match msg.bodyU64 Tags.heartBtInt with
    | some secs =>
      msg.msgTypeOrDefault ≠ MsgType.logon || c.session.isInitiator ||
        Usable latest (c.session.cfg.heartBtIntOverride.getD secs)
    | none => true
  | _ => true

/-- The Logons of a system ask for intervals that can be used. -/
def Sys.AsksUsable {σ ω : Type} (latest : Nat) (s : Sys σ ω) : Prop :=
  Along (asksUsable latest · ·) s.trace

instance {σ ω : Type} (latest) (s : Sys σ ω) : Decidable (s.AsksUsable latest) :=
  inferInstanceAs (Decidable (Along _ _))

section Deadlines

variable {σ : Type} {s : Session σ}

/-- What is no instant any more is no duration either. -/
lemma maxInstant_le : maxInstant ≤ maxDuration := Nat.mul_le_mul_right _ (by decide)

/-- A product that is an instant when it is added to one is a duration. -/
lemma mulAt_of_fit {instant seconds tenths} (fit : instant + mulTenths seconds tenths < maxInstant) :
    mulAt seconds tenths = .ok (mulTenths seconds tenths) :=
  Ranged.within_of_lt ((Nat.le_add_left _ instant).trans_lt (fit.trans_le maxInstant_le))

/-- A deadline that is an instant is computed. -/
lemma map_instantAdd {instant duration} (fit : instant + duration < maxInstant) :
    some <$> instantAdd instant duration = .ok (some (instant + duration)) := by
  rw [instantAdd, Ranged.add_of_lt fit]
  rfl

/-- Deadlines that are instants are computed as they are in exact arithmetic. -/
lemma Session.DeadlinesFit.computed (fit : s.DeadlinesFit)
    (logout : s.lastSent + s.cfg.logoutTimeout * nanosPerSec < maxInstant ∨ s.sentLogout = false)
    (logon : s.lastReceived + s.cfg.logonTimeout * nanosPerSec < maxInstant ∨ s.receivedLogon = true) :
    s.nextProtocolDeadlineAt = .ok s.nextProtocolDeadline := by
  have silence : instantAdd s.lastReceived (mulTenths s.heartBtInt 24) = .ok _ :=
    Ranged.add_of_lt fit.silence
  have test : instantAdd s.lastReceived
      (mulTenths s.heartBtInt (12 * (s.testRequestCounter + 1))) = .ok _ := Ranged.add_of_lt fit.test
  have idle : instantAdd s.lastSent (s.heartBtInt * nanosPerSec) = .ok _ := Ranged.add_of_lt fit.idle
  unfold nextProtocolDeadlineAt nextProtocolDeadline
  split
  case isTrue => rfl
  case isFalse =>
    split
    case isTrue sent => exact map_instantAdd (logout.resolve_right (by simp [sent]))
    case isFalse =>
      split
      case isTrue awaiting => exact map_instantAdd (logon.resolve_right (by simpa using awaiting))
      case isFalse =>
        split
        case isTrue => rfl
        case isFalse =>
          rw [heartbeatDeadlineAt, mulAt_of_fit fit.silence, Ranged.ok_bind, silence, Ranged.ok_bind,
            mulAt_of_fit fit.test, Ranged.ok_bind, test, Ranged.ok_bind, idle, Ranged.ok_bind]
          split <;> rfl

end Deadlines

section Runs

variable {σ ω : Type} [Chrono] [MessageStore σ] [Application ω] [Runtime ω]

/-! ## The reply -/

/-- The interval of a Logon is that of the session. -/
lemma getRaw_logonMessage (s : Session σ) (reset next) :
    (s.logonMessage reset next).body.getRaw Tags.heartBtInt = some (encode s.heartBtInt) := by
  unfold logonMessage Message.setOption Message.setFlag
  split <;> split <;> split <;> simp +decide [Message.set]

/-- An interval that can be used is read back from the reply. -/
lemma heartBtInt_logonReply {latest} {s : Session σ} (usable : Usable latest s.heartBtInt) :
    s.logonReply.bodyU64 Tags.heartBtInt = some s.heartBtInt := by
  have small : s.heartBtInt < 2 ^ 63 := by
    unfold Usable mulTenths maxInstant nanosPerSec at usable
    omega
  rw [Message.bodyU64, FieldMap.getOpt, logonReply, getRaw_logonMessage]
  simp only [decodeU64_encode small, Except.map]

/-! ## Runs -/

variable {latest : Nat}

/-- The interval of a session can be used, at most one TestRequest is outstanding, and the last
messages were sent and received at a reading of the clock. -/
structure Paced (latest : Nat) (s : Sys σ ω) : Prop where
  interval : Usable latest s.session.heartBtInt
  counter : s.session.testRequestCounter ≤ 1
  sent : s.session.lastSent ≤ latest
  received : s.session.lastReceived ≤ latest
  settings : ∀ c ∈ s.trace, c.session.cfg = s.session.cfg
  replies : ∀ c ∈ s.trace, SaysInterval c

/-- The deadlines of a paced session are instants. -/
lemma Paced.deadlines {latest} {s : Sys σ ω} (h : Paced latest s) : s.session.DeadlinesFit where
  silence := (Nat.add_le_add_right h.received _).trans_lt h.interval
  test := by
    have tenths : 12 * (s.session.testRequestCounter + 1) ≤ 24 :=
      Nat.mul_le_mul_left 12 (Nat.succ_le_succ h.counter)
    exact (Nat.add_le_add h.received (mulTenths_le tenths)).trans_lt h.interval
  idle := by
    have interval := h.interval
    have sent := h.sent
    unfold Usable mulTenths nanosPerSec at interval
    unfold nanosPerSec
    omega

/-- What is paced is timely. -/
lemma Paced.timely {latest} {s : Sys σ ω} (h : Paced latest s) : s.Timely where
  deadlines := h.deadlines
  computed loggedOn received := h.deadlines.computed (.inr loggedOn) (.inr received)
  counter := h.counter
  replies := h.replies

/-- Whether a Logon is announced as a reply. -/
def Event.isReply : Event → Bool
  | .log (.respondingToLogon _) => true
  | _ => false

/-- What is no reply says no interval. -/
lemma SaysInterval.of_other {c : Call σ} (other : c.event.isReply = false) : SaysInterval c := by
  intro logon ev
  rw [ev] at other
  cases other

/-- A Logon that is announced as a reply says the interval of the session. -/
lemma Announced.saysInterval {x : Session σ} {calls line logon latest} (h : Announced x calls line logon)
    (usable : Usable latest x.heartBtInt) : SaysInterval ⟨x, .log line⟩ := by
  intro reply ev
  cases h with
  | initiated => cases ev
  | responding =>
    cases ev
    exact heartBtInt_logonReply usable

/-- The pace after a call. -/
lemma Paced.call {s t : Sys σ ω} {e : Event} (h : Paced latest s)
    (tr : t.trace = ⟨s.session, e⟩ :: s.trace) (reply : SaysInterval ⟨s.session, e⟩)
    (cfg : t.session.cfg = s.session.cfg) (interval : Usable latest t.session.heartBtInt)
    (counter : t.session.testRequestCounter ≤ 1) (sent : t.session.lastSent ≤ latest)
    (received : t.session.lastReceived ≤ latest) : Paced latest t := by
  refine ⟨interval, counter, sent, received, ?_, ?_⟩
  · rw [tr, cfg, List.forall_mem_cons]
    exact ⟨rfl, h.settings⟩
  · rw [tr, List.forall_mem_cons]
    exact ⟨reply, h.replies⟩

/-- A call that leaves the pace. -/
lemma Paced.other {s t : Sys σ ω} {e : Event} (h : Paced latest s)
    (tr : t.trace = ⟨s.session, e⟩ :: s.trace) (other : e.isReply = false)
    (cfg : t.session.cfg = s.session.cfg)
    (interval : t.session.heartBtInt = s.session.heartBtInt)
    (counter : t.session.testRequestCounter = s.session.testRequestCounter)
    (sent : t.session.lastSent = s.session.lastSent)
    (received : t.session.lastReceived = s.session.lastReceived) : Paced latest t := by
  refine h.call tr (.of_other other) cfg ?_ ?_ ?_ ?_
  · exact interval ▸ h.interval
  · exact counter ▸ h.counter
  · exact sent ▸ h.sent
  · exact received ▸ h.received

/-- The same calls, and a pace of its own. -/
lemma Paced.keep {s t : Sys σ ω} (h : Paced latest s) (tr : t.trace = s.trace)
    (cfg : t.session.cfg = s.session.cfg) (interval : Usable latest t.session.heartBtInt)
    (counter : t.session.testRequestCounter ≤ 1) (sent : t.session.lastSent ≤ latest)
    (received : t.session.lastReceived ≤ latest) : Paced latest t := by
  refine ⟨interval, counter, sent, received, ?_, ?_⟩
  · rw [tr, cfg]
    exact h.settings
  · rw [tr]
    exact h.replies

/-- The interval a Logon that passed asks for can be used. -/
lemma Paced.asked {msg} {s : Sys σ ω} (h : Paced latest s) (asks : s.AsksUsable latest)
    (acceptor : s.session.isInitiator = false) (passed : PassedLogon msg s.trace)
    (type : msg.msgTypeOrDefault = MsgType.logon) :
    Usable latest (Session.adoptHeartbeat (msg.bodyU64 Tags.heartBtInt) s.session).heartBtInt := by
  obtain ⟨c, p, rest, tr, ev, -⟩ := passed
  have settings : c.session.cfg = s.session.cfg :=
    h.settings c (by rw [tr]; exact List.mem_cons_self)
  have acceptor : c.session.isInitiator = false := by
    rw [Session.isInitiator, settings]
    exact acceptor
  have asks : asksUsable latest c rest = true := by
    rw [Sys.AsksUsable, tr] at asks
    exact asks.1
  cases asked : msg.bodyU64 Tags.heartBtInt with
  | none => exact h.interval
  | some secs =>
    simpa [asksUsable, ev, asked, type, acceptor, settings, Session.adoptHeartbeat] using asks

/-- Giving up the connection leaves the pace. -/
lemma GivenUp.paced {s t : Sys σ ω} (left : GivenUp s t) (h : Paced latest s) : Paced latest t := by
  have detached :
      Paced latest ((s.called (.log .disconnecting) s.world).updated Session.detached) :=
    h.call rfl (.of_other rfl) rfl h.interval (Nat.zero_le 1) h.sent h.received
  refine left.elim (fun cut => ?_) fun _ h => h.other rfl rfl rfl rfl rfl rfl rfl
  cases cut with
  | kept => exact detached
  | reset => exact detached.other rfl rfl rfl rfl rfl rfl rfl

/-- An act of the outbound half keeps the pace. -/
lemma SendAct.paced {s t : Sys σ ω} (clock : ∀ w : ω, (Runtime.instantNow w).1 ≤ latest)
    (act : SendAct true s t) (asks : t.AsksUsable latest) (h : Paced latest s) :
    Paced latest t := by
  cases act with
  | quiet w lastSent lastReceived counter seq queued pending count queue sent received =>
    refine h.keep rfl rfl h.interval ?_ ?_ ?_
    · rcases count with rfl | rfl
      · exact Nat.zero_le 1
      · exact h.counter
    · rcases sent with rfl | ⟨w, rfl⟩
      · exact h.sent
      · exact clock w
    · rcases received with rfl | ⟨w, -, rfl⟩
      · exact h.received
      · exact clock w
  | adopt acceptor passed type asked =>
    exact h.keep rfl rfl (asked ▸ h.asked asks acceptor passed type) h.counter h.sent h.received
  | logon => exact h.keep rfl rfl h.interval h.counter h.sent h.received
  | @announce line logon _ now w own =>
    have noted : Paced latest (s.called (.log line) w) :=
      h.call rfl (own.saysInterval h.interval) rfl h.interval h.counter h.sent h.received
    exact noted.other rfl rfl rfl rfl rfl rfl rfl
  | cut _ _ left => exact left.paced h
  | _ => exact h.other rfl rfl rfl rfl rfl rfl rfl

/-- An act of the handlers keeps the pace. -/
lemma HandleAct.paced {s t : Sys σ ω} (clock : ∀ w : ω, (Runtime.instantNow w).1 ≤ latest)
    (act : HandleAct true s t) (asks : t.AsksUsable latest) (h : Paced latest s) :
    Paced latest t := by
  cases act with
  | send act => exact act.paced clock asks h
  | @deliver _ msg answer w =>
    have noted : Paced latest (s.called (.fromApp msg answer) w) :=
      h.other rfl rfl rfl rfl rfl rfl rfl
    exact noted.other rfl rfl rfl rfl rfl rfl rfl
  | receivingReset | endingResets | logon | supersede =>
    exact h.keep rfl rfl h.interval h.counter h.sent h.received
  | @stashAndExpect _ msg seq recovery what chunkEnd =>
    have stashed : Paced latest (s.stashing seq msg recovery) := h.other rfl rfl rfl rfl rfl rfl rfl
    have computed : Paced latest ((s.stashing seq msg recovery).called (.compute what) s.world) :=
      stashed.other rfl rfl rfl rfl rfl rfl rfl
    exact computed.other rfl rfl rfl rfl rfl rfl rfl
  | _ => exact h.other rfl rfl rfl rfl rfl rfl rfl

/-- An act of a session keeps the pace. -/
lemma Act.paced {s t : Sys σ ω} (clock : ∀ w : ω, (Runtime.instantNow w).1 ≤ latest)
    (act : Act s t) (asks : t.AsksUsable latest) (h : Paced latest s) : Paced latest t := by
  cases act with
  | handle act => exact act.paced clock asks h
  | send act => exact act.paced clock asks h
  | attach sent received _ read later =>
    obtain ⟨w, rfl⟩ := read
    obtain ⟨w', -, rfl⟩ := later
    exact h.call rfl (.of_other rfl) rfl h.interval (Nat.zero_le 1) (clock w) (clock w')
  | ask _ first =>
    refine h.keep rfl rfl h.interval ?_ h.sent h.received
    show s.session.testRequestCounter + 1 ≤ 1
    rw [first]
  | cut _ left => exact left.paced h
  | endLogout now _ left => exact left.paced (h.other rfl rfl rfl rfl rfl rfl rfl)
  | _ => exact h.other rfl rfl rfl rfl rfl rfl rfl

end Runs

/-! ## Scripted runs -/

namespace Script

/-- Scripts whose monotonic clock reads at most an instant. -/
abbrev Timed (latest : Nat) := { w : Script // w.instant ≤ latest }

variable {latest : Nat}

instance : Runtime (Timed latest) where
  utcNow w := (w.1.utc, w)
  instantNow w := (w.1.instant, w)
  send raw w := ((Runtime.send raw w.1).1, ⟨(Runtime.send raw w.1).2, w.2⟩)

instance : Application (Timed latest) where
  onLogon w := w
  onLogout w := w
  toAdmin m w := (m, w)
  toApp m w := (some m, w)
  fromAdmin m w := ((Application.fromAdmin m w.1).1, ⟨(Application.fromAdmin m w.1).2, w.2⟩)
  fromApp m w := ((Application.fromApp m w.1).1, ⟨(Application.fromApp m w.1).2, w.2⟩)

/-- A Logon of the counterparty that asks for an interval. -/
def asking (secs : Bytes) : List Input :=
  [.attach, .inbound ((fromPeer MsgType.logon 1).set Tags.heartBtInt secs).toBytes]

end Script

end QuickFix
