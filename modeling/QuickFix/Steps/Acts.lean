import QuickFix.Session.Run
import QuickFix.Lib.Runs

/-!
# The acts of a session

What a session can do in one step of its code, as a relation on systems. `SendAct` has what the
outbound half does, `HandleAct` adds what the handlers of messages do, `Act` what the run loop does.
Every act says what it changes and in which states the code takes it; the functions of the session
are shown to be runs of acts, so a property of all runs needs a proof for each act only.

A write task that is gone ends the connection in the middle of a handler, which goes on regardless.
So the handlers act on a session that is `Live`: connected, or having lost its connection since the
frame was taken up.
-/

namespace QuickFix

open Relation Session

/-! ## What a message is handled as -/

/-- What the session is working on: a message, or an entry it took out of the stash. -/
inductive Item where
  | message (origin : Origin) (msg : Message)
  | entry (seq : Nat) (raw : Bytes)

/-- What the session is working on, if it is dealing with a frame. -/
def handled {σ : Type} : List (Call σ) → Option Item
  | [] => none
  | c :: cs =>
    match c.event with
    | .process origin msg => some (.message origin msg)
    | .unstash seq raw => some (.entry seq raw)
    | .done => none
    | _ => handled cs

/-- Whether the next target number was moved since a resend range was recorded last. -/
def stale {σ : Type} : List (Call σ) → Bool
  | [] => false
  | c :: cs =>
    match c.event with
    | .expect .. | .done => false
    | .incrTarget _ | .setTarget .. => true
    | _ => stale cs

/-- Whether an event delivers an application message. -/
def Event.delivers : Event → Bool
  | .fromApp .. => true
  | _ => false

/-- Whether the latest call delivered a message. -/
def delivering {σ : Type} (cs : List (Call σ)) : Bool := cs.head?.any (·.event.delivers)

/-- The call hands the Reject that answers a message to its callback. -/
def Call.rejects {σ : Type} [Chrono] [MessageStore σ] (msg : Message) (c : Call σ) : Prop :=
  ∃ rej now sent, c.event = .toAdmin
    (c.session.filledHeader now (rejectMessage c.session.cfg.sessionId msg rej).fresh) sent

/-- The call refuses a message: it hands the Reject that answers it, or a Logout, to its callback. -/
def Call.refuses {σ : Type} [Chrono] [MessageStore σ] (msg : Message) (c : Call σ) : Prop :=
  c.rejects msg ∨ ∃ reason now sent,
    c.event = .toAdmin (c.session.filledHeader now (logoutMessage reason).fresh) sent

/-- The message that is worked on was counted, and was neither delivered before nor refused since. -/
def Owes {σ : Type} [Chrono] [MessageStore σ] (msg : Message) : List (Call σ) → Prop
  | [] => False
  | c :: cs =>
    match c.event with
    | .process .. | .unstash .. | .done => False
    | .incrTarget (.ok _) => delivering cs = false ∨ Owes msg cs
    | .toAdmin .. => ¬ c.refuses msg ∧ Owes msg cs
    | _ => Owes msg cs

/-- Where an application message is worked on, its count is explained: it was delivered or refused. -/
def Explained {σ : Type} [Chrono] [MessageStore σ] (cs : List (Call σ)) : Prop :=
  ∀ origin msg, handled cs = some (.message origin msg) → msg.isAdmin = false → ¬ Owes msg cs

/-- Whether the bytes read like those of a queued Logon or ResendRequest. -/
def queuedAdmin (raw : Bytes) : Bool := containsField raw (ascii "35=A") || containsField raw (ascii "35=2")

/-- Bytes of the stash that are counted and dropped: they read like session control, or they do not parse. -/
def DropsQueued (raw : Bytes) : Prop := queuedAdmin raw = true ∨ ∀ msg, Message.parse raw false ≠ .ok msg

/-- Whether a write failed since the frame that is dealt with was taken up. -/
def broken {σ : Type} : List (Call σ) → Bool
  | [] => false
  | c :: cs =>
    match c.event with
    | .process .wire _ | .done => false
    | .write _ false => true
    | _ => broken cs

namespace Event

/-- Whether an event belongs to sending. -/
def isSend : Event → Bool
  | .log _ | .compute _ | .toAdmin .. | .toApp .. | .onLogout | .incrSender .. | .save ..
  | .getMessages .. | .reset .disconnect _ | .transmit .. | .write .. => true
  | _ => false

/-- Whether a message takes its number. -/
def takesNumber : Event → Bool
  | .save _ _ (.ok _) | .incrSender (.ok _) => true
  | _ => false

/-- The message an outgoing callback lets through. -/
def letsThrough : Event → Option Message
  | .toAdmin m _ | .toApp m (some _) => some m
  | _ => none

/-- Whether an event belongs to handing on the bytes, or to the loss of the connection. -/
def carries (raw : Bytes) : Event → Bool
  | .transmit raw' | .write raw' _ => raw' = raw
  | .log .disconnecting | .reset .disconnect _ | .onLogout => true
  | _ => false

/-- Whether an event belongs to a gap fill, or to the loss of the connection. -/
def fills : Event → Bool
  | .toAdmin .. | .transmit .. | .write .. | .log .disconnecting | .reset .disconnect _
  | .onLogout => true
  | _ => false

end Event

/-- The fresh message that is accepted at a call: it takes its number right after its callback. -/
def freshMessage {σ : Type} (c callback : Call σ) : Option Message :=
  if c.event.takesNumber then callback.event.letsThrough else none

section

set_option linter.unusedSectionVars false

variable {σ ω : Type} [Chrono] [MessageStore σ] [Application ω] [Runtime ω]

/-- The write task was gone at the latest call. -/
def WriteFailed (s : Sys σ ω) : Prop :=
  ∃ c, s.trace.head? = some c ∧ ∃ raw, c.event = .write raw false

/-- Nothing is left of a connection. -/
def Session.IsDetached (s : Session σ) : Prop := s.detached = s

/-- The latest call was the outgoing callback of the message that the session encodes as `raw`, which
had the next sender number when it was made. -/
def Outgoing (seq : Nat) (raw : Bytes) (x : Session σ) (trace : List (Call σ)) : Prop :=
  ∃ c m m', trace.head? = some c ∧
    (c.event = .toAdmin m m' ∨ c.event = .toApp m (some m')) ∧
    m.header.getRaw Tags.msgSeqNum = some (encode (MessageStore.nextSenderSeqNum x.store)) ∧
    (x.canonicalized m').seqNum = .ok seq ∧ raw = (x.canonicalized m').toBytes

/-- The latest call stored the bytes. -/
def JustStored (raw : Bytes) (trace : List (Call σ)) : Prop :=
  ∃ c rest seq, trace = c :: rest ∧ c.event = .save seq raw (.ok ())

/-- The bytes are what an outgoing callback made of a possible duplicate; nothing but a gap fill was
sent since. -/
def Resent (raw : Bytes) (trace : List (Call σ)) : Prop :=
  ∃ recent c rest m m', trace = recent ++ c :: rest ∧ (∀ d ∈ recent, d.event.fills = true) ∧
    (c.event = .toAdmin m m' ∨ c.event = .toApp m (some m')) ∧ m.possDup = true ∧ raw = m'.toBytes

/-- The fresh message that just took its number is handed on: it is session control, or we have sent
our Logon. -/
def Gated (s : Sys σ ω) : Prop :=
  ∃ c d rest m, s.trace = c :: d :: rest ∧ freshMessage c d = some m ∧
    (d.session.isLoggedOn = true ∨ d.session.sentLogon = true ∨
      alwaysSent m.msgTypeOrDefault = true) ∧
    s.session.receivedLogon = d.session.receivedLogon ∧ s.session.sentLogon = d.session.sentLogon

/-- Bytes are handed on when they were just stored, or sent again. -/
inductive Transmittable (fresh : Bool) (raw : Bytes) (s : Sys σ ω) : Prop
  | stored : fresh = true → JustStored raw s.trace → Gated s → Transmittable fresh raw s
  | volatile : fresh = true → s.session.cfg.persistMessages = false → Gated s →
      Transmittable fresh raw s
  | resent : Resent raw s.trace → Transmittable fresh raw s

/-- The session has a connection. -/
def Sys.Connected (s : Sys σ ω) : Prop := s.session.outbound = true ∨ s.session.inbound = true

instance (s : Sys σ ω) : Decidable s.Connected := inferInstanceAs (Decidable (_ ∨ _))

/-- The session has a connection, or lost it since the frame was taken up. -/
def Live (s : Sys σ ω) : Prop := s.Connected ∨ broken s.trace = true

/-- The session has the connection it had at a call. -/
def Keeps (c : Call σ) (s : Sys σ ω) : Prop :=
  s.session.inbound = c.session.inbound ∧ s.session.outbound = c.session.outbound

/-- The session has the connection it had when a Logon was taken up. -/
def Undisturbed (s : Sys σ ω) : Prop :=
  ∃ c ∈ s.trace, (∃ origin msg, c.event = .process origin msg ∧
    msg.msgTypeOrDefault = MsgType.logon) ∧ Keeps c s

/-- The next target number of a system. -/
abbrev Sys.nextTarget (s : Sys σ ω) : Nat := MessageStore.nextTargetSeqNum s.session.store

/-- The next target number when a call was made. -/
abbrev Call.nextTarget (c : Call σ) : Nat := MessageStore.nextTargetSeqNum c.session.store

/-- The next sender number of a system. -/
abbrev Sys.nextSender (s : Sys σ ω) : Nat := MessageStore.nextSenderSeqNum s.session.store

/-- The next sender number when a call was made. -/
abbrev Call.nextSender (c : Call σ) : Nat := MessageStore.nextSenderSeqNum c.session.store

/-- What the session computes with its counters. -/
inductive Computed (s : Sys σ ω) : List Computation → Prop
  | none : Computed s []
  | request {received} (high : s.nextTarget < received) : Computed s [.request s.nextTarget received]
  | nextChunk {b fullEnd c} (range : s.session.resendRange = some (b, fullEnd, c)) :
      Computed s [.nextChunk fullEnd]
  | nextExpected : Computed s [.nextExpected]
  | gap {seq} (high : s.nextTarget < seq) : Computed s [.gap seq]
  | lastSent : Computed s [.lastSent]
  /-- The end of the gap fill was sent before a call. -/
  | fillEnd {c : Call σ} {n} (mem : c ∈ s.trace) (sent : n + 1 ≤ max 1 c.nextSender) :
      Computed s [.fillEnd n]

/-- What a Logon, or the settings of an acceptor, ask of the store before the Logon is verified. -/
inductive Asked (msg : Message) (x : Session σ) : Event → Prop
  /-- The peer resets, and does not answer a reset of ours with that. -/
  | resetFlag {res} (flag : msg.bodyFlag Tags.resetSeqNumFlag = true) (own : x.sentReset = false) :
      Asked msg x (.reset .resetFlag res)
  | logon {res} (acceptor : x.isInitiator = false) (setting : x.cfg.resetOnLogon = true)
      (received : x.receivedReset = false) (flag : msg.bodyFlag Tags.resetSeqNumFlag = false) :
      Asked msg x (.reset .logon res)
  | refresh {res} (acceptor : x.isInitiator = false) (setting : x.cfg.refreshOnLogon = true) :
      Asked msg x (.refresh res)

/-- Since the Logon was taken up at a call, nothing was done but what is asked of the store. -/
structure Preparing (origin : Origin) (msg : Message) (p : Call σ) (s : Sys σ ω) : Prop where
  log : ∃ recent rest, s.trace = recent ++ p :: rest ∧ ∀ d ∈ recent, Asked msg p.session d.event
  taken : p.event = .process origin msg
  cfg : s.session.cfg = p.session.cfg
  sentReset : s.session.sentReset = p.session.sentReset
  received : s.session.receivedReset = false → p.session.receivedReset = false
  same : Keeps p s

/-- Since the Logon was taken up at a call, what it asks of the store was done, and nothing else. -/
def Renewed (msg : Message) (p : Call σ) (trace : List (Call σ)) : Prop :=
  ∃ recent rest, trace = recent ++ p :: rest ∧ (∀ d ∈ recent, Asked msg p.session d.event) ∧
    (msg.bodyFlag Tags.resetSeqNumFlag = true → p.session.sentReset = false →
      ∃ d ∈ recent, d.event = .reset .resetFlag (.ok ()))

/-- The latest call let a Logon pass its callback, after what it asks of the store was done. -/
def PassedLogon (msg : Message) (trace : List (Call σ)) : Prop :=
  ∃ c p rest, trace = c :: rest ∧ c.event = .fromAdmin msg (.ok ()) ∧
    (∃ origin, p.event = .process origin msg) ∧ Renewed msg p rest

/-- The Logons a session sends, and how it announces them. -/
inductive Announced (x : Session σ) : List (Call σ) → LogLine → Message → Prop
  | initiated {trace} : Announced x trace (.initiatedLogon x.logonRequest) x.logonRequest
  | responding {msg d what rest} (computed : d.event = .compute what) (passed : PassedLogon msg rest) :
      Announced x (d :: rest) (.respondingToLogon x.logonReply) x.logonReply

/-- The system after an outgoing message was announced and went through its callback. -/
def Sys.announcing (line : LogLine) (m : Message) (w : ω) (s : Sys σ ω) : Sys σ ω :=
  (s.called (.log line) w).called (.toAdmin m (Application.toAdmin m w).1) (Application.toAdmin m w).2

/-- The monotonic clock reads the instant in some environment. -/
def IsInstant (ω : Type) [Runtime ω] (n : Nat) : Prop := ∃ w : ω, n = (Runtime.instantNow w).1

/-- A call on the environment. -/
inductive Calls : ω → ω → Prop
  | utcNow (w) : Calls w (Runtime.utcNow w).2
  | instantNow (w) : Calls w (Runtime.instantNow w).2
  | send (raw) (w) : Calls w (Runtime.send raw w).2
  | onLogon (w) : Calls w (Application.onLogon w)
  | onLogout (w) : Calls w (Application.onLogout w)
  | toAdmin (m) (w) : Calls w (Application.toAdmin m w).2
  | toApp (m) (w) : Calls w (Application.toApp m w).2
  | fromAdmin (m) (w) : Calls w (Application.fromAdmin m w).2
  | fromApp (m) (w) : Calls w (Application.fromApp m w).2

/-- Calls on the environment, one after the other. -/
abbrev Passes : ω → ω → Prop := ReflTransGen Calls

/-- The monotonic clock reads the instant after calls on the environment. -/
def ReadsAfter (w : ω) (n : Nat) : Prop := ∃ w', Passes w w' ∧ n = (Runtime.instantNow w').1

/-- No call passes. -/
@[simp] lemma passes_refl (w : ω) : Passes w w := .refl

/-- Reading the clock of the day. -/
@[simp] lemma passes_utcNow (w : ω) : Passes w (Runtime.utcNow w).2 := .single (.utcNow w)

/-- Reading the monotonic clock. -/
@[simp] lemma passes_instantNow (w : ω) : Passes w (Runtime.instantNow w).2 := .single (.instantNow w)

/-- The system once its connection was given up: without what the session kept for it, after a reset
if that is asked for. -/
inductive Cut (s : Sys σ ω) : Sys σ ω → Prop
  | kept (flag : s.session.cfg.resetOnDisconnect = false) :
      Cut s ((s.called (.log .disconnecting) s.world).updated Session.detached)
  | reset (w now) (flag : s.session.cfg.resetOnDisconnect = true) (passes : Passes s.world w) : Cut s
      ({ (s.called (.log .disconnecting) s.world).updated Session.detached with world := w }.stored
        (.reset .disconnect (MessageStore.reset now s.session.store).1)
        (MessageStore.reset now s.session.store).2)

/-- The system once its connection was given up and, where a Logon had come or gone, the application
was told. -/
inductive GivenUp (s : Sys σ ω) : Sys σ ω → Prop
  | silent {t} (off : (s.session.receivedLogon || s.session.sentLogon) = false) (cut : Cut s t) :
      GivenUp s t
  | told {t} (on : (s.session.receivedLogon || s.session.sentLogon) = true) (cut : Cut s t) :
      GivenUp s (t.called .onLogout (Application.onLogout t.world))

/-- What the loss of the connection leads to, and the call to the application keeps. -/
lemma GivenUp.elim {P : Sys σ ω → Prop} {s t : Sys σ ω} (h : GivenUp s t) (cut : ∀ {u}, Cut s u → P u)
    (told : ∀ {u}, Cut s u → P u → P (u.called .onLogout (Application.onLogout u.world))) : P t := by
  cases h with
  | silent _ left => exact cut left
  | told _ left => exact told left (cut left)

/-- The acts of the outbound half; where `fresh` is false, those of resends and gap fills. -/
inductive SendAct (fresh : Bool) : Sys σ ω → Sys σ ω → Prop
  /-- Clocks are read, and what no other act depends on is set. -/
  | quiet {s} (w lastSent lastReceived counter seq queued pending)
      (count : counter = 0 ∨ counter = s.session.testRequestCounter)
      (queue : queued = false ∨ queued = s.session.lastProcessedWasQueued)
      (sent : lastSent = s.session.lastSent ∨ IsInstant ω lastSent)
      (received : lastReceived = s.session.lastReceived ∨ ReadsAfter s.world lastReceived)
      (passes : Passes s.world w) : SendAct fresh s
      { s with
        world := w
        session := { s.session with
          lastSent := lastSent
          lastReceived := lastReceived
          testRequestCounter := counter
          lastReceivedSeq := seq
          lastProcessedWasQueued := queued
          pendingLogon := pending } }
  /-- The heartbeat interval of a Logon is adopted. -/
  | adopt {s msg hbi} (acceptor : s.session.isInitiator = false) (passed : PassedLogon msg s.trace)
      (type : msg.msgTypeOrDefault = MsgType.logon)
      (asked : hbi = (Session.adoptHeartbeat (msg.bodyU64 Tags.heartBtInt) s.session).heartBtInt) :
      SendAct fresh s (s.updated ({ · with heartBtInt := hbi }))
  /-- A Logon is about to be sent, on a new connection or for the Logon that is handled. -/
  | logon {s} (sentReset) (connected : s.session.outbound = true ∨ Undisturbed s) : SendAct fresh s
      (s.updated fun x => { x with sentReset := sentReset, sentLogon := true })
  /-- A Logout is about to be sent. -/
  | logout {s}
      (why : handled s.trace ≠ none ∨ s.session.outbound = true ∨ s.session.isLoggedOn = true) :
      SendAct fresh s
      ((s.called (.log .initiatedLogout) s.world).updated ({ · with sentLogout := true }))
  /-- A Logon is announced, filled and shown to the application. -/
  | announce {s line logon} (isFresh : fresh = true) (now w)
      (own : Announced s.session s.trace line logon) (passes : Passes s.world w) : SendAct fresh s
      (s.announcing line (s.session.filledHeader now logon.fresh) w)
  | compute {s} (what) (why : Computed s what) : SendAct fresh s (s.called (.compute what) s.world)
  | toAdmin {s} (m) : SendAct fresh s
      (s.called (.toAdmin m (Application.toAdmin m s.world).1) (Application.toAdmin m s.world).2)
  | toApp {s} (m) : SendAct fresh s
      (s.called (.toApp m (Application.toApp m s.world).1) (Application.toApp m s.world).2)
  | save {s seq raw} (isFresh : fresh = true) (out : Outgoing seq raw s.session s.trace)
      (persist : s.session.cfg.persistMessages = true) :
      SendAct fresh s (s.stored (.save seq raw (MessageStore.saveMessageAndIncr seq raw s.session.store).1)
        (MessageStore.saveMessageAndIncr seq raw s.session.store).2)
  | incrSender {s} (isFresh : fresh = true) (volatile : s.session.cfg.persistMessages = false) :
      SendAct fresh s
      (s.stored (.incrSender (MessageStore.incrNextSenderSeqNum s.session.store).1)
        (MessageStore.incrNextSenderSeqNum s.session.store).2)
  | getMessages {s} (b e) : SendAct fresh s
      (s.stored (.getMessages b e) (MessageStore.getMessages b e s.session.store).2)
  | transmit {s} (raw) (why : Transmittable fresh raw s) :
      SendAct fresh s (s.called (.transmit raw) s.world)
  | write {s} (raw) (connected : s.session.outbound = true) : SendAct fresh s
      (s.called (.write raw (Runtime.send raw s.world).1) (Runtime.send raw s.world).2)
  /-- The write task is gone. -/
  | cut {s t} (failed : WriteFailed s) (connected : s.Connected) (left : GivenUp s t) :
      SendAct fresh s t

/-- A clock is read. -/
lemma SendAct.clock {fresh} {s : Sys σ ω} (w) (passes : Passes s.world w := by simp) :
    SendAct fresh s { s with world := w } :=
  .quiet w s.session.lastSent s.session.lastReceived s.session.testRequestCounter
    s.session.lastReceivedSeq s.session.lastProcessedWasQueued s.session.pendingLogon (.inr rfl)
    (.inr rfl) (.inl rfl) (.inl rfl) passes

/-- What is set between calls. -/
lemma SendAct.set {fresh} {s : Sys σ ω} (seq queued pending)
    (queue : queued = false ∨ queued = s.session.lastProcessedWasQueued) : SendAct fresh s
    (s.updated fun x => { x with
      lastReceivedSeq := seq
      lastProcessedWasQueued := queued
      pendingLogon := pending }) :=
  .quiet s.world s.session.lastSent s.session.lastReceived s.session.testRequestCounter seq queued
    pending (.inr rfl) queue (.inl rfl) (.inl rfl) .refl

/-- Runs of the outbound half. -/
abbrev Sends : Sys σ ω → Sys σ ω → Prop := ReflTransGen (SendAct true)

/-- Runs of resends and gap fills. -/
abbrev Resends : Sys σ ω → Sys σ ω → Prop := ReflTransGen (SendAct false)

/-- What may be sent again may be sent. -/
lemma Transmittable.fresh {raw} {s : Sys σ ω} (h : Transmittable false raw s) :
    Transmittable true raw s := by
  cases h with
  | stored isFresh | volatile isFresh => exact absurd isFresh (by decide)
  | resent why => exact .resent why

/-- An act of a resend is an act of the outbound half. -/
lemma SendAct.fresh {s t : Sys σ ω} (h : SendAct false s t) : SendAct true s t := by
  cases h with
  | quiet _ _ _ _ _ _ _ count queue sent received passes =>
    exact .quiet _ _ _ _ _ _ _ count queue sent received passes
  | adopt acceptor passed type asked => exact .adopt acceptor passed type asked
  | logon sentReset connected => exact .logon sentReset connected
  | logout why => exact .logout why
  | compute what why => exact .compute what why
  | toAdmin m => exact .toAdmin m
  | toApp m => exact .toApp m
  | announce isFresh | save isFresh | incrSender isFresh => exact absurd isFresh (by decide)
  | getMessages b e => exact .getMessages b e
  | transmit raw why => exact .transmit raw why.fresh
  | write raw connected => exact .write raw connected
  | cut failed connected left => exact .cut failed connected left

/-- Resending is sending. -/
lemma Resends.sends {s t : Sys σ ω} (h : Resends s t) : Sends s t := runs_mono SendAct.fresh h

/-! ## Inbound acts -/

/-- The system after an increment of the next target number. -/
def Sys.counted (s : Sys σ ω) : Sys σ ω :=
  s.stored (.incrTarget (MessageStore.incrNextTargetSeqNum s.session.store).1)
    (MessageStore.incrNextTargetSeqNum s.session.store).2

/-- The system after a resend range was recorded. -/
def Sys.expecting (b fullEnd chunkEnd : Nat) (s : Sys σ ω) : Sys σ ω :=
  (s.called (.expect b fullEnd chunkEnd) s.world).updated (Session.expecting b fullEnd chunkEnd)

/-- The system after a message was stashed. -/
def Sys.stashing (seq : Nat) (msg : Message) (recovery : Recovery) (s : Sys σ ω) : Sys σ ω :=
  (s.called (.stash seq msg recovery) s.world).updated (Session.stashing seq msg.toBytes)

/-- The incoming callback of a message, with its answer. -/
def incoming (msg : Message) (answer : Except ApplicationError Unit) : Event :=
  if msg.isAdmin then .fromAdmin msg answer else .fromApp msg answer

/-- Since the call the session changed in what is noted about its peer's silence only. -/
def Fresh (c : Call σ) (s : Sys σ ω) : Prop :=
  ∃ lastReceived counter, s.session =
    { c.session with lastReceived := lastReceived, testRequestCounter := counter }

/-- The latest call took up the message. -/
def TakenUp (origin : Origin) (msg : Message) (s : Sys σ ω) : Prop :=
  ∃ c rest, s.trace = c :: rest ∧ c.event = .process origin msg ∧ Fresh c s

/-- The latest call was the incoming callback of the message taken up last, with this answer. -/
def Answered (msg : Message) (answer : Except ApplicationError Unit) (s : Sys σ ω) : Prop :=
  ∃ c rest origin, s.trace = c :: rest ∧ c.event = .fromAdmin msg answer ∧
    c.session = s.session ∧ handled rest = some (.message origin msg)

/-- Calls of the outbound half, where the store was reset only after a write failed. -/
structure SendLog (calls : List (Call σ)) : Prop where
  sends : ∀ c ∈ calls, c.event.isSend = true
  resets : ∀ c ∈ calls, ∀ site res, c.event = .reset site res →
    c.session.cfg.resetOnDisconnect = true ∧
      ∃ d rest raw, d :: rest <:+ calls ∧ d.event = .write raw false

/-- After the message passed its callback, nothing but sending was done. -/
structure SentSince (origin : Origin) (msg : Message) (c : Call σ) (s : Sys σ ω) : Prop where
  log : ∃ recent rest, s.trace = recent ++ c :: rest ∧ SendLog recent ∧
    handled rest = some (.message origin msg)
  passed : c.event = .fromAdmin msg (.ok ())

/-- A limited resend request from the next target number stays in the range of `u64`. -/
def Session.RequestRoom (x : Session σ) : Prop :=
  x.cfg.maxMessagesInResendRequest = 0 ∨
    MessageStore.nextTargetSeqNum x.store + x.cfg.maxMessagesInResendRequest < 2 ^ 64

instance (x : Session σ) : Decidable x.RequestRoom := inferInstanceAs (Decidable (_ ∨ _))

/-- What justifies that the next target number is incremented. -/
inductive Counted (s : Sys σ ω) : Prop
  /-- An entry of the stash is dropped. -/
  | entry {seq raw} : handled s.trace = some (.entry seq raw) → seq = s.nextTarget → DropsQueued raw →
      Counted s
  /-- A message with that number is handled. -/
  | inSequence {origin msg} : handled s.trace = some (.message origin msg) →
      msg.seqNum = .ok s.nextTarget → Counted s
  /-- A message of another version is refused. -/
  | version {origin msg} : TakenUp origin msg s →
      msg.header.getRaw Tags.beginString ≠ some s.session.cfg.sessionId.beginString → Counted s
  /-- The application refuses a message. -/
  | refused {msg answer} : Answered msg answer s →
      (∃ reason, answer = .error (.rejectLogon reason)) ∨ answer = .error .unsupportedMessageType →
      Counted s
  /-- A Logout is answered. -/
  | logout {origin msg c} : SentSince origin msg c s → msg.msgTypeOrDefault = MsgType.logout →
      Counted s
  /-- A TestRequest is answered. -/
  | testRequest {origin msg c} : SentSince origin msg c s →
      msg.msgTypeOrDefault = MsgType.testRequest → msg.seqNum = .ok c.nextTarget → Counted s
  /-- A Logon is answered. -/
  | logon {origin msg c seq} : SentSince origin msg c s → msg.msgTypeOrDefault = MsgType.logon →
      msg.seqNum = .ok seq → c.nextTarget ≤ seq → seq ≤ s.nextTarget → Counted s

/-- The acts of the handlers; where `resets` is false, those that neither reset nor reload the store. -/
inductive HandleAct (resets : Bool) : Sys σ ω → Sys σ ω → Prop
  | send {s t} (act : SendAct true s t) : HandleAct resets s t
  /-- The peer asks for a reset. -/
  | receivingReset {s} (same : Undisturbed s) :
      HandleAct resets s (s.updated Session.receivingReset)
  | endingResets {s} : HandleAct resets s (s.updated Session.endingResets)
  | reset {s origin msg p} (site now) (due : resets = true) (prep : Preparing origin msg p s)
      (asked : ∀ res, Asked msg p.session (.reset site res)) : HandleAct resets s
      (s.stored (.reset site (MessageStore.reset now s.session.store).1)
        (MessageStore.reset now s.session.store).2)
  | refresh {s origin msg p} (now) (due : resets = true) (prep : Preparing origin msg p s)
      (asked : ∀ res, Asked msg p.session (.refresh res)) : HandleAct resets s
      (s.stored (.refresh (MessageStore.refresh now s.session.store).1)
        (MessageStore.refresh now s.session.store).2)
  /-- An admin message passes the checks. -/
  | fromAdmin {s origin msg} (answer w) (item : handled s.trace = some (.message origin msg))
      (admin : msg.isAdmin = true)
      (direct : TakenUp origin msg s ∨ msg.msgTypeOrDefault = MsgType.logon)
      (passes : Passes s.world w) : HandleAct resets s (s.called (.fromAdmin msg answer) w)
  /-- An application message passes the checks and is counted. -/
  | deliver {s origin msg} (answer w) (taken : TakenUp origin msg s) (app : msg.isAdmin = false)
      (number : msg.seqNum = .ok s.nextTarget)
      (state : s.session.validLogonState msg.msgTypeOrDefault = true) (passes : Passes s.world w) :
      HandleAct resets s (s.called (.fromApp msg answer) w).counted
  /-- A Logon was accepted. -/
  | logon {s c rest origin msg} (trace : s.trace = c :: rest)
      (passed : c.event = .fromAdmin msg (.ok ())) (type : msg.msgTypeOrDefault = MsgType.logon)
      (item : handled rest = some (.message origin msg)) (same : Undisturbed s) :
      HandleAct resets s (s.updated fun x => { x with receivedLogon := true })
  | incrTarget {s} (why : Counted s) : HandleAct resets s s.counted
  /-- A SequenceReset moves the next target number up. -/
  | moveTarget {s origin msg} (n) (item : handled s.trace = some (.message origin msg))
      (bound : n < 2 ^ 64) (up : s.nextTarget < n) : HandleAct resets s
      (s.stored (.setTarget .sequenceReset n (MessageStore.setNextTargetSeqNum n s.session.store).1)
        (MessageStore.setNextTargetSeqNum n s.session.store).2)
  | supersede {s} (n) : HandleAct resets s (s.updated (Session.superseding n))
  /-- A too-high message is stashed while a resend is outstanding. -/
  | stashOnly {s origin msg seq} (item : handled s.trace = some (.message origin msg))
      (number : msg.seqNum = .ok seq) (high : s.nextTarget < seq)
      (outstanding : s.session.resendRange.isSome = true) : HandleAct resets s
      (s.stashing seq msg .suppressed)
  /-- A too-high message is stashed and the gap below it expected. -/
  | stashAndExpect {s origin msg seq recovery what chunkEnd}
      (item : handled s.trace = some (.message origin msg))
      (number : msg.seqNum = .ok seq) (high : s.nextTarget < seq)
      (recovers : recovery ≠ .suppressed) (why : Computed s what)
      (chunk : chunkEnd ≤ seq - 1)
      (covers : (.request s.nextTarget seq ∈ what → s.session.RequestRoom) → s.nextTarget ≤ chunkEnd)
      (request : recovery = .requested → what = [.request s.nextTarget seq] ∧
        chunkEnd = (Session.requestEnd s.session.cfg s.nextTarget (seq - 1)).2 ∧
        (s.session.resendRange.isSome && !s.session.cfg.sendRedundantResendRequests) = false)
      (announce : recovery = .announced → what = [.gap seq] ∧ chunkEnd = seq - 1) : HandleAct resets s
      (((s.stashing seq msg recovery).called (.compute what) s.world).expecting s.nextTarget (seq - 1)
        chunkEnd)
  /-- The next chunk of the gap is expected. -/
  | nextChunk {s b fullEnd c chunkEnd} (range : s.session.resendRange = some (b, fullEnd, c))
      (passed : c < s.nextTarget) (chunk : chunkEnd ≤ fullEnd)
      (covers : s.session.RequestRoom → s.nextTarget ≤ chunkEnd)
      (asked : ∃ rest,
        s.trace = ⟨s.session, .compute [.request s.nextTarget (fullEnd + 1)]⟩ :: rest)
      (whole : chunkEnd = (Session.requestEnd s.session.cfg s.nextTarget fullEnd).2) :
      HandleAct resets s (s.expecting s.nextTarget fullEnd chunkEnd)
  /-- The gap is filled. -/
  | satisfied {s b fullEnd c} (range : s.session.resendRange = some (b, fullEnd, c))
      (passed : fullEnd < s.nextTarget) : HandleAct resets s
      ((s.called .satisfied s.world).updated Session.satisfied)
  | onLogon {s} (loggedOn : s.session.isLoggedOn = true) :
      HandleAct resets s (s.called .onLogon (Application.onLogon s.world))

/-- Runs of the handlers. -/
abbrev Handles : Sys σ ω → Sys σ ω → Prop := ReflTransGen (HandleAct true)

/-- Runs of the handlers that neither reset nor reload the store. -/
abbrev Deals : Sys σ ω → Sys σ ω → Prop := ReflTransGen (HandleAct false)

/-- An act that neither resets nor reloads the store is an act of the handlers. -/
lemma HandleAct.resets {s t : Sys σ ω} (h : HandleAct false s t) : HandleAct true s t := by
  cases h with
  | send act => exact .send act
  | receivingReset same => exact .receivingReset same
  | endingResets => exact .endingResets
  | reset _ _ due | refresh _ due => exact absurd due Bool.false_ne_true
  | fromAdmin answer w item admin direct passes => exact .fromAdmin answer w item admin direct passes
  | deliver answer w taken app number state passes =>
    exact .deliver answer w taken app number state passes
  | logon trace passed type item same => exact .logon trace passed type item same
  | incrTarget why => exact .incrTarget why
  | moveTarget n item bound up => exact .moveTarget n item bound up
  | supersede n => exact .supersede n
  | stashOnly item number high outstanding => exact .stashOnly item number high outstanding
  | stashAndExpect item number high recovers why chunk covers request announce =>
    exact .stashAndExpect item number high recovers why chunk covers request announce
  | nextChunk range passed chunk covers asked whole =>
    exact .nextChunk range passed chunk covers asked whole
  | satisfied range passed => exact .satisfied range passed
  | onLogon loggedOn => exact .onLogon loggedOn

/-- Dealing with a message is handling it. -/
lemma Deals.handles {s t : Sys σ ω} (h : Deals s t) : Handles s t := runs_mono HandleAct.resets h

/-- Sending is part of dealing with a message. -/
lemma Sends.deals {s t : Sys σ ω} (h : Sends s t) : Deals s t := runs_mono .send h

/-- Sending is part of handling. -/
lemma Sends.handles {s t : Sys σ ω} (h : Sends s t) : Handles s t := runs_mono .send h

/-! ## Acts of the run loop -/

/-- The connection is gone, or the current chunk of the resend range is still needed. -/
inductive Checked (s : Sys σ ω) : Prop
  | gone : s.session.outbound = false → Checked s
  | recorded : stale s.trace = false → Checked s
  | needed : (∀ b fullEnd c, s.session.resendRange = some (b, fullEnd, c) → s.nextTarget ≤ c) →
      Checked s

/-- The acts of a session. -/
inductive Act : Sys σ ω → Sys σ ω → Prop
  | handle {s t} (act : HandleAct true s t) (live : Live s) : Act s t
  /-- A message is sent, or a clock read, between frames. -/
  | send {s t} (act : SendAct true s t) (idle : handled s.trace = none) : Act s t
  /-- A connection is attached. -/
  | attach {s} (sent received) (idle : s.session.outbound = false) (read : IsInstant ω sent)
      (later : ReadsAfter s.world received) : Act s
      ((s.called .attach s.world).updated (Session.attached sent received))
  /-- A silent peer is asked for a sign of life. -/
  | ask {s} (connected : s.session.outbound = true) (first : s.session.testRequestCounter = 0) :
      Act s (s.updated Session.testing)
  /-- The connection is given up. -/
  | cut {s t} (connected : s.Connected) (left : GivenUp s t) : Act s t
  /-- A ResetOnLogout on a live connection, which is given up at once. -/
  | endLogout {s t} (now) (connected : s.Connected)
      (left : GivenUp (s.stored (.reset .logout (MessageStore.reset now s.session.store).1)
        (MessageStore.reset now s.session.store).2) t) : Act s t
  | reset {s} (site now) (idle : site = .attach ∨ site = .schedule ∨
      site = .logout ∧ s.session.outbound = false ∧ s.session.inbound = false) : Act s
      (s.stored (.reset site (MessageStore.reset now s.session.store).1)
        (MessageStore.reset now s.session.store).2)
  | refresh {s} (now) : Act s
      (s.stored (.refresh (MessageStore.refresh now s.session.store).1)
        (MessageStore.refresh now s.session.store).2)
  /-- The numbers are set by command. -/
  | setSender {s} (n) (bound : n < 2 ^ 64) : Act s
      (s.stored (.setSender n (MessageStore.setNextSenderSeqNum n s.session.store).1)
        (MessageStore.setNextSenderSeqNum n s.session.store).2)
  | setTarget {s} (n) (bound : n < 2 ^ 64) : Act s
      (s.stored (.setTarget .command n (MessageStore.setNextTargetSeqNum n s.session.store).1)
        (MessageStore.setNextTargetSeqNum n s.session.store).2)
  /-- A frame of the connection is taken up. -/
  | receive {s raw strict msg} (parsed : Message.parse raw strict = .ok msg)
      (connected : s.Connected) (explained : Explained s.trace) :
      Act s (s.called (.process .wire msg) s.world)
  /-- An entry of the stash is taken out. -/
  | unstash {s seq raw} (number : seq = s.nextTarget) (entry : s.session.stash[seq]? = some raw)
      (explained : Explained s.trace) :
      Act s ((s.called (.unstash seq raw) s.world).updated (Session.unstashing seq))
  /-- The entry taken out of the stash is taken up as a message. -/
  | replay {s seq raw msg} {c : Call σ} (last : s.trace.head? = some c)
      (item : c.event = .unstash seq raw) (same : Keeps c s)
      (parsed : Message.parse raw false = .ok msg)
      (kept : (containsField raw (ascii "35=A") || containsField raw (ascii "35=2")) = false) :
      Act s (s.called (.process .stash msg) s.world)
  /-- A frame has been dealt with. -/
  | done {s} (why : handled s.trace = none ∨ Checked s) (explained : Explained s.trace) :
      Act s (s.called .done s.world)

/-- Runs of a session. -/
abbrev Runs : Sys σ ω → Sys σ ω → Prop := ReflTransGen Act

end

end QuickFix
