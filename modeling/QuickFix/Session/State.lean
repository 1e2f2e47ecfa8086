import QuickFix.Session.Config
import QuickFix.Store.Basic
import QuickFix.Lib.SeqMap

/-!
# The session and its environment

Model of the state of `Session` of `src/session.rs`, of the callback interface of
`src/application.rs`, and of what a session gets from the runtime: its clocks and the write side of
its connection. The environment is a state `ω` of its own that every call may change.

A running session is a `Sys`: the session, its environment, and the calls it has made so far, each
with the session it was made in. The trace is a history: nothing the session does depends on it.
-/

namespace QuickFix

/-! ## Environment -/

/-- Returned by `from_admin` and `from_app` to influence session behavior. -/
inductive ApplicationError where
  /-- Veto a counterparty Logon: the session logs out and disconnects. -/
  | rejectLogon (reason : Bytes)
  /-- Emit a session-level Reject for the message. -/
  | reject (rej : RejectError)
  /-- Emit a BusinessMessageReject. -/
  | unsupportedMessageType
  deriving DecidableEq

/-- The callbacks of an application over environments `ω`. -/
class Application (ω : Type) where
  onLogon : ω → ω
  onLogout : ω → ω
  /-- Last chance to change an outgoing admin message. -/
  toAdmin : Message → ω → Message × ω
  /-- Last chance to change an outgoing application message; `none` is the veto `DoNotSend`. -/
  toApp : Message → ω → Option Message × ω
  fromAdmin : Message → ω → Except ApplicationError Unit × ω
  fromApp : Message → ω → Except ApplicationError Unit × ω

/-- What the runtime gives a session over environments `ω`. -/
class Runtime (ω : Type) where
  /-- `Utc::now`. -/
  utcNow : ω → UtcTime × ω
  /-- `Instant::now`, in nanoseconds. -/
  instantNow : ω → Nat × ω
  /-- Hands bytes to the write task of the connection; `false` when that task is gone. -/
  send : Bytes → ω → Bool × ω

/-! ## Session state -/

/-- The state of a session. -/
structure Session (σ : Type) where
  cfg : SessionConfig
  /-- Dictionary for messages that are not administrative. -/
  dictionary : Option DataDictionary
  /-- Dictionary for admin messages. -/
  adminDictionary : Option DataDictionary
  store : σ
  /-- Whether the read side of a connection is attached. -/
  inbound : Bool := false
  /-- Whether the write side of a connection is attached. -/
  outbound : Bool := false
  receivedLogon : Bool := false
  sentLogon : Bool := false
  sentLogout : Bool := false
  sentReset : Bool := false
  receivedReset : Bool := false
  /-- Negotiated heartbeat interval. -/
  heartBtInt : Nat
  lastSent : Nat
  lastReceived : Nat
  testRequestCounter : Nat := 0
  /-- Outstanding resend range: its begin, its full end and the end of the current chunk. -/
  resendRange : Option (Nat × Nat × Nat) := none
  /-- MsgSeqNum of the most recently received message. -/
  lastReceivedSeq : Nat := 0
  /-- Raw messages received with too-high numbers, replayed once the gap fills. -/
  stash : SeqMap Bytes := ∅
  /-- Whether the most recently processed inbound message was replayed from the stash. -/
  lastProcessedWasQueued : Bool := false
  /-- Negotiate recovery via NextExpectedMsgSeqNum on logon. -/
  sendNextExpected : Bool
  schedule : Schedule
  logonSchedule : Schedule
  /-- Connected while the logon window was closed; log on once it opens. -/
  pendingLogon : Bool := false

namespace Session

variable {σ : Type}

/-- Whether this side starts the logon exchange. -/
def isInitiator (s : Session σ) : Bool := s.cfg.connectionType = .initiator

/-- Whether a connection is attached. -/
def isConnected (s : Session σ) : Bool := s.outbound

/-- Whether the logon exchange is complete. -/
def isLoggedOn (s : Session σ) : Bool := s.receivedLogon && s.sentLogon

/-- The session `spawn` starts with, at an instant. -/
def spawn (cfg : SessionConfig) (dictionary adminDictionary : Option DataDictionary) (store : σ)
    (now : Nat) : Session σ :=
  { cfg := cfg
    dictionary := dictionary
    adminDictionary := adminDictionary
    store := store
    heartBtInt := cfg.heartBtInt
    lastSent := now
    lastReceived := now
    sendNextExpected := cfg.sendNextExpectedMsgSeqNum
    schedule := cfg.schedule
    logonSchedule := cfg.logonSchedule }

end Session

/-! ## Calls -/

/-- Where a message that is handled comes from. -/
inductive Origin where
  | wire
  | stash
  deriving DecidableEq

/-- The places the session resets its store at. -/
inductive ResetSite where
  | attach
  | disconnect
  /-- A Logon with ResetSeqNumFlag=Y. -/
  | resetFlag
  /-- ResetOnLogon of an acceptor. -/
  | logon
  | logout
  | schedule
  deriving DecidableEq

/-- Who sets the next target number. -/
inductive Setter where
  /-- A SequenceReset of the peer. -/
  | sequenceReset
  /-- `Command::SetSeqNums`. -/
  | command
  deriving DecidableEq

/-- What the session does about the gap below a message it stashes. -/
inductive Recovery where
  /-- It sends a ResendRequest. -/
  | requested
  /-- A resend is outstanding already. -/
  | suppressed
  /-- Its Logon has told the peer what it expects. -/
  | announced
  deriving DecidableEq

/-- A line of the log, with the Logon it is about. -/
inductive LogLine where
  /-- The connection is about to be given up. -/
  | disconnecting
  | initiatedLogon (logon : Message)
  | respondingToLogon (logon : Message)
  | initiatedLogout
  deriving DecidableEq

/-- What the session computes with its counters, outside of the store. -/
inductive Computation where
  /-- `received - 1`, and `begin + max - 1` where requests are limited. -/
  | request (begin' received : Nat)
  /-- `full_end + 1` for the next chunk of a range. -/
  | nextChunk (fullEnd : Nat)
  /-- `next_target + 1` for the Logon that answers one. -/
  | nextExpected
  /-- `seq - 1` for the gap below a Logon. -/
  | gap (received : Nat)
  /-- `next_sender - 1` for the number sent last. -/
  | lastSent
  /-- `end + 1` for a gap fill up to the end of a range. -/
  | fillEnd (end' : Nat)
  deriving DecidableEq

/-- What a session does that others can observe, with the answers it got. -/
inductive Event where
  | attach
  | log (line : LogLine)
  /-- Counters are computed with. -/
  | compute (what : List Computation)
  /-- A message goes into `process`. -/
  | process (origin : Origin) (msg : Message)
  /-- A frame has been dealt with. -/
  | done
  /-- A too-high message goes into the stash. -/
  | stash (seq : Nat) (msg : Message) (recovery : Recovery)
  /-- A message comes out of the stash. -/
  | unstash (seq : Nat) (raw : Bytes)
  /-- A resend range is recorded. -/
  | expect (begin' fullEnd chunkEnd : Nat)
  /-- The resend range has been filled to its full end. -/
  | satisfied
  | toAdmin (msg sent : Message)
  | toApp (msg : Message) (sent : Option Message)
  | fromAdmin (msg : Message) (answer : Except ApplicationError Unit)
  | fromApp (msg : Message) (answer : Except ApplicationError Unit)
  | onLogon
  | onLogout
  | incrSender (res : Except Error Unit)
  | incrTarget (res : Except Error Unit)
  | setSender (n : Nat) (res : Except Error Unit)
  | setTarget (setter : Setter) (n : Nat) (res : Except Error Unit)
  | save (seq : Nat) (raw : Bytes) (res : Except Error Unit)
  | getMessages (begin' end' : Nat)
  | refresh (res : Except Error Unit)
  | reset (site : ResetSite) (res : Except Error Unit)
  /-- Bytes are handed to `transmit`. -/
  | transmit (raw : Bytes)
  /-- Bytes are handed to the write task; `accepted` when it was there to take them. -/
  | write (raw : Bytes) (accepted : Bool)

/-- An event and the session it happened in. -/
structure Call (σ : Type) where
  session : Session σ
  event : Event

/-- A session, its environment, and its calls so far, the latest first. -/
structure Sys (σ ω : Type) where
  session : Session σ
  world : ω
  trace : List (Call σ) := []

namespace Sys

variable {σ ω : Type}

/-- The system with its session changed. -/
def updated (f : Session σ → Session σ) (s : Sys σ ω) : Sys σ ω :=
  { s with session := f s.session }

/-- The system after a call that left the environment `w`. -/
def called (e : Event) (w : ω) (s : Sys σ ω) : Sys σ ω :=
  { s with world := w, trace := ⟨s.session, e⟩ :: s.trace }

/-- The system after a store operation that left the store `st`. -/
def stored (e : Event) (st : σ) (s : Sys σ ω) : Sys σ ω :=
  { s with session := { s.session with store := st }, trace := ⟨s.session, e⟩ :: s.trace }

end Sys

/-! ## The session's monad -/

/-- A condition that ends the connection immediately. -/
inductive Disconnect where
  | mk
  deriving DecidableEq

/-- Outcome of the verify pipeline for the calling handler. -/
inductive Flow where
  /-- Checks passed; the handler should do its work and increment the target seqnum. -/
  | continue
  /-- The message was consumed abnormally; the handler must not process it further. -/
  | stop
  deriving DecidableEq

/-- What a session runs in. -/
abbrev SessionM (σ ω : Type) := StateM (Sys σ ω)

namespace Session

variable {σ ω : Type}

/-- The session as it is now. -/
def current : SessionM σ ω (Session σ) := do
  return (← get).session

/-- Changes the session. -/
def update (f : Session σ → Session σ) : SessionM σ ω Unit := modify (·.updated f)

/-- Notes an event of the session's own. -/
def note (e : Event) : SessionM σ ω Unit := modify fun s => s.called e s.world

/-- Reads a clock. -/
def clock {α : Type} (read : ω → α × ω) : SessionM σ ω α :=
  modifyGet fun s => ((read s.world).1, { s with world := (read s.world).2 })

/-- Makes a call on the environment. -/
def invoke {α : Type} (event : α → Event) (f : ω → α × ω) : SessionM σ ω α :=
  modifyGet fun s => ((f s.world).1, s.called (event (f s.world).1) (f s.world).2)

/-- Performs an operation on the store. -/
def storeOp {α : Type} (event : Except Error α → Event) (op : σ → Except Error α × σ) :
    ExceptT Error (SessionM σ ω) α := do
  let s ← get
  set (s.stored (event (op s.session.store).1) (op s.session.store).2)
  match (op s.session.store).1 with
  | .ok a => return a
  | .error e => throw e

/-- A step that cannot fail, among steps that can. -/
abbrev lift {ε α : Type} (x : SessionM σ ω α) : ExceptT ε (SessionM σ ω) α :=
  MonadLift.monadLift x

/-- Runs an operation whose error is ignored. -/
def ignoring {ε α : Type} (x : ExceptT ε (SessionM σ ω) α) : SessionM σ ω Unit := do
  let _ ← x.run
  return ()

/-- Runs an operation whose error ends the connection. -/
def orDisconnect {α : Type} (x : ExceptT Error (SessionM σ ω) α) :
    ExceptT Disconnect (SessionM σ ω) α :=
  x.adapt fun _ => .mk

/-! ## Clocks and store operations -/

section Runtime

variable [Runtime ω]

/-- Reads the wall clock. -/
def utcNow : SessionM σ ω UtcTime := clock Runtime.utcNow

/-- Reads the monotonic clock. -/
def instantNow : SessionM σ ω Nat := clock Runtime.instantNow

/-- Hands bytes to the write task. -/
def write (raw : Bytes) : SessionM σ ω Bool := invoke (.write raw) (Runtime.send raw)

end Runtime

section Store

variable [MessageStore σ]

/-- Counts what was sent in the store. -/
def incrNextSenderSeqNum : ExceptT Error (SessionM σ ω) Unit :=
  storeOp .incrSender MessageStore.incrNextSenderSeqNum

/-- Counts what came in the store. -/
def incrNextTargetSeqNum : ExceptT Error (SessionM σ ω) Unit :=
  storeOp .incrTarget MessageStore.incrNextTargetSeqNum

/-- Sets the next sender number of the store. -/
def setNextSenderSeqNum (n : Nat) : ExceptT Error (SessionM σ ω) Unit :=
  storeOp (.setSender n) (MessageStore.setNextSenderSeqNum n)

/-- Sets the next target number of the store. -/
def setNextTargetSeqNum (setter : Setter) (n : Nat) : ExceptT Error (SessionM σ ω) Unit :=
  storeOp (.setTarget setter n) (MessageStore.setNextTargetSeqNum n)

/-- Stores a message, and counts it. -/
def saveMessageAndIncr (seq : Nat) (raw : Bytes) : ExceptT Error (SessionM σ ω) Unit :=
  storeOp (.save seq raw) (MessageStore.saveMessageAndIncr seq raw)

/-- Reads a range of messages from the store. -/
def getMessages (begin' end' : Nat) : ExceptT Error (SessionM σ ω) (List (Nat × Bytes)) :=
  storeOp (fun _ => .getMessages begin' end') (MessageStore.getMessages begin' end')

variable [Runtime ω]

/-- Resets the store, stamping it with the time now. -/
def storeReset (site : ResetSite) : ExceptT Error (SessionM σ ω) Unit := do
  let now ← lift utcNow
  storeOp (.reset site) (MessageStore.reset now)

/-- Reloads the store, as of the time now. -/
def storeRefresh : ExceptT Error (SessionM σ ω) Unit := do
  let now ← lift utcNow
  storeOp .refresh (MessageStore.refresh now)

end Store

end Session

end QuickFix
