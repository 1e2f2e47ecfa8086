import QuickFix.Session.Inbound
import QuickFix.Lib.Ranged

/-!
# The run loop

Model of the run loop of `Session` of `src/session.rs`: attaching a connection, the protocol timer,
the schedule tick and the commands of a session handle. One iteration of the loop takes one `Input`;
a run is a list of them. Which input comes next, and what the clocks read, is up to the environment.
-/

namespace QuickFix

/-- What the run loop can wake up for. -/
inductive Input where
  /-- `Command::Send`. -/
  | send (msg : Message)
  /-- `Command::Attach`. -/
  | attach
  /-- `Command::Logout`. -/
  | logout
  /-- `Command::SetSeqNums`. -/
  | setSeqNums (sender target : Option UInt64)
  /-- `Command::Stop`, with the frames that arrive while it waits for the peer's Logout. -/
  | stop (frames : List Bytes)
  /-- Every handle of the session is gone. -/
  | dropped
  /-- A frame arrives on the connection. -/
  | inbound (raw : Bytes)
  /-- The peer closes the connection. -/
  | closed
  | scheduleTick
  /-- The protocol timer fires. -/
  | protocolTimer

namespace Session

variable {σ ω : Type} [Chrono] [MessageStore σ] [Application ω] [Runtime ω]

/-! ## Timers -/

/-- A duration times a number of tenths, in nanoseconds. -/
def mulTenths (seconds tenths : Nat) : Nat := seconds * tenths * (nanosPerSec / 10)

/-- The earliest heartbeat, test-request or timeout deadline, in exact arithmetic;
`nextProtocolDeadlineAt` stops where a duration or an instant would be too large. -/
def nextProtocolDeadline (s : Session σ) : Option Nat :=
  if !s.isConnected then none
  else if s.sentLogout then some (s.lastSent + s.cfg.logoutTimeout * nanosPerSec)
  else if !s.receivedLogon then some (s.lastReceived + s.cfg.logonTimeout * nanosPerSec)
  else if s.heartBtInt = 0 then none
  else
    -- Peer silence, escalating test requests, and our own heartbeat when idle.
    let deadline := min (s.lastReceived + mulTenths s.heartBtInt 24)
      (s.lastReceived + mulTenths s.heartBtInt (12 * (s.testRequestCounter + 1)))
    if s.testRequestCounter = 0 then some (min deadline (s.lastSent + s.heartBtInt * nanosPerSec))
    else some deadline

/-- What a duration is less than, in nanoseconds: 2^64 seconds. -/
def maxDuration : Nat := 2 ^ 64 * nanosPerSec

/-- What a reading of the monotonic clock is less than: its seconds are an `i64`. -/
def maxInstant : Nat := 2 ^ 63 * nanosPerSec

/-- `mul`, which panics where the product is no duration. -/
def mulAt (seconds tenths : Nat) : Ranged Empty Nat := Ranged.within maxDuration (mulTenths seconds tenths)

/-- An instant plus a duration, which panics where the sum is no instant. -/
def instantAdd (instant duration : Nat) : Ranged Empty Nat := Ranged.add maxInstant instant duration

/-- The earliest deadline of a session that is logged on. -/
def heartbeatDeadlineAt (s : Session σ) : Ranged Empty Nat := do
  let silence ← instantAdd s.lastReceived (← mulAt s.heartBtInt 24)
  let test ← instantAdd s.lastReceived (← mulAt s.heartBtInt (12 * (s.testRequestCounter + 1)))
  if s.testRequestCounter = 0 then
    let idle ← instantAdd s.lastSent (s.heartBtInt * nanosPerSec)
    return min (min silence test) idle
  else
    return min silence test

/-- The earliest deadline, as `next_protocol_deadline` computes it on durations and instants. -/
def nextProtocolDeadlineAt (s : Session σ) : Ranged Empty (Option Nat) :=
  if !s.isConnected then return none
  else if s.sentLogout then some <$> instantAdd s.lastSent (s.cfg.logoutTimeout * nanosPerSec)
  else if !s.receivedLogon then some <$> instantAdd s.lastReceived (s.cfg.logonTimeout * nanosPerSec)
  else if s.heartBtInt = 0 then return none
  else some <$> s.heartbeatDeadlineAt

/-- The session once it has asked its silent peer once more. -/
def testing (s : Session σ) : Session σ := { s with testRequestCounter := s.testRequestCounter + 1 }

/-- Asks a silent peer for a sign of life. -/
def sendTestRequest : SessionM σ ω Unit := do
  update testing
  let tr := Message.withType MsgType.testRequest
  ignoring (sendMessage (tr.set Tags.testReqId (ascii "TEST")))

/-- Act on whichever heartbeat or timeout deadline has come due. -/
def onProtocolDeadline : SessionM σ ω Unit := do
  let s ← current
  if !s.isConnected then return ()
  else
    let now ← instantNow
    let sinceSent := now - s.lastSent
    let sinceRecv := now - s.lastReceived
    if s.sentLogout then
      -- A pending logout times out regardless of logon state.
      if s.cfg.logoutTimeout * nanosPerSec ≤ sinceSent then disconnect
    else if !s.receivedLogon then
      if s.cfg.logonTimeout * nanosPerSec ≤ sinceRecv then disconnect
    else if s.heartBtInt = 0 then return ()
    else if mulTenths s.heartBtInt 24 ≤ sinceRecv then
      if s.cfg.sendLogoutBeforeDisconnectFromTimeout then logOut []
      disconnect
    else if mulTenths s.heartBtInt (12 * (s.testRequestCounter + 1)) ≤ sinceRecv then
      sendTestRequest
    else if s.heartBtInt * nanosPerSec ≤ sinceSent ∧ s.testRequestCounter = 0 then
      ignoring (sendMessage (.withType MsgType.heartbeat))

/-- Sends a Logon; the connection ends when that fails. -/
def logOn : SessionM σ ω Unit := do
  match ← (sendLogon).run with
  | .error .mk => disconnect
  | .ok () => return ()

/-- Logs out, unless that is not called for, and drops the connection. -/
def leave (s : Session σ) : SessionM σ ω Unit := do
  if s.isConnected then
    if s.isLoggedOn && !s.sentLogout then logOut []
    disconnect

/-- The session that will log on once the window opens, or no longer. -/
def deferring (pending : Bool) (s : Session σ) : Session σ := { s with pendingLogon := pending }

/-- Session-schedule housekeeping on the 1 s tick. -/
def onScheduleTick : SessionM σ ω Unit := do
  let s ← current
  if s.schedule.nonStop then return ()
  else
    let now ← utcNow
    if !s.schedule.isInRange now then
      -- Outside session time; the reset happens when we re-enter the window.
      leave s
    else if !s.schedule.isInSameRange now (MessageStore.creationTime s.store) then
      -- A new session has begun.
      leave s
      ignoring (storeReset .schedule)
    else
      -- Still in session time but the logon window closed: log out.
      if s.isConnected && s.isLoggedOn && !s.sentLogout && !s.logonSchedule.isInRange now then
        logOut []
      -- Initiator: send a deferred logon once the window opens.
      let s ← current
      if s.pendingLogon && s.isConnected && !s.sentLogon && s.logonSchedule.isInRange now then
        update (deferring false)
        logOn

/-! ## Commands -/

/-- The session with a connection, which it got at the given instants. -/
def attached (sent received : Nat) (s : Session σ) : Session σ :=
  { s with
    inbound := true
    outbound := true
    lastSent := sent
    lastReceived := received
    testRequestCounter := 0 }

/-- Takes the connection. -/
def connect : SessionM σ ω Unit := do
  note .attach
  let sent ← instantNow
  let received ← instantNow
  update (attached sent received)

/-- The reset and the reload an initiator is configured to do for a connection. -/
def initiatorResets : SessionM σ ω Unit := do
  let s ← current
  if s.cfg.resetOnLogon then
    ignoring (storeReset .attach)
  if s.cfg.refreshOnLogon then
    ignoring storeRefresh

/-- Logs on inside the logon window; otherwise that is left to the timer. -/
def logOnOrDefer : SessionM σ ω Unit := do
  let s ← current
  let now ← utcNow
  if s.logonSchedule.isInRange now then logOn
  else update (deferring true)

/-- A connection is ready for this session; refused when there is one already. -/
def onAttach : SessionM σ ω Unit := do
  let s ← current
  if s.isConnected then return ()
  else
    connect
    if s.isInitiator then
      initiatorResets
      logOnOrDefer

/-- Starts a graceful logout when logged on. -/
def onLogoutCommand : SessionM σ ω Unit := do
  let s ← current
  if s.isLoggedOn then logOut []

/-- Operationally sets the next sequence numbers. -/
def onSetSeqNums (sender target : Option UInt64) : SessionM σ ω Unit := do
  match sender with
  | some n => ignoring (setNextSenderSeqNum n.toNat)
  | none => pure ()
  match target with
  | some n => ignoring (setNextTargetSeqNum .command n.toNat)
  | none => pure ()

/-- Gives the peer a moment to reply to a Logout. -/
def awaitLogout (deadline : Nat) : List Bytes → SessionM σ ω Unit
  | [] => return ()
  | raw :: frames => do
    let s ← current
    let now ← instantNow
    if s.isConnected ∧ now < deadline then
      onInbound raw
      awaitLogout deadline frames

/-- Detaches and stops the session task, after a graceful logout when logged on. -/
def onStop (frames : List Bytes) : SessionM σ ω Unit := do
  let s ← current
  if s.isLoggedOn then
    logOut []
    let now ← instantNow
    awaitLogout (now + s.cfg.logoutTimeout * nanosPerSec) frames
  disconnect

/-- One iteration of the run loop. Frames arrive and connections close only while one is attached,
and the protocol timer fires only while a deadline is set. -/
def step (input : Input) : SessionM σ ω Unit := do
  let s ← current
  match input with
  | .send msg => ignoring (sendMessage msg)
  | .attach => onAttach
  | .logout => onLogoutCommand
  | .setSeqNums sender target => onSetSeqNums sender target
  | .stop frames => onStop frames
  | .dropped => disconnect
  | .inbound raw => if s.inbound then onInbound raw
  | .closed => if s.inbound then disconnect
  | .scheduleTick => onScheduleTick
  | .protocolTimer => if s.nextProtocolDeadline.isSome then onProtocolDeadline

/-- Whether the loop ends with the input. -/
def ends : Input → Bool
  | .stop _ | .dropped => true
  | _ => false

/-- The run loop over the inputs it wakes up for. -/
def run : List Input → SessionM σ ω Unit
  | [] => return ()
  | input :: inputs => do
    step input
    if !ends input then run inputs

end Session

namespace Sys

variable {σ ω : Type} [Chrono] [MessageStore σ] [Application ω] [Runtime ω]

/-- The system a session starts in. -/
def init (cfg : SessionConfig) (dictionary adminDictionary : Option DataDictionary) (store : σ)
    (now : Nat) (world : ω) : Sys σ ω :=
  { session := .spawn cfg dictionary adminDictionary store now, world := world }

/-- The system after a computation of its session. -/
def after {α : Type} (x : SessionM σ ω α) (s : Sys σ ω) : Sys σ ω := (x.run s).2

/-- The system a session is in after the inputs. -/
def ran (cfg : SessionConfig) (dictionary adminDictionary : Option DataDictionary) (store : σ)
    (now : Nat) (world : ω) (inputs : List Input) : Sys σ ω :=
  (init cfg dictionary adminDictionary store now world).after (Session.run inputs)

end Sys

end QuickFix
