import QuickFix.Session.State

/-!
# The outbound half of a session

Model of what `Session` of `src/session.rs` sends: the normal send path with its callbacks and
persistence, the admin messages the session builds, rejects, resend requests and gap fills. A write
task that is gone disconnects the session in the middle of whatever it was doing.
-/

namespace QuickFix

/-! ## Message parts -/

/-- DefaultApplVerID rides on the wire as the ApplVerID enum, not the BeginString-style name
configured in settings. -/
def applVerIdEnum (configured : Bytes) : Bytes :=
  let names := [(ascii "FIX.2.7", ascii "0"), (ascii "FIX.3.0", ascii "1"),
    (ascii "FIX.4.0", ascii "2"), (ascii "FIX.4.1", ascii "3"), (ascii "FIX.4.2", ascii "4"),
    (ascii "FIX.4.3", ascii "5"), (ascii "FIX.4.4", ascii "6"), (ascii "FIX.5.0", ascii "7"),
    (ascii "FIX.5.0SP1", ascii "8"), (ascii "FIX.5.0SP2", ascii "9")]
  (names.lookup configured).getD configured

/-- The routing fields of a received message and the ones they become in a reply. -/
def routePairs : List (Tag × Tag) :=
  [(Tags.onBehalfOfCompId, Tags.deliverToCompId),
    (Tags.onBehalfOfSubId, Tags.deliverToSubId),
    (Tags.onBehalfOfLocationId, Tags.deliverToLocationId),
    (Tags.deliverToCompId, Tags.onBehalfOfCompId),
    (Tags.deliverToSubId, Tags.onBehalfOfSubId),
    (Tags.deliverToLocationId, Tags.onBehalfOfLocationId)]

/-- Copy routing fields from a received message into a reply, reversed. Empty values are not
propagated, location ids only from FIX 4.1 on. -/
def reverseRoute (offender reply : Message) (id : SessionId) : Message :=
  routePairs.foldl
    (fun reply (src, dst) =>
      if !id.atLeast (ascii "FIX.4.1") &&
          decide (src ∈ [Tags.onBehalfOfLocationId, Tags.deliverToLocationId]) then reply
      else
        match offender.header.getRaw src with
        | none | some [] => reply
        | some v => reply.setHeader dst v)
    reply

namespace Message

/-- The MsgType as a string, empty when there is none. -/
def msgTypeOrDefault (m : Message) : Bytes :=
  match m.msgType with
  | .ok mt => mt
  | .error _ => []

/-- Set a header field unless its value is empty. -/
def setHeaderUnlessEmpty (m : Message) (tag : Tag) (value : Bytes) : Message :=
  if value = [] then m else m.setHeader tag value

/-- Set a body field when there is a value for it. -/
def setOption {α} [FixEncode α] (m : Message) (tag : Tag) (value : Option α) : Message :=
  match value with
  | some v => m.set tag v
  | none => m

/-- A fresh send is never a possible duplicate. -/
def fresh (m : Message) : Message :=
  { m with header := (m.header.remove Tags.possDupFlag).remove Tags.origSendingTime }

/-- Set the flag of a body field when it holds. -/
def setFlag (m : Message) (tag : Tag) (flag : Bool) : Message :=
  if flag then m.set tag true else m

end Message

namespace Session

variable {σ ω : Type} [Chrono] [MessageStore σ] [Application ω] [Runtime ω]

/-! ## Disconnecting -/

/-- The session without its connection and what it kept for it. -/
def detached (s : Session σ) : Session σ :=
  { s with
    inbound := false
    outbound := false
    receivedLogon := false
    sentLogon := false
    sentLogout := false
    sentReset := false
    receivedReset := false
    testRequestCounter := 0
    resendRange := none
    stash := ∅ }

/-- Ends the connection, if there is one. -/
def disconnect : SessionM σ ω Unit := do
  let s ← current
  if s.isConnected || s.inbound then
    note (.log .disconnecting)
    update detached
    if s.cfg.resetOnDisconnect then
      ignoring (storeReset .disconnect)
    if s.receivedLogon || s.sentLogon then
      invoke (fun _ => .onLogout) fun w => ((), Application.onLogout w)

/-! ## Sending -/

/-- Set the fields of the session's identity. -/
def identify (id : SessionId) (msg : Message) : Message :=
  let msg := msg.setHeader Tags.beginString id.beginString
  let msg := msg.setHeader Tags.senderCompId id.senderCompId
  let msg := msg.setHeader Tags.targetCompId id.targetCompId
  let msg := msg.setHeaderUnlessEmpty Tags.senderSubId id.senderSubId
  let msg := msg.setHeaderUnlessEmpty Tags.senderLocationId id.senderLocationId
  let msg := msg.setHeaderUnlessEmpty Tags.targetSubId id.targetSubId
  msg.setHeaderUnlessEmpty Tags.targetLocationId id.targetLocationId

/-- Set LastMsgSeqNumProcessed when it is enabled. -/
def setLastProcessed (s : Session σ) (msg : Message) : Message :=
  if s.cfg.enableLastMsgSeqNumProcessed then
    msg.setHeader Tags.lastMsgSeqNumProcessed s.lastReceivedSeq
  else msg

/-- The time of a clock reading at the session's precision. -/
def timestamp (s : Session σ) (now : UtcTime) : UtcTimestamp :=
  { time := now, precision := s.cfg.timestampPrecision }

/-- A message with the standard header: BeginString, CompIDs, MsgSeqNum, SendingTime. -/
def filledHeader (s : Session σ) (now : UtcTime) (msg : Message) : Message :=
  let msg := identify s.cfg.sessionId msg
  let msg := msg.setHeader Tags.msgSeqNum (MessageStore.nextSenderSeqNum s.store)
  (s.setLastProcessed msg).stampSendingTime (s.timestamp now)

/-- Fill the standard header. -/
def fillHeader (msg : Message) : SessionM σ ω Message := do
  let s ← current
  let now ← utcNow
  return s.filledHeader now msg

/-- Push raw bytes to the write task, bypassing sequencing. -/
def transmit (raw : Bytes) : SessionM σ ω Unit := do
  note (.transmit raw)
  let s ← current
  if s.isConnected then
    let accepted ← write raw
    if accepted then
      let now ← instantNow
      update ({ · with lastSent := now })
    else
      disconnect

/-- Runs the outgoing callback of the message; an application may veto its messages. -/
def outgoingCallback (msg : Message) : ExceptT Error (SessionM σ ω) Message := do
  if msg.isAdmin then
    lift (invoke (.toAdmin msg) (Application.toAdmin msg))
  else
    match ← lift (invoke (.toApp msg) (Application.toApp msg)) with
    | some msg => return msg
    | none => throw .doNotSend

/-- The order of the dictionary for a body, when there is a dictionary. -/
def canonicalized (s : Session σ) (msg : Message) : Message :=
  match s.dictionary with
  | some dd => dd.canonicalizeBody msg
  | none => msg

/-- The MsgSeqNum of a message that is about to be sent. -/
def seqNumOf (msg : Message) : ExceptT Error (SessionM σ ω) Nat :=
  match msg.seqNum with
  | .ok seq => return seq
  | .error e => throw (.conversion e)

/-- Stores an outgoing message, where messages are persisted, and takes its number. -/
def persist (seq : Nat) (raw : Bytes) : ExceptT Error (SessionM σ ω) Unit := do
  let s ← lift current
  if s.cfg.persistMessages then saveMessageAndIncr seq raw
  else incrNextSenderSeqNum

/-- Session-control messages always go out, everything else only once logged on. -/
def alwaysSent (mt : Bytes) : Bool :=
  [MsgType.logon, MsgType.logout, MsgType.resendRequest, MsgType.sequenceReset].contains mt

/-- The normal send path: assign seqnum, run callbacks, persist, transmit. -/
def sendMessage (msg : Message) : ExceptT Error (SessionM σ ω) Unit := do
  let filled ← lift (fillHeader msg.fresh)
  let sent ← outgoingCallback filled
  let s ← lift current
  let seq ← seqNumOf (s.canonicalized sent)
  persist seq (s.canonicalized sent).toBytes
  if s.isLoggedOn || alwaysSent filled.msgTypeOrDefault || s.sentLogon then
    lift (transmit (s.canonicalized sent).toBytes)

/-! ## Logon and logout -/

/-- Whether our Logon asks for a reset of the sequence numbers. -/
def shouldReset (s : Session σ) : Bool :=
  s.cfg.sendResetSeqNumFlag ||
    (s.cfg.sessionId.atLeast (ascii "FIX.4.1") && s.cfg.resetOnLogon &&
      MessageStore.nextSenderSeqNum s.store = 1 && MessageStore.nextTargetSeqNum s.store = 1)

/-- A Logon with the given ResetSeqNumFlag and NextExpectedMsgSeqNum. -/
def logonMessage (s : Session σ) (reset : Bool) (nextExpected : Nat) : Message :=
  let logon := Message.withType MsgType.logon
  let logon := logon.set Tags.encryptMethod (0 : Int)
  let logon := logon.set Tags.heartBtInt s.heartBtInt
  let logon := logon.setFlag Tags.resetSeqNumFlag reset
  let logon := logon.setOption Tags.defaultApplVerId (s.cfg.defaultApplVerId.map applVerIdEnum)
  if s.sendNextExpected then logon.set Tags.nextExpectedMsgSeqNum nextExpected else logon

/-- The Logon that starts a logon exchange. It reports the next number we expect: the peer's Logon
has not been received yet. -/
def logonRequest (s : Session σ) : Message :=
  s.logonMessage s.shouldReset (MessageStore.nextTargetSeqNum s.store)

/-- Sends the Logon that starts a logon exchange. -/
def sendLogon : ExceptT Disconnect (SessionM σ ω) Unit := do
  let s ← lift current
  lift (update fun s =>
    { s with sentReset := if s.shouldReset then true else s.sentReset, sentLogon := true })
  lift (note (.log (.initiatedLogon s.logonRequest)))
  orDisconnect (sendMessage s.logonRequest)

/-- The session once it adopted the heartbeat interval a Logon asks for. -/
def adoptHeartbeat (peerHbi : Option Nat) (s : Session σ) : Session σ :=
  match peerHbi with
  | some secs => { s with heartBtInt := s.cfg.heartBtIntOverride.getD secs }
  | none => s

/-- The Logon that answers one. It reports one more than the next number we expect: the Logon being
answered has not been counted yet. It echoes ResetSeqNumFlag in 789 mode only. -/
def logonReply (s : Session σ) : Message :=
  s.logonMessage (s.receivedReset && s.sendNextExpected) (MessageStore.nextTargetSeqNum s.store + 1)

/-- Answers a Logon, adopting the heartbeat interval it asks for. -/
def sendLogonReply (peerHbi : Option Nat) : ExceptT Error (SessionM σ ω) Unit := do
  lift (update (adoptHeartbeat peerHbi))
  let s ← lift current
  lift (update fun s =>
    { s with sentReset := if s.receivedReset then true else s.sentReset, sentLogon := true })
  lift (note (.compute (if s.sendNextExpected then [.nextExpected] else [])))
  lift (note (.log (.respondingToLogon s.logonReply)))
  sendMessage s.logonReply

/-- A Logout with the reason as its text. -/
def logoutMessage (reason : Bytes) : Message :=
  let logout := Message.withType MsgType.logout
  if reason = [] then logout else logout.set Tags.text reason

/-- Sends a Logout with the reason as its text. -/
def initiateLogout (reason : Bytes) : ExceptT Error (SessionM σ ω) Unit := do
  lift (note (.log .initiatedLogout))
  lift (update ({ · with sentLogout := true }))
  sendMessage (logoutMessage reason)

/-! ## Rejects -/

/-- Set RefSeqNum to the number of the offender, when it has one. -/
def setRefSeqNum (offender reject : Message) : Message :=
  match offender.seqNum with
  | .ok seq => reject.set Tags.refSeqNum seq
  | .error _ => reject

/-- Set RefMsgType to the type of the offender, when it has one. -/
def setRefMsgType (offender reject : Message) : Message :=
  match offender.msgType with
  | .ok mt => reject.set Tags.refMsgType mt
  | .error _ => reject

/-- The text of a Reject: before FIX 4.2 the offending tag rides in it. -/
def rejectText (fix42Plus : Bool) (rej : RejectError) : Bytes :=
  match rej.refTag with
  | some tag =>
    if !fix42Plus && rej.text.isNone then
      rej.display ++ ascii " (" ++ itoa tag ++ ascii ")"
    else rej.display
  | none => rej.display

/-- The Reject for an offender. -/
def rejectMessage (id : SessionId) (offender : Message) (rej : RejectError) : Message :=
  let reject := reverseRoute offender (.withType MsgType.reject) id
  let reject := setRefSeqNum offender reject
  let reject := reject.set Tags.text (rejectText id.fix42Plus rej)
  if id.fix42Plus then
    let reject := reject.setOption Tags.refTagId rej.refTag
    let reject := setRefMsgType offender reject
    -- The reasons of FIX 4.2 stop at 11; higher codes exist only from FIX 4.3 on.
    let code := rej.reason.code
    if code ≤ 11 ∨ ascii "FIX.4.2" < id.beginString then
      reject.set Tags.sessionRejectReason code
    else reject
  else reject

/-- Session-level Reject. Consumes the offending seqnum only when the offender was in sequence and
is not a Logon or SequenceReset. -/
def sendReject (offender : Message) (rej : RejectError) : ExceptT Error (SessionM σ ω) Unit := do
  let s ← lift current
  let mt := offender.msgTypeOrDefault
  if mt ≠ MsgType.logon ∧ mt ≠ MsgType.sequenceReset ∧
      offender.seqNum = .ok (MessageStore.nextTargetSeqNum s.store) then
    incrNextTargetSeqNum
  sendMessage (rejectMessage s.cfg.sessionId offender rej)

/-- The answer to a message of an unsupported type. -/
def businessRejectMessage (id : SessionId) (offender : Message) : Message :=
  if id.fix42Plus then
    let reject := reverseRoute offender (.withType MsgType.businessMessageReject) id
    let reject := setRefSeqNum offender reject
    let reject := reject.set Tags.text (ascii "Unsupported Message Type")
    let reject := setRefMsgType offender reject
    reject.set Tags.businessRejectReason (3 : Nat)
  else
    let reject := reverseRoute offender (.withType MsgType.reject) id
    let reject := setRefSeqNum offender reject
    reject.set Tags.text (ascii "Unsupported message type")

/-- BusinessMessageReject, or its fallback before FIX 4.2. -/
def sendBusinessReject (offender : Message) : ExceptT Error (SessionM σ ω) Unit := do
  incrNextTargetSeqNum
  let s ← lift current
  sendMessage (businessRejectMessage s.cfg.sessionId offender)

/-! ## Resend requests and gap fills -/

/-- `begin + max - 1` on `u64`s, as release builds compute it. Builds with overflow checks panic where
`begin + max` is out of range. -/
def limitEnd (begin' max : Nat) : Nat := (begin' + max - 1) % 2 ^ 64

/-- The EndSeqNo of a resend request and the end of the range it asks for. -/
def requestEnd (cfg : SessionConfig) (begin' fullEnd : Nat) : Nat × Nat :=
  match cfg.maxMessagesInResendRequest with
  -- To infinity: 0 for FIX 4.2 and later, 999999 before.
  | 0 => (if cfg.sessionId.fix42Plus then 0 else 999999, fullEnd)
  | max => (min fullEnd (limitEnd begin' max), min fullEnd (limitEnd begin' max))

/-- The session with a resend range outstanding. -/
def expecting (begin' fullEnd chunkEnd : Nat) (s : Session σ) : Session σ :=
  { s with resendRange := some (begin', fullEnd, chunkEnd) }

/-- The session with no resend range outstanding. -/
def satisfied (s : Session σ) : Session σ := { s with resendRange := none }

/-- Records a resend range as outstanding. -/
def expect (begin' fullEnd chunkEnd : Nat) : SessionM σ ω Unit := do
  note (.expect begin' fullEnd chunkEnd)
  update (expecting begin' fullEnd chunkEnd)

/-- A ResendRequest. -/
def resendRequestMessage (begin' endSeqNo : Nat) : Message :=
  let rr := Message.withType MsgType.resendRequest
  let rr := rr.set Tags.beginSeqNo begin'
  rr.set Tags.endSeqNo endSeqNo

/-- Asks the peer to resend from `begin'` up to the message before the one received. -/
def sendResendRequest (begin' received : Nat) : ExceptT Error (SessionM σ ω) Unit := do
  let s ← lift current
  lift (note (.compute [.request begin' received]))
  let fullEnd := received - 1
  lift (expect begin' fullEnd (requestEnd s.cfg begin' fullEnd).2)
  sendMessage (resendRequestMessage begin' (requestEnd s.cfg begin' fullEnd).1)

/-- After inbound processing: request the next chunk of an outstanding resend range, or note that
it has been satisfied. -/
def checkResendChunks : SessionM σ ω Unit := do
  let s ← current
  match s.resendRange with
  | none => return ()
  | some (_, fullEnd, chunkEnd) =>
    let expected := MessageStore.nextTargetSeqNum s.store
    if expected ≤ chunkEnd then
      return ()
    else if expected ≤ fullEnd then
      note (.compute [.nextChunk fullEnd])
      ignoring (sendResendRequest expected (fullEnd + 1))
    else
      note .satisfied
      update satisfied

/-- A SequenceReset-GapFill covering `[begin', newSeq)`, from a message with its header filled. -/
def gapFillMessage (m : Message) (begin' newSeq : Nat) (now : UtcTimestamp) : Message :=
  let m := m.setHeader Tags.msgSeqNum begin'
  let m := m.setHeader Tags.possDupFlag true
  let m := m.setHeader Tags.origSendingTime now
  let m := m.set Tags.newSeqNo newSeq
  m.set Tags.gapFillFlag true

/-- Sends a SequenceReset-GapFill. Bypasses normal sequencing: MsgSeqNum is the start of the gap
being filled. -/
def sendGapFill (begin' newSeq : Nat) : SessionM σ ω Unit := do
  let m ← fillHeader (.withType MsgType.sequenceReset)
  let s ← current
  let now ← utcNow
  let m := gapFillMessage m begin' newSeq (s.timestamp now)
  let m ← invoke (.toAdmin m) (Application.toAdmin m)
  transmit m.toBytes

end Session

end QuickFix
