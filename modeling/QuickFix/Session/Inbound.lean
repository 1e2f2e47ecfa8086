import QuickFix.Session.Outbound
import Std.Data.ExtTreeMap

/-!
# The inbound half of a session

Model of how `Session` of `src/session.rs` handles what it receives: the verify pipeline, the handler
of each message type, resends, and the replay of stashed messages. `verify` and `handle_logon` are
cut at their steps into definitions of their own, in the order the source takes them.
-/

namespace QuickFix

/-- Whether the bytes contain `<SOH>field` or start with `field`. -/
def containsField (raw field : Bytes) : Bool := field.isPrefixOf raw || hasWindow (soh :: field) raw

/-- The distance of two instants in whole seconds. -/
def secondsApart (t1 t2 : UtcTime) : Nat := (t1 - t2).natAbs / nanosPerSec

namespace Message

/-- A number in the body, if there is one that can be read. -/
def bodyU64 (m : Message) (tag : Tag) : Option Nat :=
  match m.body.getOpt decodeU64 tag with
  | .ok v => v
  | .error _ => none

/-- Whether a flag of the body is `Y`. -/
def bodyFlag (m : Message) (tag : Tag) : Bool := m.body.getRaw tag == some (ascii "Y")

/-- A timestamp in the header, if there is one that can be read. -/
def headerTime [Chrono] (m : Message) (tag : Tag) : Option UtcTimestamp :=
  match m.header.getOpt decodeTimestamp tag with
  | .ok v => v
  | .error _ => none

/-- A stored message as it is sent again: possibly a duplicate, with the time it was first sent
at. -/
def resent [Chrono] (m : Message) (now : UtcTimestamp) : Message :=
  let m := m.setHeader Tags.possDupFlag true
  let m := match m.header.getRaw Tags.sendingTime with
    | some orig => m.setHeader Tags.origSendingTime orig
    | none => m
  m.stampSendingTime now

end Message

namespace Session

variable {σ ω : Type} [Chrono] [MessageStore σ] [Application ω] [Runtime ω]

/-! ## Verify pipeline -/

/-- Which message types are acceptable in the current logon state. -/
def validLogonState (s : Session σ) (mt : Bytes) : Bool :=
  (mt = MsgType.logon && (s.sentReset || s.receivedReset)) ||
    (mt = MsgType.logon && !s.receivedLogon) ||
    (mt ≠ MsgType.logon && s.receivedLogon) ||
    (mt = MsgType.logout && s.sentLogon) ||
    (mt ≠ MsgType.logout && s.sentLogout) ||
    mt = MsgType.sequenceReset ||
    mt = MsgType.reject

/-- Rejects a message, and goes on whether or not the Reject could be sent. -/
def reject (msg : Message) (rej : RejectError) : SessionM σ ω Unit := ignoring (sendReject msg rej)

/-- Starts a logout, and goes on whether or not the Logout could be sent. -/
def logOut (reason : Bytes) : SessionM σ ω Unit := ignoring (initiateLogout reason)

/-- SendingTime present and within the latency window. -/
def verifySendingTime (msg : Message) : SessionM σ ω Flow := do
  let s ← current
  match msg.headerTime Tags.sendingTime with
  | some st =>
    if s.cfg.checkLatency then
      let now ← utcNow
      if s.cfg.maxLatency < secondsApart now st.time then
        reject msg (.new .sendingTimeAccuracyProblem)
        logOut []
        return .stop
      else return .continue
    else return .continue
  | none =>
    reject msg (.withTag .requiredTagMissing Tags.sendingTime)
    return .stop

/-- CompIDs must be the mirror image of ours. -/
def verifyCompIds (msg : Message) : SessionM σ ω Flow := do
  let s ← current
  let sender := (msg.header.getRaw Tags.senderCompId).getD []
  let target := (msg.header.getRaw Tags.targetCompId).getD []
  if s.cfg.checkCompId ∧
      (sender ≠ s.cfg.sessionId.targetCompId ∨ target ≠ s.cfg.sessionId.senderCompId) then
    reject msg (.new .compIDProblem)
    logOut []
    return .stop
  else return .continue

/-- The session with a message in its stash. -/
def stashing (seq : Nat) (raw : Bytes) (s : Session σ) : Session σ :=
  { s with stash := s.stash.insert seq raw }

/-- The session without the stashed message of a number. -/
def unstashing (seq : Nat) (s : Session σ) : Session σ :=
  { s with stash := s.stash.erase seq, lastProcessedWasQueued := true }

/-- The session without the stashed messages below a number. -/
def superseding (newSeq : Nat) (s : Session σ) : Session σ :=
  { s with stash := s.stash.filter fun k _ => decide (newSeq ≤ k) }

/-- Puts a message into the stash. -/
def stashMessage (seq : Nat) (msg : Message) (recovery : Recovery) : SessionM σ ω Unit := do
  note (.stash seq msg recovery)
  update (stashing seq msg.toBytes)

/-- Stashes a too-high message for replay once the gap fills, and asks for the gap unless a resend
is outstanding already. -/
def onTargetTooHigh (msg : Message) (seq expected : Nat) :
    ExceptT Disconnect (SessionM σ ω) Unit := do
  let s ← lift current
  let suppress := s.resendRange.isSome && !s.cfg.sendRedundantResendRequests
  lift (stashMessage seq msg (if suppress then .suppressed else .requested))
  if !suppress then
    orDisconnect (sendResendRequest expected seq)

/-- The text of the Logout that answers a too-low message. -/
def tooLowReason (seq expected : Nat) : Bytes :=
  ascii "MsgSeqNum too low, expecting " ++ dec expected ++ ascii " but received " ++ dec seq

/-- A too-low message ends the connection, unless it is a possible duplicate: such a replay of
something we already have is validated and dropped. -/
def onTargetTooLow (msg : Message) (seq expected : Nat) :
    ExceptT Disconnect (SessionM σ ω) Flow := do
  if !msg.possDup then
    lift (logOut (tooLowReason seq expected))
    throw .mk
  else
    let s ← lift current
    if msg.msgTypeOrDefault ≠ MsgType.sequenceReset ∧ s.cfg.requiresOrigSendingTime then
      match msg.headerTime Tags.origSendingTime with
      | some orig =>
        match msg.headerTime Tags.sendingTime with
        | some st =>
          if st.time < orig.time then
            lift (reject msg (.new .sendingTimeAccuracyProblem))
            lift (logOut [])
        | none => pure ()
      | none => lift (reject msg (.withTag .requiredTagMissing Tags.origSendingTime))
    return .stop

/-- Sequence number checks. -/
def verifySeqNum (msg : Message) (checkTooHigh checkTooLow : Bool) :
    ExceptT Disconnect (SessionM σ ω) Flow := do
  if checkTooHigh || checkTooLow then
    match msg.seqNum with
    | .error _ =>
      lift (reject msg (.withTag .requiredTagMissing Tags.msgSeqNum))
      return .stop
    | .ok seq =>
      let s ← lift current
      let expected := MessageStore.nextTargetSeqNum s.store
      if checkTooHigh ∧ expected < seq then
        onTargetTooHigh msg seq expected
        return .stop
      else if checkTooLow ∧ seq < expected then
        -- A too-low gap fill straight after a stash replay is obeyed anyway.
        if s.lastProcessedWasQueued ∧ msg.msgTypeOrDefault = MsgType.sequenceReset ∧
            msg.bodyFlag Tags.gapFillFlag then
          return .continue
        else
          onTargetTooLow msg seq expected
      else return .continue
  else return .continue

/-- Runs the incoming callback of the message. -/
def incomingCallback (msg : Message) : SessionM σ ω (Except ApplicationError Unit) :=
  if msg.isAdmin then invoke (.fromAdmin msg) (Application.fromAdmin msg)
  else invoke (.fromApp msg) (Application.fromApp msg)

/-- The session once it heard from its peer. -/
def heard (now : Nat) (s : Session σ) : Session σ :=
  { s with lastReceived := now, testRequestCounter := 0 }

/-- What follows when the application refuses a message. -/
def refuse (msg : Message) : ApplicationError → ExceptT Disconnect (SessionM σ ω) Flow
  | .rejectLogon reason => do
    lift (ignoring incrNextTargetSeqNum)
    lift (logOut reason)
    throw .mk
  | .reject rej => do
    lift (reject msg rej)
    return .stop
  | .unsupportedMessageType => do
    lift (ignoring (sendBusinessReject msg))
    return .stop

/-- Application callbacks. -/
def verifyCallback (msg : Message) : ExceptT Disconnect (SessionM σ ω) Flow := do
  let now ← lift instantNow
  lift (update (heard now))
  match ← lift (incomingCallback msg) with
  | .ok () => return .continue
  | .error e => refuse msg e

/-- The checks every message passes before its handler acts on it. -/
def verify (msg : Message) (checkTooHigh checkTooLow : Bool) :
    ExceptT Disconnect (SessionM σ ω) Flow := do
  let s ← lift current
  if !s.validLogonState msg.msgTypeOrDefault then throw .mk
  else
    match ← lift (verifySendingTime msg) with
    | .stop => return .stop
    | .continue =>
      match ← lift (verifyCompIds msg) with
      | .stop => return .stop
      | .continue =>
        match ← verifySeqNum msg checkTooHigh checkTooLow with
        | .stop => return .stop
        | .continue => verifyCallback msg

/-! ## Resends -/

/-- The stored message that is sent again for a number; admin messages never are. -/
def resendable (stored : SeqMap Bytes) (seq : Nat) : Option Message :=
  match stored[seq]? with
  | none => none
  | some raw =>
    match Message.parse raw false with
    | .error _ => none
    | .ok m => if m.isAdmin then none else some m

/-- What the store has under a number stands to be sent again: it parses, and is of the application. -/
def Standing (stored : SeqMap Bytes) (n : Nat) (m : Message) : Prop :=
  ∃ raw, stored[n]? = some raw ∧ Message.parse raw false = .ok m ∧ m.isAdmin = false

omit [Chrono] in
/-- What is sent again for a number is what stands under it. -/
lemma resendable_eq_some {stored : SeqMap Bytes} {n m} : resendable stored n = some m ↔ Standing stored n m := by
  unfold resendable Standing
  split
  case h_1 none => simp [none]
  case h_2 raw found =>
    split
    case h_1 e refused => simp [found, refused]
    case h_2 m' parsed =>
      cases admin : m'.isAdmin with
      | true =>
        simp only [if_true, reduceCtorEq, false_iff]
        rintro ⟨raw', found', parsed', app⟩
        cases found.symm.trans found'
        cases parsed.symm.trans parsed'
        exact Bool.false_ne_true (app.symm.trans admin)
      | false =>
        simp only [Bool.false_eq_true, if_false, Option.some.injEq]
        constructor
        · rintro rfl
          exact ⟨raw, found, parsed, admin⟩
        · rintro ⟨raw', found', parsed', -⟩
          cases found.symm.trans found'
          cases parsed.symm.trans parsed'
          rfl

/-- Sends one number of a resend range again, or leaves it to the gap fill that is pending from
`gapBegin` on. -/
def retransmitOne (stored : SeqMap Bytes) (now : UtcTimestamp) (gapBegin : Option Nat) (seq : Nat) :
    SessionM σ ω (Option Nat) := do
  match resendable stored seq with
  | none => return some (gapBegin.getD seq)
  | some m =>
    match ← invoke (.toApp (m.resent now)) (Application.toApp (m.resent now)) with
    | none => return some (gapBegin.getD seq)
    | some m =>
      match gapBegin with
      | some gb => sendGapFill gb seq
      | none => pure ()
      transmit m.toBytes
      return none

/-- Sends the numbers of a resend range again, one after the other. -/
def retransmitAll (stored : SeqMap Bytes) (now : UtcTimestamp) :
    List Nat → Option Nat → SessionM σ ω (Option Nat)
  | [], gapBegin => return gapBegin
  | seq :: seqs, gapBegin => do
    let gapBegin ← retransmitOne stored now gapBegin seq
    retransmitAll stored now seqs gapBegin

/-- The numbers from `begin'` to `end`. -/
def seqRange (begin' end' : Nat) : List Nat := List.range' begin' (end' + 1 - begin')

/-- Replay stored messages `[begin', end]`: app messages sent again with PossDupFlag=Y, admin
messages and gaps folded into gap fills. -/
def retransmit (begin' end' : Nat) : SessionM σ ω Unit := do
  match ← (getMessages begin' end').run with
  | .error _ => return ()
  | .ok stored =>
    let now ← utcNow
    let s ← current
    match ← retransmitAll (.ofList stored) (s.timestamp now) (seqRange begin' end') none with
    | some gb =>
      note (.compute [.fillEnd end'])
      sendGapFill gb (end' + 1)
    | none => return ()

/-- Answer a resend range: replay persisted messages, or gap-fill the whole range when persistence
is off. -/
def answerResend (begin' end' : Nat) : SessionM σ ω Unit := do
  if end' < begin' then return ()
  else
    let s ← current
    if s.cfg.persistMessages then retransmit begin' end'
    else
      note (.compute [.fillEnd end'])
      sendGapFill begin' (end' + 1)

/-! ## Handlers -/

/-- `incr_target`, which disconnects where it fails. -/
def incrTarget : ExceptT Disconnect (SessionM σ ω) Unit := orDisconnect incrNextTargetSeqNum

/-- Whether the SendingTime of a Logon is acceptable. -/
def logonTimeGood (msg : Message) : SessionM σ ω Bool := do
  let s ← current
  if s.cfg.checkLatency then
    match msg.headerTime Tags.sendingTime with
    | some st =>
      let now ← utcNow
      return decide (secondsApart now st.time ≤ s.cfg.maxLatency)
    | none => return false
  else return true

/-- The session once the peer has asked for a reset. -/
def receivingReset (s : Session σ) : Session σ := { s with receivedReset := true }

/-- The session once a Logon of the peer has passed. -/
def receivingLogon (s : Session σ) : Session σ := { s with receivedLogon := true }

/-- The session once the resets of a logon are over. -/
def endingResets (s : Session σ) : Session σ := { s with sentReset := false, receivedReset := false }

/-- The reset a Logon with ResetSeqNumFlag=Y asks for, unless it is the answer to ours. -/
def peerReset (msg : Message) : ExceptT Disconnect (SessionM σ ω) Unit := do
  if msg.bodyFlag Tags.resetSeqNumFlag then
    let s ← lift current
    lift (update receivingReset)
    if !s.sentReset then
      orDisconnect (storeReset .resetFlag)

/-- The reload and the reset an acceptor is configured to do for a Logon. -/
def acceptorResets : SessionM σ ω Unit := do
  let s ← current
  if s.cfg.refreshOnLogon then
    ignoring storeRefresh
  if s.cfg.resetOnLogon && !s.receivedReset then
    ignoring (storeReset .logon)

/-- The resets and reloads of the store before a Logon is verified. -/
def logonResets (msg : Message) : ExceptT Disconnect (SessionM σ ω) Unit := do
  peerReset msg
  let s ← lift current
  -- A logon response we never asked for.
  if s.isInitiator && !s.sentLogon then throw .mk
  else if !s.isInitiator then lift acceptorResets

/-- The text of the Logout that answers a NextExpectedMsgSeqNum beyond what was sent. -/
def tooHighExpectedReason (nextSender peer789 : Nat) : Bytes :=
  ascii "Tag 789 (NextExpectedMsgSeqNum) is higher than expected. Expected " ++ dec nextSender ++
    ascii ", Received " ++ dec peer789

/-- Where to retransmit from after logon: NextExpectedMsgSeqNum of the peer when it is behind. -/
def retransmitFrom (msg : Message) : ExceptT Disconnect (SessionM σ ω) (Option Nat) := do
  let s ← lift current
  if s.sendNextExpected then
    match msg.bodyU64 Tags.nextExpectedMsgSeqNum with
    | none => return none
    | some peer789 =>
      let nextSender := MessageStore.nextSenderSeqNum s.store
      if nextSender < peer789 then
        -- The peer expects messages we never sent.
        lift (logOut (tooHighExpectedReason nextSender peer789))
        throw .mk
      else if peer789 < nextSender then return some peer789
      else return none
  else return none

/-- Counts a Logon that passed, or stashes it when its number is too high. In 789 mode no resend is
requested then: our Logon already told the peer what we expect. -/
def countLogon (msg : Message) : ExceptT Disconnect (SessionM σ ω) Unit := do
  match msg.seqNum with
  | .error _ => throw .mk
  | .ok seq =>
    let s ← lift current
    let expected := MessageStore.nextTargetSeqNum s.store
    if expected < seq then
      if s.sendNextExpected ∧ !msg.bodyFlag Tags.resetSeqNumFlag then
        lift (stashMessage seq msg .announced)
        lift (note (.compute [.gap seq]))
        lift (expect expected (seq - 1) (seq - 1))
      else
        onTargetTooHigh msg seq expected
    else
      incrTarget

/-- An acceptor answers a Logon; with that the resets of the logon are over. -/
def answerLogon (msg : Message) : ExceptT Disconnect (SessionM σ ω) Unit := do
  let s ← lift current
  if !s.isInitiator then
    orDisconnect (sendLogonReply (msg.bodyU64 Tags.heartBtInt))
  lift (update endingResets)

/-- Tells the application about the logon, and replays the gap the peer is missing. -/
def completeLogon (retransmitFrom : Option Nat) : SessionM σ ω Unit := do
  let s ← current
  if s.isLoggedOn then
    invoke (fun _ => .onLogon) fun w => ((), Application.onLogon w)
  match retransmitFrom with
  | some begin' =>
    note (.compute [.lastSent])
    answerResend begin' (MessageStore.nextSenderSeqNum s.store - 1)
  | none => return ()

/-- What follows once a Logon has passed `verify`. -/
def acceptLogon (msg : Message) : ExceptT Disconnect (SessionM σ ω) Unit := do
  lift (update receivingLogon)
  let retransmitFrom ← retransmitFrom msg
  answerLogon msg
  countLogon msg
  lift (completeLogon retransmitFrom)

/-- `handle_logon`. -/
def handleLogon (msg : Message) : ExceptT Disconnect (SessionM σ ω) Unit := do
  if ← lift (logonTimeGood msg) then
    logonResets msg
    match ← verify msg false true with
    | .stop => return ()
    | .continue => acceptLogon msg
  else throw .mk

/-- Heartbeat and Reject share the trivial handling: verify and increment. -/
def handlePlainAdmin (msg : Message) : ExceptT Disconnect (SessionM σ ω) Unit := do
  match ← verify msg true true with
  | .stop => return ()
  | .continue => incrTarget

/-- `handle_test_request`. -/
def handleTestRequest (msg : Message) : ExceptT Disconnect (SessionM σ ω) Unit := do
  match ← verify msg true true with
  | .stop => return ()
  | .continue =>
    let hb := Message.withType MsgType.heartbeat
    let hb := hb.setOption Tags.testReqId (msg.body.getRaw Tags.testReqId)
    lift (ignoring (sendMessage hb))
    incrTarget

/-- `handle_resend_request`. -/
def handleResendRequest (msg : Message) : ExceptT Disconnect (SessionM σ ω) Unit := do
  match ← verify msg false false with
  | .stop => return ()
  | .continue =>
    let begin' := (msg.bodyU64 Tags.beginSeqNo).getD 1
    let end' := (msg.bodyU64 Tags.endSeqNo).getD 0
    let s ← lift current
    let nextSender := MessageStore.nextSenderSeqNum s.store
    let openEnded := end' == 0 || end' == 999999 || decide (nextSender ≤ end')
    lift (note (.compute (if openEnded then [.lastSent] else [])))
    let end' := if openEnded then nextSender - 1 else end'
    lift (answerResend begin' end')
    -- It counts only if it was in sequence: it may arrive during a two-way gap.
    let s ← lift current
    if msg.seqNum = .ok (MessageStore.nextTargetSeqNum s.store) then incrTarget

/-- `handle_sequence_reset`. -/
def handleSequenceReset (msg : Message) : ExceptT Disconnect (SessionM σ ω) Unit := do
  let gapFill := msg.bodyFlag Tags.gapFillFlag
  -- A reset that is no gap fill bypasses all number checks.
  match ← verify msg gapFill gapFill with
  | .stop => return ()
  | .continue =>
    match msg.bodyU64 Tags.newSeqNo with
    | none => return ()
    | some newSeq =>
      let s ← lift current
      let expected := MessageStore.nextTargetSeqNum s.store
      if expected < newSeq then
        orDisconnect (setNextTargetSeqNum .sequenceReset newSeq)
        -- Anything stashed below the new number is superseded.
        lift (update (superseding newSeq))
      else if newSeq < expected then
        lift (reject msg (.new .valueIsIncorrect))

/-- `handle_logout`. -/
def handleLogout (msg : Message) : ExceptT Disconnect (SessionM σ ω) Unit := do
  match ← verify msg false false with
  | .stop => return ()
  | .continue =>
    let s ← lift current
    if !s.sentLogout then
      lift (logOut [])
    incrTarget
    if s.cfg.resetOnLogout then
      lift (ignoring (storeReset .logout))
    throw .mk

/-- `handle_app_message`. -/
def handleAppMessage (msg : Message) : ExceptT Disconnect (SessionM σ ω) Unit := do
  match ← verify msg true true with
  | .stop => return ()
  | .continue => incrTarget

/-! ## Processing -/

/-- The text of the Logout that answers a BeginString of another version. -/
def beginStringReason (msg : Message) : Bytes :=
  ascii "Incorrect BeginString (" ++
    utf8Lossy ((msg.header.getRaw Tags.beginString).getD []) ++ ascii ")"

/-- The dictionary a message is validated against. -/
def dictionaryFor (s : Session σ) (msg : Message) : Option DataDictionary :=
  if msg.isAdmin then s.adminDictionary else s.dictionary

/-- The outcome of validating a message, fine when there is no dictionary for it. -/
def validated (s : Session σ) (msg : Message) : Except RejectError Unit :=
  match s.dictionaryFor msg with
  | some dd => dd.validate msg s.cfg.validation
  | none => .ok ()

/-- Hands a message to the handler of its type. -/
def dispatch (mt : Bytes) (msg : Message) : ExceptT Disconnect (SessionM σ ω) Unit :=
  if mt = MsgType.logon then handleLogon msg
  else if mt = MsgType.heartbeat ∨ mt = MsgType.reject then handlePlainAdmin msg
  else if mt = MsgType.testRequest then handleTestRequest msg
  else if mt = MsgType.resendRequest then handleResendRequest msg
  else if mt = MsgType.sequenceReset then handleSequenceReset msg
  else if mt = MsgType.logout then handleLogout msg
  else handleAppMessage msg

/-- Handle one parsed message, without stash draining. -/
def process (msg : Message) : ExceptT Disconnect (SessionM σ ω) Unit := do
  match msg.msgType with
  | .error _ => return ()
  | .ok mt =>
    let s ← lift current
    if msg.header.getRaw Tags.beginString ≠ some s.cfg.sessionId.beginString then
      -- An incorrect version is fatal.
      lift (ignoring incrNextTargetSeqNum)
      lift (logOut (beginStringReason msg))
      throw .mk
    else
      match s.validated msg with
      | .error rej => lift (reject msg rej)
      | .ok () => dispatch mt msg

/-- Replays the stashed message that is now in sequence; whether there was one. -/
def drainOne : ExceptT Disconnect (SessionM σ ω) Bool := do
  let s ← lift current
  let expected := MessageStore.nextTargetSeqNum s.store
  match s.stash[expected]? with
  | none => return false
  | some raw =>
    lift (note (.unstash expected raw))
    lift (update (unstashing expected))
    -- A queued Logon or ResendRequest only advances the number.
    if containsField raw (ascii "35=A") || containsField raw (ascii "35=2") then
      incrTarget
    else
      match Message.parse raw false with
      | .ok msg =>
        lift (note (.process .stash msg))
        process msg
      | .error _ => incrTarget
    return true

/-- Replays stashed messages while there is one in sequence, at most `fuel` of them. -/
def drainLoop : Nat → ExceptT Disconnect (SessionM σ ω) Unit
  | 0 => return ()
  | fuel + 1 => do
    if ← drainOne then drainLoop fuel

/-- Replay stashed too-high messages that are now in sequence. Every round takes one out. -/
def drainStash : ExceptT Disconnect (SessionM σ ω) Unit := do
  let s ← lift current
  drainLoop (s.stash.size + 1)

/-- The session with the number of the message received last. -/
def receiving (seq : Nat) (s : Session σ) : Session σ := { s with lastReceivedSeq := seq }

/-- Note the number of the message received last. -/
def noteReceived (msg : Message) : SessionM σ ω Unit :=
  match msg.seqNum with
  | .ok seq => update (receiving seq)
  | .error _ => return ()

/-- The session after a message that was not replayed from the stash. -/
def unqueued (s : Session σ) : Session σ := { s with lastProcessedWasQueued := false }

/-- Handles a parsed message and what it brings into sequence. -/
def handleInbound (msg : Message) : ExceptT Disconnect (SessionM σ ω) Unit := do
  lift (note (.process .wire msg))
  process msg
  lift (update unqueued)
  drainStash

/-- Handles the bytes of a message. -/
def onInbound (raw : Bytes) : SessionM σ ω Unit := do
  let s ← current
  match Message.parse raw s.cfg.validateLengthChecksum with
  | .error _ =>
    -- Garbled: ignore, do not increment, do not reject. A garbled Logon is fatal.
    if !s.receivedLogon && containsField raw (ascii "35=A") then disconnect
  | .ok msg =>
    noteReceived msg
    match ← (handleInbound msg).run with
    | .error .mk => disconnect
    | .ok () => checkResendChunks
  note .done

end Session

end QuickFix
