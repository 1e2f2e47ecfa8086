import QuickFix.Connection.RefusedLogon

/-!
# Before the Logon

What a peer can do to the next target number before a Logon was accepted. Most messages end the
connection then. But a message of another version is counted before its answer, a message that the
dictionary refuses is counted before it is verified, and SequenceReset and Reject are handled
without a Logon. Nothing else moves the number.
-/

namespace QuickFix

set_option mvcgen.warning false
set_option linter.unusedSectionVars false

open Std.Do MessageStore Session Relation

section Peer

variable {σ ω : Type} [Chrono] [MessageStore σ] [Application ω] [Runtime ω]

/-! ## Messages that may move the number -/

/-- The application may refuse the admin message in a way that counts it. -/
def Vetoed (ω : Type) [Application ω] (msg : Message) : Prop :=
  ∃ w : ω, (∃ reason, (Application.fromAdmin msg w).1 = .error (.rejectLogon reason)) ∨
    (Application.fromAdmin msg w).1 = .error .unsupportedMessageType

/-- The message passes the checks of its number. -/
structure PassesNumber (msg : Message) (checkTooHigh checkTooLow : Bool) (s : Sys σ ω) : Prop where
  high : checkTooHigh = true → ∃ seq, msg.seqNum = .ok seq ∧ seq ≤ s.nextTarget
  low : checkTooLow = true → ∃ seq, msg.seqNum = .ok seq ∧
    (s.nextTarget ≤ seq ∨ s.session.lastProcessedWasQueued = true ∧
      msg.msgTypeOrDefault = MsgType.sequenceReset ∧ msg.bodyFlag Tags.gapFillFlag = true)

/-- The messages that may move the next target number although no Logon was accepted. -/
inductive MayMove (s : Sys σ ω) (msg : Message) : Prop
  /-- A message of another version is counted. -/
  | version {mt} (type : msg.msgType = .ok mt)
      (other : msg.header.getRaw Tags.beginString ≠ some s.session.cfg.sessionId.beginString) :
      MayMove s msg
  /-- A message that the dictionary refuses is counted when it is in sequence. -/
  | refused {rej} (invalid : s.session.validated msg = .error rej) (counts : CountsRejected msg s) :
      MayMove s msg
  /-- A SequenceReset is obeyed, and a gap fill as well when it passes the checks of its number. -/
  | reset (type : msg.msgType = .ok MsgType.sequenceReset)
      (passes : PassesNumber msg (msg.bodyFlag Tags.gapFillFlag) (msg.bodyFlag Tags.gapFillFlag) s)
      (moves : Vetoed ω msg ∨ ∃ n, msg.bodyU64 Tags.newSeqNo = some n ∧ s.nextTarget < n) :
      MayMove s msg
  /-- A Reject is counted when it is in sequence. -/
  | reject (type : msg.msgType = .ok MsgType.reject) (number : msg.seqNum = .ok s.nextTarget) :
      MayMove s msg
  /-- Once a Logout was sent, everything but a Logout is handled. -/
  | loggedOut {mt} (sent : s.session.sentLogout = true) (type : msg.msgType = .ok mt)
      (other : mt ≠ MsgType.logout)
      (number : mt = MsgType.resendRequest ∨ msg.seqNum = .ok s.nextTarget) : MayMove s msg

/-- The logon state lets nothing pass but Reject and SequenceReset, before a Logon was accepted and
a Logout sent. -/
lemma Session.validLogonState_before {x : Session σ} {mt} (received : x.receivedLogon = false)
    (sent : x.sentLogon = false) (noLogon : mt ≠ MsgType.logon)
    (state : x.validLogonState mt = true) :
    mt = MsgType.sequenceReset ∨ mt = MsgType.reject ∨
      x.sentLogout = true ∧ mt ≠ MsgType.logout := by
  simp only [validLogonState, received, sent, noLogon, Bool.or_eq_true, Bool.and_eq_true,
    decide_eq_true_eq] at state
  tauto

section Moving

variable [LawfulStore σ]

/-- The next target number is `n`, or at its start after the connection was lost; there is nothing
under it in the stash. -/
structure Stays (resets : Bool) (n : Nat) (s : Sys σ ω) : Prop where
  valid : LawfulStore.Valid s.session.store
  flag : s.session.cfg.resetOnDisconnect = resets
  number : s.nextTarget = n ∨ resets = true ∧ s.nextTarget = 1
  stash : s.session.stash[s.nextTarget]? = none

variable {resets : Bool} {n : Nat}

/-! ## Sending -/

/-- Giving up the connection leaves the number, but for a reset. -/
lemma Stays.cut {s t : Sys σ ω} (h : Stays resets n s) (left : GivenUp s t) :
    Stays resets n t := by
  refine left.elim (fun cut => ?_) fun _ left => ⟨left.valid, left.flag, left.number, left.stash⟩
  cases cut with
  | kept => exact ⟨h.valid, h.flag, h.number, by simp [Sys.updated, Session.detached]⟩
  | reset w now flag =>
    obtain ⟨valid, done⟩ := (LawfulStore.reset now s.session.store h.valid).done
    refine ⟨valid, h.flag, ?_, by simp [Sys.stored, Sys.updated, Session.detached]⟩
    refine done.elim (fun same => ?_) fun start => ?_
    · have same := congrArg StoreView.nextTarget same
      exact h.number.imp same.trans (And.imp_right same.trans)
    · exact .inr ⟨h.flag ▸ flag, congrArg StoreView.nextTarget start⟩

/-- A store operation that leaves the number. -/
lemma Stays.stored {e} {st : σ} {s : Sys σ ω} (h : Stays resets n s)
    (valid : LawfulStore.Valid st) (same : nextTargetSeqNum st = s.nextTarget) :
    Stays resets n (s.stored e st) :=
  ⟨valid, h.flag, h.number.imp same.trans (And.imp_right same.trans),
    (congrArg (s.session.stash[·]?) same).trans h.stash⟩

/-- Sending leaves the number. -/
lemma Stays.act {fresh} {s t : Sys σ ω} (h : Stays resets n s) (act : SendAct fresh s t) :
    Stays resets n t := by
  cases act with
  | cut _ _ left => exact h.cut left
  | @save seq raw =>
    obtain ⟨valid, moves⟩ := @saveMessageAndIncr_moves _ _ _ seq raw _ h.valid
    exact h.stored valid moves.1
  | incrSender =>
    obtain ⟨valid, done⟩ := (LawfulStore.incrSender s.session.store h.valid).done
    refine h.stored valid (done.elim ?_ ?_)
    · exact congrArg StoreView.nextTarget
    · exact congrArg StoreView.nextTarget
  | getMessages b e =>
    obtain ⟨valid, moves⟩ := Event.Effect.moves (e := .getMessages b e)
      (show Event.Effect _ s.session.store _ from rfl) h.valid
    exact h.stored valid (congrArg StoreView.nextTarget moves)
  | _ => exact ⟨h.valid, h.flag, h.number, h.stash⟩

/-- Sending leaves the number. -/
lemma Stays.sends {s t : Sys σ ω} (h : Stays resets n s) (sent : Sends s t) :
    Stays resets n t := by
  induction sent with
  | refl => exact h
  | tail _ act ih => exact ih.act act

/-- A Reject that does not count leaves the number. -/
lemma Stays.rejected {msg} {s t : Sys σ ω} (h : Stays resets n s)
    (skips : ¬ CountsRejected msg s) (rejected : Rejected msg s t) : Stays resets n t := by
  cases rejected with
  | counted counts => exact absurd counts skips
  | ignored _ sent => exact h.sends sent

/-- Losing the connection leaves the number, but for a reset. -/
lemma Stays.dropped {s t : Sys σ ω} (h : Stays resets n s) (dropped : Dropped s t) :
    Stays resets n t := by
  cases dropped with
  | idle => exact h
  | cut _ left => exact h.cut left

/-- A message with a higher number in the stash leaves the number. -/
lemma Stays.stashing {seq msg recovery} {s : Sys σ ω} (h : Stays resets n s)
    (high : s.nextTarget < seq) : Stays resets n (s.stashing seq msg recovery) := by
  refine ⟨h.valid, h.flag, h.number, ?_⟩
  show (s.session.stash.insert seq msg.toBytes)[s.nextTarget]? = none
  rw [SeqMap.get_insert, if_neg (Nat.ne_of_gt high)]
  exact h.stash

/-- What is asked for leaves the number. -/
lemma Stays.requesting {b received} {s : Sys σ ω} (h : Stays resets n s) :
    Stays resets n (s.requesting b received) :=
  ⟨h.valid, h.flag, h.number, h.stash⟩

/-! ## The verify pipeline -/

/-- The message that is handled is not counted when it is rejected. -/
structure Uncounted (origin : Origin) (msg : Message) (resets : Bool) (n : Nat) (s : Sys σ ω) :
    Prop where
  item : handled s.trace = some (.message origin msg)
  left : Stays resets n s
  skips : ¬ CountsRejected msg s

/-- Reading a clock counts nothing. -/
lemma Uncounted.clock {origin msg} {s : Sys σ ω} (h : Uncounted origin msg resets n s) (w : ω) :
    Uncounted origin msg resets n { s with world := w } :=
  ⟨h.item, ⟨h.left.valid, h.left.flag, h.left.number, h.left.stash⟩, h.skips⟩

/-- Rejecting the message leaves the number. -/
lemma Uncounted.rejected {origin msg} {s t : Sys σ ω} (h : Uncounted origin msg resets n s)
    (rejected : Rejected msg s t) : Stays resets n t :=
  h.left.rejected h.skips rejected

/-- Checking SendingTime reads a clock, or refuses the message. -/
lemma verifySendingTime_stays {origin msg} {s0 : Sys σ ω}
    (h : Uncounted origin msg resets n s0) :
    ⦃fun s => ⌜s = s0⌝⦄ verifySendingTime msg
    ⦃⇓ r s => ⌜(r = .continue → ∃ w, s = { s0 with world := w }) ∧ Stays resets n s⌝⦄ := by
  mvcgen [verifySendingTime, utcNow, logOut_spec]
  case vc1.may eq _ _ _ _ _ _ rejected => exact .of_item (rejected.item.trans (eq ▸ h.item))
  case vc2.h_1.isTrue.isTrue.post.success.post.success =>
    rename_i s eq _ _ _ _ _ s1 rejected _ s2 sent
    subst eq
    exact ⟨by simp, ((h.clock (Runtime.utcNow s.world).2).rejected rejected).sends sent⟩
  case vc3.h_1.isTrue.isFalse =>
    rename_i s eq _ _ _ _
    subst eq
    exact ⟨⟨_, rfl⟩, (h.clock _).left⟩
  case vc4.h_1.isFalse =>
    rename_i s eq _ _ _
    subst eq
    exact ⟨⟨_, rfl⟩, h.left⟩
  case vc5.h_2.post.success =>
    rename_i s eq _ _ s1 rejected
    subst eq
    exact ⟨by simp, h.rejected rejected⟩

/-- Checking CompIDs does nothing, or refuses the message. -/
lemma verifyCompIds_stays {origin msg} {s0 : Sys σ ω} (h : Uncounted origin msg resets n s0) :
    ⦃fun s => ⌜s = s0⌝⦄ verifyCompIds msg
    ⦃⇓ r s => ⌜(r = .continue → s = s0) ∧ Stays resets n s⌝⦄ := by
  mvcgen [verifyCompIds, logOut_spec]
  case vc1.may eq _ _ _ _ _ rejected => exact .of_item (rejected.item.trans (eq ▸ h.item))
  case vc2.isTrue.post.success.post.success =>
    rename_i s eq _ _ _ _ s1 rejected _ s2 sent
    subst eq
    exact ⟨by simp, (h.rejected rejected).sends sent⟩
  case vc3.isFalse s eq _ _ _ => exact ⟨eq, eq ▸ h.left⟩

/-- A too-high message is stashed, and the gap below it asked for. -/
lemma onTargetTooHigh_stays (msg) {seq} {s0 : Sys σ ω} (h : Stays resets n s0)
    (high : s0.nextTarget < seq) :
    ⦃fun s => ⌜s = s0⌝⦄ onTargetTooHigh msg seq s0.nextTarget
    ⦃post⟨fun _ s => ⌜Stays resets n s⌝, fun _ s => ⌜Stays resets n s⌝⟩⦄ := by
  mvcgen [onTargetTooHigh, stashMessage, sendResendRequest_spec]
  case vc3.isFalse s eq suppress outstanding => exact eq ▸ h.stashing high
  all_goals
    rename_i s eq suppress requests _ t
    subst eq
    intro sent
    exact (h.stashing high).requesting.sends sent

/-- A too-low message is dropped or refused, or ends the connection. -/
lemma onTargetTooLow_stays {origin msg} (seq expected) {s0 : Sys σ ω}
    (h : Uncounted origin msg resets n s0) :
    ⦃fun s => ⌜s = s0⌝⦄ onTargetTooLow msg seq expected
    ⦃post⟨fun r s => ⌜r = .stop ∧ Stays resets n s⌝, fun _ s => ⌜Stays resets n s⌝⟩⦄ := by
  mvcgen [onTargetTooLow, logOut_spec]
  case vc1.may => exact .of_item (‹_ = s0› ▸ h.item)
  case vc2.isTrue.post.success s eq _ t sent => exact (eq ▸ h).left.sends sent
  case vc3.may eq _ _ _ _ _ _ _ _ _ rejected =>
    exact .of_item (rejected.item.trans (eq ▸ h.item))
  case vc4.isFalse.isTrue.h_1.h_1.isTrue.post.success.post.success =>
    rename_i s eq _ _ _ _ _ _ _ _ s1 rejected _ s2 sent
    subst eq
    exact ⟨trivial, (h.rejected rejected).sends sent⟩
  case vc7.isFalse.isTrue.h_2.post.success =>
    rename_i s eq _ _ _ _ s1 rejected
    subst eq
    exact ⟨trivial, h.rejected rejected⟩
  all_goals exact ⟨trivial, by subst_vars; exact h.left⟩

/-- Checking the number does nothing, or deals with a message that is out of sequence. -/
lemma verifySeqNum_stays {origin msg} (high low) {s0 : Sys σ ω}
    (h : Uncounted origin msg resets n s0) :
    ⦃fun s => ⌜s = s0⌝⦄ verifySeqNum msg high low
    ⦃post⟨fun r s => ⌜(r = .continue → s = s0 ∧ PassesNumber msg high low s0) ∧ Stays resets n s⌝,
      fun _ s => ⌜Stays resets n s⌝⟩⦄ := by
  have tooHigh {s1 : Sys σ ω} {seq} (h : Stays resets n s1) (high : s1.nextTarget < seq) :=
    onTargetTooHigh_stays msg h high
  have tooLow {s1 : Sys σ ω} (seq expected) (h : Uncounted origin msg resets n s1) :=
    onTargetTooLow_stays seq expected h
  mvcgen [verifySeqNum, tooHigh, tooLow]
  all_goals clear tooHigh tooLow
  case vc1.isTrue.h_1.post.success =>
    rename_i s eq _ t rejected
    subst eq
    exact ⟨by simp, h.rejected rejected⟩
  case vc2.h s eq _ _ => exact eq ▸ h.left
  case vc3.high high => exact high.2
  case vc4.isTrue.h_2.isTrue.post.success left => exact ⟨by simp, left⟩
  case vc5.isTrue.h_2.isFalse.isTrue.isTrue =>
    rename_i seq number s eq expected notHigh isLow obey
    subst eq
    refine ⟨⟨rfl, ?_, ?_⟩, h.left⟩
    · exact fun check => ⟨seq, number, Nat.le_of_not_lt fun lt => notHigh ⟨check, lt⟩⟩
    · exact fun _ => ⟨seq, number, .inr obey⟩
  case vc6.h s eq _ _ _ _ => exact eq ▸ h
  case vc7.isTrue.h_2.isFalse.isTrue.isFalse.post.success =>
    exact fun stop left => ⟨by simp [stop], left⟩
  case vc8.isTrue.h_2.isFalse.isFalse =>
    rename_i seq number s eq expected notHigh notLow
    subst eq
    refine ⟨⟨rfl, ?_, ?_⟩, h.left⟩
    · exact fun check => ⟨seq, number, Nat.le_of_not_lt fun lt => notHigh ⟨check, lt⟩⟩
    · exact fun check => ⟨seq, number, .inl (Nat.le_of_not_lt fun lt => notLow ⟨check, lt⟩)⟩
  case vc9.isFalse unchecked s eq =>
    subst eq
    simp only [Bool.or_eq_true, not_or, Bool.not_eq_true] at unchecked
    exact ⟨⟨rfl, by simp [unchecked.1], by simp [unchecked.2]⟩, h.left⟩

/-- The callback of an admin message lets it pass or has it rejected, unless it is vetoed. -/
lemma verifyCallback_stays {origin msg} {s0 : Sys σ ω} (h : Uncounted origin msg resets n s0)
    (admin : msg.isAdmin = true) (vetoed : ¬ Vetoed ω msg) :
    ⦃fun s => ⌜s = s0⌝⦄ verifyCallback msg
    ⦃post⟨fun r s => ⌜(r = .continue → s.nextTarget = s0.nextTarget) ∧ Stays resets n s⌝,
      fun _ s => ⌜Stays resets n s⌝⟩⦄ := by
  have heard (now) (w w' : ω) (e) :
      Stays resets n (({ s0 with world := w }.updated (Session.heard now)).called e w') :=
    ⟨h.left.valid, h.left.flag, h.left.number, h.left.stash⟩
  mvcgen [verifyCallback, instantNow, incomingCallback, refuse, sendBusinessReject_spec]
  case vc1.isTrue.h_1 s eq _ _ =>
    subst eq
    exact ⟨rfl, heard ..⟩
  case vc2.isTrue.h_2.h_1.post.success s eq _ _ answer reason refusal _ _ _ =>
    exact absurd ⟨_, .inl ⟨reason, answer.trans (congrArg _ refusal)⟩⟩ vetoed
  case vc3.isTrue.h_2.h_2.post.success s eq _ _ _ rej _ _ t rejected =>
    subst eq
    exact ⟨by simp, (heard _ _ _ _).rejected h.skips rejected⟩
  all_goals
    rename_i s eq _ _ answer refusal _ _ _
    exact absurd ⟨_, .inr (answer.trans (congrArg _ refusal))⟩ vetoed

/-- A message that `verify` does not count when the logon state lets it pass: it is not counted when
it is rejected, and not vetoed when it passes the checks of its number. -/
structure Harmless (msg : Message) (checkTooHigh checkTooLow : Bool) (s : Sys σ ω) : Prop where
  skips : ¬ CountsRejected msg s
  passes : PassesNumber msg checkTooHigh checkTooLow s → msg.isAdmin = true ∧ ¬ Vetoed ω msg

/-- A harmless message passes, or is dealt with. -/
lemma verify_stays {origin msg high low} {s0 : Sys σ ω}
    (item : handled s0.trace = some (.message origin msg)) (h : Stays resets n s0)
    (harmless : s0.session.validLogonState msg.msgTypeOrDefault = true → Harmless msg high low s0) :
    ⦃fun s => ⌜s = s0⌝⦄ verify msg high low
    ⦃post⟨fun r s => ⌜(r = .continue → s0.session.validLogonState msg.msgTypeOrDefault = true ∧
        PassesNumber msg high low s0 ∧ s.nextTarget = s0.nextTarget) ∧ Stays resets n s⌝,
      fun _ s => ⌜Stays resets n s⌝⟩⦄ := by
  have time {s1 : Sys σ ω} (h : Uncounted origin msg resets n s1) := verifySendingTime_stays h
  have compIds {s1 : Sys σ ω} (h : Uncounted origin msg resets n s1) := verifyCompIds_stays h
  have number {s1 : Sys σ ω} {high low} (h : Uncounted origin msg resets n s1) :=
    verifySeqNum_stays high low h
  have callback {s1 : Sys σ ω} (h : Uncounted origin msg resets n s1) :=
    verifyCallback_stays h
  have lets {s : Sys σ ω} (eq : s = s0)
      (state : ¬ (!s.session.validLogonState msg.msgTypeOrDefault) = true) :
      s0.session.validLogonState msg.msgTypeOrDefault = true := by
    subst eq
    simpa using state
  have uncounted (state) (w : ω) : Uncounted origin msg resets n { s0 with world := w } :=
    (Uncounted.mk item h (harmless state).skips).clock w
  mvcgen [verify, time, compIds, number, callback]
  all_goals clear time compIds number callback
  case vc1.isTrue s eq _ => exact eq ▸ h
  case vc2.h s eq state =>
    obtain rfl := eq
    exact uncounted (lets rfl state) s.world
  case vc3.isFalse.post.success.h_1 stop => exact ⟨by simp, stop.2⟩
  case vc4.h s eq state _ _ s1 time =>
    obtain ⟨⟨w, rfl⟩, -⟩ := time
    subst eq
    exact uncounted (lets rfl state) w
  case vc5.isFalse.post.success.h_2.post.success.h_1 stop _ => exact ⟨by simp, stop.2⟩
  case vc6.h s eq state _ _ s1 _ _ s2 time same =>
    obtain ⟨⟨w, rfl⟩, -⟩ := time
    obtain ⟨rfl, -⟩ := same
    subst eq
    exact uncounted (lets rfl state) w
  case vc7.isFalse.post.success.h_2.post.success.h_2.post.success.h_1 stop _ _ =>
    exact ⟨by simp, stop.2⟩
  case vc8.isFalse.post.success.h_2.post.success.h_2.post.success.h_2.post.success =>
    rename_i s eq state _ _ s1 _ _ s2 _ _ s3 r t time same number
    obtain ⟨⟨w, rfl⟩, -⟩ := time
    obtain ⟨rfl, -⟩ := same
    obtain ⟨⟨rfl, number⟩, -⟩ := number
    subst eq
    intro passed left
    exact ⟨fun cont => ⟨lets rfl state, ⟨number.high, number.low⟩, passed cont⟩, left⟩
  case vc9 s eq state _ _ s1 _ _ s2 _ _ time same =>
    obtain ⟨⟨w, rfl⟩, -⟩ := time
    obtain ⟨rfl, -⟩ := same
    subst eq
    rintro _ rfl - -
    exact uncounted (lets rfl state) w
  case vc10 s eq state _ _ s1 _ _ s2 _ _ time same =>
    obtain ⟨⟨w, rfl⟩, -⟩ := time
    obtain ⟨rfl, -⟩ := same
    subst eq
    rintro _ rfl number -
    exact ((harmless (lets rfl state)).passes ⟨number.high, number.low⟩).1
  case vc11 s eq state _ _ s1 _ _ s2 _ _ time same =>
    obtain ⟨⟨w, rfl⟩, -⟩ := time
    obtain ⟨rfl, -⟩ := same
    subst eq
    rintro _ rfl number -
    exact ((harmless (lets rfl state)).passes ⟨number.high, number.low⟩).2

/-! ## The handlers -/

/-- What a handler does after `verify` is all there is to see to. -/
lemma verified_stays {origin msg high low} {s0 : Sys σ ω}
    {f : ExceptT Disconnect (SessionM σ ω) Unit}
    (item : handled s0.trace = some (.message origin msg)) (h : Stays resets n s0)
    (harmless : s0.session.validLogonState msg.msgTypeOrDefault = true → Harmless msg high low s0)
    (rest : ∀ s1 : Sys σ ω, s0.session.validLogonState msg.msgTypeOrDefault = true →
      PassesNumber msg high low s0 → s1.nextTarget = s0.nextTarget → Stays resets n s1 →
        ⦃fun s => ⌜s = s1⌝⦄ f
        ⦃post⟨fun _ s => ⌜Stays resets n s⌝, fun _ s => ⌜Stays resets n s⌝⟩⦄) :
    ⦃fun s => ⌜s = s0⌝⦄
      (do
        match ← verify msg high low with
        | .stop => return ()
        | .continue => f)
    ⦃post⟨fun _ s => ⌜Stays resets n s⌝, fun _ s => ⌜Stays resets n s⌝⟩⦄ := by
  have check := verify_stays item h harmless
  mvcgen [check]
  case vc2.post.success.h_1 stop => exact stop.2
  case vc3.post.success.h_2 =>
    exact fun t state number same left => rest t state number same left t rfl

/-- Only a message with the next number passes both checks of its number. -/
lemma PassesNumber.number {msg} {s : Sys σ ω} (h : PassesNumber msg true true s)
    (type : msg.msgTypeOrDefault ≠ MsgType.sequenceReset) : msg.seqNum = .ok s.nextTarget := by
  obtain ⟨seq, ok, le⟩ := h.high rfl
  obtain ⟨seq', ok', ge⟩ := h.low rfl
  obtain rfl : seq = seq' := by simpa [ok] using ok'
  rw [ok, Nat.le_antisymm le (ge.resolve_right fun obey => type obey.2.1)]

/-- A message that is not in sequence does not get past `verify`. -/
lemma outOfSequence_stays {origin msg} {s0 : Sys σ ω}
    {f : ExceptT Disconnect (SessionM σ ω) Unit}
    (item : handled s0.trace = some (.message origin msg)) (h : Stays resets n s0)
    (type : msg.msgTypeOrDefault ≠ MsgType.sequenceReset)
    (out : s0.session.validLogonState msg.msgTypeOrDefault = true →
      msg.seqNum ≠ .ok s0.nextTarget) :
    ⦃fun s => ⌜s = s0⌝⦄
      (do
        match ← verify msg true true with
        | .stop => return ()
        | .continue => f)
    ⦃post⟨fun _ s => ⌜Stays resets n s⌝, fun _ s => ⌜Stays resets n s⌝⟩⦄ := by
  refine verified_stays item h (fun state => ⟨?_, fun passes => ?_⟩) fun _ state passes _ _ => ?_
  · exact fun counts => out state counts.2.2
  · exact absurd (passes.number type) (out state)
  · exact absurd (passes.number type) (out state)

/-- A message that the logon state keeps out does not get past `verify`. -/
lemma keptOut_stays {origin msg high low} {s0 : Sys σ ω}
    {f : ExceptT Disconnect (SessionM σ ω) Unit}
    (item : handled s0.trace = some (.message origin msg)) (h : Stays resets n s0)
    (out : s0.session.validLogonState msg.msgTypeOrDefault ≠ true) :
    ⦃fun s => ⌜s = s0⌝⦄
      (do
        match ← verify msg high low with
        | .stop => return ()
        | .continue => f)
    ⦃post⟨fun _ s => ⌜Stays resets n s⌝, fun _ s => ⌜Stays resets n s⌝⟩⦄ :=
  verified_stays item h (fun state => absurd state out) fun _ state _ _ _ => absurd state out

/-- A SequenceReset that is not higher than the number leaves it. -/
lemma handleSequenceReset_stays {origin msg} {s0 : Sys σ ω}
    (item : handled s0.trace = some (.message origin msg)) (h : Stays resets n s0)
    (type : msg.msgType = .ok MsgType.sequenceReset) (calm : ¬ MayMove s0 msg) :
    ⦃fun s => ⌜s = s0⌝⦄ handleSequenceReset msg
    ⦃post⟨fun _ s => ⌜Stays resets n s⌝, fun _ s => ⌜Stays resets n s⌝⟩⦄ := by
  have type' := Message.msgTypeOrDefault_of_ok type
  have skips (s : Sys σ ω) : ¬ CountsRejected msg s := fun counts => counts.2.1 type'
  refine verified_stays item h (fun _ => ⟨skips s0, fun passes => ⟨?_, ?_⟩⟩) ?_
  · exact msg.isAdmin_of_type type' (by decide)
  · exact fun vetoed => calm (.reset type passes (.inl vetoed))
  intro s1 _ passes same left
  have low (m) (found : msg.bodyU64 Tags.newSeqNo = some m) : ¬ s1.nextTarget < m :=
    fun up => calm (.reset type passes (.inr ⟨m, found, same ▸ up⟩))
  mvcgen [Session.setNextTargetSeqNum, storeOp]
  case vc2.refine_3.h_2.isTrue.h_1 m found s eq _ up _ _ => exact absurd (eq ▸ up) (low m found)
  case vc3.refine_3.h_2.isTrue.h_2 m found s eq _ up _ _ => exact absurd (eq ▸ up) (low m found)
  case vc4.refine_3.h_2.isFalse.isTrue.post.success m _ s eq _ _ _ _ t =>
    exact fun rejected => (eq ▸ left).rejected (skips s) rejected
  all_goals exact ‹_ = s1› ▸ left

/-- No Logon was accepted, and the message is none and may not move the number. -/
structure Calm (msg : Message) (s : Sys σ ω) : Prop where
  received : s.session.receivedLogon = false
  sent : s.session.sentLogon = false
  noLogon : msg.msgType ≠ .ok MsgType.logon
  still : ¬ MayMove s msg

/-- The number received last makes no difference to that. -/
lemma Calm.receiving {msg seq} {s t : Sys σ ω} (h : Calm msg s)
    (same : t.session = s.session.receiving seq) : Calm msg t := by
  obtain ⟨session, world, trace⟩ := t
  obtain rfl : session = s.session.receiving seq := same
  refine ⟨h.received, h.sent, h.noLogon, fun moves => h.still ?_⟩
  cases moves with
  | version type other => exact .version type other
  | refused invalid counts => exact .refused invalid counts
  | reset type passes moves => exact .reset type ⟨passes.high, passes.low⟩ moves
  | reject type number => exact .reject type number
  | loggedOut sent type other number => exact .loggedOut sent type other number

/-- A message that is not a SequenceReset passes the logon state only where it may move the number. -/
lemma Calm.quiet {msg mt} {s : Sys σ ω} (calm : Calm msg s) (type : msg.msgType = .ok mt)
    (noReset : mt ≠ MsgType.sequenceReset) (state : s.session.validLogonState mt = true) :
    mt ≠ MsgType.logout ∧ mt ≠ MsgType.resendRequest ∧ msg.seqNum ≠ .ok s.nextTarget := by
  have noLogon : mt ≠ MsgType.logon := fun logon => calm.noLogon (logon ▸ type)
  rcases validLogonState_before calm.received calm.sent noLogon state with reset | rfl | ⟨out, other⟩
  · exact absurd reset noReset
  · exact ⟨by decide, by decide, fun number => calm.still (.reject type number)⟩
  · refine ⟨other, fun resend => ?_, fun number => ?_⟩
    · exact calm.still (.loggedOut out type other (.inl resend))
    · exact calm.still (.loggedOut out type other (.inr number))

/-- A message that may not move the number is handled without moving it. -/
lemma dispatch_stays {origin msg mt} {s0 : Sys σ ω}
    (item : handled s0.trace = some (.message origin msg)) (h : Stays resets n s0)
    (type : msg.msgType = .ok mt) (calm : Calm msg s0) :
    ⦃fun s => ⌜s = s0⌝⦄ dispatch mt msg
    ⦃post⟨fun _ s => ⌜Stays resets n s⌝, fun _ s => ⌜Stays resets n s⌝⟩⦄ := by
  have type' := Message.msgTypeOrDefault_of_ok type
  have quiet (noReset : mt ≠ MsgType.sequenceReset)
      (state : s0.session.validLogonState msg.msgTypeOrDefault = true) :=
    calm.quiet type noReset (type' ▸ state)
  have plain {f : ExceptT Disconnect (SessionM σ ω) Unit} (noReset : mt ≠ MsgType.sequenceReset) :=
    outOfSequence_stays (f := f) item h (type'.trans_ne noReset) fun state =>
      (quiet noReset state).2.2
  unfold dispatch
  split_ifs with logon heartbeat test resend reset logout
  · exact absurd (logon ▸ type) calm.noLogon
  · refine plain ?_
    rcases heartbeat with rfl | rfl <;> decide
  · exact plain (by rw [test]; decide)
  · have noReset : mt ≠ MsgType.sequenceReset := by rw [resend]; decide
    exact keptOut_stays item h fun state => (quiet noReset state).2.1 resend
  · exact handleSequenceReset_stays item h (reset ▸ type) calm.still
  · exact keptOut_stays item h fun state => (quiet reset state).1 logout
  · exact plain reset

/-- A message that may not move the number is processed without moving it. -/
lemma process_stays {origin msg} {s0 : Sys σ ω}
    (item : handled s0.trace = some (.message origin msg)) (h : Stays resets n s0)
    (calm : Calm msg s0) :
    ⦃fun s => ⌜s = s0⌝⦄ process msg
    ⦃post⟨fun _ s => ⌜Stays resets n s⌝, fun _ s => ⌜Stays resets n s⌝⟩⦄ := by
  have handle {mt} (type : msg.msgType = .ok mt) := dispatch_stays item h type calm
  mvcgen [process, handle]
  case vc1.h_1 s eq => exact eq ▸ h
  case vc2.h_2.isTrue.post.success mt type s eq other _ _ _ =>
    exact absurd (.version type (eq ▸ other)) calm.still
  case vc3.h_2.isFalse.h_1.post.success mt _ s eq _ rej invalid _ t =>
    intro rejected
    subst eq
    exact h.rejected (fun counts => calm.still (.refused invalid counts)) rejected

/-! ## The stash -/

/-- Nothing is replayed when there is nothing under the next number. -/
lemma drainStash_stays {s0 : Sys σ ω} (h : Stays resets n s0) :
    ⦃fun s => ⌜s = s0⌝⦄ drainStash
    ⦃post⟨fun _ s => ⌜Stays resets n s⌝, fun _ s => ⌜Stays resets n s⌝⟩⦄ := by
  mvcgen [drainStash, drainLoop, drainOne]
  case vc2.h_1.isFalse => exact ‹_ = s0› ▸ h
  case vc3.h_2.isTrue s eq expected raw found _ _ =>
    subst eq
    cases h.stash.symm.trans found
  case vc4.h_2.isFalse.h_1 s eq expected raw found _ _ msg _ =>
    subst eq
    cases h.stash.symm.trans found
  case vc5.h_2.isFalse.h_2 s eq expected raw found _ _ _ _ =>
    subst eq
    cases h.stash.symm.trans found

/-! ## Frames -/

variable {raw : Bytes}

/-- A call of the session leaves the number. -/
lemma Stays.called {e w} {s : Sys σ ω} (h : Stays resets n s) :
    Stays resets n (s.called e w) :=
  ⟨h.valid, h.flag, h.number, h.stash⟩

/-- Asking for the next chunk of a range leaves the number. -/
lemma checkResendChunks_stays {s0 : Sys σ ω} (h : Stays resets n s0) :
    ⦃fun s => ⌜s = s0⌝⦄ checkResendChunks ⦃⇓ _ s => ⌜Stays resets n s⌝⦄ := by
  have asked {s1 : Sys σ ω} {what b received} (eq : s1 = s0) :
      Stays resets n ((s1.called (.compute what) s1.world).requesting b received) :=
    eq ▸ h.called.requesting
  mvcgen [checkResendChunks, -checkResendChunks_spec, sendResendRequest_spec]
  case vc1.h_1 => exact ‹_ = s0› ▸ h
  case vc2.h_2.isTrue => exact ‹_ = s0› ▸ h
  case vc5.h_2.isFalse.isFalse s eq _ _ _ _ _ _ _ =>
    subst eq
    exact ⟨h.valid, h.flag, h.number, h.stash⟩
  all_goals exact fun sent => (asked ‹_›).sends sent

/-- A message that may not move the number, and what it brings into sequence, leaves it. -/
lemma handleInbound_stays {msg} {s0 : Sys σ ω} (h : Stays resets n s0)
    (calm : Calm msg s0) :
    ⦃fun s => ⌜s = s0⌝⦄ handleInbound msg
    ⦃post⟨fun _ s => ⌜Stays resets n s⌝, fun _ s => ⌜Stays resets n s⌝⟩⦄ := by
  have handle {s1 : Sys σ ω} (item : handled s1.trace = some (.message .wire msg))
      (h : Stays resets n s1) (calm : Calm msg s1) := process_stays item h calm
  have drain {s1 : Sys σ ω} (h : Stays resets n s1) := drainStash_stays h
  mvcgen [handleInbound, handle, drain]
  all_goals clear handle drain
  case vc2.h s eq => exact eq ▸ h.called
  case vc3.calm s eq =>
    subst eq
    exact calm.receiving rfl
  case vc4.h left => exact ⟨left.valid, left.flag, left.number, left.stash⟩

/-- A frame without a message that may move the number leaves it. -/
lemma onInbound_stays {s0 : Sys σ ω} (h : Stays resets n s0)
    (calm : ∀ msg, Message.parse raw s0.session.cfg.validateLengthChecksum = .ok msg →
      Calm msg s0) :
    ⦃fun s => ⌜s = s0⌝⦄ onInbound raw ⦃⇓ _ s => ⌜Stays resets n s⌝⦄ := by
  have handle {msg} {s1 : Sys σ ω} (h : Stays resets n s1) (calm : Calm msg s1) :=
    handleInbound_stays h calm
  have chunks {s1 : Sys σ ω} (h : Stays resets n s1) := checkResendChunks_stays h
  mvcgen [onInbound, noteReceived, handle, chunks, -checkResendChunks_spec, disconnect_spec]
  all_goals clear handle chunks
  case vc1.h_1.isTrue.post.success s eq _ _ _ _ _ t dropped => exact ((eq ▸ h).dropped dropped).called
  case vc2.h_1.isFalse s eq _ _ _ _ => exact (eq ▸ h).called
  case vc3.h s eq _ msg _ seq _ =>
    subst eq
    exact ⟨h.valid, h.flag, h.number, h.stash⟩
  case vc4.calm s eq _ msg parsed seq _ =>
    subst eq
    exact (calm msg parsed).receiving rfl
  case vc8.h s eq _ msg _ _ _ => exact eq ▸ h
  case vc9.calm s eq _ msg parsed _ _ =>
    subst eq
    exact calm msg parsed
  case vc6.h_2.h_1.post.success.post.success left => exact left.called
  case vc11.h_2.h_2.post.success.post.success left => exact left.called
  case vc7.h_2.h_1.post.except.handle.post.success left _ _ dropped =>
    exact (left.dropped dropped).called
  case vc12.h_2.h_2.post.except.handle.post.success left _ _ dropped =>
    exact (left.dropped dropped).called

/-- A frame without a Logon does not move the next target number before a Logon was accepted, unless it
holds a message that may move it; but for the reset when the connection is lost. -/
theorem onInbound_unauthenticated (raw : Bytes) (s : Sys σ ω)
    (valid : LawfulStore.Valid s.session.store) (stash : s.session.stash[s.nextTarget]? = none)
    (received : s.session.receivedLogon = false) (sent : s.session.sentLogon = false)
    (calm : ∀ msg, Message.parse raw s.session.cfg.validateLengthChecksum = .ok msg →
      msg.msgType ≠ .ok MsgType.logon ∧ ¬ MayMove s msg) :
    (s.after (onInbound raw)).nextTarget = s.nextTarget ∨
      s.session.cfg.resetOnDisconnect = true ∧ (s.after (onInbound raw)).nextTarget = 1 := by
  have start : Stays s.session.cfg.resetOnDisconnect s.nextTarget s :=
    ⟨valid, rfl, .inl rfl, stash⟩
  have calm (msg) (parsed : Message.parse raw _ = .ok msg) : Calm msg s :=
    ⟨received, sent, (calm msg parsed).1, (calm msg parsed).2⟩
  exact (onInbound_stays start calm s rfl).number

end Moving

/-- An acceptor whose peer has not logged on keeps its next target number, unless a Logon arrives. -/
def KeepsTarget (raw : Bytes) (s : Sys σ ω) : Prop :=
  s.session.isInitiator = false → s.session.receivedLogon = false → s.session.sentLogon = false →
    (∀ msg, Message.parse raw s.session.cfg.validateLengthChecksum = .ok msg →
      msg.msgType ≠ .ok MsgType.logon) →
    (s.after (onInbound raw)).nextTarget = s.nextTarget

/-- Whether a message that is no Logon moves the next target number of an acceptor whose peer has not
logged on. -/
def movedBefore (raw : Bytes) (s : Sys σ ω) : Bool :=
  match Message.parse raw s.session.cfg.validateLengthChecksum with
  | .ok msg => !s.session.isInitiator && !s.session.receivedLogon && !s.session.sentLogon &&
      decide (msg.msgTypeOrDefault ≠ MsgType.logon) &&
      decide ((s.after (onInbound raw)).nextTarget ≠ s.nextTarget)
  | .error _ => false

/-- A number that was moved was not kept. -/
lemma not_keepsTarget {raw} {s : Sys σ ω} (h : movedBefore raw s = true) : ¬ KeepsTarget raw s := by
  intro keeps
  unfold movedBefore at h
  split at h
  case h_1 msg parsed =>
    simp only [Bool.and_eq_true, Bool.not_eq_true', decide_eq_true_eq] at h
    obtain ⟨⟨⟨⟨acceptor, received⟩, sent⟩, type⟩, moved⟩ := h
    refine moved (keeps acceptor received sent fun msg' parsed' logon => type ?_)
    cases parsed.symm.trans parsed'
    exact Message.msgTypeOrDefault_of_ok logon
  case h_2 => cases h

end Peer

namespace Script

/-- An acceptor with a connection. -/
def attached : Sys MemoryStore Script :=
  (Sys.init acceptor none none { creationTime := 0 } 0 {}).updated (Session.attached 0 0)

/-- A Reject of the peer. -/
def earlyReject (seq : Nat) : Bytes := (fromPeer MsgType.reject seq).toBytes

/-- A SequenceReset of the peer. -/
def earlyReset : Bytes := ((fromPeer MsgType.sequenceReset 7).set Tags.newSeqNo (9 : Nat)).toBytes

/-- A Heartbeat of another version. -/
def otherVersion : Bytes :=
  ((fromPeer MsgType.heartbeat 7).setHeader Tags.beginString (ascii "FIX.4.2")).toBytes

/-- A Reject that is read back has its type, version and number. -/
lemma parse_earlyReject {msg} (parsed : Message.parse (earlyReject 2) true = .ok msg) :
    msg.msgType.toOption = some MsgType.reject ∧ msg.seqNum.toOption = some 2 ∧
      msg.header.getRaw Tags.beginString = some localId.beginString := by
  have read : (Message.parse (earlyReject 2) true).toOption.map
      (fun m => (m.msgType.toOption, m.seqNum.toOption, m.header.getRaw Tags.beginString)) =
      some (some MsgType.reject, some 2, some localId.beginString) := by decide +kernel
  simpa [parsed, Except.toOption] using read

/-- A Reject that is out of sequence may not move the number. -/
lemma calm_earlyReject [Chrono] {msg} (parsed : Message.parse (earlyReject 2) true = .ok msg) :
    msg.msgType ≠ .ok MsgType.logon ∧ ¬ MayMove attached msg := by
  obtain ⟨type, number, version⟩ := parse_earlyReject parsed
  have type : msg.msgType = .ok MsgType.reject := by
    cases found : msg.msgType <;> simp_all [Except.toOption]
  have number : msg.seqNum = .ok 2 := by
    cases found : msg.seqNum <;> simp_all [Except.toOption]
  refine ⟨by rw [type]; decide, fun moves => ?_⟩
  cases moves with
  | version _ other => exact other version
  | refused invalid counts => exact absurd (number.symm.trans counts.2.2) (by decide)
  | reset type' => exact absurd (type.symm.trans type') (by decide)
  | reject _ number' => exact absurd (number.symm.trans number') (by decide)
  | loggedOut sent => cases sent

/-- A Reject that is out of sequence does not move the number. -/
theorem onInbound_unauthenticated_reject :
    letI := epochDay
    (attached.after (onInbound (earlyReject 2))).nextTarget = attached.nextTarget ∨
      attached.session.cfg.resetOnDisconnect = true ∧
        (attached.after (onInbound (earlyReject 2))).nextTarget = 1 :=
  @onInbound_unauthenticated MemoryStore Script epochDay _ _ _ _ (earlyReject 2) attached
    (MemoryStore.valid_empty 0) (by decide +kernel) rfl rfl
    fun _ => @calm_earlyReject epochDay _

/-- A peer that has not logged on moves the number with a SequenceReset, a Reject that is in sequence, or
any message of another version. -/
theorem not_keepsTarget_attached :
    letI := epochDay
    ¬ KeepsTarget earlyReset attached ∧ ¬ KeepsTarget (earlyReject 1) attached ∧
      ¬ KeepsTarget otherVersion attached :=
  letI := epochDay
  ⟨not_keepsTarget (by decide +kernel), not_keepsTarget (by decide +kernel),
    not_keepsTarget (by decide +kernel)⟩

end Script

end QuickFix
