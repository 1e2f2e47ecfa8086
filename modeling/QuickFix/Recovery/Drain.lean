import QuickFix.Recovery.Turns
import QuickFix.Session.Script
import QuickFix.Store.Mirror

/-!
# The stash runs dry

Between frames everything in the stash has a number above the next one: what came into sequence was
replayed when its turn came, and what a SequenceReset jumped over was dropped. Each part of handling a
frame takes it from one stage to the next, and every run of a session is between frames when it ends.
-/

namespace QuickFix

set_option mvcgen.warning false
set_option linter.unusedSectionVars false

open Std.Do Session Relation MessageStore

section Runs

variable {σ ω : Type} [Chrono] [MessageStore σ] [TargetStore σ] [Application ω] [Runtime ω]
variable {room : Option Nat} {s t : Sys σ ω}

attribute [local spec] logOut_untouched sendLogonReply_untouched answerResend_untouched

/-! ## The verify pipeline -/

/-- A message may not be stashed while `room` is bounded: it is in sequence, and no Logon. -/
def Fits (room : Option Nat) (msg : Message) (s : Sys σ ω) : Prop :=
  ∀ b ∈ room, msg.seqNum = .ok s.nextTarget ∧ msg.msgTypeOrDefault ≠ MsgType.logon

/-- The message was parsed. -/
def Message.Parsed (msg : Message) : Prop := ∃ raw strict, Message.parse raw strict = .ok msg

/-- A message is stashed that is too high. -/
lemma Phase.stashing {msg seq recovery} (h : Phase none .ready s) (parsed : msg.Parsed)
    (number : msg.seqNum = .ok seq) (high : s.nextTarget < seq) :
    Phase none .moved (s.stashing seq msg recovery) := by
  have entries {k : Nat} {raw} (entry : (s.session.stash.insert seq msg.toBytes)[k]? = some raw) :
      k = seq ∧ raw = msg.toBytes ∨ s.session.stash[k]? = some raw := by
    rw [SeqMap.get_insert] at entry
    split at entry
    case isTrue same => exact .inl ⟨same.symm, (Option.some.inj entry).symm⟩
    case isFalse => exact .inr entry
  refine h.next And.right (fun c mem ev => ?_) (by simp) (fun k raw entry => ?_) fun _ now => ?_
  · obtain rfl | mem := List.mem_cons.mp mem
    · cases ev
    · exact mem
  · obtain ⟨rfl, rfl⟩ | old := entries entry
    · obtain ⟨raw, strict, read⟩ := parsed
      exact filed_of_parse read number
    · exact h.filed k raw old
  · have above (k : Nat) (raw) (entry : (s.stashing seq msg recovery).session.stash[k]? = some raw) :
        s.nextTarget < k := by
      obtain ⟨rfl, -⟩ | old := entries entry
      · exact high
      · exact stashedAbove_iff.mp now.1 k raw old
    exact ⟨fun k raw entry => (above k raw entry).le, .inr (stashedAbove_iff.mpr above)⟩

/-- A message above the next number fits only where there is room for any. -/
lemma Fits.unbounded {msg seq} (fits : Fits room msg s) (number : msg.seqNum = .ok seq) (high : s.nextTarget < seq) :
    room = none := by
  cases room with
  | none => rfl
  | some b =>
    obtain ⟨own, -⟩ := fits b rfl
    rw [number] at own
    cases own
    exact absurd high (lt_irrefl _)

/-- Checking SendingTime reads a clock, or refuses the message. -/
@[local spec]
lemma verifySendingTime_phase {msg} {s0 : Sys σ ω} (h : Phase room .ready s0) (fits : Fits room msg s0) :
    ⦃fun s => ⌜s = s0⌝⦄ verifySendingTime msg
    ⦃⇓ r s => ⌜(r = .continue → Phase room .ready s ∧ Fits room msg s) ∧
      (r = .stop → Phase room .moved s)⌝⦄ := by
  mvcgen [verifySendingTime, utcNow]
  all_goals subst_vars
  case vc1.h_1.isTrue.isTrue.post.success.post.success rejected _ _ sent =>
    exact ⟨by simp, (rejected.phase (h.clock _)).untouched sent⟩
  case vc2.h_1.isTrue.isFalse => exact ⟨⟨h.clock _, fits⟩, by simp⟩
  case vc3.h_1.isFalse => exact ⟨⟨h, fits⟩, by simp⟩
  case vc4.h_2.post.success rejected => exact ⟨by simp, rejected.phase h⟩

/-- Checking CompIDs does nothing, or refuses the message. -/
@[local spec]
lemma verifyCompIds_phase {msg} {s0 : Sys σ ω} (h : Phase room .ready s0) (fits : Fits room msg s0) :
    ⦃fun s => ⌜s = s0⌝⦄ verifyCompIds msg
    ⦃⇓ r s => ⌜(r = .continue → Phase room .ready s ∧ Fits room msg s) ∧
      (r = .stop → Phase room .moved s)⌝⦄ := by
  mvcgen [verifyCompIds]
  all_goals subst_vars
  case vc1.isTrue.post.success.post.success rejected _ _ sent =>
    exact ⟨by simp, (rejected.phase h).untouched sent⟩
  case vc2.isFalse => exact ⟨⟨h, fits⟩, by simp⟩

/-- A too-high message is stashed. -/
@[local spec]
lemma onTargetTooHigh_phase {msg seq} {s0 : Sys σ ω} (h : Phase room .ready s0) (parsed : msg.Parsed)
    (fits : Fits room msg s0) (number : msg.seqNum = .ok seq) (high : s0.nextTarget < seq) :
    ⦃fun s => ⌜s = s0⌝⦄ onTargetTooHigh msg seq s0.nextTarget
    ⦃post⟨fun _ s => ⌜Phase room .moved s⌝, fun _ s => ⌜Phase room .ending s⌝⟩⦄ := by
  obtain rfl := fits.unbounded number high
  have requesting (s : Sys σ ω) : Untouched s (s.requesting s0.nextTarget seq) :=
    (Untouched.refl s).called.called.updated
  mvcgen [onTargetTooHigh, stashMessage, sendResendRequest_spec]
  all_goals subst_vars
  case vc1.isTrue.post.success =>
    exact fun sent => (h.stashing parsed number high).untouched (Sends.untouched sent (requesting _))
  case vc2.isTrue.post.except.handle =>
    exact fun sent => (h.stashing parsed number high).ending.untouched (Sends.untouched sent (requesting _))
  case vc3.isFalse => exact h.stashing parsed number high

/-- A too-low message is dropped or refused, or ends the connection. -/
@[local spec]
lemma onTargetTooLow_phase {msg seq expected} {s0 : Sys σ ω} (h : Phase room .ready s0) :
    ⦃fun s => ⌜s = s0⌝⦄ onTargetTooLow msg seq expected
    ⦃post⟨fun r s => ⌜r = .stop ∧ Phase room .moved s⌝, fun _ s => ⌜Phase room .ending s⌝⟩⦄ := by
  mvcgen [onTargetTooLow]
  all_goals subst_vars
  case vc1.isTrue.post.success sent => exact h.moved.ending.untouched sent
  case vc2.isFalse.isTrue.h_1.h_1.isTrue.post.success.post.success rejected _ _ sent =>
    exact ⟨trivial, (rejected.phase h).untouched sent⟩
  case vc5.isFalse.isTrue.h_2.post.success rejected => exact ⟨trivial, rejected.phase h⟩
  all_goals exact ⟨trivial, h.moved⟩

/-- Checking the number does nothing, or deals with a message that is out of sequence. -/
@[local spec]
lemma verifySeqNum_phase {msg high low} {s0 : Sys σ ω} (h : Phase room .ready s0) (parsed : msg.Parsed)
    (fits : Fits room msg s0) :
    ⦃fun s => ⌜s = s0⌝⦄ verifySeqNum msg high low
    ⦃post⟨fun r s => ⌜(r = .continue → Phase room .ready s) ∧ (r = .stop → Phase room .moved s)⌝,
      fun _ s => ⌜Phase room .ending s⌝⟩⦄ := by
  mvcgen [verifySeqNum]
  all_goals subst_vars
  case vc1.isTrue.h_1.post.success rejected => exact ⟨by simp, rejected.phase h⟩
  case vc2.h | vc9.h => exact h
  case vc4.fits => exact fits
  case vc6.high high => exact high.2
  case vc7.isTrue.h_2.isTrue.post.success moved => exact ⟨by simp, moved⟩
  case vc10.isTrue.h_2.isFalse.isTrue.isFalse.post.success =>
    exact fun stop moved => ⟨by simp [stop], fun _ => moved⟩
  all_goals exact ⟨h, by simp⟩

/-- What follows when the application refuses a message. -/
@[local spec]
lemma refuse_phase {msg e} {s0 : Sys σ ω} (h : Phase room .ready s0) :
    ⦃fun s => ⌜s = s0⌝⦄ refuse msg e
    ⦃post⟨fun r s => ⌜r = .stop ∧ Phase room .moved s⌝, fun _ s => ⌜Phase room .ending s⌝⟩⦄ := by
  mvcgen [refuse, sendBusinessReject_spec]
  all_goals subst_vars
  case vc1.h_1.post.success.post.success sent => exact h.counted.ending.untouched sent
  case vc2.h_2.post.success rejected => exact ⟨trivial, rejected.phase h⟩
  all_goals
    rename_i sent
    exact ⟨trivial, h.counted.untouched (Sends.untouched sent (.refl _))⟩

/-- The callback lets the message pass, or the message is refused. -/
@[local spec]
lemma verifyCallback_phase {msg} {s0 : Sys σ ω} (h : Phase room .ready s0) :
    ⦃fun s => ⌜s = s0⌝⦄ verifyCallback msg
    ⦃post⟨fun r s => ⌜(r = .continue → Phase room .ready s) ∧ (r = .stop → Phase room .moved s)⌝,
      fun _ s => ⌜Phase room .ending s⌝⟩⦄ := by
  have heard (now) (w : ω) (r) (w' : ω) : Phase room .ready
      (({ s0 with world := w }.updated (heard now)).called (incoming msg r) w') := by
    apply h.untouched
    refine ((Untouched.refl s0).clock w).updated.called ?_
    unfold incoming
    split <;> simp
  mvcgen [verifyCallback, instantNow, incomingCallback_spec]
  all_goals subst_vars
  case vc1.post.success.h_1 called =>
    obtain ⟨w, -, rfl⟩ := called
    exact ⟨heard _ _ _ w, by simp⟩
  case vc2.post.success.h_2.post.success => exact fun stop moved => ⟨by simp [stop], fun _ => moved⟩
  case vc3 =>
    intro s called
    obtain ⟨w, -, rfl⟩ := called
    exact heard _ _ _ w

/-- A message that passes leaves the stash alone, and was not counted. -/
lemma verify_phase {msg} (high low) {s0 : Sys σ ω} (h : Phase room .ready s0) (parsed : msg.Parsed)
    (fits : Fits room msg s0) :
    ⦃fun s => ⌜s = s0⌝⦄ verify msg high low
    ⦃post⟨fun r s => ⌜(r = .continue → Phase room .ready s) ∧ (r = .stop → Phase room .moved s)⌝,
      fun _ s => ⌜Phase room .ending s⌝⟩⦄ := by
  mvcgen [verify]
  all_goals subst_vars
  case vc1.isTrue => exact h.moved.ending
  case vc3.h => exact h
  case vc4.fits => exact fits
  case vc5.isFalse.post.success.h_1 stop => exact ⟨by simp, stop.2⟩
  case vc7.h first => exact first.1.1
  case vc8.fits first => exact first.1.2
  case vc9.isFalse.post.success.h_2.post.success.h_1 stop => exact ⟨by simp, stop.2⟩
  case vc10.h second => exact second.1.1
  case vc12.fits second => exact second.1.2
  case vc14 => exact fun _ ready _ => ready

/-! ## Handlers -/

/-- Counting moves the number. -/
@[local spec]
lemma incrTarget_phase {s0 : Sys σ ω} (h : Phase room .ready s0) :
    ⦃fun s => ⌜s = s0⌝⦄ (incrTarget : ExceptT Disconnect (SessionM σ ω) Unit)
    ⦃post⟨fun _ s => ⌜Phase room .moved s⌝, fun _ s => ⌜Phase room .ending s⌝⟩⦄ := by
  mvcgen [incrTarget, Session.incrNextTargetSeqNum, storeOp]
  all_goals subst_vars
  case vc1.h_1 => exact h.counted
  case vc2.h_2 => exact h.counted.ending

variable {msg : Message} {s0 : Sys σ ω}

/-- Heartbeat and Reject, and application messages. -/
@[local spec]
lemma handlePlainAdmin_phase (h : Phase room .ready s0) (parsed : msg.Parsed) (fits : Fits room msg s0) :
    ⦃fun s => ⌜s = s0⌝⦄ handlePlainAdmin msg
    ⦃post⟨fun _ s => ⌜Phase room .moved s⌝, fun _ s => ⌜Phase room .ending s⌝⟩⦄ := by
  have check := fun high low => verify_phase high low h parsed fits
  mvcgen [handlePlainAdmin, check]
  case vc2.post.success.h_1 stop => exact stop.2
  case vc3 => exact fun _ ready _ => ready

/-- An application message moves the number, or leaves the stash drained. -/
@[local spec]
lemma handleAppMessage_phase (h : Phase room .ready s0) (parsed : msg.Parsed) (fits : Fits room msg s0) :
    ⦃fun s => ⌜s = s0⌝⦄ handleAppMessage msg
    ⦃post⟨fun _ s => ⌜Phase room .moved s⌝, fun _ s => ⌜Phase room .ending s⌝⟩⦄ :=
  handlePlainAdmin_phase h parsed fits

/-- So does a TestRequest. -/
@[local spec]
lemma handleTestRequest_phase (h : Phase room .ready s0) (parsed : msg.Parsed) (fits : Fits room msg s0) :
    ⦃fun s => ⌜s = s0⌝⦄ handleTestRequest msg
    ⦃post⟨fun _ s => ⌜Phase room .moved s⌝, fun _ s => ⌜Phase room .ending s⌝⟩⦄ := by
  have check := fun high low => verify_phase high low h parsed fits
  mvcgen [handleTestRequest, check]
  case vc2.post.success.h_1 stop => exact stop.2
  all_goals
    rename_i ready
    exact fun _ sent => ready.1.untouched (Sends.untouched sent (.refl _))

/-- So does a ResendRequest. -/
@[local spec]
lemma handleResendRequest_phase (h : Phase room .ready s0) (parsed : msg.Parsed) (fits : Fits room msg s0) :
    ⦃fun s => ⌜s = s0⌝⦄ handleResendRequest msg
    ⦃post⟨fun _ s => ⌜Phase room .moved s⌝, fun _ s => ⌜Phase room .ending s⌝⟩⦄ := by
  have check := fun high low => verify_phase high low h parsed fits
  mvcgen [handleResendRequest, check]
  case vc2.post.success.h_1 stop => exact stop.2
  case vc3.h sent _ ready => exact ready.1.called.untouched sent
  case vc4.post.success.h_2.post.success.isFalse sent _ ready => exact (ready.1.called.untouched sent).moved

/-- A SequenceReset drops what it jumps over. -/
lemma Phase.superseding {e} {st : σ} {n} (h : Phase room .ready s) (other : e ≠ .done)
    (target : nextTargetSeqNum st = s.nextTarget ∨ nextTargetSeqNum st = n) :
    Phase room .moved ((s.stored e st).updated (Session.superseding n)) := by
  refine h.next And.right (fun c mem ev => ?_) (fun b mem => ?_) (fun k raw entry => ?_) fun _ now => ?_
  · obtain rfl | mem := List.mem_cons.mp mem
    · exact absurd ev other
    · exact mem
  · exact Std.ExtTreeMap.size_filter_le_size.trans (h.room b mem)
  · exact h.filed k raw (getElem?_superseding.mp entry).1
  · refine ⟨fun k raw entry => ?_, ?_⟩
    · obtain ⟨old, le⟩ := getElem?_superseding.mp entry
      show nextTargetSeqNum st ≤ k
      rcases target with same | moved
      · exact same ▸ (stashedAbove_iff.mp now.1 k raw old).le
      · exact moved ▸ le
    · refine now.2.imp_right fun none => Session.drained_empty ?_
      apply SeqMap.eq_empty
      intro k
      show (s.session.stash.filter fun k _ => decide (n ≤ k))[k]? = _
      rw [SeqMap.get_filter, none]
      simp

/-- Before the message was counted the connection may be given up whatever the store does. -/
lemma Phase.broken {e} {st : σ} (h : Phase room .ready s) (other : e ≠ .done) :
    Phase room .ending (s.stored e st) := by
  refine h.next And.right (fun c mem ev => ?_) h.room h.filed fun _ now => ?_
  · obtain rfl | mem := List.mem_cons.mp mem
    · exact absurd ev other
    · exact mem
  · exact now.2.imp_right Session.drained_empty

/-- So does a SequenceReset. -/
@[local spec]
lemma handleSequenceReset_phase (h : Phase room .ready s0) (parsed : msg.Parsed) (fits : Fits room msg s0) :
    ⦃fun s => ⌜s = s0⌝⦄ handleSequenceReset msg
    ⦃post⟨fun _ s => ⌜Phase room .moved s⌝, fun _ s => ⌜Phase room .ending s⌝⟩⦄ := by
  have check := fun high low => verify_phase high low h parsed fits
  mvcgen [handleSequenceReset, check, Session.setNextTargetSeqNum, storeOp]
  case vc2.post.success.h_1 stop => exact stop.2
  case vc4.post.success.h_2.h_2.isTrue.h_1 ready =>
    exact ready.1.superseding (by simp) (TargetStore.setTarget _ _)
  case vc5.post.success.h_2.h_2.isTrue.h_2 ready => exact ready.1.broken (by simp)
  case vc6.post.success.h_2.h_2.isFalse.isTrue.post.success ready =>
    exact fun rejected => rejected.phase ready.1
  all_goals
    rename_i ready
    exact ready.1.moved

/-- A Logout ends the connection. -/
@[local spec]
lemma handleLogout_phase (h : Phase room .ready s0) (parsed : msg.Parsed) (fits : Fits room msg s0) :
    ⦃fun s => ⌜s = s0⌝⦄ handleLogout msg
    ⦃post⟨fun _ s => ⌜Phase room .moved s⌝, fun _ s => ⌜Phase room .ending s⌝⟩⦄ := by
  have check := fun high low => verify_phase high low h parsed fits
  mvcgen [handleLogout, check]
  case vc2.post.success.h_1 stop => exact stop.2
  case vc3.h sent ready => exact ready.1.untouched sent
  case vc6.h ready => exact ready.1
  case vc4.post.success.h_2.isTrue.post.success.post.success.isTrue counted _ =>
    exact (counted.ending.clock _).reloaded rfl
  case vc7.post.success.h_2.isFalse.post.success.isTrue counted _ =>
    exact (counted.ending.clock _).reloaded rfl
  all_goals
    rename_i counted _
    exact counted.ending

/-! ## Logon -/

/-- The reset the peer asks for. -/
@[local spec]
lemma peerReset_phase (h : Phase room .ready s0) :
    ⦃fun s => ⌜s = s0⌝⦄ peerReset msg
    ⦃post⟨fun _ s => ⌜Phase room .ready s⌝, fun _ s => ⌜Phase room .ending s⌝⟩⦄ := by
  have noted : Phase room .ready (s0.updated receivingReset) := h.untouched (Untouched.refl s0).updated
  mvcgen [peerReset, storeReset, utcNow, storeOp]
  all_goals subst_vars
  case vc1.isTrue.isTrue.h_1 => exact (noted.clock _).reloaded rfl
  case vc2.isTrue.isTrue.h_2 => exact ((noted.clock _).reloaded rfl).moved.ending
  case vc3.isTrue.isFalse => exact noted
  case vc4.isFalse => exact h

/-- The reload and the reset of an acceptor. -/
@[local spec]
lemma acceptorResets_phase (h : Phase room .ready s0) :
    ⦃fun s => ⌜s = s0⌝⦄ acceptorResets ⦃⇓ _ s => ⌜Phase room .ready s⌝⦄ := by
  mvcgen [acceptorResets, storeRefresh, utcNow, storeOp]
  all_goals subst_vars
  case vc1.isTrue.h_1.isTrue | vc3.isTrue.h_2.isTrue =>
    exact (((h.clock _).reloaded rfl).clock _).reloaded rfl
  case vc6.isFalse.isFalse => exact h
  all_goals exact (h.clock _).reloaded rfl

/-- Resets before a Logon is verified leave the session ready. -/
@[local spec]
lemma logonResets_phase (h : Phase room .ready s0) :
    ⦃fun s => ⌜s = s0⌝⦄ logonResets msg
    ⦃post⟨fun _ s => ⌜Phase room .ready s⌝, fun _ s => ⌜Phase room .ending s⌝⟩⦄ := by
  mvcgen [logonResets]
  case vc1.h => exact ‹_ = s0› ▸ h
  case vc2.post.success.isTrue ready _ => exact ready.moved.ending

/-- Counting a Logon, or stashing it. -/
@[local spec]
lemma countLogon_phase (h : Phase none .ready s0) (parsed : msg.Parsed) :
    ⦃fun s => ⌜s = s0⌝⦄ countLogon msg
    ⦃post⟨fun _ s => ⌜Phase none .moved s⌝, fun _ s => ⌜Phase none .ending s⌝⟩⦄ := by
  mvcgen [countLogon, stashMessage, expect]
  all_goals subst_vars
  case vc1.h_1 => exact h.moved.ending
  case vc2.h_2.isTrue.isTrue number _ _ high _ =>
    apply (h.stashing parsed number high).untouched
    exact (Untouched.refl _).called.called.updated
  case vc5.fits => simp [Fits]
  all_goals exact h

/-- What follows once a Logon has passed. -/
@[local spec]
lemma answerLogon_phase (h : Phase room .ready s0) :
    ⦃fun s => ⌜s = s0⌝⦄ answerLogon msg
    ⦃post⟨fun _ s => ⌜Phase room .ready s⌝, fun _ s => ⌜Phase room .ending s⌝⟩⦄ := by
  mvcgen [answerLogon]
  all_goals subst_vars
  case vc1.isTrue.post.success sent => exact h.untouched sent.updated
  case vc2.isTrue.post.except.handle => exact fun sent => h.moved.ending.untouched sent
  case vc3.isFalse => exact h.untouched (Untouched.refl _).updated

/-- Sending messages again leaves the session ready. -/
@[local spec]
lemma retransmitFrom_phase (h : Phase room .ready s0) :
    ⦃fun s => ⌜s = s0⌝⦄ retransmitFrom msg
    ⦃post⟨fun _ s => ⌜Phase room .ready s⌝, fun _ s => ⌜Phase room .ending s⌝⟩⦄ := by
  mvcgen [retransmitFrom]
  all_goals subst_vars
  case vc2.isTrue.h_2.isTrue.post.success sent => exact h.moved.ending.untouched sent
  all_goals exact h

/-- The end of a logon sends and tells the application. -/
@[local spec]
lemma completeLogon_untouched {from'} {s0 : Sys σ ω} :
    ⦃fun s => ⌜s = s0⌝⦄ completeLogon from' ⦃⇓ _ s => ⌜Untouched s0 s⌝⦄ := by
  generalize goal : Untouched s0 = R
  mvcgen [completeLogon]
  all_goals subst goal
  all_goals subst_vars
  case vc1.isTrue.h_1.post.success => exact ((Untouched.refl _).called.called).trans
  case vc2.isTrue.h_2 => exact (Untouched.refl _).called
  case vc3.isFalse.h_1.post.success => exact (Untouched.refl _).called.trans
  case vc4.isFalse.h_2 => exact .refl _

/-- Accepting a Logon moves the number. -/
@[local spec]
lemma acceptLogon_phase (h : Phase none .ready s0) (parsed : msg.Parsed) :
    ⦃fun s => ⌜s = s0⌝⦄ acceptLogon msg
    ⦃post⟨fun _ s => ⌜Phase none .moved s⌝, fun _ s => ⌜Phase none .ending s⌝⟩⦄ := by
  mvcgen [acceptLogon]
  all_goals subst_vars
  case vc1.h => exact h.untouched (Untouched.refl _).updated
  case vc5.post.success.post.success.post.success.post.success counted _ _ =>
    exact fun calm => counted.untouched calm

/-- Checking the SendingTime of a Logon reads a clock. -/
@[local spec]
lemma logonTimeGood_phase (h : Phase room .ready s0) :
    ⦃fun s => ⌜s = s0⌝⦄ logonTimeGood msg ⦃⇓ _ s => ⌜Phase room .ready s⌝⦄ := by
  mvcgen [logonTimeGood, utcNow]
  all_goals subst_vars
  case vc1.isTrue.h_1 => exact h.clock _
  all_goals exact h

/-- A Logon moves the number. -/
@[local spec]
lemma handleLogon_phase (h : Phase none .ready s0) (parsed : msg.Parsed) :
    ⦃fun s => ⌜s = s0⌝⦄ handleLogon msg
    ⦃post⟨fun _ s => ⌜Phase none .moved s⌝, fun _ s => ⌜Phase none .ending s⌝⟩⦄ := by
  have check {s : Sys σ ω} (h : Phase none .ready s) := verify_phase false true h parsed (by simp [Fits])
  mvcgen [handleLogon, check]
  all_goals subst_vars
  case vc2.h => assumption
  case vc5.post.success.isTrue.post.success.post.success.h_1 stop => exact stop.2
  case vc6 => exact fun _ ready _ => ready
  case vc7 => exact fun _ _ _ => parsed
  case vc8.post.success.isFalse ready => exact ready.moved.ending

/-! ## Processing -/

/-- A Logon is not replayed. -/
lemma Fits.unbounded_of_logon (fits : Fits room msg s) (logon : msg.msgType = .ok MsgType.logon) :
    room = none := by
  cases room with
  | none => rfl
  | some b =>
    obtain ⟨-, other⟩ := fits b rfl
    rw [Message.msgTypeOrDefault, logon] at other
    exact absurd rfl other

/-- Every message moves the number, or leaves the stash drained. -/
@[local spec]
lemma process_phase (h : Phase room .ready s0) (parsed : msg.Parsed) (fits : Fits room msg s0) :
    ⦃fun s => ⌜s = s0⌝⦄ process msg
    ⦃post⟨fun _ s => ⌜Phase room .moved s⌝, fun _ s => ⌜Phase room .ending s⌝⟩⦄ := by
  mvcgen [process, dispatch]
  all_goals subst_vars
  case vc1.h_1 => exact h.moved
  case vc2.h_2.isTrue.post.success.post.success sent => exact h.counted.ending.untouched sent
  case vc3.h_2.isFalse.h_1.post.success => exact fun rejected => rejected.phase h
  case vc4.h logon => exact fits.unbounded_of_logon logon ▸ h
  case vc6.h_2.isFalse.h_2.isTrue.post.success logon =>
    exact fun moved => fits.unbounded_of_logon logon ▸ moved
  case vc7.h_2.isFalse.h_2.isTrue.post.except.handle logon =>
    exact fun ending => fits.unbounded_of_logon logon ▸ ending
  case vc10 | vc13 | vc16 | vc19 | vc22 | vc25 => exact fits
  all_goals exact h

/-! ## Replaying -/

/-- Nothing is left in the stash that is due. -/
lemma Phase.dry (h : Phase room .moved s) (last : s.session.stash[s.nextTarget]? = none) :
    Phase none .resting s := by
  refine h.free.imp fun now => stashedAbove_iff.mpr fun k raw entry => ?_
  refine lt_of_le_of_ne (now.1 k raw entry) fun same => ?_
  have same : s.nextTarget = k := same
  rw [same, entry] at last
  cases last

/-- The entry that is due is taken out of the stash. -/
lemma Phase.unstashed {raw} (h : Phase room .moved s) (entry : s.session.stash[s.nextTarget]? = some raw) :
    Phase (some (s.session.stash.size - 1)) .ready
      ((s.called (.unstash s.nextTarget raw) s.world).updated (unstashing s.nextTarget)) := by
  have erased {k : Nat} {raw} (entry : (s.session.stash.erase s.nextTarget)[k]? = some raw) :
      s.nextTarget ≠ k ∧ s.session.stash[k]? = some raw := by
    rw [Std.ExtTreeMap.getElem?_erase] at entry
    split at entry
    case isTrue => cases entry
    case isFalse other => exact ⟨by simpa using other, entry⟩
  refine h.next And.right (fun c mem ev => ?_) (fun b mem => ?_) (fun k raw entry => ?_) fun _ now => ?_
  · obtain rfl | mem := List.mem_cons.mp mem
    · cases ev
    · exact mem
  · cases mem
    show (s.session.stash.erase s.nextTarget).size ≤ _
    rw [Std.ExtTreeMap.size_erase, if_pos]
    rw [Std.ExtTreeMap.contains_eq_isSome_getElem?, entry, Option.isSome_some]
  · exact h.filed k raw (erased entry).2
  · refine ⟨stashedAbove_iff.mpr fun k raw entry => ?_, .inl (now.2.resolve_right fun drained => ?_)⟩
    · obtain ⟨other, old⟩ := erased entry
      exact lt_of_le_of_ne (now.1 k raw old) other
    · exact lt_irrefl _ (stashedAbove_iff.mp drained _ raw entry)

/-- An entry that is due is counted. -/
lemma skipped_phase {raw} (h : Phase room .moved s) (entry : s.session.stash[s.nextTarget]? = some raw) :
    ⦃fun t => ⌜t = (s.called (.unstash s.nextTarget raw) s.world).updated (unstashing s.nextTarget)⌝⦄
    (incrTarget : ExceptT Disconnect (SessionM σ ω) Unit)
    ⦃post⟨fun _ t => ⌜Phase (some (s.session.stash.size - 1)) .moved t⌝,
      fun _ t => ⌜Phase (some (s.session.stash.size - 1)) .ending t⌝⟩⦄ :=
  incrTarget_phase (h.unstashed entry)

/-- An entry that is due is replayed. -/
lemma replayed_phase {raw} (h : Phase room .moved s) (entry : s.session.stash[s.nextTarget]? = some raw)
    (read : Message.parse raw false = .ok msg)
    (kept : ¬(containsField raw (ascii "35=A") || containsField raw (ascii "35=2")) = true) :
    ⦃fun t => ⌜t = ((s.called (.unstash s.nextTarget raw) s.world).updated
      (unstashing s.nextTarget)).called (.process .stash msg) s.world⌝⦄ process msg
    ⦃post⟨fun _ t => ⌜Phase (some (s.session.stash.size - 1)) .moved t⌝,
      fun _ t => ⌜Phase (some (s.session.stash.size - 1)) .ending t⌝⟩⦄ := by
  apply process_phase (h.unstashed entry).called ⟨raw, false, read⟩
  intro b _
  have filed : Filed s.nextTarget raw := h.filed _ raw entry
  obtain ⟨logon, -⟩ := Bool.or_eq_false_iff.mp ((Bool.not_eq_true _).mp kept)
  exact ⟨filed.seqNum read, filed.msgType read logon (by decide)⟩

/-- Replaying the entry that is due, if there is one. -/
@[local spec]
lemma drainOne_phase (h : Phase none .moved s0) :
    ⦃fun s => ⌜s = s0⌝⦄ drainOne
    ⦃post⟨fun more s => ⌜if more then Phase none .moved s ∧ s.session.stash.size < s0.session.stash.size
      else Phase none .resting s⌝, fun _ s => ⌜Phase none .ending s⌝⟩⦄ := by
  have skip {raw} (entry : s0.session.stash[s0.nextTarget]? = some raw) := skipped_phase h entry
  have replay {raw msg} (entry : s0.session.stash[s0.nextTarget]? = some raw)
    (read : Message.parse raw false = .ok msg) := replayed_phase h entry read
  have fewer {raw} {s : Sys σ ω} (entry : s0.session.stash[s0.nextTarget]? = some raw)
      (moved : Phase (some (s0.session.stash.size - 1)) .moved s) :
      Phase none .moved s ∧ s.session.stash.size < s0.session.stash.size := by
    refine ⟨moved.free, (moved.room _ rfl).trans_lt (Nat.sub_one_lt fun zero => ?_)⟩
    rw [Std.ExtTreeMap.eq_empty_iff_size_eq_zero.mpr zero] at entry
    simp at entry
  mvcgen [drainOne, -incrTarget_phase, -process_phase, skip, replay]
  all_goals clear skip replay
  all_goals subst_vars
  case vc1.h_1 last => exact h.dry last
  case vc3 | vc8 | vc15 => assumption
  case vc4 | vc11 | vc16 => rfl
  case vc5.h_2.isTrue.post.success entry _ _ _ _ moved => exact fewer entry moved
  case vc12.h_2.isFalse.h_1.post.success entry _ _ _ _ _ _ moved => exact fewer entry moved
  case vc17.h_2.isFalse.h_2.post.success entry _ _ _ _ _ _ moved => exact fewer entry moved
  all_goals exact Phase.free

/-- Replaying ends with nothing in the stash that is due. -/
@[local spec]
lemma drainLoop_phase {fuel} (h : Phase none .moved s0) (enough : s0.session.stash.size < fuel) :
    ⦃fun s => ⌜s = s0⌝⦄ drainLoop fuel
    ⦃post⟨fun _ s => ⌜Phase none .resting s⌝, fun _ s => ⌜Phase none .ending s⌝⟩⦄ := by
  induction fuel generalizing s0 with
  | zero => exact absurd enough (Nat.not_lt_zero _)
  | succ fuel ih =>
    mvcgen [drainLoop, ih]
    all_goals subst_vars
    case vc1.h => exact h
    case vc2 =>
      intro s more
      exact more.1
    case vc3 =>
      intro s more
      exact Nat.lt_of_lt_of_le more.2 (Nat.lt_succ_iff.mp enough)
    case vc4.succ.post.success.isFalse last _ dry => rwa [if_neg last] at dry

/-! ## Frames -/

/-- Handling a frame on a connection. -/
@[local spec]
lemma handleInbound_phase (h : Phase none .resting s0) (parsed : msg.Parsed) (connected : s0.session.Connected) :
    ⦃fun s => ⌜s = s0⌝⦄ handleInbound msg
    ⦃post⟨fun _ s => ⌜Phase none .resting s⌝, fun _ s => ⌜Phase none .ending s⌝⟩⦄ := by
  have idle : Phase none .ready s0 := h.imp fun now => And.intro now (.inl connected)
  have ready : Phase none .ready (s0.called (.process .wire msg) s0.world) := idle.called
  have handle := process_phase ready parsed (by simp [Fits])
  mvcgen [handleInbound, drainStash, -process_phase, handle]
  all_goals subst_vars
  case vc1.pre => rfl
  case vc2.h moved => exact moved.untouched (Untouched.refl _).updated
  case vc3.enough => exact Nat.lt_succ_self _

/-- A connection that is given up leaves nothing in the stash. -/
lemma Phase.dropped (h : Phase none .ending s) (drop : Dropped s t) : Phase none .resting t := by
  cases drop with
  | idle outbound inbound =>
    refine h.imp fun now => now.resolve_left fun connected => ?_
    simp [Session.Connected, outbound, inbound] at connected
  | cut _ left =>
    refine (h.untouched left.untouched).imp fun _ => stashedAbove_iff.mpr fun k raw entry => ?_
    exact absurd entry left.stash

/-- A frame has been dealt with. -/
lemma Phase.over {w} (h : Phase none .resting s) : Phase none .resting (s.called .done w) where
  room := h.room
  filed := h.filed
  turn := fun spared => h.turn spared.2
  done := fun c mem ev => by
    obtain rfl | mem := List.mem_cons.mp mem
    · exact ⟨fun spared _ => h.turn spared.2, h.filed⟩
    · obtain ⟨drained, kept⟩ := h.done c mem ev
      exact ⟨fun spared => drained spared.2, kept⟩

/-- Asking for the next chunk leaves the stash alone. -/
@[local spec]
lemma checkResendChunks_untouched {s0 : Sys σ ω} :
    ⦃fun s => ⌜s = s0⌝⦄ checkResendChunks ⦃⇓ _ s => ⌜Untouched s0 s⌝⦄ := by
  generalize goal : Untouched s0 = R
  mvcgen [checkResendChunks, -checkResendChunks_spec, sendResendRequest_spec]
  all_goals subst goal
  all_goals subst_vars
  case vc1.h_1 | vc2.h_2.isTrue => exact .refl _
  case vc5.h_2.isFalse.isFalse => exact (Untouched.refl _).called.updated
  all_goals
    intro sent
    exact Sends.untouched sent (Untouched.refl _).called.called.called.updated

/-- Noting the number of a message. -/
@[local spec]
lemma noteReceived_phase (h : Phase none .resting s0) (connected : s0.session.Connected) :
    ⦃fun s => ⌜s = s0⌝⦄ noteReceived msg
    ⦃⇓ _ s => ⌜Phase none .resting s ∧ s.session.Connected⌝⦄ := by
  mvcgen [noteReceived]
  all_goals subst_vars
  case vc1.h_1 => exact ⟨h.untouched (Untouched.refl _).updated, connected⟩
  case vc2.h_2 => exact ⟨h, connected⟩

/-- Handling the bytes of a message on a connection. -/
@[local spec]
lemma onInbound_phase {raw} (h : Phase none .resting s0) (connected : s0.session.Connected) :
    ⦃fun s => ⌜s = s0⌝⦄ onInbound raw ⦃⇓ _ s => ⌜Phase none .resting s⌝⦄ := by
  mvcgen [onInbound, -checkResendChunks_spec, disconnect_spec]
  all_goals subst_vars
  case vc1.h_1.isTrue.post.success drop => exact (h.untouched (drop.untouched (.refl _))).over
  case vc2.h_1.isFalse => exact h.over
  case vc3.h => exact h
  case vc4.connected => exact connected
  case vc5.h noted => exact noted.1
  case vc6.parsed read _ _ _ => exact ⟨_, _, read⟩
  case vc7.connected noted => exact noted.2
  case vc8.h_2.post.success.post.success.post.success dry _ _ calm => exact (dry.untouched calm).over
  case vc9.h_2.post.success.post.except.handle.post.success ending _ _ drop =>
    exact (ending.dropped drop).over

/-! ## Timers and commands -/

/-- Dropping the connection between frames. -/
lemma Phase.left (h : Phase none .resting s) (drop : Dropped s t) : Phase none .resting t :=
  h.untouched (drop.untouched (.refl s))

/-- Sending between frames. -/
lemma Phase.sent (h : Phase none .resting s) (sent : Sends s t) : Phase none .resting t :=
  h.untouched (sent.untouched (.refl s))

/-- A change that leaves the stash and the store. -/
lemma Phase.changed {f : Session σ → Session σ} (h : Phase none .resting s)
    (store : (f s.session).store = s.session.store := by rfl)
    (stash : (f s.session).stash = s.session.stash := by rfl) : Phase none .resting (s.updated f) := by
  refine h.next (fun spared => ?_) (fun c mem _ => mem) (by simp) (fun k raw entry => ?_) fun _ now => ?_
  · rw [Sys.Spared] at spared ⊢
    exact store ▸ spared
  · exact h.filed k raw (stash ▸ entry)
  · refine stashedAbove_iff.mpr fun k raw entry => ?_
    rw [show (s.updated f).session.store = s.session.store from store]
    exact stashedAbove_iff.mp now k raw (stash ▸ entry)

/-- Logging on leaves the session resting. -/
@[local spec]
lemma logOn_phase (h : Phase none .resting s0) (connected : s0.session.outbound = true) :
    ⦃fun s => ⌜s = s0⌝⦄ logOn ⦃⇓ _ s => ⌜Phase none .resting s⌝⦄ := by
  have logon := sendLogon_spec connected
  mvcgen [logOn, logon, disconnect_spec]
  all_goals subst_vars
  case vc2.post.success sent => exact h.sent sent
  case vc3.post.except.handle.post.success sent => exact fun drop => (h.sent sent).left drop

/-- So does leaving. -/
@[local spec]
lemma leave_phase {x} (h : Phase none .resting s0) :
    ⦃fun s => ⌜s = s0⌝⦄ leave x ⦃⇓ _ s => ⌜Phase none .resting s⌝⦄ := by
  mvcgen [leave, disconnect_spec]
  all_goals subst_vars
  case vc1.isTrue.isTrue.post.success.post.success calm _ _ =>
    exact fun drop => (h.untouched calm).left drop
  case vc2.isTrue.isFalse.post.success => exact fun drop => h.left drop
  case vc3.isFalse => exact h

/-- So does a deadline of the protocol. -/
@[local spec]
lemma onProtocolDeadline_phase (h : Phase none .resting s0) :
    ⦃fun s => ⌜s = s0⌝⦄ onProtocolDeadline ⦃⇓ _ s => ⌜Phase none .resting s⌝⦄ := by
  mvcgen -trivial [onProtocolDeadline, instantNow, sendTestRequest, disconnect_spec]
  all_goals subst_vars
  case vc1.isTrue => exact h
  case vc2 | vc4 | vc8 => exact fun drop => (h.clock _).left drop
  case vc7 calm _ _ => exact fun drop => ((h.clock _).untouched calm).left drop
  case vc9 | vc10 => exact fun sent => Phase.sent ((h.clock _).changed) sent
  case vc11 | vc12 => exact fun sent => (h.clock _).sent sent
  all_goals exact h.clock _

/-- So does a look at the schedule. -/
@[local spec]
lemma onScheduleTick_phase (h : Phase none .resting s0) :
    ⦃fun s => ⌜s = s0⌝⦄ onScheduleTick ⦃⇓ _ s => ⌜Phase none .resting s⌝⦄ := by
  mvcgen [onScheduleTick, utcNow, storeReset, storeOp]
  all_goals subst_vars
  case vc1.isTrue => exact h
  case vc4 | vc5 =>
    rename_i left _ _
    exact Phase.reloaded (left.clock _) rfl
  case vc6.h calm _ => exact ((h.clock _).untouched calm).changed
  case vc8.isFalse.isFalse.isFalse.isTrue.post.success.isFalse calm _ => exact (h.clock _).untouched calm
  case vc7.connected due | vc10.connected due => simp_all [Session.isConnected, Sys.updated, deferring]
  case vc9.h => exact (h.clock _).changed
  all_goals exact h.clock _

/-- Taking a connection. -/
@[local spec]
lemma connect_phase (h : Phase none .resting s0) :
    ⦃fun s => ⌜s = s0⌝⦄ connect ⦃⇓ _ s => ⌜Phase none .resting s ∧ s.session.outbound = true⌝⦄ := by
  mvcgen [connect, instantNow]
  subst_vars
  exact ⟨Phase.changed (h.called.clock _), rfl⟩

/-- An initiator that resets keeps its connection and rests. -/
@[local spec]
lemma initiatorResets_phase (h : Phase none .resting s0) (connected : s0.session.outbound = true) :
    ⦃fun s => ⌜s = s0⌝⦄ initiatorResets ⦃⇓ _ s => ⌜Phase none .resting s ∧ s.session.outbound = true⌝⦄ := by
  have reloaded {s : Sys σ ω} {e} (w) (st : σ) (h : Phase none .resting s) (reloads : e.reloads = true) :
      Phase none .resting ({ s with world := w }.stored e st) := (h.clock w).reloaded reloads
  mvcgen [initiatorResets, storeReset, storeRefresh, utcNow, storeOp]
  all_goals
    subst_vars
    refine ⟨?_, connected⟩
  case vc9.isFalse.isFalse => exact h
  case vc3 | vc6 | vc7 | vc8 => exact reloaded _ _ h rfl
  all_goals exact reloaded _ _ (reloaded _ _ h rfl) rfl

/-- Logging on, or waiting for the schedule, leaves the session resting. -/
@[local spec]
lemma logOnOrDefer_phase (h : Phase none .resting s0) (connected : s0.session.outbound = true) :
    ⦃fun s => ⌜s = s0⌝⦄ logOnOrDefer ⦃⇓ _ s => ⌜Phase none .resting s⌝⦄ := by
  mvcgen [logOnOrDefer, utcNow]
  all_goals subst_vars
  case vc1.h => exact h.clock _
  case vc2.connected => exact connected
  case vc3.isFalse => exact Phase.changed (h.clock _)

/-- Attaching a connection leaves the session resting. -/
@[local spec]
lemma onAttach_phase (h : Phase none .resting s0) :
    ⦃fun s => ⌜s = s0⌝⦄ onAttach ⦃⇓ _ s => ⌜Phase none .resting s⌝⦄ := by
  mvcgen [onAttach]
  all_goals subst_vars
  case vc1.isTrue | vc2.h => exact h
  case vc3.h taken => exact taken.1
  case vc4.connected taken => exact taken.2
  case vc5 => exact fun _ h _ => h
  case vc6 => exact fun _ _ connected => connected
  case vc7.isFalse.post.success.isFalse taken => exact taken.1

/-- Waiting for a Logout leaves the session resting. -/
@[local spec]
lemma awaitLogout_phase {deadline frames} (h : Phase none .resting s0) :
    ⦃fun s => ⌜s = s0⌝⦄ awaitLogout deadline frames ⦃⇓ _ s => ⌜Phase none .resting s⌝⦄ := by
  induction frames generalizing s0 with
  | nil =>
    mvcgen [awaitLogout]
    exact ‹_ = s0› ▸ h
  | cons raw frames ih =>
    mvcgen [awaitLogout, instantNow, ih]
    all_goals subst_vars
    case vc2.connected waiting => exact .inl waiting.1
    case vc3 => exact fun _ h => h
    all_goals exact h.clock _

/-- Stopping leaves the session resting. -/
@[local spec]
lemma onStop_phase {frames} (h : Phase none .resting s0) :
    ⦃fun s => ⌜s = s0⌝⦄ onStop frames ⦃⇓ _ s => ⌜Phase none .resting s⌝⦄ := by
  mvcgen [onStop, instantNow, disconnect_spec]
  all_goals subst_vars
  case vc1.h calm => exact (h.untouched calm).clock _
  case vc2.isTrue.post.success.post.success.post.success => exact Phase.left ‹_›
  case vc3.isFalse.post.success => exact h.left

/-! ## Runs -/

/-- Whether an input sets the numbers. -/
def Input.setsNumbers : Input → Bool
  | .setSeqNums .. => true
  | _ => false

/-- Every step but setting the numbers leaves the session resting. -/
@[local spec]
lemma step_phase {input} (h : Phase none .resting s0) (other : input.setsNumbers = false) :
    ⦃fun s => ⌜s = s0⌝⦄ step input ⦃⇓ _ s => ⌜Phase none .resting s⌝⦄ := by
  mvcgen [step, onLogoutCommand, disconnect_spec]
  all_goals subst_vars
  case vc6.h_4 => simp [Input.setsNumbers] at other
  case vc10.connected attached => exact .inr attached
  case vc1 | vc2 => exact h.sent
  case vc8 | vc12 => exact h.left
  case vc4.h_3.isTrue.post.success => exact h.untouched
  all_goals exact h

/-- Every run of such steps does. -/
lemma run_phase {inputs} (h : Phase none .resting s0) (others : ∀ input ∈ inputs, input.setsNumbers = false) :
    ⦃fun s => ⌜s = s0⌝⦄ run inputs ⦃⇓ _ s => ⌜Phase none .resting s⌝⦄ := by
  induction inputs generalizing s0 with
  | nil =>
    mvcgen [run]
    exact ‹_ = s0› ▸ h
  | cons input inputs ih =>
    obtain ⟨other, others⟩ := List.forall_mem_cons.mp others
    mvcgen [run, ih]
    all_goals subst_vars
    case vc1.h => exact h
    case vc3 => exact fun _ h => h
    case vc4 => exact fun _ _ => others

/-- After every frame nothing is left in the stash of a connected session that is due or was jumped
over, what is there is under its number, and what was replayed was in sequence. -/
structure Drains (s : Sys σ ω) : Prop where
  drained : ∀ c ∈ s.trace, c.event = .done → c.session.isConnected = true →
    ∀ (k : Nat) raw, c.session.stash[k]? = some raw → c.nextTarget < k ∧
      ∀ msg, Message.parse raw false = .ok msg → msg.seqNum = .ok k
  replayed : ∀ c ∈ s.trace, ∀ msg, c.event = .process .stash msg → msg.seqNum = .ok c.nextTarget

variable {cfg : SessionConfig} {dictionary adminDictionary : Option DataDictionary} {store : σ}
variable {now : Nat} {world : ω} {inputs : List Input}

/-- In every run in which nobody sets the numbers and no reload strands a message, the stash runs
dry. -/
theorem stash_drains (commands : ∀ input ∈ inputs, input.setsNumbers = false)
    (spared : (Sys.ran cfg dictionary adminDictionary store now world inputs).Spared) :
    Drains (Sys.ran cfg dictionary adminDictionary store now world inputs) := by
  have start : Phase none .resting (Sys.init cfg dictionary adminDictionary store now world) := by
    refine ⟨by simp, fun k raw entry => ?_, fun _ => Session.drained_empty rfl, by simp [Sys.init]⟩
    simp [Sys.init, spawn] at entry
  have ended := run_phase start commands _ rfl
  refine ⟨fun c mem ev connected k raw entry => ?_, fun c mem msg ev => ?_⟩
  · obtain ⟨drained, filed⟩ := ended.done c mem ev
    refine ⟨stashedAbove_iff.mp (drained spared connected) k raw entry, fun msg parsed => ?_⟩
    exact (filed k raw entry).seqNum parsed
  · exact ((keeping_ran.taken c mem).replayed ev).1

end Runs

/-- The message 3 comes before the message 2. -/
def Script.swapped : List Input :=
  [.attach, .inbound (fromPeer MsgType.logon 1).toBytes, .inbound (fromPeer MsgType.heartbeat 3).toBytes,
    .inbound (fromPeer MsgType.heartbeat 2).toBytes]

/-- Two messages that were swapped are both counted. -/
theorem stash_drains_swapped : Drains (Script.play Script.acceptor {} Script.swapped) :=
  letI := epochDay
  stash_drains (by decide +kernel) (by decide +kernel)

example : (Script.play Script.acceptor {} Script.swapped).nextTarget = 4 := by decide +kernel

/-! ## A reload that fails -/

/-- A frame after which a connected session has a message in the stash that was jumped over. -/
def Call.strands {σ : Type} [MessageStore σ] (c : Call σ) : Bool :=
  (match c.event with
    | .done => true
    | _ => false) && c.session.isConnected && decide (∃ e ∈ c.session.stash.toList, e.1 ≤ c.nextTarget)

/-- A call that strands an entry breaks it. -/
lemma not_drains {σ ω : Type} [MessageStore σ] {s : Sys σ ω} (h : ∃ c ∈ s.trace, c.strands = true) :
    ¬ Drains s := by
  obtain ⟨c, mem, strands⟩ := h
  intro drains
  simp only [Call.strands, Bool.and_eq_true, decide_eq_true_iff] at strands
  obtain ⟨⟨done, connected⟩, e, entry, low⟩ := strands
  have ev : c.event = .done := by
    split at done
    case h_1 ev => exact ev
    case h_2 => cases done
  have entry : c.session.stash[e.1]? = some e.2 := Std.ExtTreeMap.mem_toList_iff_getElem?_eq_some.mp entry
  exact absurd (drains.drained c mem ev connected e.1 e.2 entry).1 (Nat.not_lt.mpr low)

/-- Files that say 5 and 5. The eighth call of the file system after the opening fails: it is the reading of
the numbers at a Logon. -/
def Script.countedFive : Files :=
  letI := epochText
  let files : Disk :=
    { seqnums := FileStore.seqnumsLine 5 5, session := some (ascii "1970-01-01T00:00:00+00:00") }
  { (FileStore.openWithSync false 0 { emptyFiles with disk := files }).2 with
    completions := List.replicate 7 .done ++ [.failed 0] }

/-- A message of the peer that was sent before. -/
def Script.again (m : Message) : Message :=
  (m.setHeader Tags.possDupFlag (ascii "Y")).setHeader Tags.origSendingTime (ascii "19700101-00:00:00.000")

/-- Messages around a Logon that is dropped, with a gap before each of the two Logons. -/
def Script.droppedLogon : List Input :=
  [.attach, .inbound (fromPeer MsgType.reject 7).toBytes,
    .inbound (again (fromPeer MsgType.logon 0)).toBytes, .inbound (fromPeer MsgType.reject 3).toBytes,
    .inbound (fromPeer MsgType.logon 5).toBytes]

/-- A reload that fails leaves the numbers at 1. The message 3 is stashed then, and the reload at the next
Logon jumps over it. -/
theorem not_drains_droppedLogon :
    letI := epochDay
    letI := epochText
    (∀ input ∈ Script.droppedLogon, input.setsNumbers = false) ∧
      ¬ Drains (Sys.ran { Script.acceptor with refreshOnLogon := true } none none Script.countedFive 0
        ({} : Script) Script.droppedLogon) :=
  letI := epochText
  ⟨by decide +kernel, not_drains (by decide +kernel)⟩

end QuickFix
