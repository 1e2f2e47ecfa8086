import QuickFix.Steps.Outbound

/-!
# The inbound half as runs of acts

The verify pipeline and the handlers as runs of `Act`. A message that passes `verify` leaves the
session as it was but for its callback (`Passed`), so each handler goes on from there.
-/

namespace QuickFix

set_option mvcgen.warning false
set_option linter.unusedSectionVars false

open Std.Do Session Relation

/-- A message of an administrative type is administrative. -/
lemma Message.isAdmin_of_type {mt : Bytes} (m : Message) (type : m.msgTypeOrDefault = mt)
    (admin : MsgType.isAdmin mt = true) : m.isAdmin = true := by
  unfold msgTypeOrDefault at type
  split at type
  case h_1 mt' ok =>
    unfold msgType FieldMap.get at ok
    split at ok
    case h_1 => simp at ok
    case h_2 raw found =>
      unfold decodeString at ok
      split at ok
      case isTrue =>
        simp only [Except.ok.injEq] at ok
        simp [isAdmin, found, ok, type, admin]
      case isFalse => simp at ok
  case h_2 =>
    subst type
    exact absurd admin (by decide)

/-- The chunk asked for ends in the range. -/
lemma requestEnd_le (cfg) (b e) : (requestEnd cfg b e).2 ≤ e := by
  unfold requestEnd
  split
  case h_1 => exact le_refl e
  case h_2 => exact Nat.min_le_left _ _

/-- The chunk asked for holds the number it begins at, when the limit can be added to that. -/
lemma le_requestEnd {cfg : SessionConfig} {b e} (le : b ≤ e)
    (room : cfg.maxMessagesInResendRequest = 0 ∨ b + cfg.maxMessagesInResendRequest < 2 ^ 64) :
    b ≤ (requestEnd cfg b e).2 := by
  unfold requestEnd
  split
  case h_1 => exact le
  case h_2 pos =>
    have pos : cfg.maxMessagesInResendRequest ≠ 0 := pos
    have room := room.resolve_left pos
    have exact' : limitEnd b cfg.maxMessagesInResendRequest = b + cfg.maxMessagesInResendRequest - 1 :=
      Nat.mod_eq_of_lt (by omega)
    refine Nat.le_min.mpr ⟨le, ?_⟩
    omega

variable {σ ω : Type} [Chrono] [MessageStore σ] [Application ω] [Runtime ω]

/-! ## Rejects -/

/-- Whether a Reject counts the message it refuses. -/
def CountsRejected (msg : Message) (s : Sys σ ω) : Prop :=
  msg.msgTypeOrDefault ≠ MsgType.logon ∧ msg.msgTypeOrDefault ≠ MsgType.sequenceReset ∧
    msg.seqNum = .ok s.nextTarget

/-- What rejecting a message leads to. -/
inductive Rejected (msg : Message) (s : Sys σ ω) : Sys σ ω → Prop
  | counted {t} : CountsRejected msg s → Sends s.counted t → Rejected msg s t
  | ignored {t} : ¬ CountsRejected msg s → Sends s t → Rejected msg s t

/-- A rejected message is counted when it is in sequence; the rest is sending. -/
lemma sendReject_spec {msg rej} {s0 : Sys σ ω} :
    ⦃fun s => ⌜s = s0⌝⦄ sendReject msg rej
    ⦃post⟨fun _ s => ⌜Rejected msg s0 s⌝, fun _ s => ⌜Rejected msg s0 s⌝⟩⦄ := by
  generalize goal : Rejected msg s0 = R
  mvcgen [sendReject, incrNextTargetSeqNum, storeOp]
  case vc3.isTrue.h_2 s eq mt _ counts _ _ => exact goal ▸ eq ▸ .counted counts .refl
  case vc1.isTrue.h_1.post.success s eq mt _ counts _ _ _ t =>
    exact fun sent => goal ▸ eq ▸ .counted counts sent
  case vc2.isTrue.h_1.post.except.handle s eq mt _ counts _ _ _ t =>
    exact fun sent => goal ▸ eq ▸ .counted counts sent
  case vc4.isFalse.post.success s eq mt _ skips _ t =>
    exact fun sent => goal ▸ eq ▸ .ignored skips sent
  case vc5.isFalse.post.except.handle s eq mt _ skips _ t =>
    exact fun sent => goal ▸ eq ▸ .ignored skips sent

/-- Rejecting a message, whether or not the Reject could be sent. -/
@[spec] lemma reject_spec {msg rej} {s0 : Sys σ ω} :
    ⦃fun s => ⌜s = s0⌝⦄ reject msg rej ⦃⇓ _ s => ⌜Rejected msg s0 s⌝⦄ := by
  generalize goal : Rejected msg s0 = R
  mvcgen [reject, sendReject_spec]
  all_goals
    rename_i s eq _ t
    exact fun rejected => goal ▸ eq ▸ rejected

/-- Rejecting the message that is handled is part of handling it. -/
lemma Rejected.deals {origin msg} {s t : Sys σ ω} (h : Rejected msg s t)
    (item : handled s.trace = some (.message origin msg)) : Deals s t := by
  cases h with
  | counted counts sent =>
    exact (ReflTransGen.single (.incrTarget (.inSequence item counts.2.2))).trans sent.deals
  | ignored _ sent => exact sent.deals

/-- A rejected message is still handled. -/
lemma Rejected.item {msg} {s t : Sys σ ω} (h : Rejected msg s t) :
    handled t.trace = handled s.trace := by
  cases h with
  | counted _ sent => exact sent.handled
  | ignored _ sent => exact sent.handled

/-- A logout may be started while a message is handled. -/
lemma MayLogOut.of_item {item} {s : Sys σ ω} (h : handled s.trace = some item) : MayLogOut s :=
  .inl (by simp [h])

/-- Starting a logout, whether or not the Logout could be sent. -/
lemma logOut_spec {reason} {s0 : Sys σ ω} (may : MayLogOut s0) :
    ⦃fun s => ⌜s = s0⌝⦄ logOut reason ⦃⇓ _ s => ⌜Sends s0 s⌝⦄ := by
  generalize goal : Sends s0 = R
  mvcgen [logOut, initiateLogout_spec]
  case vc1.may s eq => exact eq ▸ may
  all_goals
    rename_i s eq _ t
    exact fun sent => goal ▸ eq ▸ sent

/-- A message of an unsupported type is counted before it is answered. -/
lemma sendBusinessReject_spec {msg} {s0 : Sys σ ω} :
    ⦃fun s => ⌜s = s0⌝⦄ sendBusinessReject msg
    ⦃post⟨fun _ s => ⌜Sends s0.counted s⌝, fun _ s => ⌜Sends s0.counted s⌝⟩⦄ := by
  generalize goal : Sends s0.counted = R
  mvcgen [sendBusinessReject, incrNextTargetSeqNum, storeOp]
  case vc3.h_2 s eq _ _ => exact goal ▸ eq ▸ .refl
  all_goals
    rename_i s eq _ _ _ t
    exact fun sent => goal ▸ eq ▸ sent

/-! ## Resend requests -/

/-- The system once a ResendRequest is about to go out. -/
def Sys.requesting (b received : Nat) (s : Sys σ ω) : Sys σ ω :=
  (s.called (.compute [.request b received]) s.world).expecting b (received - 1)
    (requestEnd s.session.cfg b (received - 1)).2

/-- A resend range is recorded before the ResendRequest goes out. -/
lemma sendResendRequest_spec {b received} {s0 : Sys σ ω} :
    ⦃fun s => ⌜s = s0⌝⦄ sendResendRequest b received
    ⦃post⟨fun _ s => ⌜Sends (s0.requesting b received) s⌝,
      fun _ s => ⌜Sends (s0.requesting b received) s⌝⟩⦄ := by
  generalize goal : Sends (s0.requesting b received) = R
  mvcgen [sendResendRequest, expect]
  all_goals
    rename_i s eq _ _ t
    exact fun sent => goal ▸ eq ▸ sent

/-- Chunks are requested, or the range given up, while a frame is handled. What is outstanding after
that is still needed. -/
@[spec] lemma checkResendChunks_spec {s0 : Sys σ ω} :
    ⦃fun s => ⌜s = s0⌝⦄ checkResendChunks ⦃⇓ _ s => ⌜Deals s0 s ∧ Checked s⌝⦄ := by
  mvcgen [checkResendChunks, sendResendRequest_spec]
  case vc1.h_1 s eq range =>
    exact eq ▸ ⟨.refl, .needed fun b f c some => by simp [range] at some⟩
  case vc2.h_2.isTrue s eq b f c range nt le =>
    refine eq ▸ ⟨.refl, .needed fun b' f' c' some => ?_⟩
    obtain ⟨rfl, rfl, rfl⟩ : b = b' ∧ f = f' ∧ c = c' := by simpa [range] using some
    exact le
  case vc5.h_2.isFalse.isFalse s eq b f c range nt _ passed =>
    refine eq ▸ ⟨.single (.satisfied range (Nat.lt_of_not_le passed)), .needed fun b f c some => ?_⟩
    cases some
  all_goals
    rename_i s eq b f c range nt passed le _ t
    intro sent
    subst eq
    have first : Deals s (s.called (.compute [.nextChunk f]) s.world) :=
      .single (.send (.compute _ (.nextChunk range)))
    have computed := first.tail (.send (.compute _ (.request (Nat.lt_succ_of_le le))))
    have run := computed.tail (.nextChunk range (Nat.lt_of_not_le passed) (requestEnd_le _ _ _)
      (le_requestEnd le) ⟨_, rfl⟩ rfl)
    exact ⟨run.trans sent.deals, .recorded sent.stale⟩

/-! ## Verify pipeline -/

/-- Checking SendingTime reads a clock, or refuses the message. -/
lemma verifySendingTime_spec {origin msg} {s0 : Sys σ ω}
    (item : handled s0.trace = some (.message origin msg)) :
    ⦃fun s => ⌜s = s0⌝⦄ verifySendingTime msg
    ⦃⇓ r s => ⌜(r = .continue → ∃ w, Passes s0.world w ∧ s = { s0 with world := w }) ∧
      Deals s0 s⌝⦄ := by
  mvcgen [verifySendingTime, utcNow, logOut_spec]
  case vc1.may eq _ _ _ _ _ _ rejected => exact .of_item (rejected.item.trans (eq ▸ item))
  case vc2.h_1.isTrue.isTrue.post.success.post.success =>
    rename_i s eq _ _ _ _ _ s1 rejected _ s2 sent
    subst eq
    refine ⟨by simp, ?_⟩
    exact ((ReflTransGen.single (.send (.clock _))).trans (rejected.deals item)).trans sent.deals
  case vc3.h_1.isTrue.isFalse =>
    rename_i s eq _ _ _ _
    exact eq ▸ ⟨⟨_, passes_utcNow _, rfl⟩, .single (.send (.clock _))⟩
  case vc4.h_1.isFalse =>
    rename_i s eq _ _ _
    exact eq ▸ ⟨⟨_, .refl, rfl⟩, .refl⟩
  case vc5.h_2.post.success =>
    rename_i s eq _ _ s1 rejected
    subst eq
    exact ⟨by simp, rejected.deals item⟩

/-- Checking CompIDs does nothing, or refuses the message. -/
lemma verifyCompIds_spec {origin msg} {s0 : Sys σ ω}
    (item : handled s0.trace = some (.message origin msg)) :
    ⦃fun s => ⌜s = s0⌝⦄ verifyCompIds msg
    ⦃⇓ r s => ⌜(r = .continue → s = s0) ∧ Deals s0 s⌝⦄ := by
  mvcgen [verifyCompIds, logOut_spec]
  case vc1.may eq _ _ _ _ _ rejected => exact .of_item (rejected.item.trans (eq ▸ item))
  case vc2.isTrue.post.success.post.success =>
    rename_i s eq _ _ _ _ s1 rejected _ s2 sent
    subst eq
    exact ⟨by simp, (rejected.deals item).trans sent.deals⟩
  case vc3.isFalse s eq _ _ _ => exact ⟨eq, eq ▸ .refl⟩

/-- A too-high message is stashed, and the gap below it expected unless a range is outstanding. -/
lemma onTargetTooHigh_spec {origin msg seq} {s0 : Sys σ ω}
    (item : handled s0.trace = some (.message origin msg)) (number : msg.seqNum = .ok seq)
    (high : s0.nextTarget < seq) :
    ⦃fun s => ⌜s = s0⌝⦄ onTargetTooHigh msg seq s0.nextTarget
    ⦃post⟨fun _ s => ⌜Deals s0 s⌝, fun _ s => ⌜Deals s0 s⌝⟩⦄ := by
  generalize goal : Deals s0 = R
  mvcgen [onTargetTooHigh, stashMessage, sendResendRequest_spec]
  case vc3.isFalse s eq suppress outstanding =>
    subst eq goal
    have suppress : suppress = true := by simpa using outstanding
    rw [if_pos suppress]
    exact .single (.stashOnly item number high (Bool.and_eq_true_iff.mp suppress).1)
  all_goals
    rename_i s eq suppress requests _ t
    subst eq goal
    have requests : suppress = false := by simpa using requests
    rw [if_neg (by simp [requests])]
    intro sent
    refine ReflTransGen.trans (.single ?_) sent.deals
    exact .stashAndExpect item number high (by simp) (.request high) (requestEnd_le _ _ _)
      (fun room => le_requestEnd (Nat.le_sub_one_of_lt high) (room (by simp)))
      (fun _ => ⟨rfl, rfl, requests⟩) nofun

/-- A too-low message is dropped or refused, or ends the connection. -/
lemma onTargetTooLow_spec {origin msg seq expected} {s0 : Sys σ ω}
    (item : handled s0.trace = some (.message origin msg)) :
    ⦃fun s => ⌜s = s0⌝⦄ onTargetTooLow msg seq expected
    ⦃post⟨fun r s => ⌜r = .stop ∧ Deals s0 s⌝, fun _ s => ⌜Deals s0 s⌝⟩⦄ := by
  mvcgen [onTargetTooLow, logOut_spec]
  case vc1.may => exact .of_item (‹_ = s0› ▸ item)
  case vc2.isTrue.post.success s eq _ t sent => exact eq ▸ sent.deals
  case vc3.may eq _ _ _ _ _ _ _ _ _ rejected => exact .of_item (rejected.item.trans (eq ▸ item))
  case vc4.isFalse.isTrue.h_1.h_1.isTrue.post.success.post.success =>
    rename_i s eq _ _ _ _ _ _ _ _ s1 rejected _ s2 sent
    subst eq
    exact ⟨trivial, (rejected.deals item).trans sent.deals⟩
  case vc7.isFalse.isTrue.h_2.post.success =>
    rename_i s eq _ _ _ _ s1 rejected
    subst eq
    exact ⟨trivial, rejected.deals item⟩
  all_goals exact ⟨trivial, by subst_vars; exact .refl⟩

/-- What the checks of the number say about a message. -/
structure NumberChecked (msg : Message) (checkTooHigh checkTooLow : Bool) (s : Sys σ ω) : Prop where
  high : checkTooHigh = true → ∃ seq, msg.seqNum = .ok seq ∧ seq ≤ s.nextTarget
  low : checkTooLow = true → ∃ seq, msg.seqNum = .ok seq ∧
    (s.nextTarget ≤ seq ∨ msg.msgTypeOrDefault = MsgType.sequenceReset)

/-- Checking the number does nothing, or deals with a message that is out of sequence. -/
lemma verifySeqNum_spec {origin msg high low} {s0 : Sys σ ω}
    (item : handled s0.trace = some (.message origin msg)) :
    ⦃fun s => ⌜s = s0⌝⦄ verifySeqNum msg high low
    ⦃post⟨fun r s => ⌜(r = .continue → s = s0 ∧ NumberChecked msg high low s0) ∧ Deals s0 s⌝,
      fun _ s => ⌜Deals s0 s⌝⟩⦄ := by
  mvcgen [verifySeqNum, onTargetTooHigh_spec, onTargetTooLow_spec]
  case vc1.isTrue.h_1.post.success =>
    rename_i s eq _ t rejected
    subst eq
    exact ⟨by simp, rejected.deals item⟩
  case vc3.item => subst_vars; exact item
  case vc5.high h => exact h.2
  case vc6.isTrue.h_2.isTrue.post.success s eq _ _ _ t run => exact ⟨by simp, eq ▸ run⟩
  case vc7.isTrue.h_2.isTrue.post.except.handle s eq _ _ _ t => exact fun run => eq ▸ run
  case vc8.isTrue.h_2.isFalse.isTrue.isTrue =>
    rename_i seq number s eq expected notHigh isLow obey
    subst eq
    refine ⟨⟨rfl, ?_, ?_⟩, .refl⟩
    · exact fun h => ⟨seq, number, Nat.le_of_not_lt fun lt => notHigh ⟨h, lt⟩⟩
    · exact fun _ => ⟨seq, number, .inr obey.2.1⟩
  case vc10.item => subst_vars; exact item
  case vc11.isTrue.h_2.isFalse.isTrue.isFalse.post.success s eq _ _ _ _ r t =>
    exact fun stop run => ⟨by simp [stop], eq ▸ run⟩
  case vc12.isTrue.h_2.isFalse.isTrue.isFalse.post.except.handle s eq _ _ _ _ _ t =>
    exact fun run => eq ▸ run
  case vc13.isTrue.h_2.isFalse.isFalse =>
    rename_i seq number s eq expected notHigh notLow
    subst eq
    refine ⟨⟨rfl, ?_, ?_⟩, .refl⟩
    · exact fun h => ⟨seq, number, Nat.le_of_not_lt fun lt => notHigh ⟨h, lt⟩⟩
    · exact fun h => ⟨seq, number, .inl (Nat.le_of_not_lt fun lt => notLow ⟨h, lt⟩)⟩
  case vc14.isFalse unchecked s eq =>
    subst eq
    simp only [Bool.or_eq_true, not_or, Bool.not_eq_true] at unchecked
    exact ⟨⟨rfl, by simp [unchecked.1], by simp [unchecked.2]⟩, .refl⟩

/-! ## Callbacks -/

/-- Counting a message, whether or not the store could do it. -/
@[spec high] lemma ignoring_incrTarget_spec {s0 : Sys σ ω} :
    ⦃fun s => ⌜s = s0⌝⦄ ignoring incrNextTargetSeqNum ⦃⇓ _ s => ⌜s = s0.counted⌝⦄ := by
  mvcgen [incrNextTargetSeqNum, storeOp]
  all_goals
    subst_vars
    rfl

/-- The incoming callback is the one call made. -/
lemma incomingCallback_spec {msg} {s0 : Sys σ ω} :
    ⦃fun s => ⌜s = s0⌝⦄ incomingCallback msg
    ⦃⇓ r s => ⌜∃ w, Passes s0.world w ∧ s = s0.called (incoming msg r) w⌝⦄ := by
  mvcgen [incomingCallback]
  case vc1.isTrue admin s eq =>
    rw [incoming, if_pos admin]
    exact eq ▸ ⟨_, .single (.fromAdmin msg _), rfl⟩
  case vc2.isFalse app s eq =>
    rw [incoming, if_neg app]
    exact eq ▸ ⟨_, .single (.fromApp msg _), rfl⟩

/-- An incoming callback takes nothing up. -/
lemma handled_incoming {msg answer} {x : Session σ} {cs : List (Call σ)} :
    handled (⟨x, incoming msg answer⟩ :: cs) = handled cs := by
  unfold incoming
  cases msg.isAdmin <;> rfl

/-- The system once a message passed `verify`. -/
def Passed (msg : Message) (s t : Sys σ ω) : Prop :=
  ∃ now w, ReadsAfter s.world now ∧ Passes s.world w ∧
    t = (s.updated (heard now)).called (incoming msg (.ok ())) w

/-- Where an incoming callback may be made. -/
structure CallbackReady (origin : Origin) (msg : Message) (s : Sys σ ω) : Prop where
  item : handled s.trace = some (.message origin msg)
  direct : TakenUp origin msg s ∨ msg.msgTypeOrDefault = MsgType.logon
  app : msg.isAdmin = false → TakenUp origin msg s ∧ msg.seqNum = .ok s.nextTarget ∧
    s.session.validLogonState msg.msgTypeOrDefault = true

/-- Hearing from the peer does not get in the way of a callback. -/
lemma CallbackReady.heard {origin msg} {s : Sys σ ω} (ready : CallbackReady origin msg s) (now)
    (w : ω) : CallbackReady origin msg ({ s with world := w }.updated (Session.heard now)) := by
  have taken : TakenUp origin msg s →
      TakenUp origin msg ({ s with world := w }.updated (Session.heard now)) := by
    rintro ⟨c, rest, trace, ev, _, _, fresh⟩
    exact ⟨c, rest, trace, ev, now, 0, by simp [Sys.updated, Session.heard, fresh]⟩
  refine ⟨ready.item, ready.direct.imp_left taken, fun app => ?_⟩
  obtain ⟨up, number, state⟩ := ready.app app
  exact ⟨taken up, number, state⟩

/-- The incoming callback of an admin message is part of a run. -/
lemma CallbackReady.fromAdmin {origin msg} {s : Sys σ ω} (ready : CallbackReady origin msg s)
    (admin : msg.isAdmin = true) (answer) {w} (passes : Passes s.world w) :
    Deals s (s.called (incoming msg answer) w) := by
  rw [incoming, if_pos admin]
  exact .single (.fromAdmin answer w ready.item admin ready.direct passes)

/-- An application message is counted with its callback. -/
lemma CallbackReady.deliver {origin msg} {s : Sys σ ω} (ready : CallbackReady origin msg s)
    (app : msg.isAdmin = false) (answer) {w} (passes : Passes s.world w) :
    Deals s (s.called (incoming msg answer) w).counted := by
  obtain ⟨up, number, state⟩ := ready.app app
  rw [incoming, if_neg (by simp [app])]
  exact .single (.deliver answer w up app number state passes)

/-- A message the application has no use for is counted. -/
lemma CallbackReady.refused {origin msg} {s : Sys σ ω} (ready : CallbackReady origin msg s)
    {answer w} (passes : Passes s.world w)
    (refusal : (∃ reason, answer = .error (.rejectLogon reason)) ∨
      answer = .error .unsupportedMessageType) :
    Deals s (s.called (incoming msg answer) w).counted := by
  cases admin : msg.isAdmin with
  | false => exact ready.deliver admin answer passes
  | true =>
    have answered : Answered msg answer (s.called (incoming msg answer) w) :=
      ⟨_, _, origin, rfl, by rw [incoming, if_pos admin], rfl, ready.item⟩
    exact (ready.fromAdmin admin answer passes).tail (.incrTarget (.refused answered refusal))

/-- A message the application rejects is counted when it is in sequence. -/
lemma CallbackReady.rejected {origin msg} {s t : Sys σ ω} (ready : CallbackReady origin msg s)
    {answer w} (passes : Passes s.world w) (h : Rejected msg (s.called (incoming msg answer) w) t) :
    Deals s t := by
  cases admin : msg.isAdmin with
  | true =>
    have item : handled (s.called (incoming msg answer) w).trace = some (.message origin msg) := by
      simpa [Sys.called, QuickFix.handled, incoming, admin] using ready.item
    exact (ready.fromAdmin admin answer passes).trans (h.deals item)
  | false =>
    cases h with
    | counted _ sent => exact (ready.deliver admin answer passes).trans sent.deals
    | ignored skips sent =>
      have number := (ready.app admin).2.1
      refine absurd ⟨?_, ?_, number⟩ skips
      · exact fun type => by simp [msg.isAdmin_of_type type (by decide)] at admin
      · exact fun type => by simp [msg.isAdmin_of_type type (by decide)] at admin

/-- Hearing from the peer is part of a run. -/
lemma hear {s : Sys σ ω} {now} {w : ω} (read : ReadsAfter s.world now) (passes : Passes s.world w) :
    Deals s ({ s with world := w }.updated (Session.heard now)) :=
  .single (.send (.quiet w _ now 0 _ _ _ (.inl rfl) (.inr rfl) (.inl rfl) (.inr read) passes))

/-- Hearing from the peer now. -/
lemma hearNow (s : Sys σ ω) : Deals s ({ s with world := (Runtime.instantNow s.world).2 }.updated
    (Session.heard (Runtime.instantNow s.world).1)) :=
  hear ⟨_, .refl, rfl⟩ (passes_instantNow _)

/-- What was done after the session heard from its peer. -/
def AfterHearing (s t : Sys σ ω) : Prop :=
  ∃ now w, ReadsAfter s.world now ∧ Passes s.world w ∧
    Deals ({ s with world := w }.updated (Session.heard now)) t

/-- Hearing from the peer and what follows is part of a run. -/
lemma AfterHearing.deals {s t : Sys σ ω} (h : AfterHearing s t) : Deals s t := by
  obtain ⟨now, w, read, passes, run⟩ := h
  exact (hear read passes).trans run

/-- What follows once the session hears from its peer now. -/
lemma afterHearing_now {s t : Sys σ ω} (run : Deals ({ s with world := (Runtime.instantNow s.world).2 }.updated
    (Session.heard (Runtime.instantNow s.world).1)) t) : AfterHearing s t :=
  ⟨_, _, ⟨_, .refl, rfl⟩, passes_instantNow _, run⟩

/-- The callback lets the message pass, or the message is refused. -/
lemma verifyCallback_spec (origin) {msg} {s0 : Sys σ ω} (ready : CallbackReady origin msg s0) :
    ⦃fun s => ⌜s = s0⌝⦄ verifyCallback msg
    ⦃post⟨fun r s => ⌜(r = .continue → Passed msg s0 s) ∧ (r = .stop → AfterHearing s0 s)⌝,
      fun _ s => ⌜Deals s0 s⌝⟩⦄ := by
  mvcgen [verifyCallback, instantNow, incomingCallback_spec, refuse, sendBusinessReject_spec,
    logOut_spec]
  case vc1.post.success.h_1 =>
    rename_i s eq _ _ t called
    obtain ⟨w, passes, rfl⟩ := called
    exact eq ▸ ⟨⟨_, w, ⟨_, .refl, rfl⟩, (passes_instantNow _).trans passes, rfl⟩, by simp⟩
  case vc2.may =>
    rename_i s eq _ _ _ reason _ s1 called _ _ counted
    obtain ⟨w, -, rfl⟩ := called
    subst counted eq
    exact .of_item (handled_incoming.trans ready.item)
  case vc3.post.success.h_2.h_1.post.success.post.success =>
    rename_i s eq _ _ _ reason _ s1 called _ _ counted _ s2 sent
    obtain ⟨w, passes, rfl⟩ := called
    subst counted eq
    exact ((hearNow _).trans ((ready.heard _ _).refused passes (.inl ⟨_, rfl⟩))).trans sent.deals
  case vc4.post.success.h_2.h_2.post.success =>
    rename_i s eq _ _ _ rej _ s1 called _ s2 rejected
    obtain ⟨w, passes, rfl⟩ := called
    subst eq
    exact ⟨by simp, afterHearing_now ((ready.heard _ _).rejected passes rejected)⟩
  all_goals
    rename_i s eq _ _ _ _ s1 called _ s2 sent
    obtain ⟨w, passes, rfl⟩ := called
    subst eq
    exact ⟨by simp, afterHearing_now (((ready.heard _ _).refused passes (.inr rfl)).trans sent.deals)⟩

/-- What is known about a message that `verify` is asked about. -/
structure Verifiable (origin : Origin) (msg : Message) (high low : Bool) (s : Sys σ ω) : Prop where
  item : handled s.trace = some (.message origin msg)
  direct : TakenUp origin msg s ∨ msg.msgTypeOrDefault = MsgType.logon
  app : msg.isAdmin = false → TakenUp origin msg s ∧ high = true ∧ low = true

/-- A message is verifiable right after it was taken up. -/
lemma Verifiable.of_takenUp {origin msg} (high low) {s : Sys σ ω} (up : TakenUp origin msg s)
    (app : msg.isAdmin = false → high = true ∧ low = true) : Verifiable origin msg high low s := by
  refine ⟨?_, .inl up, fun h => ⟨up, app h⟩⟩
  obtain ⟨c, rest, trace, ev, _⟩ := up
  simp [trace, handled, ev]

/-- Reading a clock does not get in the way of a message. -/
lemma Verifiable.clock {origin msg high low} {s : Sys σ ω} (h : Verifiable origin msg high low s)
    (w : ω) : Verifiable origin msg high low { s with world := w } :=
  ⟨h.item, h.direct, h.app⟩

/-- A verifiable message that has the number asked for is ready for its callback. -/
lemma Verifiable.ready {origin msg high low} {s : Sys σ ω} (h : Verifiable origin msg high low s)
    (state : s.session.validLogonState msg.msgTypeOrDefault = true)
    (number : NumberChecked msg high low s) : CallbackReady origin msg s := by
  refine ⟨h.item, h.direct, fun app => ⟨(h.app app).1, ?_, state⟩⟩
  obtain ⟨_, isHigh, isLow⟩ := h.app app
  obtain ⟨seq, ok, le⟩ := number.high isHigh
  obtain ⟨seq', ok', ge⟩ := number.low isLow
  obtain rfl : seq = seq' := by simpa [ok] using ok'
  rcases ge with ge | type
  · rw [ok, Nat.le_antisymm le ge]
  · simp [msg.isAdmin_of_type type (by decide)] at app

/-- A message that passes is in the logon state for it and has the number asked for; what else
happens is part of a run. -/
lemma verify_spec (origin) {msg high low} {s0 : Sys σ ω} (h : Verifiable origin msg high low s0) :
    ⦃fun s => ⌜s = s0⌝⦄ verify msg high low
    ⦃post⟨fun r s => ⌜(r = .continue → s0.session.validLogonState msg.msgTypeOrDefault = true ∧
        NumberChecked msg high low s0 ∧ Passed msg s0 s) ∧ (r = .stop → Deals s0 s)⌝,
      fun _ s => ⌜Deals s0 s⌝⟩⦄ := by
  have callback {s1 : Sys σ ω} (ready : CallbackReady origin msg s1) :=
    verifyCallback_spec origin ready
  mvcgen [verify, verifySendingTime_spec, verifyCompIds_spec, verifySeqNum_spec, callback]
  case vc1.isTrue s eq _ => exact eq ▸ .refl
  case vc3.item s eq _ => exact eq ▸ h.item
  case vc4.isFalse.post.success.h_1 s eq _ _ _ t run => exact ⟨by simp, eq ▸ run.2⟩
  case vc6.item s eq _ _ _ s1 first =>
    obtain ⟨⟨w, -, rfl⟩, _⟩ := first
    exact eq ▸ h.item
  case vc7.isFalse.post.success.h_2.post.success.h_1 =>
    rename_i s eq _ _ _ s1 _ _ s2 second first
    exact ⟨by simp, eq ▸ first.2.trans second.2⟩
  case vc9.item s eq _ _ _ s1 _ _ s2 first second =>
    obtain ⟨⟨w, -, rfl⟩, _⟩ := first
    obtain ⟨rfl, _⟩ := second
    exact eq ▸ h.item
  case vc10.isFalse.post.success.h_2.post.success.h_2.post.success.h_1 =>
    rename_i s eq _ _ _ s1 _ _ s2 _ _ s3 third first second
    exact ⟨by simp, eq ▸ (first.2.trans second.2).trans third.2⟩
  case vc11.isFalse.post.success.h_2.post.success.h_2.post.success.h_2.post.success =>
    rename_i s eq state _ _ s1 _ _ s2 _ _ s3 r t first second third
    intro passed run
    obtain ⟨⟨w, ahead, rfl⟩, clock⟩ := first
    obtain ⟨rfl, _⟩ := second
    obtain ⟨⟨rfl, number⟩, _⟩ := third
    subst eq
    refine ⟨fun h => ⟨by simpa using state, ⟨number.high, number.low⟩, ?_⟩, fun h => clock.trans (run h).deals⟩
    obtain ⟨now, w', ⟨w1, before, read⟩, passes, rfl⟩ := passed h
    exact ⟨now, w', ⟨w1, ahead.trans before, read⟩, ahead.trans passes, rfl⟩
  case vc12.isFalse.post.success.h_2.post.success.h_2.post.success.h_2.post.except.handle =>
    rename_i s eq _ _ _ s1 _ _ s2 _ _ s3 _ t first second third
    exact fun run => eq ▸ ((first.2.trans second.2).trans third.2).trans run
  case vc13 =>
    rename_i s eq state _ _ s1 _ _ s2 _ _ first second
    rintro s3 rfl number _
    obtain ⟨⟨w, -, rfl⟩, _⟩ := first
    obtain ⟨rfl, _⟩ := second
    cases eq
    exact (h.clock w).ready (by simpa using state) number
  case vc14.isFalse.post.success.h_2.post.success.h_2.post.except.handle =>
    rename_i s eq _ _ _ s1 _ _ s2 _ t first second
    exact fun run => eq ▸ (first.2.trans second.2).trans run

end QuickFix
