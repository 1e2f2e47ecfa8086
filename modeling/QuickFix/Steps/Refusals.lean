import QuickFix.Session.Script
import QuickFix.Steps.Handlers

/-!
# Refusals

An application message that is counted was delivered, or it is refused: the Reject that answers it, or a
Logout, is handed to its callback before anything else is taken up (`process_explains`). What the checks of a
message do is related by whatever admits calls that move no number and the Reject that answers the message
(`Checks`), which also says when a message is accounted for.
-/

namespace QuickFix

set_option mvcgen.warning false

open Std.Do Session Relation

variable {σ ω : Type} [Chrono] [MessageStore σ] [Application ω] [Runtime ω]

/-! ## What moves no number -/

/-- Whether an event moves the next target number up. -/
def Event.movesUp : Event → Bool
  | .incrTarget (.ok _) | .setTarget _ _ (.ok _) => true
  | _ => false

example : (Script.play Script.acceptor {} [.attach, .inbound (Script.fromPeer MsgType.logon 1).toBytes]).trace.countP
    (·.event.movesUp) = 1 := by decide +kernel

/-- The next target number was not moved up since. -/
def NotMovedUp (s t : Sys σ ω) : Prop := Extends (fun e => !e.movesUp) s t

variable {msg : Message} {s t u : Sys σ ω}

/-- The history goes on. -/
lemma NotMovedUp.suffix (h : NotMovedUp s t) : s.trace <:+ t.trace := by
  obtain ⟨recent, tr, -⟩ := h
  exact ⟨recent, tr.symm⟩

/-- A sending call moves nothing. -/
lemma Event.movesUp_of_isSend {e : Event} (send : e.isSend = true) : e.movesUp = false := by
  cases e <;> simp_all [isSend, movesUp]

/-- Sending moves nothing. -/
lemma Sends.notMovedUp (h : Sends s t) : NotMovedUp s t := by
  induction h with
  | refl => exact .refl rfl
  | tail _ act ih =>
    obtain ⟨recent, tr, sends⟩ := act.trace
    refine ih.trans ⟨recent, tr, fun c mem => ?_⟩
    simpa using Event.movesUp_of_isSend (sends c mem).1

/-- A call that moves nothing. -/
lemma NotMovedUp.called (s : Sys σ ω) {e} (w) (quiet : e.movesUp = false) : NotMovedUp s (s.called e w) :=
  .cons (.refl (t := s) rfl) rfl (by rw [quiet]; rfl)

/-! ## What is owed -/

/-- Calls that count nothing make nothing owed. -/
lemma Owes.before {recent cs : List (Call σ)} (still : ∀ c ∈ recent, c.event.movesUp = false)
    (h : Owes msg (recent ++ cs)) : Owes msg cs := by
  induction recent with
  | nil => exact h
  | cons c recent ih =>
    obtain ⟨here, earlier⟩ := List.forall_mem_cons.mp still
    apply ih earlier
    rw [List.cons_append, Owes] at h
    split at h
    case h_1 | h_2 | h_3 => exact h.elim
    case h_4 ev =>
      rw [ev] at here
      cases here
    case h_5 => exact h.2
    case h_6 => exact h

/-- What moves no number makes nothing owed. -/
lemma NotMovedUp.owes (h : NotMovedUp s t) (owes : Owes msg t.trace) : Owes msg s.trace := by
  obtain ⟨recent, tr, still⟩ := h
  rw [tr] at owes
  exact owes.before fun c mem => by simpa using still c mem

/-- What was delivered is not owed when it is counted. -/
lemma Owes.delivered {res} (given : delivering s.trace = true)
    (owes : Owes msg (⟨s.session, .incrTarget res⟩ :: s.trace)) : Owes msg s.trace := by
  cases res with
  | error => exact owes
  | ok =>
    refine Or.resolve_left owes fun none => ?_
    rw [given] at none
    cases none

/-- A refusal is owed nothing. -/
lemma not_owes_of_refuses {c : Call σ} {cs} (refuses : c.refuses msg) : ¬ Owes msg (c :: cs) := by
  have event : ∃ m sent, c.event = .toAdmin m sent := by
    rcases refuses with ⟨rej, now, sent, ev⟩ | ⟨reason, now, sent, ev⟩ <;> exact ⟨_, _, ev⟩
  obtain ⟨m, sent, ev⟩ := event
  rw [Owes]
  split
  case h_5 => exact fun owes => owes.1 refuses
  all_goals simp_all

/-! ## Rejects -/

/-- A reversed route leaves the type of the reply. -/
lemma getRaw_reverseRoute (offender reply : Message) (id) :
    (reverseRoute offender reply id).header.getRaw Tags.msgType = reply.header.getRaw Tags.msgType := by
  have pairs : ∀ p ∈ routePairs, Tags.msgType ≠ p.2 := by decide
  unfold reverseRoute
  generalize routePairs = route at pairs
  induction route generalizing reply with
  | nil => rfl
  | cons p route ih =>
    obtain ⟨ne, others⟩ := List.forall_mem_cons.mp pairs
    rw [List.foldl_cons, ih _ others]
    obtain ⟨src, dst⟩ := p
    dsimp only at ne ⊢
    split_ifs
    · rfl
    · split
      · rfl
      · rfl
      · simp [ne]

/-- The header of a Reject is the one its route was reversed into. -/
lemma header_rejectMessage (id : SessionId) (offender : Message) (rej) :
    (rejectMessage id offender rej).header =
      (reverseRoute offender (.withType MsgType.reject) id).header := by
  have number (m : Message) : (setRefSeqNum offender m).header = m.header := by
    unfold setRefSeqNum
    split <;> rfl
  have type (m : Message) : (setRefMsgType offender m).header = m.header := by
    unfold setRefMsgType
    split <;> rfl
  have tag (m : Message) : (m.setOption Tags.refTagId rej.refTag).header = m.header := by
    unfold Message.setOption
    split <;> rfl
  unfold rejectMessage
  dsimp only
  split_ifs <;> simp [Message.set, number, type, tag]

/-- A Reject is administrative. -/
lemma isAdmin_rejectMessage (id : SessionId) (offender : Message) (rej) :
    (rejectMessage id offender rej).isAdmin = true := by
  rw [Message.isAdmin, header_rejectMessage, getRaw_reverseRoute]
  rfl

/-- A Reject that was sent on is owed nothing. -/
lemma SentOn.rejected {rej} (h : SentOn (rejectMessage s.session.cfg.sessionId msg rej) s t) :
    ¬ Owes msg t.trace := by
  obtain ⟨now, w, -, sent⟩ := h
  have admin := (s.session.isAdmin_filledHeader now _).trans
    (isAdmin_rejectMessage s.session.cfg.sessionId msg rej)
  rw [Sys.callingBack, if_pos admin] at sent
  intro owes
  exact not_owes_of_refuses (.inl ⟨rej, now, _, rfl⟩) (sent.notMovedUp.owes owes)

/-! ## Logouts -/

/-- Whether an event belongs to sending a message of a type. -/
def Event.sendsType (mt : Bytes) (e : Event) : Bool :=
  e.isSend && match e with
    | .toAdmin m _ => decide (m.header.getRaw Tags.msgType = some mt)
    | _ => true

/-- Handing on bytes belongs to sending a message of any type. -/
lemma Event.sendsType_of_carries {raw mt} (e : Event) (h : e.carries raw = true) :
    e.sendsType mt = true := by
  cases e with
  | reset site => cases site <;> simp_all [carries, sendsType, isSend]
  | _ => simp_all [carries, sendsType, isSend]

/-- Handing on bytes makes no callback. -/
@[local spec] lemma transmit_only {raw mt} {s0 : Sys σ ω} :
    ⦃fun s => ⌜s = s0⌝⦄ transmit raw ⦃⇓ _ s => ⌜Extends (Event.sendsType mt) s0 s⌝⦄ := by
  have noted : Extends (Event.sendsType mt) s0 (s0.called (.transmit raw) s0.world) :=
    .cons (.refl (t := s0) rfl) rfl rfl
  mvcgen [transmit, write, instantNow, disconnect_spec]
  all_goals subst_vars
  case vc1.isTrue.isTrue => exact noted.cons rfl rfl
  case vc2.isTrue.isFalse.post.success =>
    intro dropped
    have left : Extends (Event.carries raw) _ _ := dropped.extends
    refine Extends.trans ?_ (left.imp Event.sendsType_of_carries)
    exact noted.cons rfl rfl
  case vc3.isFalse => exact noted

/-- Persisting a message makes no callback. -/
@[local spec] lemma persist_only {seq raw mt} {s0 : Sys σ ω} :
    ⦃fun s => ⌜s = s0⌝⦄ persist seq raw
    ⦃post⟨fun _ s => ⌜Extends (Event.sendsType mt) s0 s⌝,
      fun _ s => ⌜Extends (Event.sendsType mt) s0 s⌝⟩⦄ := by
  mvcgen [persist, saveMessageAndIncr, incrNextSenderSeqNum, storeOp]
  all_goals
    rename_i s eq _ _ _
    exact eq ▸ .cons (.refl (t := s) rfl) rfl rfl

/-- The callback of a message is one of its type. -/
lemma callingBack_only {m : Message} {mt} (type : m.header.getRaw Tags.msgType = some mt) (now w) :
    Extends (Event.sendsType mt) s
      (Sys.callingBack (s.session.filledHeader now m.fresh) { s with world := w }) := by
  have type : (s.session.filledHeader now m.fresh).header.getRaw Tags.msgType = some mt := by
    simp +decide [Message.fresh, type]
  unfold Sys.callingBack
  split
  · exact .cons (.refl (t := s) rfl) rfl (by simp [Event.sendsType, Event.isSend, type])
  · exact .cons (.refl (t := s) rfl) rfl rfl

/-- Sending a message makes its own callback only. -/
lemma sendMessage_only {m : Message} {mt} {s0 : Sys σ ω}
    (type : m.header.getRaw Tags.msgType = some mt) :
    ⦃fun s => ⌜s = s0⌝⦄ sendMessage m
    ⦃post⟨fun _ s => ⌜Extends (Event.sendsType mt) s0 s⌝,
      fun _ s => ⌜Extends (Event.sendsType mt) s0 s⌝⟩⦄ := by
  mvcgen [sendMessage, -sendMessage_spec, fillHeader_spec, outgoingCallback_spec, seqNumOf]
  case vc3.post.success.post.success.h_1.post.success.isTrue.post.success =>
    rename_i s eq _ _ head _ _ called _ _ _ _ _ saved _ t
    subst eq
    obtain ⟨now, w, -, rfl, rfl⟩ := head
    exact fun handed => (called.1 ▸ callingBack_only type now w).trans (saved.trans handed)
  case vc4.post.success.post.success.h_1.post.success.isFalse =>
    rename_i s eq _ _ head _ _ called _ _ _ _ t saved
    subst eq
    obtain ⟨now, w, -, rfl, rfl⟩ := head
    exact (called.1 ▸ callingBack_only type now w).trans saved
  case vc5.post.success.post.success.h_1.post.except.handle =>
    rename_i s eq _ _ head _ _ called _ _ _ t
    subst eq
    obtain ⟨now, w, -, rfl, rfl⟩ := head
    exact fun saved => (called.1 ▸ callingBack_only type now w).trans saved
  case vc6.post.success.post.success.h_2 =>
    rename_i s eq _ _ head _ _ called _ _
    subst eq
    obtain ⟨now, w, -, rfl, rfl⟩ := head
    exact called.1 ▸ callingBack_only type now w
  case vc7.post.success.post.except.handle =>
    rename_i s eq _ _ head _ t
    subst eq
    obtain ⟨now, w, -, rfl, rfl⟩ := head
    exact fun called => called ▸ callingBack_only type now w

/-- Starting a logout sends a Logout, and nothing else. -/
lemma logOut_only {reason} {s0 : Sys σ ω} :
    ⦃fun s => ⌜s = s0⌝⦄ logOut reason ⦃⇓ _ s => ⌜Extends (Event.sendsType MsgType.logout) s0 s⌝⦄ := by
  have type : (logoutMessage reason).header.getRaw Tags.msgType = some MsgType.logout := by
    unfold logoutMessage
    dsimp only
    split <;> rfl
  have noted : Extends (Event.sendsType MsgType.logout) s0 (s0.called (.log .initiatedLogout) s0.world) :=
    .cons (.refl (t := s0) rfl) rfl rfl
  have send {s1 : Sys σ ω} := @sendMessage_only _ _ _ _ _ _ _ _ s1 type
  mvcgen [logOut, initiateLogout, -sendMessage_spec, send]
  all_goals
    rename_i s eq _ t
    subst eq
    exact fun sent => noted.trans sent

/-- A logout moves nothing. -/
lemma Extends.notMovedUp {mt} (h : Extends (Event.sendsType mt) s t) : NotMovedUp s t := by
  refine h.imp fun e only => ?_
  cases e <;> simp_all [Event.sendsType, Event.isSend, Event.movesUp]

/-- A Logout is administrative. -/
lemma isAdmin_logoutMessage (reason : Bytes) : (logoutMessage reason).isAdmin = true := by
  have type : (logoutMessage reason).header.getRaw Tags.msgType = some MsgType.logout := by
    unfold logoutMessage
    dsimp only
    split <;> rfl
  rw [Message.isAdmin, type]
  rfl

/-- A Logout that was sent on is owed nothing. -/
lemma SentOn.loggedOut {reason} (h : SentOn (logoutMessage reason) s t) : ¬ Owes msg t.trace := by
  obtain ⟨now, w, -, sent⟩ := h
  have admin := (s.session.isAdmin_filledHeader now _).trans (isAdmin_logoutMessage reason)
  rw [Sys.callingBack, if_pos admin] at sent
  intro owes
  exact not_owes_of_refuses (.inr ⟨reason, now, _, rfl⟩) (sent.notMovedUp.owes owes)

/-- Starting a logout settles what is owed. -/
lemma logOut_settles {reason} {s0 : Sys σ ω} :
    ⦃fun s => ⌜s = s0⌝⦄ logOut reason ⦃⇓ _ s => ⌜¬ Owes msg s.trace⌝⦄ := by
  mvcgen [logOut, initiateLogout, -sendMessage_spec, sendMessage_outcome]
  all_goals exact fun sent _ => sent.loggedOut

/-! ## Checks -/

/-- What relates the systems before and after the checks of a message: calls that move no number, the Reject
that answers it and its callback. Where the checks let it pass, `G` relates them, and it is counted. -/
structure Checks (msg : Message) (R G : Sys σ ω → Sys σ ω → Prop) : Prop where
  trans : ∀ {s t u}, R s t → R t u → R s u
  since : ∀ {s t u}, R s t → G t u → G s u
  still : ∀ {s t}, NotMovedUp s t → R s t
  counted : ∀ {s t}, G s t → R s t.counted
  rejects : ∀ {rej s0}, ⦃fun s => ⌜s = s0⌝⦄ reject msg rej ⦃⇓ _ s => ⌜R s0 s⌝⦄
  callback : ∀ {s0}, ⦃fun s => ⌜s = s0⌝⦄ verifyCallback msg
    ⦃post⟨fun r s => ⌜(r = .continue → G s0 s) ∧ R s0 s⌝, fun _ s => ⌜R s0 s⌝⟩⦄

section Checks

variable {R G : Sys σ ω → Sys σ ω → Prop}

/-- Nothing is checked. -/
lemma Checks.refl (h : Checks msg R G) (s : Sys σ ω) : R s s := h.still (.refl rfl)

/-- A clock is read. -/
lemma Checks.clock (h : Checks msg R G) (s : Sys σ ω) (w : ω) : R s { s with world := w } :=
  h.still (.refl rfl)

/-- Starting a logout moves no number. -/
lemma Checks.logOut (h : Checks msg R G) {reason} {s0 : Sys σ ω} :
    ⦃fun s => ⌜s = s0⌝⦄ logOut reason ⦃⇓ _ s => ⌜R s0 s⌝⦄ := by
  mvcgen [logOut_only]
  case vc1.post.success s eq _ t => exact fun only => h.still (eq ▸ only.notMovedUp)

/-- Checking SendingTime refuses a message at most. -/
lemma Checks.sendingTime (h : Checks msg R G) {s0 : Sys σ ω} :
    ⦃fun s => ⌜s = s0⌝⦄ verifySendingTime msg ⦃⇓ _ s => ⌜R s0 s⌝⦄ := by
  have rejects {rej} {s1 : Sys σ ω} := @h.rejects rej s1
  have logOut {reason} {s1 : Sys σ ω} := @Checks.logOut _ _ _ _ _ _ _ _ _ h reason s1
  mvcgen [verifySendingTime, utcNow, -reject_spec, rejects, logOut]
  all_goals subst_vars
  case vc1 rejected _ _ out =>
    exact h.trans (h.trans (h.clock _ _) rejected) out
  case vc2 => exact h.clock _ _
  case vc3 => exact h.refl _
  case vc4 => assumption

/-- Checking CompIDs refuses a message at most. -/
lemma Checks.compIds (h : Checks msg R G) {s0 : Sys σ ω} :
    ⦃fun s => ⌜s = s0⌝⦄ verifyCompIds msg ⦃⇓ _ s => ⌜R s0 s⌝⦄ := by
  have rejects {rej} {s1 : Sys σ ω} := @h.rejects rej s1
  have logOut {reason} {s1 : Sys σ ω} := @Checks.logOut _ _ _ _ _ _ _ _ _ h reason s1
  mvcgen [verifyCompIds, -reject_spec, rejects, logOut]
  all_goals subst_vars
  case vc1 rejected _ _ out => exact h.trans rejected out
  case vc2 => exact h.refl _

/-- A too-high message is stashed, and the gap below it asked for. -/
lemma Checks.tooHigh (h : Checks msg R G) {seq expected} {s0 : Sys σ ω} :
    ⦃fun s => ⌜s = s0⌝⦄ onTargetTooHigh msg seq expected
    ⦃post⟨fun _ s => ⌜R s0 s⌝, fun _ s => ⌜R s0 s⌝⟩⦄ := by
  have stashed (recovery) : NotMovedUp s0 (s0.stashing seq msg recovery) :=
    .called s0 s0.world rfl
  have asked (recovery) : NotMovedUp s0 ((s0.stashing seq msg recovery).requesting expected seq) :=
    (stashed recovery).trans ⟨[_, _], rfl, by simp [Event.movesUp]⟩
  mvcgen [onTargetTooHigh, stashMessage, sendResendRequest_spec]
  all_goals subst_vars
  case vc1 => exact fun sent => h.still ((asked _).trans (Sends.notMovedUp sent))
  case vc2 => exact fun sent => h.still ((asked _).trans (Sends.notMovedUp sent))
  case vc3 => exact h.still (stashed _)

/-- A too-low message is dropped or refused, or ends the connection. -/
lemma Checks.tooLow (h : Checks msg R G) {seq expected} {s0 : Sys σ ω} :
    ⦃fun s => ⌜s = s0⌝⦄ onTargetTooLow msg seq expected
    ⦃post⟨fun _ s => ⌜R s0 s⌝, fun _ s => ⌜R s0 s⌝⟩⦄ := by
  have rejects {rej} {s1 : Sys σ ω} := @h.rejects rej s1
  have logOut {reason} {s1 : Sys σ ω} := @Checks.logOut _ _ _ _ _ _ _ _ _ h reason s1
  mvcgen [onTargetTooLow, -reject_spec, rejects, logOut]
  all_goals subst_vars
  case vc1 | vc5 => assumption
  case vc2 rejected _ _ out => exact h.trans rejected out
  all_goals exact h.refl _

/-- Checking the number stashes or refuses a message at most, or ends the connection. -/
lemma Checks.number (h : Checks msg R G) {high low} {s0 : Sys σ ω} :
    ⦃fun s => ⌜s = s0⌝⦄ verifySeqNum msg high low
    ⦃post⟨fun _ s => ⌜R s0 s⌝, fun _ s => ⌜R s0 s⌝⟩⦄ := by
  have rejects {rej} {s1 : Sys σ ω} := @h.rejects rej s1
  have tooHigh {seq expected} {s1 : Sys σ ω} := @Checks.tooHigh _ _ _ _ _ _ _ _ _ h seq expected s1
  have tooLow {seq expected} {s1 : Sys σ ω} := @Checks.tooLow _ _ _ _ _ _ _ _ _ h seq expected s1
  mvcgen [verifySeqNum, -reject_spec, rejects, tooHigh, tooLow]
  all_goals subst_vars
  case vc1 | vc2 => assumption
  case vc3 => exact id
  all_goals exact h.refl _

/-- When the checks let a message pass, its callback was called. -/
lemma Checks.verify (h : Checks msg R G) {high low} {s0 : Sys σ ω} :
    ⦃fun s => ⌜s = s0⌝⦄ verify msg high low
    ⦃post⟨fun r s => ⌜(r = .continue → G s0 s) ∧ R s0 s⌝, fun _ s => ⌜R s0 s⌝⟩⦄ := by
  have sendingTime {s1 : Sys σ ω} := @Checks.sendingTime _ _ _ _ _ _ _ _ _ h s1
  have compIds {s1 : Sys σ ω} := @Checks.compIds _ _ _ _ _ _ _ _ _ h s1
  have number {s1 : Sys σ ω} := @Checks.number _ _ _ _ _ _ _ _ _ h high low s1
  have callback {s1 : Sys σ ω} := @h.callback s1
  generalize goal : R s0 = E
  generalize goal' : G s0 = P
  mvcgen [Session.verify, sendingTime, compIds, number, callback]
  all_goals clear sendingTime compIds number callback
  all_goals subst_vars
  case vc1 => exact h.refl _
  case vc2 time => exact ⟨by simp, time⟩
  case vc3 time _ ids => exact ⟨by simp, h.trans time ids⟩
  case vc4 time _ ids _ number => exact ⟨by simp, h.trans (h.trans time ids) number⟩
  case vc5 time _ ids _ number _ _ =>
    have before := h.trans (h.trans time ids) number
    exact fun passed after => ⟨fun go => h.since before (passed go), h.trans before after⟩
  case vc6 time _ ids _ number _ _ => exact h.trans (h.trans (h.trans time ids) number)
  case vc7 time _ ids _ _ => exact h.trans (h.trans time ids)

/-- An application message that passes is counted. -/
lemma Checks.handleAppMessage (h : Checks msg R G) {s0 : Sys σ ω} :
    ⦃fun s => ⌜s = s0⌝⦄ handleAppMessage msg
    ⦃post⟨fun _ s => ⌜R s0 s⌝, fun _ s => ⌜R s0 s⌝⟩⦄ := by
  have verified {s1 : Sys σ ω} := @Checks.verify _ _ _ _ _ _ _ _ _ h true true s1
  mvcgen [Session.handleAppMessage, incrTarget, incrNextTargetSeqNum, storeOp, verified]
  all_goals clear verified
  all_goals subst_vars
  case vc1 verified => exact verified.2
  case vc2 verified => exact h.counted verified.1
  case vc3 verified => exact h.counted verified.1
  case vc4 => exact id

/-- An application message goes to the handler of such messages. -/
lemma dispatch_app {mt} (app : msg.isAdmin = false) (type : msg.msgType = .ok mt) :
    (dispatch mt msg : ExceptT Disconnect (SessionM σ ω) Unit) = handleAppMessage msg := by
  have other (mt') (admin : MsgType.isAdmin mt' = true) : mt ≠ mt' := by
    intro same
    rw [msg.isAdmin_of_type (Message.msgTypeOrDefault_of_ok type) (same ▸ admin)] at app
    cases app
  unfold dispatch
  rw [if_neg (other _ (by decide)), if_neg (not_or.mpr ⟨other _ (by decide), other _ (by decide)⟩),
    if_neg (other _ (by decide)), if_neg (other _ (by decide)), if_neg (other _ (by decide)),
    if_neg (other _ (by decide))]

/-- An application message of our version, or of another, is checked as it is processed. -/
lemma Checks.process (h : Checks msg R G) (app : msg.isAdmin = false) {s0 : Sys σ ω}
    (other : ∀ mt reason, msg.msgType = .ok mt →
      msg.header.getRaw Tags.beginString ≠ some s0.session.cfg.sessionId.beginString →
      ⦃fun s => ⌜s = s0.counted⌝⦄ Session.logOut reason ⦃⇓ _ s => ⌜R s0 s⌝⦄) :
    ⦃fun s => ⌜s = s0⌝⦄ process msg ⦃post⟨fun _ s => ⌜R s0 s⌝, fun _ s => ⌜R s0 s⌝⟩⦄ := by
  have handle {mt} (type : msg.msgType = .ok mt) {s1 : Sys σ ω} :
      ⦃fun s => ⌜s = s1⌝⦄ dispatch mt msg ⦃post⟨fun _ s => ⌜R s1 s⌝, fun _ s => ⌜R s1 s⌝⟩⦄ := by
    rw [dispatch_app app type]
    exact h.handleAppMessage
  have rejects {rej} {s1 : Sys σ ω} := @h.rejects rej s1
  mvcgen [Session.process, handle, -reject_spec, rejects, other]
  all_goals clear handle
  case vc1 eq => exact eq ▸ h.refl _
  case vc4 eq _ _ _ _ => exact eq ▸ ‹_›
  case vc5 s eq _ _ _ counted => exact eq ▸ counted
  case vc6 eq _ _ _ _ _ => exact fun rejected => eq ▸ rejected

end Checks

/-! ## What is counted is explained -/

/-- What is owed afterwards was owed before. -/
def Clears (msg : Message) (s t : Sys σ ω) : Prop := Owes msg t.trace → Owes msg s.trace

/-- What was just delivered leaves nothing owed when it is counted. -/
lemma Clears.counted (given : delivering s.trace = true) : Clears msg s s.counted := Owes.delivered given

/-- Rejecting a message leaves nothing owed. -/
lemma reject_clears {rej} {s0 : Sys σ ω} :
    ⦃fun s => ⌜s = s0⌝⦄ reject msg rej ⦃⇓ _ s => ⌜Clears msg s0 s⌝⦄ := by
  mvcgen [reject, -reject_spec, sendReject, incrNextTargetSeqNum, storeOp, -sendMessage_spec,
    sendMessage_outcome]
  all_goals subst_vars
  case vc3 s _ _ _ e failed =>
    intro owes
    rw [Sys.stored, failed] at owes
    exact owes
  case vc1 => exact fun sent _ owes => absurd owes sent.rejected
  case vc2 => exact fun sent _ owes => absurd owes sent.rejected
  all_goals exact fun sent _ owes => absurd owes sent.rejected

/-- What the application refused was delivered before it is counted. -/
lemma refuse_clears {e : ApplicationError} {s0 : Sys σ ω} (given : delivering s0.trace = true) :
    ⦃fun s => ⌜s = s0⌝⦄ refuse msg e
    ⦃post⟨fun r s => ⌜r ≠ .continue ∧ Clears msg s0 s⌝, fun _ s => ⌜Clears msg s0 s⌝⟩⦄ := by
  mvcgen [refuse, sendBusinessReject_spec, -reject_spec, reject_clears, logOut_only]
  all_goals subst_vars
  case vc1 out => exact fun owes => Clears.counted given (out.notMovedUp.owes owes)
  case vc2 rejected => exact ⟨by simp, rejected⟩
  case vc3 sent => exact ⟨by simp, fun owes => Clears.counted given (sent.notMovedUp.owes owes)⟩
  case vc4 sent => exact ⟨by simp, fun owes => Clears.counted given (sent.notMovedUp.owes owes)⟩

/-- An application message that is handed to its callback is delivered. -/
lemma incomingCallback_delivers (app : msg.isAdmin = false) {s0 : Sys σ ω} :
    ⦃fun s => ⌜s = s0⌝⦄ incomingCallback msg
    ⦃⇓ _ s => ⌜delivering s.trace = true ∧ Clears msg s0 s⌝⦄ := by
  mvcgen [incomingCallback]
  case vc1.isTrue admin _ _ => exact absurd admin (Bool.not_eq_true _ ▸ app)
  case vc2.isFalse _ eq => exact eq ▸ ⟨rfl, id⟩

/-- An application message that reaches its callback leaves nothing owed. -/
lemma verifyCallback_clears (app : msg.isAdmin = false) {s0 : Sys σ ω} :
    ⦃fun s => ⌜s = s0⌝⦄ verifyCallback msg
    ⦃post⟨fun r s => ⌜(r = .continue → delivering s.trace = true ∧ Clears msg s0 s) ∧ Clears msg s0 s⌝,
      fun _ s => ⌜Clears msg s0 s⌝⟩⦄ := by
  have refused {e} {s1 : Sys σ ω} (given : delivering s1.trace = true) := @refuse_clears _ _ _ _ _ _ msg e s1 given
  generalize goal : Clears msg s0 = R
  mvcgen [verifyCallback, instantNow, incomingCallback_delivers, refused]
  all_goals clear refused
  all_goals subst_vars
  case vc2 given =>
    have cleared := fun owes => given.2 owes
    exact ⟨⟨given.1, cleared⟩, cleared⟩
  case vc3 given _ _ =>
    exact fun stops cleared => ⟨fun go => absurd go stops, fun owes => given.2 (cleared owes)⟩
  case vc4 given _ _ => exact fun cleared owes => given.2 (cleared owes)
  case vc5 => exact fun _ given _ => given

/-- The checks of an application message leave nothing owed. -/
lemma clears_checks (app : msg.isAdmin = false) :
    Checks (σ := σ) (ω := ω) msg (Clears msg) (fun s t => delivering t.trace = true ∧ Clears msg s t) where
  trans h h' := h ∘ h'
  since h h' := ⟨h'.1, h ∘ h'.2⟩
  still h := h.owes
  counted h := h.2 ∘ Clears.counted h.1
  rejects := reject_clears
  callback := verifyCallback_clears app

/-- Processing an application message leaves nothing owed. -/
lemma process_clears (app : msg.isAdmin = false) {s0 : Sys σ ω} :
    ⦃fun s => ⌜s = s0⌝⦄ process msg
    ⦃post⟨fun _ s => ⌜Clears msg s0 s⌝, fun _ s => ⌜Clears msg s0 s⌝⟩⦄ := by
  apply (clears_checks app).process app
  intro mt reason _ _
  have settles {s1 : Sys σ ω} := @logOut_settles σ ω _ _ _ _ msg reason s1
  mvcgen [settles]
  case vc1.post.success => exact fun none owes => absurd owes none

/-- Nothing is owed for an entry of the stash. -/
lemma Explained.of_entry {cs : List (Call σ)} {seq raw} (item : handled cs = some (.entry seq raw)) :
    Explained cs := by
  intro origin msg taken
  rw [item] at taken
  cases taken

/-- Nothing is owed between frames. -/
lemma Explained.of_idle {cs : List (Call σ)} (idle : handled cs = none) : Explained cs := by
  intro origin msg taken
  rw [idle] at taken
  cases taken

/-- Nothing is owed for what was just taken up. -/
lemma Explained.of_taken {c : Call σ} {cs : List (Call σ)} {origin msg}
    (ev : c.event = .process origin msg) : Explained (c :: cs) := by
  intro _ _ _ _ owes
  rw [Owes, ev] at owes
  exact owes

/-- Calls that count nothing and take nothing up leave what is counted explained. -/
lemma NotMovedUp.explained (still : NotMovedUp s t) (item : handled t.trace = handled s.trace)
    (h : Explained s.trace) : Explained t.trace :=
  fun origin msg taken app owes => h origin msg (item ▸ taken) app (still.owes owes)

/-- Giving up the connection counts nothing. -/
lemma Dropped.notMovedUp (h : Dropped s t) : NotMovedUp s t := by
  have left : Extends (Event.carries []) s t := h.extends
  refine left.imp fun e carries => ?_
  cases e <;> simp_all [Event.carries, Event.movesUp]

/-- Asking for the next chunk counts nothing. -/
lemma checkResendChunks_still {s0 : Sys σ ω} :
    ⦃fun s => ⌜s = s0⌝⦄ checkResendChunks ⦃⇓ _ s => ⌜NotMovedUp s0 s⌝⦄ := by
  have asked (s : Sys σ ω) (b fullEnd) : NotMovedUp s
      ((s.called (.compute [.nextChunk fullEnd]) s.world).requesting b (fullEnd + 1)) :=
    ⟨[_, _, _], rfl, by simp [Event.movesUp]⟩
  mvcgen [checkResendChunks, -checkResendChunks_spec, sendResendRequest_spec]
  all_goals subst_vars
  case vc1 | vc2 => exact .refl rfl
  case vc3 => exact fun sent => (asked _ _ _).trans sent.notMovedUp
  case vc4 => exact fun sent => (asked _ _ _).trans sent.notMovedUp
  case vc5 s _ _ _ _ _ _ _ => exact .called s s.world rfl

/-- An act of a handler takes nothing up. -/
lemma HandleAct.item {resets} (act : HandleAct resets s t) : handled t.trace = handled s.trace := by
  cases act with
  | send act => exact Sends.handled (.single act)
  | _ => rfl

/-- A run of the handlers takes nothing up. -/
lemma Handles.item (run : Handles s t) : handled t.trace = handled s.trace := by
  induction run with
  | refl => rfl
  | tail _ act ih => exact act.item.trans ih

/-- Neither does what ends the connection. -/
lemma Ended.item (h : Ended s t) : handled t.trace = handled s.trace := by
  cases h with
  | plain run => exact run.item
  | reset w now passes run => exact run.item

/-- A message that was just taken up is explained when nothing is owed later. -/
lemma TakenUp.explained {origin} (up : TakenUp origin msg s) (item : handled t.trace = handled s.trace)
    (cleared : msg.isAdmin = false → Clears msg s t) : Explained t.trace := by
  obtain ⟨c, rest, tr, ev, -⟩ := up
  intro origin' msg' taken app owes
  rw [item, tr, handled, ev] at taken
  obtain ⟨rfl, rfl⟩ := Item.message.inj (Option.some.inj taken)
  have owes := cleared app owes
  rw [tr, Owes, ev] at owes
  exact owes

/-- What is counted while a message is processed is explained. -/
lemma process_explains {origin} {s0 : Sys σ ω} (up : TakenUp origin msg s0) :
    ⦃fun s => ⌜s = s0⌝⦄ process msg
    ⦃post⟨fun _ s => ⌜Handles s0 s ∧ Explained s.trace⌝, fun _ s => ⌜Ended s0 s ∧ Explained s.trace⌝⟩⦄ := by
  cases admin : msg.isAdmin with
  | true =>
    have none {s t : Sys σ ω} : msg.isAdmin = false → Clears msg s t := fun app => by
      rw [admin] at app
      cases app
    have handle := process_spec up
    mvcgen [handle]
    case vc2 => exact fun run => ⟨run, up.explained run.item none⟩
    case vc3 => exact fun ended => ⟨ended, up.explained ended.item none⟩
  | false =>
    have handle := Triple.and _ (process_spec up) (@process_clears σ ω _ _ _ _ msg admin s0)
    mvcgen [handle]
    case vc2 => exact fun run cleared => ⟨run, up.explained run.item fun _ => cleared⟩
    case vc3 =>
      rintro ⟨ended, cleared⟩
      exact ⟨ended, up.explained ended.item fun _ => cleared⟩

end QuickFix
