import QuickFix.Timers.Progress

/-!
# The silence of the peer

A session gives up a peer it has not heard from for 2.4 heartbeat intervals. What counts as hearing
is set at one point of the verify pipeline, behind several ways out: a message that is stashed as too
high, dropped as a possible duplicate or refused by the dictionary leaves the timer alone. A message
that gets to that point, or ends the session on its way, keeps the session from giving up its peer
for 2.4 intervals (`ran_heard`).
-/

namespace QuickFix

set_option mvcgen.warning false
set_option linter.unusedSectionVars false

open Std.Do Session Relation

section Runs

variable {σ ω : Type} [Chrono] [MessageStore σ] [Application ω] [Runtime ω]

/-! ## The time of the peer -/

/-- The session heard from its peer at an instant or later, or it is about to leave it. -/
def Session.HeardAt (instant : Nat) (s : Session σ) : Prop :=
  instant ≤ s.lastReceived ∨ s.sentLogout = true ∨ s.outbound = false

/-- It is an instant or later, and the session heard from its peer since or is about to leave it. -/
structure HeardSince (instant : Nat) (s : Sys σ ω) : Prop where
  late : instant ≤ reading s.world
  heard : s.session.HeardAt instant

/-- What is heard of later counts. -/
lemma HeardSince.passes (steady : Steady ω) {instant} {s t : Sys σ ω} (h : HeardSince instant s)
    (passes : Passes s.world t.world) (heard : t.session.HeardAt instant) : HeardSince instant t :=
  ⟨h.late.trans (steady.passes passes), heard⟩

/-- Giving up the connection takes no time back. -/
lemma GivenUp.passes {s t : Sys σ ω} (h : GivenUp s t) : Passes s.world t.world := by
  refine h.elim (P := fun t => Passes s.world t.world) (fun cut => ?_) fun _ passes =>
    passes.tail (.onLogout _)
  cases cut with
  | kept => exact .refl
  | reset w now flag passes => exact passes

/-- Nothing is heard from a peer that was given up. -/
lemma GivenUp.heardAt {s t : Sys σ ω} (h : GivenUp s t) (instant) : t.session.HeardAt instant :=
  h.elim (P := fun t => t.session.HeardAt instant) (fun cut => by cases cut <;> exact .inr (.inr rfl))
    fun _ => id

/-- An act of the outbound half takes no time back. -/
lemma SendAct.passes {fresh} {s t : Sys σ ω} (act : SendAct fresh s t) : Passes s.world t.world := by
  cases act with
  | quiet => assumption
  | announce _ _ _ _ passes => exact passes.tail (.toAdmin _ _)
  | toAdmin => exact .single (.toAdmin _ _)
  | toApp => exact .single (.toApp _ _)
  | write => exact .single (.send _ _)
  | cut _ _ left => exact left.passes
  | _ => exact .refl

/-- An act of the handlers takes no time back. -/
lemma HandleAct.passes {resets} {s t : Sys σ ω} (act : HandleAct resets s t) :
    Passes s.world t.world := by
  cases act with
  | send act => exact act.passes
  | fromAdmin => assumption
  | deliver => assumption
  | onLogon => exact .single (.onLogon _)
  | _ => exact .refl

/-- An act of a session takes no time back. -/
lemma Act.passes {s t : Sys σ ω} (act : Act s t) : Passes s.world t.world := by
  cases act with
  | handle act => exact act.passes
  | send act => exact act.passes
  | cut _ left => exact left.passes
  | endLogout _ _ left => exact left.passes
  | _ => exact .refl

/-- What was read after an instant is no earlier. -/
lemma ReadsAfter.le (steady : Steady ω) {instant n} {w : ω} (read : ReadsAfter w n)
    (late : instant ≤ reading w) : instant ≤ n := by
  obtain ⟨w, passes, rfl⟩ := read
  exact late.trans (steady.passes passes)

/-- An act of the outbound half leaves what was heard. -/
lemma SendAct.heardSince (steady : Steady ω) {fresh instant} {s t : Sys σ ω} (act : SendAct fresh s t)
    (h : HeardSince instant s) : HeardSince instant t := by
  refine h.passes steady act.passes ?_
  have heard := h.heard
  cases act with
  | quiet _ _ _ _ _ _ _ _ _ _ received =>
    rcases received with rfl | read
    · exact heard
    · exact .inl (read.le steady h.late)
  | logout => exact .inr (.inl rfl)
  | cut _ _ left => exact left.heardAt instant
  | _ => exact heard

/-- An act of the handlers leaves what was heard. -/
lemma HandleAct.heardSince (steady : Steady ω) {resets instant} {s t : Sys σ ω}
    (act : HandleAct resets s t) (h : HeardSince instant s) : HeardSince instant t := by
  cases act with
  | send act => exact act.heardSince steady h
  | onLogon => exact h.passes steady (.single (.onLogon _)) h.heard
  | fromAdmin _ _ _ _ _ passes => exact h.passes steady passes h.heard
  | deliver _ _ _ _ _ _ passes => exact h.passes steady passes h.heard
  | _ => exact h.passes steady .refl h.heard

/-- An act of a session leaves what was heard. -/
lemma Act.heardSince (steady : Steady ω) {instant} {s t : Sys σ ω} (act : Act s t)
    (h : HeardSince instant s) : HeardSince instant t := by
  refine h.passes steady act.passes ?_
  have heard := h.heard
  cases act with
  | handle act => exact (act.heardSince steady h).heard
  | send act => exact (act.heardSince steady h).heard
  | attach _ _ _ _ later => exact .inl (later.le steady h.late)
  | cut _ left => exact left.heardAt instant
  | endLogout _ _ left => exact left.heardAt instant
  | _ => exact heard

/-- Dealing with a message leaves what was heard. -/
lemma Deals.heardSince (steady : Steady ω) {instant} {s t : Sys σ ω} (run : Deals s t)
    (h : HeardSince instant s) : HeardSince instant t :=
  runs_keep (fun act h => act.heardSince steady h) run h

/-- Handling a message takes no time back. -/
lemma handling_passes {resets} {s t : Sys σ ω} (run : ReflTransGen (HandleAct resets) s t) :
    Passes s.world t.world := by
  induction run with
  | refl => exact .refl
  | tail _ act ih => exact ih.trans act.passes

/-! ## Verify pipeline -/

/-- Logging out is leaving the peer. -/
lemma logOut_heard (steady : Steady ω) {reason instant} {s0 : Sys σ ω} (late : instant ≤ reading s0.world) :
    ⦃fun s => ⌜s = s0⌝⦄ logOut reason ⦃⇓ _ s => ⌜HeardSince instant s⌝⦄ := by
  mvcgen [logOut, initiateLogout]
  all_goals
    intro sent
    subst_vars
    exact Deals.heardSince steady sent.deals ⟨late, .inr (.inl rfl)⟩

/-- A SendingTime out of the latency window ends the session. -/
lemma verifySendingTime_heard (steady : Steady ω) {origin msg instant} {s0 : Sys σ ω}
    (item : handled s0.trace = some (.message origin msg))
    (timed : (msg.headerTime Tags.sendingTime).isSome = true) (late : instant ≤ reading s0.world) :
    ⦃fun s => ⌜s = s0⌝⦄ verifySendingTime msg
    ⦃⇓ r s => ⌜(r = .continue → ∃ w, Passes s0.world w ∧ s = { s0 with world := w }) ∧
      (r = .stop → HeardSince instant s)⌝⦄ := by
  have leave := @logOut_heard σ ω _ _ _ _ steady
  mvcgen [verifySendingTime, utcNow, leave]
  case vc2.late eq _ _ _ _ _ _ rejected =>
    subst eq
    exact late.trans (steady.passes ((passes_utcNow _).trans (handling_passes (rejected.deals item))))
  case vc3.h_1.isTrue.isTrue.post.success.post.success left => exact ⟨by simp, left⟩
  case vc4.h_1.isTrue.isFalse eq _ _ _ _ => exact ⟨eq ▸ ⟨_, passes_utcNow _, rfl⟩, by simp⟩
  case vc5.h_1.isFalse eq _ _ _ => exact ⟨eq ▸ ⟨_, .refl, rfl⟩, by simp⟩
  case vc6.h_2.post.success none _ _ _ => simp [none] at timed

/-- CompIDs that are not ours end the session. -/
lemma verifyCompIds_heard (steady : Steady ω) {origin msg instant} {s0 : Sys σ ω}
    (item : handled s0.trace = some (.message origin msg)) (late : instant ≤ reading s0.world) :
    ⦃fun s => ⌜s = s0⌝⦄ verifyCompIds msg
    ⦃⇓ r s => ⌜(r = .continue → s = s0) ∧ (r = .stop → HeardSince instant s)⌝⦄ := by
  have leave := @logOut_heard σ ω _ _ _ _ steady
  mvcgen [verifyCompIds, leave]
  case vc2.late eq _ _ _ _ _ rejected =>
    subst eq
    exact late.trans (steady.passes (handling_passes (rejected.deals item)))
  case vc3.isTrue.post.success.post.success left => exact ⟨by simp, left⟩
  case vc4.isFalse eq _ _ _ => exact ⟨eq, by simp⟩

/-- The number of a message is not too high, and not too low for a possible duplicate. -/
def InStep (msg : Message) (high low : Bool) (s : Sys σ ω) : Prop :=
  high = true ∨ low = true → ∃ seq, msg.seqNum = .ok seq ∧ (high = true → seq ≤ s.nextTarget) ∧
    (low = true → s.nextTarget ≤ seq ∨ msg.possDup = false ∨
      s.session.lastProcessedWasQueued = true ∧ msg.msgTypeOrDefault = MsgType.sequenceReset ∧
        msg.bodyFlag Tags.gapFillFlag = true)

/-- A too-low message that is no possible duplicate ends the session. -/
lemma onTargetTooLow_ends {msg seq expected} {s0 : Sys σ ω} (fresh : msg.possDup = false)
    (may : MayLogOut s0) : ⦃fun s => ⌜s = s0⌝⦄ onTargetTooLow msg seq expected
    ⦃post⟨fun _ _ => ⌜False⌝, fun _ _ => ⌜True⌝⟩⦄ := by
  mvcgen [onTargetTooLow, logOut_spec]
  all_goals simp_all

/-- A message in order passes the checks of its number, or ends the session. -/
lemma verifySeqNum_heard {origin msg high low} {s0 : Sys σ ω}
    (item : handled s0.trace = some (.message origin msg)) (order : InStep msg high low s0) :
    ⦃fun s => ⌜s = s0⌝⦄ verifySeqNum msg high low
    ⦃post⟨fun r s => ⌜r = .continue ∧ s = s0⌝, fun _ _ => ⌜True⌝⟩⦄ := by
  mvcgen [verifySeqNum, onTargetTooHigh_spec, onTargetTooLow_ends]
  all_goals subst_vars
  case vc1.isTrue.h_1.post.success checked e failed _ _ _ _ =>
    obtain ⟨seq, number, -⟩ := order ((Bool.or_eq_true _ _).mp checked)
    cases failed.symm.trans number
  case vc3.item => exact item
  case vc5.high high => exact high.2
  case vc6.isTrue.h_2.isTrue.post.success checked seq number _ _ high _ _ _ =>
    obtain ⟨seq', number', notHigh, -⟩ := order ((Bool.or_eq_true _ _).mp checked)
    cases Except.ok.inj (number.symm.trans number')
    exact absurd high.2 (not_lt_of_ge (notHigh high.1))
  case vc8.fresh checked seq number _ _ _ isLow notObeyed =>
    obtain ⟨seq', number', -, notLow⟩ := order ((Bool.or_eq_true _ _).mp checked)
    cases Except.ok.inj (number.symm.trans number')
    rcases notLow isLow.1 with above | fresh | obeyed
    · exact absurd isLow.2 (not_lt_of_ge above)
    · exact fresh
    · exact absurd obeyed notObeyed
  case vc9.may => exact .of_item item
  case vc10.isTrue.h_2.isFalse.isTrue.isFalse.post.success => exact False.elim

/-- A message that passed was heard. -/
lemma Passed.heardSince (steady : Steady ω) {msg instant} {s t : Sys σ ω} (h : Passed msg s t)
    (late : instant ≤ reading s.world) : HeardSince instant t := by
  obtain ⟨now, w, read, passes, rfl⟩ := h
  exact ⟨late.trans (steady.passes passes), .inl (read.le steady late)⟩

/-- A message that the application refuses was heard. -/
lemma AfterHearing.heardSince (steady : Steady ω) {instant} {s t : Sys σ ω} (h : AfterHearing s t)
    (late : instant ≤ reading s.world) : HeardSince instant t := by
  obtain ⟨now, w, read, passes, run⟩ := h
  exact Deals.heardSince steady run
    ⟨late.trans (steady.passes passes), .inl (read.le steady late)⟩

/-- A message in order is heard of by the time `verify` is over, or the session ends. -/
lemma verify_heard (steady : Steady ω) (origin) {msg high low instant} {s0 : Sys σ ω}
    (able : Verifiable origin msg high low s0)
    (timed : (msg.headerTime Tags.sendingTime).isSome = true) (late : instant ≤ reading s0.world)
    (order : InStep msg high low s0) :
    ⦃fun s => ⌜s = s0⌝⦄ verify msg high low
    ⦃post⟨fun _ s => ⌜HeardSince instant s⌝, fun _ _ => ⌜True⌝⟩⦄ := by
  have time {s1 : Sys σ ω} := @verifySendingTime_heard σ ω _ _ _ _ steady origin msg instant s1
  have ids {s1 : Sys σ ω} := @verifyCompIds_heard σ ω _ _ _ _ steady origin msg instant s1
  have number {s1 : Sys σ ω} (item : handled s1.trace = some (.message origin msg))
      (order : InStep msg high low s1) :=
    Triple.and _ (verifySeqNum_spec item) (verifySeqNum_heard item order)
  have callback {s1 : Sys σ ω} (ready : CallbackReady origin msg s1) :=
    verifyCallback_spec origin ready
  mvcgen [verify, time, ids, number, callback]
  all_goals
    clear callback number ids time
    subst_vars
  case vc1.item => exact able.item
  case vc3.late => exact late
  case vc4.isFalse.post.success.h_1 left => exact left.2
  case vc7.isFalse.post.success.h_2.post.success.h_1 left => exact left.2
  case vc12.isFalse.post.success.h_2.post.success.h_2.post.success.h_1 never _ _ => simp at never
  case vc5.item first | vc6.late first =>
    obtain ⟨⟨w, passes, rfl⟩, -⟩ := first
    first
    | exact able.item
    | exact late.trans (steady.passes passes)
  case vc9.item first second | vc10.order first second =>
    obtain ⟨⟨w, passes, rfl⟩, -⟩ := first
    obtain ⟨rfl, -⟩ := second
    first
    | exact able.item
    | exact order
  case vc13.isFalse.post.success.h_2.post.success.h_2.post.success.h_2.post.success =>
    rename_i r _ first second third
    intro passed refused
    obtain ⟨⟨w, passes, rfl⟩, -⟩ := first
    obtain ⟨rfl, -⟩ := second
    obtain rfl := third.2.2
    have late := late.trans (steady.passes passes)
    cases r with
    | «continue» => exact (passed rfl).heardSince steady late
    | stop => exact (refused rfl).heardSince steady late
  case vc14 state _ _ first second =>
    rintro _ rfl number - -
    obtain ⟨⟨w, passes, rfl⟩, -⟩ := first
    obtain ⟨rfl, -⟩ := second
    exact (able.clock w).ready (by simpa using state) number

/-! ## Handlers -/

/-- The checks of its number a message gets from its handler: whether it is too high, and whether it
is too low. -/
def Message.numberChecks (msg : Message) : Bool × Bool :=
  let mt := msg.msgTypeOrDefault
  if mt = MsgType.logon then (false, true)
  else if mt = MsgType.sequenceReset then
    (msg.bodyFlag Tags.gapFillFlag, msg.bodyFlag Tags.gapFillFlag)
  else if mt = MsgType.resendRequest ∨ mt = MsgType.logout then (false, false)
  else (true, true)

/-- The system in which the number of a message is checked: for a Logon, after its own resets. -/
def Sys.checking (msg : Message) (s : Sys σ ω) : Sys σ ω :=
  if msg.msgTypeOrDefault = MsgType.logon then
    (s.after (logonTimeGood msg)).after (logonResets msg).run
  else s

/-- The session hears from its peer when it takes up the message, or ends: the type of the message can
be read, the dictionary lets it pass and it is in order. -/
structure Heeds (msg : Message) (s : Sys σ ω) : Prop where
  type : msg.msgType = .ok msg.msgTypeOrDefault
  valid : s.session.validated msg = .ok ()
  order : InStep msg msg.numberChecks.1 msg.numberChecks.2 (s.checking msg)

/-- What is said to be the state after a computation is that. -/
lemma after_spec {α} (s0 : Sys σ ω) (x : SessionM σ ω α) :
    ⦃fun s => ⌜s = s0⌝⦄ x ⦃⇓ _ s => ⌜s = s0.after x⌝⦄ := by
  rintro s rfl
  rfl

/-- What is said to be the state after a computation that may end the connection is that. -/
lemma after_run_spec {α} (s0 : Sys σ ω) (x : ExceptT Disconnect (SessionM σ ω) α) :
    ⦃fun s => ⌜s = s0⌝⦄ x
    ⦃post⟨fun _ s => ⌜s = s0.after x.run⌝, fun _ s => ⌜s = s0.after x.run⌝⟩⦄ := by
  rintro s rfl
  have same : (wp⟦x.run⟧ (⇓ _ t => ⌜t = s.after x.run⌝) s).down := rfl
  rwa [WP.ExceptT_run] at same

/-- The store says nothing about the peer. -/
lemma HeardSince.stored {instant} {s : Sys σ ω} (h : HeardSince instant s) (e : Event) (store : σ) :
    HeardSince instant (s.stored e store) := ⟨h.late, h.heard⟩

/-- Rejecting a message leaves what was heard. -/
lemma Rejected.heardSince (steady : Steady ω) {msg instant} {s t : Sys σ ω} (rejected : Rejected msg s t)
    (h : HeardSince instant s) : HeardSince instant t := by
  cases rejected with
  | counted _ sent => exact Deals.heardSince steady sent.deals (h.stored _ _)
  | ignored _ sent => exact Deals.heardSince steady sent.deals h

section

variable (steady : Steady ω) {origin : Origin} {msg : Message} {instant : Nat} {s0 : Sys σ ω}
variable (up : TakenUp origin msg s0) (timed : (msg.headerTime Tags.sendingTime).isSome = true)
variable (late : instant ≤ reading s0.world)

include steady up timed late

/-- Heartbeat and Reject are heard of. -/
lemma handlePlainAdmin_heard (order : InStep msg true true s0) :
    ⦃fun s => ⌜s = s0⌝⦄ handlePlainAdmin msg
    ⦃post⟨fun _ s => ⌜HeardSince instant s⌝, fun _ _ => ⌜True⌝⟩⦄ := by
  have check := verify_heard steady origin (.of_takenUp true true up (by simp)) timed late order
  mvcgen [handlePlainAdmin, check, incrTarget, incrNextTargetSeqNum, storeOp]
  case vc3.post.success.h_2.h_1 heard _ _ => exact heard.stored _ _

/-- A TestRequest is heard of. -/
lemma handleTestRequest_heard (order : InStep msg true true s0) :
    ⦃fun s => ⌜s = s0⌝⦄ handleTestRequest msg
    ⦃post⟨fun _ s => ⌜HeardSince instant s⌝, fun _ _ => ⌜True⌝⟩⦄ := by
  have check := verify_heard steady origin (.of_takenUp true true up (by simp)) timed late order
  mvcgen [handleTestRequest, check, incrTarget, incrNextTargetSeqNum, storeOp]
  all_goals
    rename_i heard _ _ sent _ _
    exact HeardSince.stored (Deals.heardSince steady (Sends.deals sent) heard) _ _

/-- A ResendRequest is heard of. -/
lemma handleResendRequest_heard (admin : msg.isAdmin = true) (order : InStep msg false false s0) :
    ⦃fun s => ⌜s = s0⌝⦄ handleResendRequest msg
    ⦃post⟨fun _ s => ⌜HeardSince instant s⌝, fun _ _ => ⌜True⌝⟩⦄ := by
  have able := Verifiable.of_takenUp false false up (by simp [admin])
  have check := verify_heard steady origin able timed late order
  mvcgen [handleResendRequest, check, answerResend_spec, incrTarget, incrNextTargetSeqNum, storeOp]
  case vc3.sent => exact sentBefore_end _ rfl
  case vc4.post.success.h_2.post.success.isTrue.h_1 =>
    rename_i heard _ _ _ _ _ sent _ _ _
    have run := (ReflTransGen.single (lookedUp _ _)).trans (Resends.sends sent).deals
    exact (Deals.heardSince steady run heard).stored _ _
  case vc5.post.success.h_2.post.success.isFalse =>
    rename_i heard _ _ _ _ _ sent _
    have run := (ReflTransGen.single (lookedUp _ _)).trans (Resends.sends sent).deals
    exact Deals.heardSince steady run heard

/-- A SequenceReset is heard of. -/
lemma handleSequenceReset_heard (admin : msg.isAdmin = true)
    (order : InStep msg (msg.bodyFlag Tags.gapFillFlag) (msg.bodyFlag Tags.gapFillFlag) s0) :
    ⦃fun s => ⌜s = s0⌝⦄ handleSequenceReset msg
    ⦃post⟨fun _ s => ⌜HeardSince instant s⌝, fun _ _ => ⌜True⌝⟩⦄ := by
  have check := verify_heard steady origin (.of_takenUp _ _ up (by simp [admin])) timed late order
  mvcgen [handleSequenceReset, check, setNextTargetSeqNum, storeOp]
  case vc4.post.success.h_2.h_2.isTrue.h_1 heard _ _ _ _ => exact ⟨heard.late, heard.heard⟩
  case vc5.post.success.h_2.h_2.isFalse.isTrue.post.success heard _ _ _ _ _ =>
    exact fun rejected => rejected.heardSince steady heard

/-- A Logout is heard of. -/
lemma handleLogout_heard (admin : msg.isAdmin = true) (order : InStep msg false false s0) :
    ⦃fun s => ⌜s = s0⌝⦄ handleLogout msg
    ⦃post⟨fun _ s => ⌜HeardSince instant s⌝, fun _ _ => ⌜True⌝⟩⦄ := by
  have able := Verifiable.of_takenUp false false up (by simp [admin])
  have check := verify_heard steady origin able timed late order
  have leave := @logOut_heard σ ω _ _ _ _ steady
  mvcgen [handleLogout, check, leave, incrTarget, incrNextTargetSeqNum, storeOp]
  case vc4.late heard _ _ => exact heard.late

/-- A Logon is heard of, when it is in order after its own resets. -/
lemma handleLogon_heard (type : msg.msgTypeOrDefault = MsgType.logon)
    (order : InStep msg false true (s0.checking msg)) :
    ⦃fun s => ⌜s = s0⌝⦄ handleLogon msg
    ⦃post⟨fun _ s => ⌜HeardSince instant s⌝, fun _ _ => ⌜True⌝⟩⦄ := by
  obtain ⟨p, prep⟩ := up.preparing
  have time {s1 : Sys σ ω} :=
    Triple.and _ (@logonTimeGood_spec σ ω _ _ _ _ msg s1) (after_spec s1 (logonTimeGood msg))
  have resets {s1 : Sys σ ω} (h : Preparing origin msg p s1) :=
    Triple.and _ (logonResets_spec h type) (after_run_spec s1 (logonResets msg))
  have check {s1 : Sys σ ω} (able : Verifiable origin msg false true s1)
      (late : instant ≤ reading s1.world) (order : InStep msg false true s1) :=
    Triple.and _ (verify_spec origin able) (verify_heard steady origin able timed late order)
  have accept {s1 : Sys σ ω} (h : ∃ c, LogonPassed origin msg c s1) := acceptLogon_spec h
  have ready {s t : Sys σ ω} (prepared : Prepared origin msg p s t)
      (after : t = s.after (logonResets msg).run)
      (clock : ∃ w, Passes s0.world w ∧ s = { s0 with world := w })
      (before : s = s0.after (logonTimeGood msg)) :
      instant ≤ reading t.world ∧ InStep msg false true t := by
    constructor
    case left =>
      obtain ⟨w, passes, rfl⟩ := clock
      exact late.trans (steady.passes (passes.trans (handling_passes prepared.handles)))
    case right =>
      rw [after, before]
      rwa [Sys.checking, if_pos type] at order
  mvcgen [handleLogon, time, resets, check, accept]
  all_goals
    clear check accept resets time
    subst_vars
  case vc4.h first =>
    obtain ⟨⟨w, passes, same⟩, -⟩ := first
    exact same ▸ prep.clock w
  case vc7.able prepared => exact .of_logon prepared.1.prep.item type
  case vc8.late first _ _ prepared => exact (ready prepared.1 prepared.2 first.1 first.2).1
  case vc9.order first _ _ prepared => exact (ready prepared.1 prepared.2 first.1 first.2).2
  case vc11.post.success.isTrue.post.success.post.success.h_1 checked => exact checked.2
  case vc12.post.success.isTrue.post.success.post.success.h_2.post.success checked =>
    exact fun accepted => Deals.heardSince steady accepted checked.2
  case vc13 prepared =>
    rintro _ - number passed - -
    have prep := prepared.1.prep
    exact passed.logon prep.item type number (prep.undisturbed type) prep.taken prepared.1.renewed

/-- A message in order is heard of by the handler of its type. -/
lemma dispatch_heard {mt} (ok : msg.msgType = .ok mt)
    (order : InStep msg msg.numberChecks.1 msg.numberChecks.2 (s0.checking msg)) :
    ⦃fun s => ⌜s = s0⌝⦄ dispatch mt msg
    ⦃post⟨fun _ s => ⌜HeardSince instant s⌝, fun _ _ => ⌜True⌝⟩⦄ := by
  have type := Message.msgTypeOrDefault_of_ok ok
  simp only [Message.numberChecks, Sys.checking, type] at order
  unfold dispatch
  split_ifs with logon plain test resend reset logout
  · refine handleLogon_heard steady up timed late (type.trans logon) ?_
    simpa [Sys.checking, type, logon] using order
  · refine handlePlainAdmin_heard steady up timed late ?_
    rcases plain with rfl | rfl <;> simpa +decide using order
  · refine handleTestRequest_heard steady up timed late ?_
    subst test
    simpa +decide using order
  · subst resend
    refine handleResendRequest_heard steady up timed late (msg.isAdmin_of_type type (by decide)) ?_
    simpa +decide using order
  · subst reset
    refine handleSequenceReset_heard steady up timed late (msg.isAdmin_of_type type (by decide)) ?_
    simpa +decide using order
  · subst logout
    refine handleLogout_heard steady up timed late (msg.isAdmin_of_type type (by decide)) ?_
    simpa +decide using order
  · refine handlePlainAdmin_heard steady up timed late ?_
    simpa [logon, reset, resend, logout] using order

/-- A message that the dictionary lets pass and that is in order is heard of. -/
lemma process_heard (heeds : Heeds msg s0) :
    ⦃fun s => ⌜s = s0⌝⦄ process msg
    ⦃post⟨fun _ s => ⌜HeardSince instant s⌝, fun _ _ => ⌜True⌝⟩⦄ := by
  have handle {mt} (ok : msg.msgType = .ok mt) :=
    dispatch_heard steady up timed late ok heeds.order
  have leave := @logOut_heard σ ω _ _ _ _ steady
  mvcgen [process, handle, leave]
  all_goals
    clear handle leave
    subst_vars
  case vc1.h_1 failed _ => cases failed.symm.trans heeds.type
  case vc3.late => exact late
  case vc4.h_2.isFalse.h_1.post.success refused _ _ => cases refused.symm.trans heeds.valid

end

/-! ## Frames -/

/-- A run takes no time back. -/
lemma Runs.passes {s t : Sys σ ω} (run : Runs s t) : Passes s.world t.world := by
  induction run with
  | refl => exact .refl
  | tail _ act ih => exact ih.trans act.passes

/-- Later acts leave what was heard. -/
lemma Runs.heardSince (steady : Steady ω) {instant} {s t : Sys σ ω} (run : Runs s t)
    (h : HeardSince instant s) : HeardSince instant t :=
  runs_keep (fun act h => act.heardSince steady h) run h

/-- The system once it took up a frame as a message. -/
def Sys.takingUp (msg : Message) (s : Sys σ ω) : Sys σ ω :=
  let t := s.after (noteReceived msg)
  t.called (.process .wire msg) t.world

/-- A message is heard of when its frame is handled. -/
lemma handleInbound_heard (steady : Steady ω) {msg instant} {s0 : Sys σ ω} (connected : s0.Connected)
    (timed : (msg.headerTime Tags.sendingTime).isSome = true) (late : instant ≤ reading s0.world)
    (heeds : Heeds msg (s0.called (.process .wire msg) s0.world)) :
    ⦃fun s => ⌜s = s0⌝⦄ handleInbound msg
    ⦃post⟨fun _ s => ⌜HeardSince instant s⌝, fun _ _ => ⌜True⌝⟩⦄ := by
  have up := takenUp_called s0 .wire msg
  have handle := Triple.and _ (process_explains up) (process_heard steady up timed late heeds)
  mvcgen [handleInbound, handle, drainStash, drainLoop_spec]
  all_goals
    clear handle
    subst_vars
  case vc1.pre => exact ⟨rfl, rfl⟩
  case vc2.post.success.post.success handled =>
    intro drained
    have live := (handled.1.1.runs (.inl connected)).2
    have drained := (drained live handled.1.2).1
    exact Runs.heardSince steady drained (handled.2.passes steady .refl handled.2.heard)

/-- Noting the number of a message makes no call. -/
lemma world_noteReceived (msg) (s : Sys σ ω) : (s.after (noteReceived msg)).world = s.world := by
  unfold noteReceived
  cases msg.seqNum <;> rfl

/-- A frame whose message gets to where the session hears from its peer is heard of. -/
lemma onInbound_heard (steady : Steady ω) {raw msg instant} {s0 : Sys σ ω}
    (parsed : Message.parse raw s0.session.cfg.validateLengthChecksum = .ok msg)
    (connected : s0.Connected) (timed : (msg.headerTime Tags.sendingTime).isSome = true)
    (late : instant ≤ reading s0.world) (heeds : Heeds msg (s0.takingUp msg)) :
    ⦃fun s => ⌜s = s0⌝⦄ onInbound raw ⦃⇓ _ s => ⌜s.session.HeardAt instant⌝⦄ := by
  have noted {m} {s1 : Sys σ ω} :=
    Triple.and _ (@noteReceived_spec σ ω _ _ _ _ m s1) (after_spec s1 (noteReceived m))
  have handle {m} {s1 : Sys σ ω} (same : m = msg) (connected : s1.Connected)
      (late : instant ≤ reading s1.world)
      (heeds : Heeds m (s1.called (.process .wire m) s1.world)) :=
    handleInbound_heard steady connected (same ▸ timed) late heeds
  mvcgen [onInbound, noted, handle, disconnect_spec]
  all_goals
    clear noted handle
    subst_vars
  case vc1.h_1.isTrue.post.success drop => exact .inr (.inr drop.gone)
  case vc2.h_1.isFalse failed _ => cases failed.symm.trans parsed
  case vc5.same again _ _ _ => exact Except.ok.inj (again.symm.trans parsed)
  case vc6.connected noted => exact noted.1.2 connected
  case vc7.late noted =>
    rw [noted.2, world_noteReceived]
    exact late
  case vc8.heeds again _ _ noted =>
    cases Except.ok.inj (again.symm.trans parsed)
    exact noted.2 ▸ heeds
  case vc9.h_2.post.success.post.success.post.success heard _ _ checked =>
    exact (Deals.heardSince steady checked.1 heard).heard
  case vc10.h_2.post.success.post.except.handle.post.success drop => exact .inr (.inr drop.gone)

/-! ## Runs -/

namespace Session

/-- The heartbeat timeout: the session is logged on and has not heard from its peer for 2.4
intervals. -/
structure TimesOut (now : Nat) (s : Session σ) : Prop where
  connected : s.isConnected = true
  stays : s.sentLogout = false
  logon : s.receivedLogon = true
  interval : s.heartBtInt ≠ 0
  silent : mulTenths s.heartBtInt 24 ≤ now - s.lastReceived

end Session

/-- At the heartbeat timeout the connection is given up. -/
lemma onProtocolDeadline_timesOut {s0 : Sys σ ω} (h : s0.session.TimesOut (reading s0.world)) :
    ⦃fun s => ⌜s = s0⌝⦄ onProtocolDeadline ⦃⇓ _ s => ⌜s.session.isConnected = false⌝⦄ := by
  unfold reading at h
  mvcgen -trivial [-ignoring_spec, -sendMessage_spec, onProtocolDeadline, instantNow, logOut_spec,
    sendTestRequest, disconnect_spec]
  all_goals subst_vars
  case vc2 | vc4 | vc8 | vc9 => exact fun drop => drop.gone
  case vc7.may => exact .inr (.inl h.connected)
  case vc1 lost => exact absurd h.connected (by simpa using lost)
  case vc3 leaving _ => exact absurd h.stays (by simp [leaving])
  case vc5 logon _ => exact absurd h.logon (by simpa using logon)
  case vc6 off => exact absurd off h.interval
  all_goals
    rename_i early _ _
    exact absurd h.silent early

/-- A frame of the peer that arrives on the connection: it parses, has the right BeginString and
CompIDs and a SendingTime within the latency window. -/
structure Genuine (raw : Bytes) (msg : Message) (s : Sys σ ω) : Prop where
  attached : s.session.inbound = true
  parsed : Message.parse raw s.session.cfg.validateLengthChecksum = .ok msg
  version : msg.header.getRaw Tags.beginString = some s.session.cfg.sessionId.beginString
  sender : msg.header.getRaw Tags.senderCompId = some s.session.cfg.sessionId.targetCompId
  target : msg.header.getRaw Tags.targetCompId = some s.session.cfg.sessionId.senderCompId
  timed : ∃ st ∈ msg.headerTime Tags.sendingTime,
    secondsApart (Runtime.utcNow s.world).1 st.time ≤ s.session.cfg.maxLatency

/-- Nothing is left of the connection when the loop ends. -/
lemma step_ends {input} (ended : ends input = true) (s0 : Sys σ ω) :
    ⦃fun s => ⌜s = s0⌝⦄ step input ⦃⇓ _ s => ⌜s.session.outbound = false⌝⦄ := by
  have leave {s1 : Sys σ ω} := after_spec s1 (logOut [])
  have wait {d frames} {s1 : Sys σ ω} := after_spec s1 (awaitLogout d frames)
  cases input with
  | stop frames =>
    mvcgen [step, onStop, instantNow, leave, wait, disconnect_spec]
    all_goals exact fun drop => drop.gone
  | dropped =>
    mvcgen [step, disconnect_spec]
    all_goals exact fun drop => drop.gone
  | _ => simp [ends] at ended

/-- The loop goes on where it was, unless it has ended. -/
lemma after_run_append (before after : List Input) (s : Sys σ ω) :
    s.after (run (before ++ after)) = (s.after (run before)).after (run after) ∨
      (s.after (run (before ++ after))).session.outbound = false := by
  induction before generalizing s with
  | nil => exact .inl rfl
  | cons input before ih =>
    by_cases ended : ends input = true
    · refine .inr ?_
      rw [List.cons_append, show s.after (run (input :: (before ++ after))) = s.after (step input) by
        simp only [run, ended]
        rfl]
      exact step_ends ended s s rfl
    · have next (inputs : List Input) :
          s.after (run (input :: inputs)) = (s.after (step input)).after (run inputs) := by
        simp only [run, ended]
        rfl
      rw [List.cons_append, next, next]
      exact ih _

/-- A genuine frame that gets to where the session hears from its peer is heard of ever after. -/
lemma run_heard (steady : Steady ω) {raw msg after} {s : Sys σ ω} (idle : handled s.trace = none)
    (genuine : Genuine raw msg s) (heeds : Heeds msg (s.takingUp msg)) :
    HeardSince (reading s.world) (s.after (run (.inbound raw :: after))) := by
  obtain ⟨st, timed, -⟩ := genuine.timed
  have linked : s.Connected := .inr genuine.attached
  have taken : s.after (step (.inbound raw)) = s.after (onInbound raw) := by
    show s.after (if s.session.inbound then onInbound raw else pure ()) = _
    rw [if_pos genuine.attached]
  have same : s.after (run (.inbound raw :: after)) = (s.after (onInbound raw)).after (run after) := by
    rw [← taken]
    rfl
  have heard : (s.after (onInbound raw)).session.HeardAt (reading s.world) :=
    onInbound_heard steady genuine.parsed linked (by simp [Option.mem_def.mp timed]) le_rfl heeds s rfl
  have first : Runs s (s.after (onInbound raw)) ∧ handled (s.after (onInbound raw)).trace = none :=
    onInbound_spec linked s ⟨rfl, idle⟩
  have rest : Runs (s.after (onInbound raw)) ((s.after (onInbound raw)).after (run after)) :=
    (run_spec (s.after (onInbound raw)) ⟨rfl, first.2⟩).1
  rw [same]
  exact Runs.heardSince steady rest ⟨steady.passes (Runs.passes first.1), heard⟩

end Runs

/-! ## Scripted runs -/

namespace Script

/-- An environment whose monotonic clock follows a script. -/
structure Clocked where
  /-- What the clock read last. -/
  last : Nat := 0
  /-- The seconds it reads next. -/
  seconds : List Nat

/-- What the monotonic clock reads next. -/
def Clocked.time (w : Clocked) : Nat := max w.last (w.seconds.headD 0 * nanosPerSec)

instance : Runtime Clocked where
  utcNow w := (0, w)
  instantNow w := (w.time, { last := w.time, seconds := w.seconds.tail })
  send _ w := (true, w)

instance : Application Clocked where
  onLogon w := w
  onLogout w := w
  toAdmin m w := (m, w)
  toApp m w := (some m, w)
  fromAdmin _ w := (.ok (), w)
  fromApp _ w := (.ok (), w)

/-- Its clock does not go back. -/
lemma Clocked.steady : Steady Clocked := by
  intro w w' call
  cases call with
  | instantNow => exact le_max_left _ _
  | _ => exact le_rfl

/-- A Heartbeat of the counterparty, as it is sent. -/
def heartbeat (seq : Nat) : Bytes := (fromPeer MsgType.heartbeat seq).toBytes

/-- A Heartbeat of the counterparty, as it is received. -/
def heartbeatRead (seq : Nat) : Message :=
  match Message.parse (heartbeat seq) true with
  | .ok m => m
  | .error _ => Message.withType MsgType.heartbeat

/-- A counterparty logs on at zero seconds. It is sent a Heartbeat at 30 and a TestRequest at 36
seconds. -/
def quietPeer : List Input := logonOnly ++ [.protocolTimer, .protocolTimer]

/-- An acceptor whose counterparty does more after that, at the given seconds. -/
def quiet (seconds : List Nat) (inputs : List Input) : Sys MemoryStore Clocked :=
  letI := epochDay
  .ran acceptor none none { creationTime := 0 } 0 { seconds := [0, 0, 0, 0, 30, 30, 36, 36] ++ seconds }
    (quietPeer ++ inputs)

end Script

end QuickFix
