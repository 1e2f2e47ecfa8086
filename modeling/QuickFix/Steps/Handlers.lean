import QuickFix.Steps.Inbound

/-!
# The handlers as runs of acts

Every handler is a run of `Act`, and so is the processing of a message. The one exception is the
reset of a Logout, which belongs to the disconnect that follows it: a message that ends the
connection leads to an `Ended` system.
-/

namespace QuickFix

set_option mvcgen.warning false
set_option linter.unusedSectionVars false

open Std.Do Session Relation

variable {σ ω : Type} [Chrono] [MessageStore σ] [Application ω] [Runtime ω]

/-! ## After `verify` -/

/-- An admin message that passed is part of a run. -/
lemma CallbackReady.passed {origin msg} {s t : Sys σ ω} (ready : CallbackReady origin msg s)
    (admin : msg.isAdmin = true) (h : Passed msg s t) : Deals s t := by
  obtain ⟨now, w, read, passes, rfl⟩ := h
  exact (hear read .refl).trans ((ready.heard now s.world).fromAdmin admin _ passes)

/-- An application message that passed is counted. -/
lemma CallbackReady.delivered {origin msg} {s t : Sys σ ω} (ready : CallbackReady origin msg s)
    (app : msg.isAdmin = false) (h : Passed msg s t) : Deals s t.counted := by
  obtain ⟨now, w, read, passes, rfl⟩ := h
  exact (hear read .refl).trans ((ready.heard now s.world).deliver app _ passes)

/-- The message is still handled once it passed. -/
lemma Passed.item {origin msg} {s t : Sys σ ω} (h : Passed msg s t)
    (item : handled s.trace = some (.message origin msg)) :
    handled t.trace = some (.message origin msg) := by
  obtain ⟨now, w, -, -, rfl⟩ := h
  simp only [incoming, Sys.called, Sys.updated]
  split <;> exact item

/-- A message that passed leaves the store alone. -/
lemma Passed.nextTarget {msg} {s t : Sys σ ω} (h : Passed msg s t) :
    t.nextTarget = s.nextTarget := by
  obtain ⟨now, w, -, -, rfl⟩ := h
  rfl

/-- Sending goes on from the callback an admin message passed. -/
lemma Passed.sentSince {origin msg} {s t u : Sys σ ω} (h : Passed msg s t)
    (item : handled s.trace = some (.message origin msg)) (admin : msg.isAdmin = true)
    (sent : Sends t u) :
    ∃ c : Call σ, c.nextTarget = s.nextTarget ∧ SentSince origin msg c u := by
  obtain ⟨now, w, -, -, rfl⟩ := h
  rw [incoming, if_pos admin] at sent
  obtain ⟨recent, tr, log⟩ := sent.log (by rintro ⟨c, hd, raw, ev⟩; cases hd; cases ev)
  exact ⟨_, rfl, ⟨recent, _, tr, log, item⟩, rfl⟩

/-- The number a passed message was checked for on both sides. -/
lemma NumberChecked.number {msg} {s : Sys σ ω} (h : NumberChecked msg true true s)
    (type : msg.msgTypeOrDefault ≠ MsgType.sequenceReset) : msg.seqNum = .ok s.nextTarget := by
  obtain ⟨seq, ok, le⟩ := h.high rfl
  obtain ⟨seq', ok', ge⟩ := h.low rfl
  obtain rfl : seq = seq' := by simpa [ok] using ok'
  rw [ok, Nat.le_antisymm le (ge.resolve_right type)]

/-! ## Handlers -/

/-- A message that passed both checks of its number is counted. -/
lemma CallbackReady.counted {origin msg} {s t : Sys σ ω} (ready : CallbackReady origin msg s)
    (type : msg.msgTypeOrDefault ≠ MsgType.sequenceReset) (number : NumberChecked msg true true s)
    (passed : Passed msg s t) : Deals s t.counted := by
  cases admin : msg.isAdmin with
  | false => exact ready.delivered admin passed
  | true =>
    refine (ready.passed admin passed).tail (.incrTarget (.inSequence (passed.item ready.item) ?_))
    rw [number.number type, passed.nextTarget]

/-- Heartbeat and Reject are counted when they are in sequence. -/
lemma handlePlainAdmin_spec {origin msg} {s0 : Sys σ ω} (up : TakenUp origin msg s0)
    (type : msg.msgTypeOrDefault ≠ MsgType.sequenceReset) :
    ⦃fun s => ⌜s = s0⌝⦄ handlePlainAdmin msg
    ⦃post⟨fun _ s => ⌜Deals s0 s⌝, fun _ s => ⌜Deals s0 s⌝⟩⦄ := by
  have able := Verifiable.of_takenUp true true up (by simp)
  have check := verify_spec origin able
  mvcgen [handlePlainAdmin, check, incrTarget, incrNextTargetSeqNum, storeOp]
  case vc2.post.success.h_1 run => exact run.2
  all_goals
    rename_i cont
    obtain ⟨⟨state, number, passed⟩, -⟩ := cont
    exact (able.ready state number).counted type number passed

/-- An application message is counted when it is in sequence. -/
lemma handleAppMessage_spec {origin msg} {s0 : Sys σ ω} (up : TakenUp origin msg s0)
    (type : msg.msgTypeOrDefault ≠ MsgType.sequenceReset) :
    ⦃fun s => ⌜s = s0⌝⦄ handleAppMessage msg
    ⦃post⟨fun _ s => ⌜Deals s0 s⌝, fun _ s => ⌜Deals s0 s⌝⟩⦄ :=
  handlePlainAdmin_spec up type

/-- A TestRequest is answered and counted when it is in sequence. -/
lemma handleTestRequest_spec {origin msg} {s0 : Sys σ ω} (up : TakenUp origin msg s0)
    (type : msg.msgTypeOrDefault = MsgType.testRequest) :
    ⦃fun s => ⌜s = s0⌝⦄ handleTestRequest msg
    ⦃post⟨fun _ s => ⌜Deals s0 s⌝, fun _ s => ⌜Deals s0 s⌝⟩⦄ := by
  have able := Verifiable.of_takenUp true true up (by simp)
  have admin := msg.isAdmin_of_type type (by decide)
  have check := verify_spec origin able
  mvcgen [handleTestRequest, check, incrTarget, incrNextTargetSeqNum, storeOp]
  case vc2.post.success.h_1 run => exact run.2
  all_goals
    rename_i s eq _ _ _ _ t _ u sent _ _ cont
    obtain ⟨⟨state, number, passed⟩, -⟩ := cont
    have run := (able.ready state number).passed admin passed
    obtain ⟨c, same, since⟩ := passed.sentSince able.item admin sent
    refine (run.trans sent.deals).tail (.incrTarget (.testRequest since type ?_))
    rw [same]
    exact number.number (by rw [type]; decide)

/-- Looking up the number sent last, if that is called for, is part of handling. -/
lemma lookedUp (s : Sys σ ω) (due : Bool) :
    HandleAct false s (s.called (.compute (if due then [.lastSent] else [])) s.world) :=
  .send (.compute _ (.due .lastSent due))

/-- The end of the range a ResendRequest asks for was sent before. -/
lemma sentBefore_end {s : Sys σ ω} (end' : Nat) {openEnded : Bool}
    (due : openEnded = (end' == 0 || end' == 999999 || decide (s.nextSender ≤ end'))) :
    SentBefore (if openEnded then s.nextSender - 1 else end')
      (s.called (.compute (if openEnded then [.lastSent] else [])) s.world) := by
  refine ⟨_, List.mem_cons_self, ?_⟩
  change _ ≤ max 1 s.nextSender
  split
  case isTrue => omega
  case isFalse closed =>
    simp only [due, Bool.or_eq_true, decide_eq_true_eq, not_or] at closed
    omega

/-- A ResendRequest is answered, and counted when it is in sequence after that. -/
lemma handleResendRequest_spec {origin msg} {s0 : Sys σ ω} (up : TakenUp origin msg s0)
    (admin : msg.isAdmin = true) :
    ⦃fun s => ⌜s = s0⌝⦄ handleResendRequest msg
    ⦃post⟨fun _ s => ⌜Deals s0 s⌝, fun _ s => ⌜Deals s0 s⌝⟩⦄ := by
  have able := Verifiable.of_takenUp false false up (by simp [admin])
  have check := verify_spec origin able
  mvcgen [handleResendRequest, check, answerResend_spec, incrTarget, incrNextTargetSeqNum, storeOp]
  case vc2.post.success.h_1 run => exact run.2
  case vc3.sent => exact sentBefore_end _ rfl
  case vc6.post.success.h_2.post.success.isFalse =>
    rename_i s eq _ _ _ _ t _ openEnded _ _ u sent _ cont
    obtain ⟨⟨state, number, passed⟩, -⟩ := cont
    have run := (able.ready state number).passed admin passed
    exact (run.tail (lookedUp t openEnded)).trans (Resends.sends sent).deals
  all_goals
    rename_i s eq _ _ _ _ t _ openEnded _ _ u sent due _ _ cont
    obtain ⟨⟨state, number, passed⟩, -⟩ := cont
    have run := ((able.ready state number).passed admin passed).tail (lookedUp t openEnded)
    have handling := (Resends.sends sent).handled.trans (passed.item able.item)
    exact (run.trans (Resends.sends sent).deals).tail (.incrTarget (.inSequence handling due))

/-- A number read from the body is in the range of `u64`. -/
lemma Message.bodyU64_lt {m : Message} {tag n} (h : m.bodyU64 tag = some n) : n < 2 ^ 64 := by
  unfold bodyU64 FieldMap.getOpt at h
  cases found : m.body.getRaw tag with
  | none => simp [found] at h
  | some raw =>
    cases decoded : decodeU64 tag raw with
    | error e => simp [found, decoded, Except.map] at h
    | ok k =>
      obtain rfl : k = n := by simpa [found, decoded, Except.map] using h
      exact decodeU64_lt decoded

/-- A SequenceReset moves the number up, or is refused. -/
lemma handleSequenceReset_spec {origin msg} {s0 : Sys σ ω} (up : TakenUp origin msg s0)
    (admin : msg.isAdmin = true) :
    ⦃fun s => ⌜s = s0⌝⦄ handleSequenceReset msg
    ⦃post⟨fun _ s => ⌜Deals s0 s⌝, fun _ s => ⌜Deals s0 s⌝⟩⦄ := by
  have able (b) := Verifiable.of_takenUp b b up (by simp [admin])
  have check {b} := verify_spec origin (able b)
  mvcgen [handleSequenceReset, check, setNextTargetSeqNum, storeOp]
  case vc2.post.success.h_1 run => exact run.2
  case vc3.post.success.h_2.h_1 =>
    rename_i s eq _ _ _ t cont
    obtain ⟨⟨state, number, passed⟩, -⟩ := cont
    exact ((able _).ready state number).passed admin passed
  case vc4.post.success.h_2.h_2.isTrue.h_1 =>
    rename_i s eq _ _ n found t expected up _ _ cont
    obtain ⟨⟨state, number, passed⟩, -⟩ := cont
    have run := ((able _).ready state number).passed admin passed
    have item := passed.item (able true).item
    exact (run.tail (.moveTarget n item (Message.bodyU64_lt found) up)).tail (.supersede n)
  case vc5.post.success.h_2.h_2.isTrue.h_2 =>
    rename_i s eq _ _ n found t expected up _ _ cont
    obtain ⟨⟨state, number, passed⟩, -⟩ := cont
    have item := passed.item (able true).item
    exact (((able _).ready state number).passed admin passed).tail
      (.moveTarget n item (Message.bodyU64_lt found) up)
  case vc6.post.success.h_2.h_2.isFalse.isTrue.post.success =>
    rename_i s eq _ _ n _ t _ _ _ _ u cont
    obtain ⟨⟨state, number, passed⟩, -⟩ := cont
    intro rejected
    have run := ((able _).ready state number).passed admin passed
    exact run.trans (rejected.deals (passed.item (able true).item))
  case vc7.post.success.h_2.h_2.isFalse.isFalse =>
    rename_i s eq _ _ n _ t _ _ _ cont
    obtain ⟨⟨state, number, passed⟩, -⟩ := cont
    exact ((able _).ready state number).passed admin passed

/-! ## Logon -/

/-- A Logon that was just taken up is about to be prepared for. -/
lemma TakenUp.preparing {origin msg} {s : Sys σ ω} (up : TakenUp origin msg s) :
    ∃ p, Preparing origin msg p s := by
  obtain ⟨p, rest, trace, taken, lastReceived, counter, same⟩ := up
  refine ⟨p, ⟨[], rest, trace, by simp⟩, taken, ?_, ?_, fun h => ?_, ?_, ?_⟩
  · rw [same]
  · rw [same]
  · rwa [same] at h
  · rw [same]
  · rw [same]

/-- Reading a clock prepares nothing. -/
lemma Preparing.clock {origin msg p} {s : Sys σ ω} (h : Preparing origin msg p s) (w : ω) :
    Preparing origin msg p { s with world := w } :=
  ⟨h.log, h.taken, h.cfg, h.sentReset, h.received, h.same⟩

/-- The Logon is handled while its store is prepared. -/
lemma Preparing.item {origin msg p} {s : Sys σ ω} (h : Preparing origin msg p s) :
    handled s.trace = some (.message origin msg) := by
  obtain ⟨recent, rest, trace, asked⟩ := h.log
  rw [trace]
  clear trace
  induction recent with
  | nil => simp only [List.nil_append, handled, h.taken]
  | cons d recent ih =>
    have last := asked d (by simp)
    have ih := ih fun d mem => asked d (by simp [mem])
    rw [List.cons_append, handled]
    cases ev : d.event <;> first | exact ih | (rw [ev] at last; cases last)

/-- The connection is the one the Logon was taken up on. -/
lemma Preparing.undisturbed {origin msg p} {s : Sys σ ω} (h : Preparing origin msg p s)
    (type : msg.msgTypeOrDefault = MsgType.logon) : Undisturbed s := by
  obtain ⟨recent, rest, trace, -⟩ := h.log
  exact ⟨p, by simp [trace], ⟨origin, msg, h.taken, type⟩, h.same⟩

/-- What is asked of the store belongs to the preparation. -/
lemma Preparing.stored {origin msg p e} {s : Sys σ ω} (h : Preparing origin msg p s)
    (asked : Asked msg p.session e) (st : σ) : Preparing origin msg p (s.stored e st) := by
  obtain ⟨recent, rest, trace, all⟩ := h.log
  refine ⟨⟨_ :: recent, rest, congrArg _ trace, ?_⟩, h.taken, h.cfg, h.sentReset, h.received, h.same⟩
  exact List.forall_mem_cons.mpr ⟨asked, all⟩

/-- A Logon whose resets and reloads were done so far. -/
structure Prepared (origin : Origin) (msg : Message) (p : Call σ) (s t : Sys σ ω) : Prop where
  handles : Handles s t
  prep : Preparing origin msg p t
  flagged : msg.bodyFlag Tags.resetSeqNumFlag = true → t.session.receivedReset = true
  renewed : Renewed msg p t.trace

/-- Another reset or reload the Logon asks for. -/
lemma Prepared.stored {origin msg p e} {s t : Sys σ ω} (h : Prepared origin msg p s t)
    (asked : Asked msg p.session e) (st : σ) (act : HandleAct true t (t.stored e st)) :
    Prepared origin msg p s (t.stored e st) := by
  refine ⟨h.handles.tail act, h.prep.stored asked st, h.flagged, ?_⟩
  obtain ⟨recent, rest, trace, all, done⟩ := h.renewed
  refine ⟨_ :: recent, rest, congrArg _ trace, List.forall_mem_cons.mpr ⟨asked, all⟩, fun flag own => ?_⟩
  obtain ⟨d, mem, ev⟩ := done flag own
  exact ⟨d, List.mem_cons_of_mem _ mem, ev⟩

/-- Reading a clock in between. -/
lemma Prepared.clock {origin msg p} {s t : Sys σ ω} (h : Prepared origin msg p s t) {w : ω}
    (passes : Passes t.world w) : Prepared origin msg p s { t with world := w } :=
  ⟨h.handles.tail (.send (.clock w passes)), h.prep.clock w, h.flagged, h.renewed⟩

/-- The reload of an acceptor. -/
lemma Prepared.refresh {origin msg p} {s t : Sys σ ω} (h : Prepared origin msg p s t) (now)
    {w : ω} (passes : Passes t.world w) (acceptor : t.session.isInitiator = false)
    (setting : t.session.cfg.refreshOnLogon = true) :
    Prepared origin msg p s ({ t with world := w }.stored
      (.refresh (MessageStore.refresh now t.session.store).1)
      (MessageStore.refresh now t.session.store).2) := by
  have asked (res) : Asked msg p.session (.refresh res) :=
    .refresh (by rwa [isInitiator, ← h.prep.cfg]) (by rwa [← h.prep.cfg])
  exact (h.clock passes).stored (asked _) _ (.refresh now rfl (h.clock passes).prep asked)

/-- The reset of an acceptor. -/
lemma Prepared.reset {origin msg p} {s t : Sys σ ω} (h : Prepared origin msg p s t) (now) {w : ω}
    (passes : Passes t.world w) (acceptor : t.session.isInitiator = false)
    (setting : t.session.cfg.resetOnLogon = true) (received : t.session.receivedReset = false) :
    Prepared origin msg p s ({ t with world := w }.stored
      (.reset .logon (MessageStore.reset now t.session.store).1)
      (MessageStore.reset now t.session.store).2) := by
  have flag : msg.bodyFlag Tags.resetSeqNumFlag = false := by
    by_contra flag
    rw [h.flagged ((Bool.not_eq_false _).mp flag)] at received
    cases received
  have asked (res) : Asked msg p.session (.reset .logon res) :=
    .logon (by rwa [isInitiator, ← h.prep.cfg]) (by rwa [← h.prep.cfg]) (h.prep.received received) flag
  exact (h.clock passes).stored (asked _) _ (.reset .logon now rfl (h.clock passes).prep asked)

/-- Noting that the peer resets. -/
lemma Preparing.receivingReset {origin msg p} {s : Sys σ ω} (h : Preparing origin msg p s) :
    Preparing origin msg p (s.updated Session.receivingReset) :=
  ⟨h.log, h.taken, h.cfg, h.sentReset, nofun, h.same⟩

/-- A Logon that asks for no reset of its own needs nothing yet. -/
lemma Preparing.renewed {origin msg p} {s : Sys σ ω} (h : Preparing origin msg p s)
    (none : msg.bodyFlag Tags.resetSeqNumFlag = true → p.session.sentReset = true) :
    Renewed msg p s.trace := by
  obtain ⟨recent, rest, trace, asked⟩ := h.log
  refine ⟨recent, rest, trace, asked, fun flag own => ?_⟩
  rw [none flag] at own
  cases own

/-- Looking at the SendingTime of a Logon reads a clock. -/
lemma logonTimeGood_spec {msg} {s0 : Sys σ ω} :
    ⦃fun s => ⌜s = s0⌝⦄ logonTimeGood msg ⦃⇓ _ s => ⌜∃ w, Passes s0.world w ∧ s = { s0 with world := w }⌝⦄ := by
  mvcgen [logonTimeGood, utcNow]
  all_goals
    subst_vars
    first
    | exact ⟨_, passes_utcNow _, rfl⟩
    | exact ⟨_, .refl, rfl⟩

/-- The reset the peer asks for. -/
lemma peerReset_spec {origin msg p} {s0 : Sys σ ω} (prep : Preparing origin msg p s0)
    (type : msg.msgTypeOrDefault = MsgType.logon) :
    ⦃fun s => ⌜s = s0⌝⦄ peerReset msg
    ⦃post⟨fun _ s => ⌜Prepared origin msg p s0 s⌝, fun _ s => ⌜Handles s0 s⌝⟩⦄ := by
  have noted : Handles s0 (s0.updated Session.receivingReset) :=
    .single (.receivingReset (prep.undisturbed type))
  have asked (flag : msg.bodyFlag Tags.resetSeqNumFlag = true)
      (own : (!s0.session.sentReset) = true) (res) : Asked msg p.session (.reset .resetFlag res) :=
    .resetFlag flag (by simpa [← prep.sentReset] using own)
  have run (flag) (own) (now) :=
    (noted.tail (.send (.clock (Runtime.utcNow s0.world).2 (passes_utcNow _)))).tail
      (.reset .resetFlag now rfl (prep.receivingReset.clock _) (asked flag own))
  mvcgen [peerReset, storeReset, utcNow, storeOp]
  all_goals subst_vars
  case vc1.isTrue.isTrue.h_1 flag s own _ done =>
    have clock := prep.receivingReset.clock (Runtime.utcNow s.world).2
    refine ⟨run flag own _, clock.stored (asked flag own _) _, fun _ => rfl, ?_⟩
    obtain ⟨recent, rest, trace, all⟩ := prep.log
    refine ⟨_ :: recent, rest, congrArg _ trace, ?_, fun _ _ => ⟨_, List.mem_cons_self, ?_⟩⟩
    · exact List.forall_mem_cons.mpr ⟨asked flag own _, all⟩
    · exact congrArg _ done
  case vc2.isTrue.isTrue.h_2 flag s own _ _ => exact run flag own _
  case vc3.isTrue.isFalse flag s own =>
    refine ⟨noted, prep.receivingReset, fun _ => rfl, prep.receivingReset.renewed fun _ => ?_⟩
    simpa [← prep.sentReset] using own
  case vc4.isFalse flag s => exact ⟨.refl, prep, fun h => absurd h flag, prep.renewed (absurd · flag)⟩

/-- The reload and the reset of an acceptor. -/
lemma acceptorResets_spec {origin msg p} {s s0 : Sys σ ω} (h : Prepared origin msg p s s0)
    (acceptor : s0.session.isInitiator = false) :
    ⦃fun s => ⌜s = s0⌝⦄ acceptorResets ⦃⇓ _ t => ⌜Prepared origin msg p s t⌝⦄ := by
  have due {x : Session σ} (h : (x.cfg.resetOnLogon && !x.receivedReset) = true) :
      x.cfg.resetOnLogon = true ∧ x.receivedReset = false := by
    simpa using h
  mvcgen [acceptorResets, storeRefresh, utcNow, storeOp]
  all_goals subst_vars
  case vc2.isTrue.h_1.isFalse setting _ _ _ => exact h.refresh _ (passes_utcNow _) acceptor setting
  case vc4.isTrue.h_2.isFalse setting _ _ _ => exact h.refresh _ (passes_utcNow _) acceptor setting
  case vc5.isFalse.isTrue reset =>
    exact h.reset _ (passes_utcNow _) acceptor (due reset).1 (due reset).2
  case vc6.isFalse.isFalse => exact h
  all_goals
    rename_i setting _ _ reset
    exact (h.refresh _ (passes_utcNow _) acceptor setting).reset _ (passes_utcNow _) acceptor
      (due reset).1 (due reset).2

/-- The resets and reloads before a Logon is verified. -/
lemma logonResets_spec {origin msg p} {s0 : Sys σ ω} (prep : Preparing origin msg p s0)
    (type : msg.msgTypeOrDefault = MsgType.logon) :
    ⦃fun s => ⌜s = s0⌝⦄ logonResets msg
    ⦃post⟨fun _ s => ⌜Prepared origin msg p s0 s⌝, fun _ s => ⌜Handles s0 s⌝⟩⦄ := by
  have accept {s1 : Sys σ ω} (h : Prepared origin msg p s0 s1) := acceptorResets_spec h
  mvcgen [logonResets, peerReset_spec, accept]
  all_goals clear accept
  case vc3.prep s eq => exact eq ▸ prep
  case vc5.post.success.isTrue s eq _ t reset _ => exact eq ▸ reset.handles
  case vc6.h s eq _ t reset _ _ => exact eq ▸ reset
  case vc7.acceptor acceptor => simpa using acceptor
  case vc8.post.success.isFalse.isFalse s eq _ t reset _ _ => exact eq ▸ reset
  case vc9.post.except.handle s eq _ t => exact fun run => eq ▸ run

/-- Where to send again from is read off, or the logon ends in a logout. -/
lemma retransmitFrom_spec {item} (msg) {s0 : Sys σ ω} (handling : handled s0.trace = some item) :
    ⦃fun s => ⌜s = s0⌝⦄ retransmitFrom msg
    ⦃post⟨fun _ s => ⌜s = s0⌝, fun _ s => ⌜Sends s0 s⌝⟩⦄ := by
  mvcgen [retransmitFrom, logOut_spec]
  case vc2.may => exact .of_item (‹_ = s0› ▸ handling)
  case vc3.isTrue.h_2.isTrue.post.success s eq _ _ _ _ _ _ t sent => exact eq ▸ sent

/-- A Logon is counted when that is justified, or stashed. -/
lemma countLogon_spec {origin msg} {s0 : Sys σ ω}
    (item : handled s0.trace = some (.message origin msg))
    (why : ∀ seq, msg.seqNum = .ok seq → seq ≤ s0.nextTarget → Counted s0) :
    ⦃fun s => ⌜s = s0⌝⦄ countLogon msg
    ⦃post⟨fun _ s => ⌜Deals s0 s⌝, fun _ s => ⌜Deals s0 s⌝⟩⦄ := by
  mvcgen [countLogon, stashMessage, expect, onTargetTooHigh_spec, incrTarget, incrNextTargetSeqNum,
    storeOp]
  case vc1.h_1 s eq => exact eq ▸ .refl
  case vc2.h_2.isTrue.isTrue seq number s eq expected high _ =>
    subst eq
    exact .single (.stashAndExpect item number high (by simp) (.gap high)
      (le_refl _) (fun _ => Nat.le_sub_one_of_lt high) (fun own => by cases own) fun _ => ⟨rfl, rfl⟩)
  case vc4.item s eq _ _ _ => exact eq ▸ item
  case vc7 | vc8 =>
    rename_i s eq _ _ _ _ t
    exact fun run => eq ▸ run
  all_goals
    rename_i seq number s eq _ notHigh _ _
    subst eq
    exact .single (.incrTarget (why seq number (Nat.le_of_not_lt notHigh)))

/-- Answering a Logon is a run of the outbound half. -/
lemma answerLogon_spec {msg : Message} {s0 : Sys σ ω} (same : Undisturbed s0)
    (passed : PassedLogon msg s0.trace) (type : msg.msgTypeOrDefault = MsgType.logon) :
    ⦃fun s => ⌜s = s0⌝⦄ answerLogon msg
    ⦃post⟨fun _ s => ⌜∃ t, Sends s0 t ∧ s = t.updated endingResets⌝, fun _ s => ⌜Sends s0 s⌝⟩⦄ := by
  mvcgen [answerLogon, sendLogonReply_spec]
  case vc1.same => exact ‹_ = s0› ▸ same
  case vc2.acceptor s eq _ acceptor => simpa using acceptor
  case vc3.passed => exact ‹_ = s0› ▸ passed
  case vc5.isTrue.post.success s eq _ _ _ t sent => exact ⟨t, eq ▸ sent, rfl⟩
  case vc6.isTrue.post.except.handle s eq _ _ _ t => exact fun sent => eq ▸ sent
  case vc7.isFalse s eq _ _ => exact ⟨s, eq ▸ .refl, rfl⟩

/-- What a logon is completed with is part of a run. -/
lemma completeLogon_spec {from'} {s0 : Sys σ ω} :
    ⦃fun s => ⌜s = s0⌝⦄ completeLogon from' ⦃⇓ _ s => ⌜Deals s0 s⌝⦄ := by
  generalize goal : Deals s0 = R
  mvcgen [completeLogon, answerResend_spec]
  case vc1.sent | vc4.sent =>
    rename_i s _ _ _ _ _
    refine ⟨_, List.mem_cons_self, ?_⟩
    change s.nextSender - 1 + 1 ≤ max 1 s.nextSender
    omega
  case vc2.isTrue.h_1.post.success s eq _ loggedOn _ _ _ t =>
    refine fun sent => goal ▸ eq ▸ ?_
    have run := (ReflTransGen.single (lookedUp _ true)).trans (Resends.sends sent).deals
    exact (ReflTransGen.single (.onLogon loggedOn)).trans run
  case vc3.isTrue.h_2 s eq _ loggedOn _ => exact goal ▸ eq ▸ .single (.onLogon loggedOn)
  case vc5.isFalse.h_1.post.success s eq _ _ _ _ _ t =>
    exact fun sent => goal ▸ eq ▸ (ReflTransGen.single (lookedUp _ true)).trans (Resends.sends sent).deals
  case vc6.isFalse.h_2 s eq _ _ _ => exact goal ▸ eq ▸ .refl

/-- A Logon that has passed. -/
structure LogonPassed (origin : Origin) (msg : Message) (c : Call σ) (s : Sys σ ω) : Prop where
  log : ∃ rest, s.trace = c :: rest ∧ handled rest = some (.message origin msg)
  passed : c.event = .fromAdmin msg (.ok ())
  type : msg.msgTypeOrDefault = MsgType.logon
  low : ∀ seq, msg.seqNum = .ok seq → c.nextTarget ≤ seq
  renewed : PassedLogon msg s.trace
  same : Undisturbed s

/-- Nothing but sending was done since. -/
lemma LogonPassed.sentSince {origin msg c} {s t u : Sys σ ω} (h : LogonPassed origin msg c s)
    (same : t.trace = s.trace) (sent : Sends t u) : SentSince origin msg c u := by
  obtain ⟨rest, tr, item⟩ := h.log
  obtain ⟨recent, tr', log⟩ := sent.log (by
    rintro ⟨c', hd, raw, ev⟩
    obtain rfl : c = c' := by simpa [same, tr] using hd
    simp [h.passed] at ev)
  exact ⟨⟨recent, rest, by rw [tr', same, tr], log, item⟩, h.passed⟩

/-- Counting a Logon is justified while nothing but sending was done since it passed. -/
lemma LogonPassed.why {origin msg c} {s t u : Sys σ ω} (h : LogonPassed origin msg c s)
    (same : t.trace = s.trace) (sent : Sends t u) :
    ∀ seq, msg.seqNum = .ok seq → seq ≤ u.nextTarget → Counted (u.updated endingResets) := by
  intro seq number high
  have since := h.sentSince same sent
  exact .logon ⟨since.log, since.passed⟩ h.type number (h.low seq number) high

/-- Accepting a Logon that has passed is part of handling it. -/
lemma LogonPassed.accepted {origin msg c} {s : Sys σ ω} (h : LogonPassed origin msg c s) :
    Deals s (s.updated receivingLogon) := by
  obtain ⟨rest, tr, item⟩ := h.log
  exact .single (.logon tr h.passed h.type item h.same)

/-- The Logon is still handled. -/
lemma LogonPassed.item {origin msg c} {s : Sys σ ω} (h : LogonPassed origin msg c s) :
    handled s.trace = some (.message origin msg) := by
  obtain ⟨rest, tr, item⟩ := h.log
  rw [tr, handled, h.passed]
  exact item

/-- What follows a Logon that has passed is part of handling it. -/
lemma acceptLogon_spec {origin msg} {s0 : Sys σ ω} (passed : ∃ c, LogonPassed origin msg c s0) :
    ⦃fun s => ⌜s = s0⌝⦄ acceptLogon msg
    ⦃post⟨fun _ s => ⌜Deals s0 s⌝, fun _ s => ⌜Deals s0 s⌝⟩⦄ := by
  obtain ⟨c, passed⟩ := passed
  have count {s1 : Sys σ ω} (item : handled s1.trace = some (.message origin msg)) :=
    countLogon_spec item
  have look {s1 : Sys σ ω} (item : handled s1.trace = some (.message origin msg)) :=
    retransmitFrom_spec msg item
  have same : Undisturbed (s0.updated receivingLogon) := passed.same.keep (fun _ h => h) rfl rfl
  mvcgen [acceptLogon, look, answerLogon_spec, count, completeLogon_spec]
  all_goals clear look count
  case vc1.item s eq => exact eq ▸ passed.item
  case vc2.same s eq _ s1 eq1 =>
    subst eq1 eq
    exact same
  case vc3.passed s eq _ s1 eq1 =>
    subst eq1 eq
    exact passed.renewed
  case vc4.type => exact passed.type
  case vc5.item s eq _ s1 eq1 _ u answered =>
    obtain ⟨t, sent, rfl⟩ := answered
    subst eq1 eq
    exact sent.handled.trans passed.item
  case vc6.why s eq _ s1 eq1 _ u answered =>
    obtain ⟨t, sent, rfl⟩ := answered
    subst eq1 eq
    exact LogonPassed.why (u := t) passed (by rfl) sent
  case vc7.post.success.post.success.post.success.post.success =>
    rename_i s eq _ s1 eq1 _ u answered _ v counted _ w
    obtain ⟨t, sent, rfl⟩ := answered
    subst eq1 eq
    intro completed
    have ended := (passed.accepted.trans (Sends.deals sent)).tail .endingResets
    exact (ended.trans counted).trans completed
  case vc8.post.success.post.success.post.except.handle =>
    rename_i s eq _ s1 eq1 _ u answered _ v
    obtain ⟨t, sent, rfl⟩ := answered
    subst eq1 eq
    intro counted
    exact ((passed.accepted.trans (Sends.deals sent)).tail .endingResets).trans counted
  case vc9.post.success.post.except.handle s eq _ s1 eq1 _ t =>
    subst eq1 eq
    exact fun sent => passed.accepted.trans (Sends.deals sent)
  case vc10.post.except.handle s eq _ t =>
    subst eq
    exact fun sent => passed.accepted.trans (Sends.deals sent)

/-- A Logon is verifiable while it is handled. -/
lemma Verifiable.of_logon {origin msg high low} {s : Sys σ ω}
    (item : handled s.trace = some (.message origin msg))
    (type : msg.msgTypeOrDefault = MsgType.logon) : Verifiable origin msg high low s :=
  ⟨item, .inr type, fun app => by simp [msg.isAdmin_of_type type (by decide)] at app⟩

/-- A message that passed leaves the connection alone. -/
lemma Passed.same {msg} {s t : Sys σ ω} (h : Passed msg s t) (same : Undisturbed s) :
    Undisturbed t := by
  obtain ⟨now, w, -, -, rfl⟩ := h
  exact same.keep (List.subset_cons_self _ _) rfl rfl

/-- A Logon that `verify` lets pass has passed. -/
lemma Passed.logon {origin msg} {s t : Sys σ ω} (h : Passed msg s t)
    (item : handled s.trace = some (.message origin msg))
    (type : msg.msgTypeOrDefault = MsgType.logon) (number : NumberChecked msg false true s)
    (same : Undisturbed s) {p} (taken : p.event = .process origin msg)
    (renewed : Renewed msg p s.trace) : ∃ c, LogonPassed origin msg c t := by
  have same := h.same same
  obtain ⟨now, w, -, -, rfl⟩ := h
  rw [incoming, if_pos (msg.isAdmin_of_type type (by decide))] at same ⊢
  refine ⟨_, ⟨_, rfl, item⟩, rfl, type, fun seq ok => ?_, ?_, same⟩
  case refine_2 => exact ⟨_, p, _, rfl, rfl, ⟨origin, taken⟩, renewed⟩
  obtain ⟨seq', ok', ge⟩ := number.low rfl
  obtain rfl : seq = seq' := by simpa [ok] using ok'
  exact ge.resolve_right (by rw [type]; decide)

/-- Handling a Logon. -/
lemma handleLogon_spec {origin msg} {s0 : Sys σ ω} (up : TakenUp origin msg s0)
    (type : msg.msgTypeOrDefault = MsgType.logon) :
    ⦃fun s => ⌜s = s0⌝⦄ handleLogon msg
    ⦃post⟨fun _ s => ⌜Handles s0 s⌝, fun _ s => ⌜Handles s0 s⌝⟩⦄ := by
  obtain ⟨p, prep⟩ := up.preparing
  have resets {s1 : Sys σ ω} (h : Preparing origin msg p s1) := logonResets_spec h type
  have check {s1 : Sys σ ω} (h : Verifiable origin msg false true s1) := verify_spec origin h
  have accept {s1 : Sys σ ω} (h : ∃ c, LogonPassed origin msg c s1) := acceptLogon_spec h
  have clock {s t : Sys σ ω} (eq : s = s0) (h : ∃ w, Passes s.world w ∧ t = { s with world := w }) :
      Handles s0 t ∧ Preparing origin msg p t := by
    obtain ⟨w, passes, rfl⟩ := h
    subst eq
    exact ⟨.single (.send (.clock w passes)), prep.clock w⟩
  generalize goal : Handles s0 = R
  mvcgen [handleLogon, logonTimeGood_spec, resets, check, accept]
  all_goals clear check accept resets
  case vc1.h s eq _ _ t time => exact (clock eq time).2
  case vc2.h s eq _ _ t time _ u resets => exact .of_logon resets.prep.item type
  case vc3.post.success.isTrue.post.success.post.success.h_1 =>
    rename_i s eq _ _ t time _ u resets _ _ v stop
    exact goal ▸ ((clock eq time).1.trans resets.handles).trans stop.2.handles
  case vc6 s eq _ _ t time _ u resets _ _ =>
    intro v _ number passed _
    exact passed.logon resets.prep.item type number (resets.prep.undisturbed type) prep.taken resets.renewed
  case vc7.post.success.isTrue.post.success.post.except.handle =>
    rename_i s eq _ _ t time _ u resets _ v
    exact fun stop => goal ▸ ((clock eq time).1.trans resets.handles).trans (Deals.handles stop)
  case vc8.post.success.isTrue.post.except.handle s eq _ _ t time _ u =>
    exact fun stop => goal ▸ (clock eq time).1.trans stop
  case vc9.post.success.isFalse s eq _ _ t time => exact goal ▸ (clock eq time).1
  all_goals
    rename_i s eq _ _ t time _ u resets _ _ v _ w cont
    obtain ⟨⟨state, number, passed⟩, -⟩ := cont
    intro accepted
    have ready := (Verifiable.of_logon resets.prep.item type).ready state number
    have deals := (ready.passed (msg.isAdmin_of_type type (by decide)) passed).trans accepted
    exact goal ▸ ((clock eq time).1.trans resets.handles).trans (Deals.handles deals)

/-! ## Logout -/

/-- What a message that ends the connection leads to: a run, maybe with a reset after it. -/
inductive Ended (s : Sys σ ω) : Sys σ ω → Prop
  | plain {t} : Handles s t → Ended s t
  | reset {t} (w now) : Passes t.world w → Handles s t → Ended s ({ t with world := w }.stored
      (.reset .logout (MessageStore.reset now t.session.store).1)
      (MessageStore.reset now t.session.store).2)

/-- A run before it changes nothing about that. -/
lemma Ended.trans {s t u : Sys σ ω} (run : Handles s t) (h : Ended t u) : Ended s u := by
  cases h with
  | plain more => exact .plain (run.trans more)
  | reset w now passes more => exact .reset w now passes (run.trans more)

/-- A Logout that passed and was answered is counted. -/
lemma CallbackReady.logoutCounted {origin msg} {s t u : Sys σ ω} (ready : CallbackReady origin msg s)
    (type : msg.msgTypeOrDefault = MsgType.logout) (passed : Passed msg s t) (sent : Sends t u) :
    Handles s u.counted := by
  have admin := msg.isAdmin_of_type type (by decide)
  obtain ⟨c, _, since⟩ := passed.sentSince ready.item admin sent
  have dealt := (ready.passed admin passed).trans sent.deals
  exact Deals.handles (dealt.tail (.incrTarget (.logout since type)))

/-- A Logout is answered and counted, and ends the connection. -/
lemma handleLogout_spec {origin msg} {s0 : Sys σ ω} (up : TakenUp origin msg s0)
    (type : msg.msgTypeOrDefault = MsgType.logout) :
    ⦃fun s => ⌜s = s0⌝⦄ handleLogout msg
    ⦃post⟨fun _ s => ⌜Handles s0 s⌝, fun _ s => ⌜Ended s0 s⌝⟩⦄ := by
  have able := Verifiable.of_takenUp false false up
    fun app => by simp [msg.isAdmin_of_type type (by decide)] at app
  have check := verify_spec origin able
  have counted {t u : Sys σ ω} (state : s0.session.validLogonState msg.msgTypeOrDefault = true)
      (number : NumberChecked msg false false s0) (passed : Passed msg s0 t) (sent : Sends t u) :
      Handles s0 u.counted := (able.ready state number).logoutCounted type passed sent
  mvcgen [handleLogout, check, logOut_spec, incrTarget, incrNextTargetSeqNum, storeOp]
  all_goals clear check
  case vc2.post.success.h_1 run => exact run.2.handles
  case vc3.may cont =>
    obtain ⟨⟨state, number, passed⟩, -⟩ := cont
    exact .of_item (passed.item able.item)
  case vc10.post.except.handle s eq _ t => exact fun run => .plain (Deals.handles run)
  case vc4.post.success.h_2.isTrue.post.success.h_1.isTrue =>
    rename_i s eq _ _ t _ _ _ u sent _ _ _ _ cont
    obtain ⟨⟨state, number, passed⟩, -⟩ := cont
    exact .reset _ _ (passes_utcNow _) (counted state number passed sent)
  case vc7.post.success.h_2.isFalse.h_1.isTrue =>
    rename_i s eq _ _ t _ _ _ _ _ _ cont
    obtain ⟨⟨state, number, passed⟩, -⟩ := cont
    exact .reset _ _ (passes_utcNow _) (counted state number passed .refl)
  case vc5 | vc6 =>
    rename_i cont
    obtain ⟨⟨state, number, passed⟩, -⟩ := cont
    exact .plain (counted state number passed ‹_›)
  all_goals
    rename_i cont
    obtain ⟨⟨state, number, passed⟩, -⟩ := cont
    exact .plain (counted state number passed .refl)

/-! ## Processing -/

/-- The type of a message that can be read. -/
lemma Message.msgTypeOrDefault_of_ok {m : Message} {mt} (h : m.msgType = .ok mt) :
    m.msgTypeOrDefault = mt := by
  rw [msgTypeOrDefault, h]

/-- Dealing with a message is handling it. -/
lemma handles_of_deals {x : ExceptT Disconnect (SessionM σ ω) Unit} {s0 : Sys σ ω}
    (h : ⦃fun s => ⌜s = s0⌝⦄ x ⦃post⟨fun _ s => ⌜Deals s0 s⌝, fun _ s => ⌜Deals s0 s⌝⟩⦄) :
    ⦃fun s => ⌜s = s0⌝⦄ x ⦃post⟨fun _ s => ⌜Handles s0 s⌝, fun _ s => ⌜Handles s0 s⌝⟩⦄ := by
  mvcgen [h]
  case vc2 => exact Deals.handles
  case vc3 => exact Deals.handles

/-- A run may end the connection. -/
lemma ended_of_runs {x : ExceptT Disconnect (SessionM σ ω) Unit} {s0 : Sys σ ω}
    (h : ⦃fun s => ⌜s = s0⌝⦄ x ⦃post⟨fun _ s => ⌜Handles s0 s⌝, fun _ s => ⌜Handles s0 s⌝⟩⦄) :
    ⦃fun s => ⌜s = s0⌝⦄ x ⦃post⟨fun _ s => ⌜Handles s0 s⌝, fun _ s => ⌜Ended s0 s⌝⟩⦄ := by
  mvcgen [h]
  case vc2 => exact id
  case vc3 => exact .plain

/-- Handling a message by its type, which may end the connection. -/
lemma dispatch_spec {origin msg mt} {s0 : Sys σ ω} (up : TakenUp origin msg s0)
    (ok : msg.msgType = .ok mt) :
    ⦃fun s => ⌜s = s0⌝⦄ dispatch mt msg
    ⦃post⟨fun _ s => ⌜Handles s0 s⌝, fun _ s => ⌜Ended s0 s⌝⟩⦄ := by
  have item := (Verifiable.of_takenUp true true up (by simp)).item
  have type := Message.msgTypeOrDefault_of_ok ok
  unfold dispatch
  split_ifs with logon plain test resend reset logout
  · exact ended_of_runs (handleLogon_spec up (type.trans logon))
  · refine ended_of_runs (handles_of_deals (handlePlainAdmin_spec up ?_))
    rcases plain with rfl | rfl <;> rw [type] <;> decide
  · exact ended_of_runs (handles_of_deals (handleTestRequest_spec up (type.trans test)))
  · have admin := msg.isAdmin_of_type (type.trans resend) (by decide)
    exact ended_of_runs (handles_of_deals (handleResendRequest_spec up admin))
  · have admin := msg.isAdmin_of_type (type.trans reset) (by decide)
    exact ended_of_runs (handles_of_deals (handleSequenceReset_spec up admin))
  · exact handleLogout_spec up (type.trans logout)
  · exact ended_of_runs (handles_of_deals (handleAppMessage_spec up (type ▸ reset)))

/-- Handling a parsed message, which may end the connection. -/
lemma process_spec {origin msg} {s0 : Sys σ ω} (up : TakenUp origin msg s0) :
    ⦃fun s => ⌜s = s0⌝⦄ process msg
    ⦃post⟨fun _ s => ⌜Handles s0 s⌝, fun _ s => ⌜Ended s0 s⌝⟩⦄ := by
  have item := (Verifiable.of_takenUp true true up (by simp)).item
  have handle {mt} (ok : msg.msgType = .ok mt) := dispatch_spec up ok
  mvcgen [process, handle, logOut_spec]
  case vc1.h_1 s eq => exact eq ▸ .refl
  case vc2.may s eq _ _ _ counted =>
    subst counted eq
    exact .of_item (show handled s.counted.trace = _ from item)
  case vc3.h_2.isTrue.post.success.post.success =>
    rename_i s eq other _ s1 counted _ t sent
    subst counted eq
    exact .plain ((ReflTransGen.single (.incrTarget (.version up other))).trans sent.handles)
  case vc4.h_2.isFalse.h_1.post.success s eq _ _ _ _ t =>
    exact fun rejected => eq ▸ (rejected.deals (eq ▸ item)).handles

end QuickFix
