import QuickFix.Steps.Refusals

/-!
# Runs of the loop as runs of acts

What the run loop does with an input is a run of `Act`, so every run of a session is one.
-/

namespace QuickFix

set_option mvcgen.warning false
set_option linter.unusedSectionVars false

open Std.Do Session Relation

variable {σ ω : Type} [Chrono] [MessageStore σ] [Application ω] [Runtime ω]

/-! ## Handling as part of a run -/

/-- Whether an event neither begins nor ends a frame. -/
def Event.within : Event → Bool
  | .process .wire _ | .done => false
  | _ => true

/-- A sending call neither begins nor ends a frame. -/
lemma Event.within_of_isSend {e : Event} (h : e.isSend = true) : e.within = true := by
  cases e <;> simp_all [isSend, within]

/-- What is broken stays so while the frame is handled. -/
lemma broken_append {recent rest : List (Call σ)} (within : ∀ c ∈ recent, c.event.within = true)
    (h : broken rest = true) : broken (recent ++ rest) = true := by
  induction recent with
  | nil => exact h
  | cons c recent ih =>
    have this := within c (by simp)
    have ih := ih fun d mem => within d (by simp [mem])
    rw [List.cons_append, broken]
    split
    case h_1 ev | h_2 ev => simp [ev, Event.within] at this
    case h_3 => rfl
    case h_4 => exact ih

/-- An act of a handler neither begins nor ends a frame. -/
lemma HandleAct.trace {resets} {s t : Sys σ ω} (h : HandleAct resets s t) :
    ∃ recent, t.trace = recent ++ s.trace ∧ ∀ c ∈ recent, c.event.within = true := by
  cases h with
  | send act =>
    obtain ⟨recent, tr, sends⟩ := act.trace
    exact ⟨recent, tr, fun c mem => Event.within_of_isSend (sends c mem).1⟩
  | receivingReset | endingResets | logon | supersede => exact ⟨[], rfl, by simp⟩
  | deliver => exact ⟨[_, _], rfl, by simp [Event.within]⟩
  | stashAndExpect => exact ⟨[_, _, _], rfl, by simp [Event.within]⟩
  | _ => exact ⟨[_], rfl, by simp [Event.within]⟩

/-- A connection is lost after a failed write only. -/
lemma HandleAct.connection {resets} {s t : Sys σ ω} (h : HandleAct resets s t) :
    t.session.outbound = s.session.outbound ∧ t.session.inbound = s.session.inbound ∨
      WriteFailed s := by
  cases h with
  | send act =>
    cases act with
    | cut failed => exact .inr failed
    | _ => exact .inl ⟨rfl, rfl⟩
  | _ => exact .inl ⟨rfl, rfl⟩

/-- A failed write breaks. -/
lemma WriteFailed.broken {s : Sys σ ω} (h : WriteFailed s) : broken s.trace = true := by
  obtain ⟨c, head, raw, ev⟩ := h
  cases tr : s.trace with
  | nil => simp [tr] at head
  | cons d rest =>
    obtain rfl : d = c := by simpa [tr] using head
    simp [QuickFix.broken, ev]

/-- A handler keeps the session live. -/
lemma HandleAct.live {resets} {s t : Sys σ ω} (h : HandleAct resets s t) (live : Live s) : Live t := by
  obtain ⟨recent, tr, within⟩ := h.trace
  rcases live with connected | lost
  · rcases h.connection with ⟨outbound, inbound⟩ | failed
    · exact .inl (connected.imp outbound.trans inbound.trans)
    · exact .inr (tr ▸ broken_append within failed.broken)
  · exact .inr (tr ▸ broken_append within lost)

/-- Handling a message is part of a run, and leaves the session live. -/
lemma Handles.runs {s t : Sys σ ω} (h : Handles s t) (live : Live s) : Runs s t ∧ Live t := by
  induction h with
  | refl => exact ⟨.refl, live⟩
  | tail _ act ih => exact ⟨ih.1.tail (.handle act ih.2), act.live ih.2⟩

/-- On a live session whose counts are explained, a run that leaves it so. -/
def Advances (s t : Sys σ ω) : Prop :=
  Live s → Explained s.trace → Runs s t ∧ Live t ∧ Explained t.trace

/-- Doing nothing advances. -/
lemma Advances.refl (s : Sys σ ω) : Advances s s := fun live explained => ⟨.refl, live, explained⟩

/-- What advances in two steps advances. -/
lemma Advances.trans {s t u : Sys σ ω} (h : Advances s t) (h' : Advances t u) : Advances s u := by
  intro live explained
  obtain ⟨run, live, explained⟩ := h live explained
  obtain ⟨run', live, explained⟩ := h' live explained
  exact ⟨run.trans run', live, explained⟩

/-- Handling a message is part of a run, when what it counts is explained. -/
lemma Handles.advances {s t : Sys σ ω} (h : Handles s t) (explained : Explained s.trace → Explained t.trace) :
    Advances s t :=
  fun live before => ⟨(h.runs live).1, (h.runs live).2, explained before⟩

/-- What leads to the end of the connection, with its counts explained. -/
def Closes (s u : Sys σ ω) : Prop := (∃ t, Advances s t ∧ Ended t u) ∧ Explained u.trace

/-- What was done before is part of it. -/
lemma Closes.trans {s t u : Sys σ ω} (h : Advances s t) (h' : Closes t u) : Closes s u := by
  obtain ⟨⟨v, more, ended⟩, explained⟩ := h'
  exact ⟨⟨v, h.trans more, ended⟩, explained⟩

/-! ## Replaying the stash -/

/-- Taking an entry out of the stash leaves the session live. -/
lemma entry_taken {seq raw} {s : Sys σ ω} (number : seq = s.nextTarget)
    (entry : s.session.stash[seq]? = some raw) :
    Advances s ((s.called (.unstash seq raw) s.world).updated (unstashing seq)) := by
  intro live explained
  exact ⟨.single (.unstash number entry explained), live.imp id fun lost => lost, .of_entry rfl⟩

/-- Dropping an entry of the stash. -/
lemma entry_dropped {seq raw} {s : Sys σ ω} (number : seq = s.nextTarget)
    (entry : s.session.stash[seq]? = some raw) (drops : DropsQueued raw) :
    Advances s ((s.called (.unstash seq raw) s.world).updated (unstashing seq)).counted :=
  (entry_taken number entry).trans
    (Handles.advances (.single (.incrTarget (.entry rfl number drops))) fun _ => .of_entry rfl)

/-- Taking up an entry of the stash as a message. -/
lemma entry_replayed {seq raw msg} {s : Sys σ ω} (number : seq = s.nextTarget)
    (entry : s.session.stash[seq]? = some raw) (parsed : Message.parse raw false = .ok msg)
    (kept : (containsField raw (ascii "35=A") || containsField raw (ascii "35=2")) ≠ true) :
    Advances s (((s.called (.unstash seq raw) s.world).updated (unstashing seq)).called
      (.process .stash msg) s.world) := by
  refine (entry_taken number entry).trans fun live _ => ?_
  refine ⟨.single ?_, live.imp id fun lost => lost, .of_taken rfl⟩
  exact .replay rfl rfl ⟨rfl, rfl⟩ parsed ((Bool.not_eq_true _).mp kept)

/-- A message that was just taken up is taken up. -/
lemma takenUp_called (s : Sys σ ω) (origin msg) :
    TakenUp origin msg (s.called (.process origin msg) s.world) :=
  ⟨_, _, rfl, rfl, s.session.lastReceived, s.session.testRequestCounter, rfl⟩

/-- Replaying one stashed message, which may end the connection. -/
lemma drainOne_spec {s0 : Sys σ ω} :
    ⦃fun s => ⌜s = s0⌝⦄ drainOne
    ⦃post⟨fun _ s => ⌜Advances s0 s⌝, fun _ s => ⌜Closes s0 s⌝⟩⦄ := by
  have handle {msg} {s1 : Sys σ ω} (up : TakenUp .stash msg s1) := process_explains up
  mvcgen [drainOne, handle, incrTarget, incrNextTargetSeqNum, storeOp]
  all_goals subst_vars
  case vc1.h_1 => exact .refl _
  case vc4.up => exact takenUp_called _ _ _
  case vc2.h_2.isTrue.h_1 entry _ queued _ _ => exact entry_dropped rfl entry (.inl queued)
  case vc3.h_2.isTrue.h_2 entry _ queued _ _ =>
    exact ⟨⟨_, entry_dropped rfl entry (.inl queued), .plain .refl⟩, .of_entry rfl⟩
  case vc7.h_2.isFalse.h_2.h_1 entry _ _ _ unread _ _ => exact entry_dropped rfl entry (.inr (by simp [unread]))
  case vc8.h_2.isFalse.h_2.h_2 entry _ _ _ unread _ _ =>
    exact ⟨⟨_, entry_dropped rfl entry (.inr (by simp [unread])), .plain .refl⟩, .of_entry rfl⟩
  case vc5.h_2.isFalse.h_1.post.success entry _ kept _ parsed _ _ run =>
    exact (entry_replayed rfl entry parsed kept).trans (Handles.advances run.1 fun _ => run.2)
  case vc6.h_2.isFalse.h_1.post.except.handle entry _ kept _ parsed _ _ =>
    exact fun ended explained => ⟨⟨_, entry_replayed rfl entry parsed kept, ended⟩, explained⟩

/-- Replaying stashed messages, which may end the connection. -/
lemma drainLoop_spec {fuel} {s0 : Sys σ ω} :
    ⦃fun s => ⌜s = s0⌝⦄ drainLoop fuel
    ⦃post⟨fun _ s => ⌜Advances s0 s⌝, fun _ s => ⌜Closes s0 s⌝⟩⦄ := by
  induction fuel generalizing s0 with
  | zero =>
    mvcgen [drainLoop]
    rename_i s eq
    exact eq ▸ .refl s
  | succ fuel ih =>
    generalize goal : Advances s0 = R
    generalize goal' : Closes s0 = E
    mvcgen [drainLoop, drainOne_spec, ih]
    case vc1.succ.post.success.isTrue.post.success s eq _ _ t first _ u =>
      exact fun rest => goal ▸ eq ▸ first.trans rest
    case vc2.succ.post.success.isTrue.post.except.handle s eq _ _ t first _ u =>
      exact fun rest => goal' ▸ eq ▸ .trans first rest
    case vc3.succ.post.success.isFalse s eq _ _ t first => exact goal ▸ eq ▸ first
    case vc4.succ.post.except.handle s eq _ t => exact fun ended => goal' ▸ eq ▸ ended

/-! ## Frames -/

/-- Handling a frame, which may end the connection. -/
lemma handleInbound_spec {raw strict msg} {s0 : Sys σ ω} (parsed : Message.parse raw strict = .ok msg)
    (connected : s0.Connected) :
    ⦃fun s => ⌜s = s0⌝⦄ handleInbound msg
    ⦃post⟨fun _ s => ⌜Advances s0 s⌝, fun _ s => ⌜Closes s0 s⌝⟩⦄ := by
  have handle {s1 : Sys σ ω} (up : TakenUp .wire msg s1) := process_explains up
  have receive : Advances s0 (s0.called (.process .wire msg) s0.world) :=
    fun _ explained => ⟨.single (.receive parsed connected explained), .inl connected, .of_taken rfl⟩
  have unqueue (s : Sys σ ω) : Advances s (s.updated unqueued) :=
    Handles.advances (.single (.send (.set _ _ _ (.inl rfl)))) id
  generalize goal : Advances s0 = R
  generalize goal' : Closes s0 = E
  mvcgen [handleInbound, handle, drainStash, drainLoop_spec]
  case vc1.up => exact takenUp_called _ _ _
  case vc2.post.success.post.success s eq _ t handled _ u =>
    subst eq
    have run := (receive.trans (handled.1.advances fun _ => handled.2)).trans (unqueue t)
    exact fun drained => goal ▸ run.trans drained
  case vc3.post.success.post.except.handle s eq _ t handled _ u =>
    subst eq
    have run := (receive.trans (handled.1.advances fun _ => handled.2)).trans (unqueue t)
    exact fun ended => goal' ▸ .trans run ended
  case vc4.post.except.handle s eq _ t =>
    subst eq
    exact fun ended explained => goal' ▸ ⟨⟨_, receive, ended⟩, explained⟩

/-- A run that starts between frames and ends there. -/
def Aside (s t : Sys σ ω) : Prop := handled s.trace = none → Runs s t ∧ handled t.trace = none

/-- Doing nothing stays between frames. -/
lemma Aside.refl (s : Sys σ ω) : Aside s s := fun idle => ⟨.refl, idle⟩

/-- What stays between frames in two steps stays there. -/
lemma Aside.trans {s t u : Sys σ ω} (h : Aside s t) (h' : Aside t u) : Aside s u := by
  intro idle
  obtain ⟨run, idle⟩ := h idle
  obtain ⟨run', idle⟩ := h' idle
  exact ⟨run.trans run', idle⟩

/-- An act that takes nothing up stays between frames. -/
lemma Aside.single {s t : Sys σ ω} (act : Act s t) (item : handled t.trace = handled s.trace) :
    Aside s t :=
  fun idle => ⟨.single act, item.trans idle⟩

/-- Sending between frames. -/
lemma Sends.aside {s t : Sys σ ω} (h : Sends s t) : Aside s t := by
  intro idle
  induction h with
  | refl => exact ⟨.refl, idle⟩
  | tail sent act ih => exact ⟨ih.1.tail (.send act ih.2), (Sends.handled (sent.tail act)).trans idle⟩

/-- Reading a clock between frames. -/
lemma Aside.clock (s : Sys σ ω) (w : ω) (passes : Passes s.world w := by simp) :
    Aside s { s with world := w } :=
  Sends.aside (.single (.clock w passes))

/-- Setting what no other act depends on between frames. -/
lemma Aside.quiet {s t : Sys σ ω} (h : SendAct true s t) : Aside s t := Sends.aside (.single h)

/-- Giving up the connection takes nothing up. -/
lemma GivenUp.item {s t : Sys σ ω} (h : GivenUp s t) : handled t.trace = handled s.trace := by
  obtain ⟨recent, tr, sends⟩ := h.trace
  rw [tr]
  exact handled_append fun c mem => (sends c mem).1

/-- Disconnecting is part of a run that takes nothing up. -/
lemma Dropped.runs {s t : Sys σ ω} (h : Dropped s t) :
    Runs s t ∧ handled t.trace = handled s.trace := by
  cases h with
  | idle => exact ⟨.refl, rfl⟩
  | cut connected left => exact ⟨.single (.cut connected left), left.item⟩

/-- Disconnecting between frames. -/
lemma Dropped.aside {s t : Sys σ ω} (h : Dropped s t) : Aside s t :=
  fun idle => ⟨h.runs.1, h.runs.2.trans idle⟩

/-- A connection that was dropped is gone. -/
lemma Dropped.gone {s t : Sys σ ω} (h : Dropped s t) : t.session.outbound = false := by
  cases h with
  | idle idle => exact idle
  | cut _ left => exact (congrArg Session.outbound left.isDetached).symm

/-- Dropping the connection after a message that ended it is part of a run. -/
lemma Ended.dropped {s t u : Sys σ ω} (h : Ended s t) (drop : Dropped t u) (live : Live s) :
    Runs s u := by
  cases h with
  | plain handles => exact (handles.runs live).1.trans drop.runs.1
  | @reset t w now passes handles =>
    obtain ⟨run, live⟩ := handles.runs live
    have clock : Runs s { t with world := w } := run.tail (.handle (.send (.clock w passes)) live)
    cases drop with
    | idle outbound inbound => exact clock.tail (.reset .logout now (.inr (.inr ⟨rfl, outbound, inbound⟩)))
    | cut connected left => exact clock.tail (.endLogout now connected left)

/-- Dropping the connection after what led to its end is part of a run. -/
lemma Closes.dropped {s t u : Sys σ ω} (h : Closes s t) (drop : Dropped t u) (live : Live s)
    (explained : Explained s.trace) : Runs s u ∧ Explained u.trace := by
  obtain ⟨⟨v, advances, ended⟩, later⟩ := h
  obtain ⟨run, live, -⟩ := advances live explained
  exact ⟨run.trans (ended.dropped drop live), drop.notMovedUp.explained drop.runs.2 later⟩

/-- Noting the number of a message between frames. -/
lemma noteReceived_spec {msg} {s0 : Sys σ ω} :
    ⦃fun s => ⌜s = s0⌝⦄ noteReceived msg
    ⦃⇓ _ s => ⌜Aside s0 s ∧ (s0.Connected → s.Connected)⌝⦄ := by
  mvcgen [noteReceived]
  case vc1 s eq => exact eq ▸ ⟨.quiet (.set _ _ _ (.inr rfl)), id⟩
  case vc2 s eq => exact eq ▸ ⟨.refl s, id⟩

/-- Handling the bytes of a message is part of a run, after which the frame has been dealt with. -/
lemma onInbound_spec {raw} {s0 : Sys σ ω} (connected : s0.Connected) :
    ⦃fun s => ⌜s = s0 ∧ handled s.trace = none⌝⦄ onInbound raw
    ⦃⇓ _ s => ⌜Runs s0 s ∧ handled s.trace = none⌝⦄ := by
  have handle {raw strict msg} (parsed : Message.parse raw strict = .ok msg) {s1 : Sys σ ω}
      (connected : s1.Connected) := handleInbound_spec parsed connected
  have chunks {s1 : Sys σ ω} := Triple.and _ (@checkResendChunks_spec _ _ _ _ _ _ s1)
    (@checkResendChunks_still _ _ _ _ _ _ s1)
  mvcgen [onInbound, noteReceived_spec, handle, disconnect_spec, -checkResendChunks_spec, chunks]
  all_goals clear handle chunks
  case vc1.h_1.isTrue.post.success s start _ _ _ _ _ t drop =>
    obtain ⟨rfl, idle⟩ := start
    exact ⟨drop.runs.1.tail (.done (.inr (.gone drop.gone)) (.of_idle (drop.runs.2.trans idle))), rfl⟩
  case vc2.h_1.isFalse s start _ _ _ _ =>
    obtain ⟨rfl, idle⟩ := start
    exact ⟨.single (.done (.inl idle) (.of_idle idle)), rfl⟩
  case vc6.connected s start _ _ _ _ t noted => exact noted.2 (start.1 ▸ connected)
  case vc9.h_2.post.success.post.success.post.success =>
    rename_i s start _ _ _ _ t noted _ u handled _ v chunks
    obtain ⟨rfl, idle⟩ := start
    obtain ⟨begun, idle⟩ := noted.1 idle
    obtain ⟨run, live, explained⟩ := handled (.inl (noted.2 connected)) (.of_idle idle)
    have rest := (chunks.1.1.handles.runs live).1
    have still := chunks.2.explained chunks.1.1.handles.item explained
    exact ⟨((begun.trans run).trans rest).tail (.done (.inr chunks.1.2) still), rfl⟩
  case vc10.h_2.post.success.post.except.handle.post.success =>
    rename_i s start _ _ _ _ t noted _ u closes _ v drop
    obtain ⟨rfl, idle⟩ := start
    obtain ⟨begun, idle⟩ := noted.1 idle
    obtain ⟨run, explained⟩ := closes.dropped drop (.inl (noted.2 connected)) (.of_idle idle)
    exact ⟨(begun.trans run).tail (.done (.inr (.gone drop.gone)) explained), rfl⟩

/-! ## Timers -/

/-- Sending a Logon of its own on a connection. -/
lemma logOn_spec {s0 : Sys σ ω} (connected : s0.session.outbound = true) :
    ⦃fun s => ⌜s = s0⌝⦄ logOn ⦃⇓ _ s => ⌜Aside s0 s⌝⦄ := by
  generalize goal : Aside s0 = R
  mvcgen [logOn, sendLogon_spec, disconnect_spec]
  case vc1.connected => exact ‹_ = s0› ▸ connected
  case vc2.post.success s eq _ t sent => exact goal ▸ eq ▸ sent.aside
  case vc3.post.except.handle.post.success s eq _ t sent _ u =>
    exact fun drop => goal ▸ eq ▸ sent.aside.trans drop.aside

/-- Leaving the connection. -/
lemma leave_spec {x} {s0 : Sys σ ω} (now : x = s0.session) :
    ⦃fun s => ⌜s = s0⌝⦄ leave x ⦃⇓ _ s => ⌜Aside s0 s⌝⦄ := by
  generalize goal : Aside s0 = R
  mvcgen [leave, logOut_spec, disconnect_spec]
  case vc1.may connected _ _ s eq =>
    subst now eq
    exact .inr (.inl connected)
  case vc2.isTrue.isTrue.post.success.post.success _ _ _ s eq _ t sent _ u =>
    exact fun drop => goal ▸ eq ▸ sent.aside.trans drop.aside
  case vc3.isTrue.isFalse.post.success _ _ _ s eq _ t => exact fun drop => goal ▸ eq ▸ drop.aside
  case vc4.isFalse _ s eq => exact goal ▸ eq ▸ .refl s

/-- Asking a silent peer. -/
lemma sendTestRequest_spec {s0 : Sys σ ω} (connected : s0.session.outbound = true)
    (first : s0.session.testRequestCounter = 0) :
    ⦃fun s => ⌜s = s0⌝⦄ sendTestRequest ⦃⇓ _ s => ⌜Aside s0 s⌝⦄ := by
  generalize goal : Aside s0 = R
  mvcgen [sendTestRequest]
  all_goals
    rename_i s eq _ _ t
    intro sent
    subst goal eq
    exact (Aside.single (.ask connected first) rfl).trans (Sends.aside sent)

/-- More tenths of an interval are not shorter. -/
lemma mulTenths_le {seconds a b : Nat} (h : a ≤ b) : mulTenths seconds a ≤ mulTenths seconds b :=
  Nat.mul_le_mul_right _ (Nat.mul_le_mul_left _ h)

/-- Acting on a deadline. -/
lemma onProtocolDeadline_spec {s0 : Sys σ ω} :
    ⦃fun s => ⌜s = s0⌝⦄ onProtocolDeadline ⦃⇓ _ s => ⌜Aside s0 s⌝⦄ := by
  generalize goal : Aside s0 = R
  mvcgen -trivial [onProtocolDeadline, instantNow, logOut_spec, sendTestRequest_spec, disconnect_spec]
  all_goals subst_vars
  case vc1.isTrue => exact .refl _
  case vc2 | vc4 | vc9 => exact fun drop => (Aside.clock _ _).trans drop.aside
  case vc3 | vc5 | vc6 | vc15 => exact .clock _ _
  case vc7.may connected _ _ _ _ _ _ _ _ => exact .inr (.inl (by simpa [Session.isConnected] using connected))
  case vc8.isFalse.isFalse.isFalse.isFalse.isTrue.isTrue.post.success.post.success sent _ _ =>
    exact fun drop => ((Aside.clock _ _).trans (Sends.aside sent)).trans drop.aside
  case vc10.connected connected _ _ _ _ _ _ _ =>
    simpa [Session.isConnected] using connected
  case vc11.first =>
    rename_i hbi early due
    -- the second one would be due when the peer is given up
    by_contra again
    have tenths : 24 ≤ 12 * (_ + 1) := Nat.mul_le_mul_left 12 (Nat.succ_le_succ (Nat.pos_of_ne_zero again))
    exact early ((mulTenths_le tenths).trans due)
  case vc12.isFalse.isFalse.isFalse.isFalse.isFalse.isTrue.post.success => exact (Aside.clock _ _).trans
  all_goals exact fun sent => (Aside.clock _ _).trans (Sends.aside sent)

/-- A reset between frames. -/
lemma Aside.reset (s : Sys σ ω) (site now) (w : ω) (idle : site = .attach ∨ site = .schedule)
    (passes : Passes s.world w := by simp) :
    Aside s ({ s with world := w }.stored (.reset site (MessageStore.reset now s.session.store).1)
      (MessageStore.reset now s.session.store).2) :=
  (Aside.clock s w passes).trans (.single (.reset site now (idle.imp_right .inl)) rfl)

/-- A reload between frames. -/
lemma Aside.refresh (s : Sys σ ω) (now) (w : ω) (passes : Passes s.world w := by simp) :
    Aside s ({ s with world := w }.stored (.refresh (MessageStore.refresh now s.session.store).1)
      (MessageStore.refresh now s.session.store).2) :=
  (Aside.clock s w passes).trans (.single (.refresh now) rfl)

/-- Deferring the logon, or no longer. -/
lemma Aside.defer (s : Sys σ ω) (pending) : Aside s (s.updated (deferring pending)) :=
  .quiet (.set _ _ _ (.inr rfl))

/-- The schedule tick. -/
lemma onScheduleTick_spec {s0 : Sys σ ω} :
    ⦃fun s => ⌜s = s0⌝⦄ onScheduleTick ⦃⇓ _ s => ⌜Aside s0 s⌝⦄ := by
  generalize goal : Aside s0 = R
  mvcgen [onScheduleTick, utcNow, leave_spec, logOut_spec, logOn_spec]
  all_goals subst_vars
  case vc1.isTrue => exact .refl _
  case vc3.isFalse.isTrue.post.success => exact (Aside.clock _ _).trans
  case vc5.isFalse.isFalse.isTrue.post.success left =>
    exact ((Aside.clock _ _).trans left).trans (.reset _ .schedule _ _ (.inr rfl))
  case vc6.may due => exact .inr (.inl (by simp_all [Session.isConnected]))
  case vc7.connected due _ => simp_all [Session.isConnected, Sys.updated, deferring]
  case vc8.isFalse.isFalse.isFalse.isTrue.post.success.isTrue.post.success sent _ _ _ =>
    exact fun logon => (((Aside.clock _ _).trans (Sends.aside sent)).trans (.defer _ _)).trans logon
  case vc9.isFalse.isFalse.isFalse.isTrue.post.success.isFalse sent _ =>
    exact (Aside.clock _ _).trans (Sends.aside sent)
  case vc10.connected due => simp_all [Session.isConnected, Sys.updated, deferring]
  case vc11.isFalse.isFalse.isFalse.isFalse.isTrue.post.success =>
    exact fun logon => ((Aside.clock _ _).trans (.defer _ _)).trans logon
  case vc12.isFalse.isFalse.isFalse.isFalse.isFalse => exact .clock _ _

/-! ## Commands -/

/-- Taking a connection. -/
lemma connect_spec {s0 : Sys σ ω} (idle : s0.session.outbound = false) :
    ⦃fun s => ⌜s = s0⌝⦄ connect
    ⦃⇓ _ s => ⌜Aside s0 s ∧ s.session.outbound = true⌝⦄ := by
  mvcgen [connect, instantNow]
  rename_i s eq
  subst eq
  have later : ReadsAfter s.world (Runtime.instantNow (Runtime.instantNow s.world).2).1 :=
    ⟨_, passes_instantNow _, rfl⟩
  have passes : Passes s.world (Runtime.instantNow (Runtime.instantNow s.world).2).2 :=
    (passes_instantNow _).trans (passes_instantNow _)
  exact ⟨(Aside.single (.attach _ _ idle ⟨_, rfl⟩ later) rfl).trans (.clock _ _ passes), rfl⟩

/-- The reset and the reload of an initiator. -/
lemma initiatorResets_spec {s0 : Sys σ ω} (connected : s0.session.outbound = true) :
    ⦃fun s => ⌜s = s0⌝⦄ initiatorResets
    ⦃⇓ _ s => ⌜Aside s0 s ∧ s.session.outbound = true⌝⦄ := by
  have reset (s : Sys σ ω) (now) := Aside.reset s .attach now (Runtime.utcNow s.world).2 (.inl rfl)
  mvcgen [initiatorResets, storeRefresh, utcNow, storeOp]
  all_goals
    subst_vars
    refine ⟨?_, connected⟩
  case vc1 | vc2 => exact (reset _ _).trans (.refresh _ _ _)
  case vc3.isTrue.isFalse => exact reset _ _
  case vc4 | vc5 => exact .refresh _ _ _
  case vc6.isFalse.isFalse => exact .refl _

/-- Logging on now or later. -/
lemma logOnOrDefer_spec {s0 : Sys σ ω} (connected : s0.session.outbound = true) :
    ⦃fun s => ⌜s = s0⌝⦄ logOnOrDefer ⦃⇓ _ s => ⌜Aside s0 s⌝⦄ := by
  generalize goal : Aside s0 = R
  mvcgen [logOnOrDefer, utcNow, logOn_spec]
  all_goals subst_vars
  case vc1.connected => exact connected
  case vc2.isTrue.post.success => exact (Aside.clock _ _).trans
  case vc3.isFalse => exact (Aside.clock _ _).trans (.defer _ _)

/-- Attaching a connection. -/
lemma onAttach_spec {s0 : Sys σ ω} :
    ⦃fun s => ⌜s = s0⌝⦄ onAttach ⦃⇓ _ s => ⌜Aside s0 s⌝⦄ := by
  generalize goal : Aside s0 = R
  mvcgen [onAttach, connect_spec, initiatorResets_spec, logOnOrDefer_spec]
  case vc1.isTrue s eq _ => exact goal ▸ eq ▸ .refl s
  case vc2.idle s eq idle => exact (Bool.not_eq_true _).mp idle
  case vc3.connected connected => exact connected.2
  case vc4.isFalse.post.success.isTrue.post.success.post.success =>
    rename_i s eq _ _ _ t connected _ u reset _ v
    exact fun logon => goal ▸ eq ▸ (connected.1.trans reset.1).trans logon
  case vc5 => exact fun _ _ connected => connected
  case vc6.isFalse.post.success.isFalse s eq _ _ _ t connected => exact goal ▸ eq ▸ connected.1

/-- Starting a graceful logout when logged on. -/
lemma onLogoutCommand_spec {s0 : Sys σ ω} :
    ⦃fun s => ⌜s = s0⌝⦄ onLogoutCommand ⦃⇓ _ s => ⌜Aside s0 s⌝⦄ := by
  generalize goal : Aside s0 = R
  mvcgen [onLogoutCommand, logOut_spec]
  case vc1.may loggedOn => exact .inr (.inr loggedOn)
  case vc2.isTrue.post.success s eq _ _ t => exact fun sent => goal ▸ eq ▸ Sends.aside sent
  case vc3.isFalse s eq _ => exact goal ▸ eq ▸ .refl s

/-- Setting the numbers. -/
lemma onSetSeqNums_spec {sender target} {s0 : Sys σ ω} :
    ⦃fun s => ⌜s = s0⌝⦄ onSetSeqNums sender target ⦃⇓ _ s => ⌜Aside s0 s⌝⦄ := by
  have setSender (s : Sys σ ω) (n : UInt64) : Aside s _ :=
    .single (.setSender n.toNat n.toNat_lt) rfl
  have setTarget (s : Sys σ ω) (n : UInt64) : Aside s _ :=
    .single (.setTarget n.toNat n.toNat_lt) rfl
  mvcgen [onSetSeqNums, setNextSenderSeqNum, setNextTargetSeqNum, storeOp]
  all_goals subst_vars
  case vc3 | vc6 => exact setSender _ _
  case vc7 | vc8 => exact setTarget _ _
  case vc9.h_2.h_2 => exact .refl _
  all_goals exact (setSender _ _).trans (setTarget _ _)

example : (Script.play Script.acceptor {} [.setSeqNums (some 7) none]).nextSender = 7 := by decide +kernel

/-- Waiting for the peer's Logout is part of a run, between frames. -/
lemma awaitLogout_spec {deadline frames} {s0 : Sys σ ω} :
    ⦃fun s => ⌜s = s0 ∧ handled s.trace = none⌝⦄ awaitLogout deadline frames
    ⦃⇓ _ s => ⌜Runs s0 s ∧ handled s.trace = none⌝⦄ := by
  induction frames generalizing s0 with
  | nil =>
    mvcgen [awaitLogout]
    rename_i s idle
    exact ⟨idle.1 ▸ .refl, idle.2⟩
  | cons raw frames ih =>
    generalize goal : Runs s0 = R
    mvcgen [awaitLogout, instantNow, onInbound_spec, ih]
    case vc1.connected waiting => exact .inl waiting.1
    case vc2.cons.isTrue.pre start _ => exact ⟨trivial, start.2⟩
    case vc3.cons.isTrue.post.success.pre handled => exact ⟨trivial, handled.2⟩
    case vc4.cons.isTrue.post.success.post.success =>
      rename_i s start _ _ t handled _ u
      obtain ⟨rfl, idle⟩ := start
      exact fun rest idle' => ⟨goal ▸ ((Aside.clock s _ (passes_instantNow _) idle).1.trans handled.1).trans rest, idle'⟩
    case vc5.cons.isFalse s start _ =>
      obtain ⟨rfl, idle⟩ := start
      exact ⟨goal ▸ (Aside.clock s _ (passes_instantNow _) idle).1, idle⟩

/-- Stopping is part of a run, between frames. -/
lemma onStop_spec {frames} {s0 : Sys σ ω} :
    ⦃fun s => ⌜s = s0 ∧ handled s.trace = none⌝⦄ onStop frames
    ⦃⇓ _ s => ⌜Runs s0 s ∧ handled s.trace = none⌝⦄ := by
  mvcgen [onStop, instantNow, logOut_spec, awaitLogout_spec, disconnect_spec]
  case vc1.may loggedOn => exact .inr (.inr loggedOn)
  case vc2.isTrue.post.success.pre s start _ _ _ t sent => exact ⟨trivial, sent.handled.trans start.2⟩
  case vc3.isTrue.post.success.post.success.post.success =>
    rename_i s start _ _ _ t sent _ u waited _ v
    intro drop
    obtain ⟨rfl, idle⟩ := start
    obtain ⟨run, idle⟩ := ((Sends.aside sent).trans (.clock t _ (passes_instantNow _))) idle
    exact ⟨(run.trans waited.1).trans drop.runs.1, drop.runs.2.trans waited.2⟩
  case vc4.isFalse.post.success s start _ _ _ t =>
    obtain ⟨rfl, idle⟩ := start
    exact fun drop => drop.aside idle

/-! ## Runs -/

/-- One iteration of the loop is part of a run, between frames. -/
lemma step_spec {input} {s0 : Sys σ ω} :
    ⦃fun s => ⌜s = s0 ∧ handled s.trace = none⌝⦄ step input
    ⦃⇓ _ s => ⌜Runs s0 s ∧ handled s.trace = none⌝⦄ := by
  generalize goal : Runs s0 = R
  mvcgen [step, onAttach_spec, onLogoutCommand_spec, onSetSeqNums_spec, onStop_spec, disconnect_spec,
    onInbound_spec, onScheduleTick_spec, onProtocolDeadline_spec]
  all_goals
    obtain ⟨rfl, idle⟩ := ‹_ = s0 ∧ handled _ = none›
    subst goal
  case vc6.h_5.pre | vc10.h_7.isTrue.pre => exact ⟨trivial, idle⟩
  case vc9.connected => exact .inr ‹_›
  case vc7 | vc11 => exact fun run idle => ⟨run, idle⟩
  case vc12 | vc14 | vc17 => exact ⟨.refl, idle⟩
  case vc1 | vc2 => exact fun sent => Sends.aside sent idle
  case vc8 | vc13 => exact fun drop => drop.aside idle
  all_goals exact fun aside => aside idle

/-- A run of the loop is a run of acts, between frames. -/
lemma run_spec {inputs} {s0 : Sys σ ω} :
    ⦃fun s => ⌜s = s0 ∧ handled s.trace = none⌝⦄ run inputs
    ⦃⇓ _ s => ⌜Runs s0 s ∧ handled s.trace = none⌝⦄ := by
  induction inputs generalizing s0 with
  | nil =>
    mvcgen [run]
    rename_i s idle
    exact ⟨idle.1 ▸ .refl, idle.2⟩
  | cons input inputs ih =>
    generalize goal : Runs s0 = R
    mvcgen [run, step_spec, ih]
    all_goals subst goal
    case vc1.cons.pre start => exact ⟨trivial, start.2⟩
    case vc2.cons.post.success.isTrue.pre first => exact ⟨trivial, first.2⟩
    case vc3.cons.post.success.isTrue.post.success start _ _ _ first _ _ =>
      exact fun rest idle => ⟨start.1 ▸ first.1.trans rest, idle⟩
    case vc4.cons.post.success.isFalse start _ _ _ first => exact ⟨start.1 ▸ first.1, first.2⟩

variable {cfg : SessionConfig} {dictionary adminDictionary : Option DataDictionary} {store : σ}
variable {now : Nat} {world : ω} {inputs : List Input}

/-- Every run of a session is a run of acts. -/
theorem runs_ran : Runs (.init cfg dictionary adminDictionary store now world)
    (.ran cfg dictionary adminDictionary store now world inputs) :=
  (run_spec (Sys.init cfg dictionary adminDictionary store now world) ⟨rfl, rfl⟩).1

/-- A run ends between frames. -/
theorem handled_ran :
    handled (Sys.ran cfg dictionary adminDictionary store now world inputs).trace = none :=
  (run_spec (Sys.init cfg dictionary adminDictionary store now world) ⟨rfl, rfl⟩).2

/-- What holds at the start and is kept by every act holds after every run. -/
theorem ran_keeps {I : Sys σ ω → Prop} (step : ∀ {s t}, Act s t → I s → I t)
    (start : I (.init cfg dictionary adminDictionary store now world)) :
    I (.ran cfg dictionary adminDictionary store now world inputs) :=
  runs_keep step runs_ran start

/-- An act only adds to the trace. -/
lemma Act.suffix {s t : Sys σ ω} (act : Act s t) : s.trace <:+ t.trace := by
  cases act with
  | handle act =>
    obtain ⟨recent, tr, -⟩ := act.trace
    exact ⟨recent, tr.symm⟩
  | send act =>
    obtain ⟨recent, tr, -⟩ := act.trace
    exact ⟨recent, tr.symm⟩
  | ask => exact List.suffix_rfl
  | cut _ left =>
    obtain ⟨recent, tr, -⟩ := left.trace
    exact ⟨recent, tr.symm⟩
  | endLogout now _ left =>
    obtain ⟨recent, tr, -⟩ := left.trace
    exact (List.suffix_cons _ _).trans ⟨recent, tr.symm⟩
  | _ => exact List.suffix_cons _ _

/-- What holds at the start and is kept by every act of a history with `P` holds after every run with
`P` along its history. -/
theorem ran_keeps_along {P : Call σ → List (Call σ) → Prop} {I : Sys σ ω → Prop}
    (step : ∀ {s t}, Act s t → Along P t.trace → I s → I t)
    (start : I (.init cfg dictionary adminDictionary store now world))
    (along : Along P (Sys.ran cfg dictionary adminDictionary store now world inputs).trace) :
    I (.ran cfg dictionary adminDictionary store now world inputs) := by
  refine ran_keeps (I := fun s => Along P s.trace → I s) ?_ (fun _ => start) along
  intro s t act h along
  exact step act along (h (along.of_suffix act.suffix))

end QuickFix
