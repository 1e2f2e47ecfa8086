import QuickFix.Steps.Acts
import QuickFix.Steps.Triples

/-!
# The outbound half as runs of acts

Every function that sends is a run of `SendAct`.
-/

namespace QuickFix

set_option mvcgen.warning false

open Std.Do Session Relation

set_option linter.unusedSectionVars false

variable {σ ω : Type} [Chrono] [MessageStore σ] [Application ω] [Runtime ω]

/-! ## Recent calls -/

/-- The calls made since satisfy `P`. -/
def Extends (P : Event → Bool) (s t : Sys σ ω) : Prop :=
  ∃ recent, t.trace = recent ++ s.trace ∧ ∀ c ∈ recent, P c.event = true

/-- No call was added. -/
lemma Extends.refl {P} {s t : Sys σ ω} (same : t.trace = s.trace) : Extends P s t :=
  ⟨[], same, by simp⟩

/-- One more call. -/
lemma Extends.cons {P} {s t u : Sys σ ω} {c} (h : Extends P s t) (tr : u.trace = c :: t.trace)
    (this : P c.event = true) : Extends P s u := by
  obtain ⟨recent, tr', all⟩ := h
  refine ⟨c :: recent, by rw [tr, tr']; rfl, fun d mem => ?_⟩
  obtain rfl | mem := List.mem_cons.mp mem
  · exact this
  · exact all d mem

/-- Calls after calls. -/
lemma Extends.trans {P} {s t u : Sys σ ω} (h : Extends P s t) (h' : Extends P t u) :
    Extends P s u := by
  obtain ⟨recent, tr, all⟩ := h
  obtain ⟨recent', tr', all'⟩ := h'
  refine ⟨recent' ++ recent, by rw [tr', tr, List.append_assoc], fun c mem => ?_⟩
  exact (List.mem_append.mp mem).elim (all' c) (all c)

/-- Calls of a kind are of a wider one. -/
lemma Extends.imp {P Q} {s t : Sys σ ω} (h : Extends P s t)
    (imp : ∀ e, P e = true → Q e = true) : Extends Q s t := by
  obtain ⟨recent, tr, all⟩ := h
  exact ⟨recent, tr, fun c mem => imp _ (all c mem)⟩

/-- What carries the bytes of a gap fill belongs to it. -/
lemma Event.fills_of_carries {raw} (e : Event) (h : e.carries raw = true) : e.fills = true := by
  cases e with
  | reset site => cases site <;> simp_all [carries, fills]
  | log line => cases line <;> simp_all [carries, fills]
  | _ => simp_all [carries, fills]

/-! ## Disconnecting -/

/-- What `disconnect` leads to. -/
inductive Dropped (s : Sys σ ω) : Sys σ ω → Prop
  | idle : s.session.outbound = false → s.session.inbound = false → Dropped s s
  | cut {t} : s.Connected → GivenUp s t → Dropped s t

/-- `disconnect` drops the connection, if there is one. -/
lemma disconnect_spec {s0 : Sys σ ω} :
    ⦃fun s => ⌜s = s0⌝⦄ disconnect ⦃⇓ _ s => ⌜Dropped s0 s⌝⦄ := by
  mvcgen [disconnect]
  case vc1 s eq conn jp reset log =>
    exact eq ▸ .cut (Bool.or_eq_true_iff.mp conn) (.told log (.reset _ _ reset (passes_utcNow _)))
  case vc2 s eq conn jp reset log =>
    have off := Bool.eq_false_of_not_eq_true log
    exact eq ▸ .cut (Bool.or_eq_true_iff.mp conn) (.silent off (.reset _ _ reset (passes_utcNow _)))
  case vc3 s eq conn jp reset log =>
    exact eq ▸ .cut (Bool.or_eq_true_iff.mp conn) (.told log (.kept (by simpa using reset)))
  case vc4 s eq conn jp reset log =>
    have off := Bool.eq_false_of_not_eq_true log
    exact eq ▸ .cut (Bool.or_eq_true_iff.mp conn) (.silent off (.kept (by simpa using reset)))
  case vc5 s eq conn =>
    simp only [Session.isConnected, Bool.or_eq_true, not_or, Bool.not_eq_true] at conn
    exact eq ▸ .idle conn.1 conn.2

/-- What is left after a connection was given up is detached. -/
lemma Cut.isDetached {s t : Sys σ ω} (h : Cut s t) : t.session.IsDetached := by
  cases h <;> rfl

/-- A connection that was given up leaves nothing. -/
lemma GivenUp.isDetached {s t : Sys σ ω} (h : GivenUp s t) : t.session.IsDetached :=
  h.elim (P := fun t => t.session.IsDetached) Cut.isDetached fun _ => id

/-- Disconnecting after a failed write is a run of the outbound half. -/
lemma Dropped.sends {fresh} {s t : Sys σ ω} (h : Dropped s t) (failed : WriteFailed s) :
    ReflTransGen (SendAct fresh) s t := by
  cases h with
  | idle => exact .refl
  | cut connected left => exact .single (.cut failed connected left)

/-- Giving up the connection makes no call but a reset. -/
lemma Cut.extends {raw} {s t : Sys σ ω} (h : Cut s t) : Extends (Event.carries raw) s t := by
  have noted : Extends (Event.carries raw) s (s.called (.log .disconnecting) s.world) :=
    Extends.cons (.refl (t := s) rfl) rfl rfl
  cases h with
  | kept => exact noted
  | reset w now flag => exact noted.cons rfl rfl

/-- Giving it up makes no call but a reset and the callback. -/
lemma GivenUp.extends {raw} {s t : Sys σ ω} (h : GivenUp s t) : Extends (Event.carries raw) s t :=
  h.elim Cut.extends fun _ noted => noted.cons rfl rfl

/-- Disconnecting makes no call but a reset and the callback. -/
lemma Dropped.extends {raw} {s t : Sys σ ω} (h : Dropped s t) : Extends (Event.carries raw) s t := by
  cases h with
  | idle => exact .refl rfl
  | cut _ left => exact left.extends

/-! ## Sending -/

/-- Setting a header field changes the reading of that field only. -/
@[simp] lemma Message.getRaw_setHeader {α} [FixEncode α] (m : Message) (tag t : Tag) (v : α) :
    (m.setHeader tag v).header.getRaw t =
      if t = tag then some (encode v) else m.header.getRaw t := by
  simp [Message.setHeader]

/-- Setting a header field unless its value is empty leaves the other fields. -/
lemma Message.getRaw_setHeaderUnlessEmpty {m : Message} {tag t : Tag} {v} (ne : t ≠ tag) :
    (m.setHeaderUnlessEmpty tag v).header.getRaw t = m.header.getRaw t := by
  unfold setHeaderUnlessEmpty
  split
  case isTrue => rfl
  case isFalse => simp [ne]

/-- LastMsgSeqNumProcessed is the only field `setLastProcessed` sets. -/
lemma Session.getRaw_setLastProcessed {s : Session σ} {m : Message} {t : Tag}
    (ne : t ≠ Tags.lastMsgSeqNumProcessed) :
    (s.setLastProcessed m).header.getRaw t = m.header.getRaw t := by
  unfold setLastProcessed
  split
  case isTrue => simp [ne]
  case isFalse => rfl

/-- The number of a filled header is the next sender number. -/
@[simp] lemma Session.msgSeqNum_filledHeader (s : Session σ) (now) (m : Message) :
    (s.filledHeader now m).header.getRaw Tags.msgSeqNum =
      some (encode (MessageStore.nextSenderSeqNum s.store)) := by
  simp +decide [filledHeader, Message.stampSendingTime, getRaw_setLastProcessed]

/-- The type of a message with its header filled is unchanged. -/
@[simp] lemma Session.msgType_filledHeader (s : Session σ) (now) (m : Message) :
    (s.filledHeader now m).header.getRaw Tags.msgType = m.header.getRaw Tags.msgType := by
  simp +decide [filledHeader, identify, Message.stampSendingTime, getRaw_setLastProcessed,
    Message.getRaw_setHeaderUnlessEmpty]

/-- Filling a header leaves the body. -/
lemma Session.body_filledHeader (x : Session σ) (now) (m : Message) :
    (x.filledHeader now m).body = m.body := by
  have sparse (m : Message) (tag v) : (m.setHeaderUnlessEmpty tag v).body = m.body := by
    unfold Message.setHeaderUnlessEmpty
    split <;> rfl
  have last (m : Message) : (x.setLastProcessed m).body = m.body := by
    unfold setLastProcessed
    split <;> rfl
  simp [filledHeader, Message.stampSendingTime, Message.setHeader, last, identify, sparse]

/-- A filled header does not make a message administrative. -/
lemma Session.isAdmin_filledHeader (s : Session σ) (now) (m : Message) :
    (s.filledHeader now m.fresh).isAdmin = m.isAdmin := by
  simp +decide [Message.isAdmin, Message.fresh]

/-- A Logon is administrative. -/
lemma Session.isAdmin_logonMessage (s : Session σ) (reset next) :
    (s.logonMessage reset next).isAdmin = true := by
  have header : (s.logonMessage reset next).header = (Message.withType MsgType.logon).header := by
    unfold logonMessage Message.setOption Message.setFlag
    split <;> split <;> split <;> rfl
  rw [Message.isAdmin, header]
  rfl

/-- Filling a header reads a clock. -/
lemma fillHeader_spec {msg : Message} {s0 : Sys σ ω} :
    ⦃fun s => ⌜s = s0⌝⦄ fillHeader msg
    ⦃⇓ m s => ⌜∃ now w, Passes s0.world w ∧ s = { s0 with world := w } ∧
      m = s0.session.filledHeader now msg⌝⦄ := by
  mvcgen [fillHeader, utcNow]
  case vc1 s eq =>
    subst eq
    exact ⟨_, _, passes_utcNow _, rfl, rfl⟩

/-- Handing bytes to the write task is a run of the outbound half that makes no other call, but for
the loss of the connection. -/
lemma transmit_spec (fresh) {raw} {s0 : Sys σ ω} (why : Transmittable fresh raw s0) :
    ⦃fun s => ⌜s = s0⌝⦄ transmit raw
    ⦃⇓ _ s => ⌜ReflTransGen (SendAct fresh) s0 s ∧ Extends (Event.carries raw) s0 s⌝⦄ := by
  have carried (c : Call σ) (h : c.event = .transmit raw ∨ ∃ res, c.event = .write raw res) :
      c.event.carries raw = true := by
    obtain ev | ⟨res, ev⟩ := h <;> simp [ev, Event.carries]
  have transmitted : ReflTransGen (SendAct fresh) s0 (s0.called (.transmit raw) s0.world) :=
    .single (.transmit raw why)
  have noted : Extends (Event.carries raw) s0 (s0.called (.transmit raw) s0.world) :=
    Extends.cons (.refl (t := s0) rfl) rfl (carried _ (.inl rfl))
  mvcgen [transmit, write, instantNow, disconnect_spec]
  case vc1 s eq conn accepted =>
    subst eq
    have written := transmitted.tail (.write raw conn)
    exact ⟨(written.tail (.clock _)).tail (.quiet _ _ _ _ _ _ _ (.inr rfl) (.inr rfl) (.inr ⟨_, rfl⟩)
      (.inl rfl) .refl),
      noted.cons rfl (carried _ (.inr ⟨_, rfl⟩))⟩
  case vc2.isTrue.isFalse.post.success s eq conn gone _ t =>
    subst eq
    intro dropped
    have written := transmitted.tail (.write raw conn)
    exact ⟨written.trans (dropped.sends ⟨_, rfl, raw, by simp [gone]⟩),
      (noted.cons rfl (carried _ (.inr ⟨_, rfl⟩))).trans dropped.extends⟩
  case vc3 s eq conn =>
    subst eq
    exact ⟨transmitted, noted⟩

/-- Giving up the connection keeps the settings. -/
lemma GivenUp.cfg {s t : Sys σ ω} (h : GivenUp s t) : t.session.cfg = s.session.cfg :=
  h.elim (P := fun t => t.session.cfg = s.session.cfg) (fun cut => by cases cut <;> rfl) fun _ => id

/-- An act of the outbound half keeps the settings. -/
lemma SendAct.cfg {fresh} {s t : Sys σ ω} (h : SendAct fresh s t) :
    t.session.cfg = s.session.cfg := by
  cases h with
  | cut _ _ left => exact left.cfg
  | _ => rfl

/-- Sending keeps the settings. -/
lemma Sends.cfg {s t : Sys σ ω} (h : Sends s t) : t.session.cfg = s.session.cfg := by
  induction h with
  | refl => rfl
  | tail _ act ih => exact act.cfg.trans ih

/-- No act of a handler changes the configuration. -/
lemma HandleAct.cfg {resets} {s t : Sys σ ω} (h : HandleAct resets s t) :
    t.session.cfg = s.session.cfg := by
  cases h with
  | send act => exact act.cfg
  | _ => rfl

/-- No act changes the settings. -/
lemma Act.cfg {s t : Sys σ ω} (h : Act s t) : t.session.cfg = s.session.cfg := by
  cases h with
  | handle act => exact act.cfg
  | send act => exact act.cfg
  | cut _ left => exact left.cfg
  | endLogout _ _ left => exact left.cfg
  | _ => rfl

/-- The event is an outgoing callback with its answer. -/
def Event.CallsBack (ω : Type) [Application ω] (e : Event) : Prop :=
  ∃ m, ∃ w : ω, e = .toAdmin m (Application.toAdmin m w).1 ∨ e = .toApp m (Application.toApp m w).1

/-- An outgoing callback was made. -/
def CalledBack (s t : Sys σ ω) : Prop :=
  t.session = s.session ∧ ∃ c, t.trace = c :: s.trace ∧ c.event.CallsBack ω

/-- The latest call was the outgoing callback of a message, which let it through as `sent`. -/
def LetThrough (msg sent : Message) (s : Sys σ ω) : Prop :=
  ∃ c, s.trace.head? = some c ∧ c.session = s.session ∧
    (c.event = .toAdmin msg sent ∨ c.event = .toApp msg (some sent))

/-- The system after the outgoing callback of a message. -/
def Sys.callingBack (m : Message) (s : Sys σ ω) : Sys σ ω :=
  if m.isAdmin then
    s.called (.toAdmin m (Application.toAdmin m s.world).1) (Application.toAdmin m s.world).2
  else s.called (.toApp m (Application.toApp m s.world).1) (Application.toApp m s.world).2

/-- An outgoing callback is a call back. -/
lemma calledBack_callingBack (m : Message) (s : Sys σ ω) : CalledBack s (s.callingBack m) := by
  unfold Sys.callingBack
  split
  · exact ⟨rfl, _, rfl, m, _, .inl rfl⟩
  · exact ⟨rfl, _, rfl, m, _, .inr rfl⟩

/-- An outgoing callback is a run of the outbound half. -/
lemma sends_callingBack (m : Message) (s : Sys σ ω) : Sends s (s.callingBack m) := by
  unfold Sys.callingBack
  split
  · exact .single (.toAdmin m)
  · exact .single (.toApp m)

/-- The message a callback let through comes straight from it. -/
lemma outgoingCallback_spec {msg : Message} {s0 : Sys σ ω} :
    ⦃fun s => ⌜s = s0⌝⦄ outgoingCallback msg
    ⦃post⟨fun m s => ⌜s = s0.callingBack msg ∧ LetThrough msg m s⌝,
      fun _ s => ⌜s = s0.callingBack msg⌝⟩⦄ := by
  mvcgen [outgoingCallback]
  case vc1 admin s eq =>
    subst eq
    exact ⟨(if_pos admin).symm, _, rfl, rfl, .inl rfl⟩
  case vc2 admin s eq m sent =>
    subst eq
    exact ⟨(if_neg admin).symm, _, rfl, rfl, .inr (by simp [sent])⟩
  case vc3 admin s eq veto =>
    subst eq
    exact (if_neg admin).symm

/-- Where messages are persisted, the system after one was stored with this answer. -/
def Saved (seq : Nat) (raw : Bytes) (res : Except Error Unit) (s t : Sys σ ω) : Prop :=
  s.session.cfg.persistMessages = true →
    (MessageStore.saveMessageAndIncr seq raw s.session.store).1 = res ∧
      t = s.stored (.save seq raw res) (MessageStore.saveMessageAndIncr seq raw s.session.store).2

/-- The system after a number was taken. -/
def Took (s t : Sys σ ω) : Prop :=
  ∃ e st, t = s.stored e st ∧ e.takesNumber = true

/-- Persisting the message that was just made is a run of the outbound half. -/
lemma persist_spec {seq raw} {s0 : Sys σ ω} (out : Outgoing seq raw s0.session s0.trace) :
    ⦃fun s => ⌜s = s0⌝⦄ persist seq raw
    ⦃post⟨fun _ s => ⌜Sends s0 s ∧ Saved seq raw (.ok ()) s0 s ∧ Took s0 s⌝,
      fun e s => ⌜Sends s0 s ∧ Saved seq raw (.error e) s0 s⌝⟩⦄ := by
  mvcgen [persist, saveMessageAndIncr, incrNextSenderSeqNum, storeOp]
  case vc1 s eq flag _ ok =>
    subst eq
    exact ⟨.single (.save rfl out flag), fun _ => ⟨ok, by rw [ok]⟩, _, _, rfl, by rw [ok]; rfl⟩
  case vc2 s eq flag _ ok =>
    subst eq
    exact ⟨.single (.save rfl out flag), fun _ => ⟨ok, by rw [ok]⟩⟩
  case vc3 s eq flag _ ok =>
    subst eq
    exact ⟨.single (.incrSender rfl (by simpa using flag)), fun on => absurd on flag, _, _, rfl,
      by rw [ok]; rfl⟩
  case vc4 s eq flag _ _ =>
    subst eq
    exact ⟨.single (.incrSender rfl (by simpa using flag)), fun on => absurd on flag⟩

/-- A message that took its number after its callback passes the gate it passed then. -/
lemma Took.gated {filled sent : Message} {s t : Sys σ ω} (took : Took s t)
    (last : LetThrough filled sent s)
    (gate : (s.session.isLoggedOn || alwaysSent filled.msgTypeOrDefault || s.session.sentLogon) = true) :
    Gated t := by
  obtain ⟨e, st, rfl, number⟩ := took
  obtain ⟨d, head, same, ev⟩ := last
  obtain ⟨rest, trace⟩ := List.head?_eq_some_iff.mp head
  have accepted : freshMessage ⟨s.session, e⟩ d = some filled := by
    rw [freshMessage, if_pos number]
    rcases ev with ev | ev <;> rw [ev] <;> rfl
  refine ⟨⟨s.session, e⟩, d, rest, filled, congrArg _ trace, accepted, ?_, ?_⟩
  · rw [same]
    simp only [Bool.or_eq_true] at gate
    exact gate.elim (·.imp_right .inr) fun sent => .inr (.inl sent)
  · rw [same]
    exact ⟨rfl, rfl⟩

/-- What was just stored may be handed on. -/
lemma Saved.transmittable {seq raw} {s t : Sys σ ω} (h : Saved seq raw (.ok ()) s t)
    (sent : Sends s t) (gate : Gated t) : Transmittable true raw t := by
  cases flag : s.session.cfg.persistMessages with
  | true =>
    obtain ⟨-, rfl⟩ := h flag
    exact .stored rfl ⟨_, _, seq, rfl, rfl⟩ gate
  | false => exact .volatile rfl (sent.cfg ▸ flag) gate

/-- What sending a fresh message comes to. -/
inductive SendOutcome (s : Sys σ ω) : Except Error Unit → Sys σ ω → Prop
  /-- The message is stored, and nothing but its bytes is handed on. -/
  | accepted {u v t seq raw} : CalledBack s u → Outgoing seq raw u.session u.trace →
      Saved seq raw (.ok ()) u v → Extends (Event.carries raw) v t → SendOutcome s (.ok ()) t
  /-- The application vetoes the message, or it has no number. -/
  | refused {u e} : CalledBack s u → SendOutcome s (.error e) u
  /-- The message cannot be stored. -/
  | failed {u v seq raw e} : CalledBack s u → Outgoing seq raw u.session u.trace →
      Saved seq raw (.error e) u v → SendOutcome s (.error e) v

/-- What a callback let through is outgoing when it has a number. -/
lemma CalledBack.outgoing {filled sent : Message} {seq} {s u : Sys σ ω} (called : CalledBack s u)
    (num : filled.header.getRaw Tags.msgSeqNum =
      some (encode (MessageStore.nextSenderSeqNum s.session.store)))
    (last : LetThrough filled sent u)
    (number : (u.session.canonicalized sent).seqNum = .ok seq) :
    Outgoing seq (u.session.canonicalized sent).toBytes u.session u.trace := by
  obtain ⟨c, hd, -, ev⟩ := last
  exact ⟨c, filled, sent, hd, ev, by rw [called.1]; exact num, number, rfl⟩

/-- What was done after a message was filled at some time and went through its callback. -/
def SentOn (msg : Message) (s t : Sys σ ω) : Prop :=
  ∃ now w, Passes s.world w ∧
    Sends (Sys.callingBack (s.session.filledHeader now msg.fresh) { s with world := w }) t

/-- Sending on a message is a run of the outbound half. -/
lemma SentOn.sends {msg : Message} {s t : Sys σ ω} (h : SentOn msg s t) : Sends s t := by
  obtain ⟨now, w, passes, sent⟩ := h
  have clock : Sends s { s with world := w } := .single (.clock w passes)
  exact (clock.trans (sends_callingBack _ _)).trans sent

/-- The normal send path goes on from the callback, with one of the three outcomes. -/
lemma sendMessage_outcome {msg : Message} {s0 : Sys σ ω} :
    ⦃fun s => ⌜s = s0⌝⦄ sendMessage msg
    ⦃post⟨fun _ s => ⌜SentOn msg s0 s ∧ SendOutcome s0 (.ok ()) s⌝,
      fun e s => ⌜SentOn msg s0 s ∧ SendOutcome s0 (.error e) s⌝⟩⦄ := by
  have hand {raw} {s1 : Sys σ ω} (why : Transmittable true raw s1) := transmit_spec true why
  have back (m : Message) (w : ω) :
      CalledBack s0 (Sys.callingBack m { s0 with world := w }) := calledBack_callingBack _ _
  have num (now) : (s0.session.filledHeader now msg.fresh).header.getRaw Tags.msgSeqNum =
      some (encode (MessageStore.nextSenderSeqNum s0.session.store)) := by simp
  mvcgen [sendMessage, fillHeader_spec, outgoingCallback_spec, seqNumOf, persist_spec, hand]
  all_goals clear hand
  case vc1.out s eq filled s1 head sent s2 called seq number =>
    subst eq
    obtain ⟨now, w, -, rfl, rfl⟩ := head
    obtain ⟨rfl, last⟩ := called
    exact (back _ w).outgoing (num now) last number
  case vc2.why called _ _ _ gate _ saved =>
    exact saved.2.1.transmittable saved.1 (saved.2.2.gated called.2 gate)
  case vc3.post.success.post.success.h_1.post.success.isTrue.post.success =>
    rename_i s eq filled s1 head sent s2 called seq number _ _ s3 saved _ t
    subst eq
    obtain ⟨now, w, passes, rfl, rfl⟩ := head
    obtain ⟨rfl, last⟩ := called
    intro handed recent
    have out := (back _ w).outgoing (num now) last number
    exact ⟨⟨now, w, passes, saved.1.trans handed⟩, .accepted (back _ w) out saved.2.1 recent⟩
  case vc4.post.success.post.success.h_1.post.success.isFalse =>
    rename_i s eq filled s1 head sent s2 called seq number _ _ s3 saved
    subst eq
    obtain ⟨now, w, passes, rfl, rfl⟩ := head
    obtain ⟨rfl, last⟩ := called
    have out := (back _ w).outgoing (num now) last number
    exact ⟨⟨now, w, passes, saved.1⟩, .accepted (back _ w) out saved.2.1 (.refl rfl)⟩
  case vc5.post.success.post.success.h_1.post.except.handle =>
    rename_i s eq filled s1 head sent s2 called seq number _ s3
    subst eq
    obtain ⟨now, w, passes, rfl, rfl⟩ := head
    obtain ⟨rfl, last⟩ := called
    intro sends saved
    have out := (back _ w).outgoing (num now) last number
    exact ⟨⟨now, w, passes, sends⟩, .failed (back _ w) out saved⟩
  case vc6.post.success.post.success.h_2 =>
    rename_i s eq filled s1 head sent s2 called _ _
    subst eq
    obtain ⟨now, w, passes, rfl, rfl⟩ := head
    obtain ⟨rfl, -⟩ := called
    exact ⟨⟨now, w, passes, .refl⟩, .refused (back _ w)⟩
  case vc7.post.success.post.except.handle =>
    rename_i s eq filled s1 head _ s2
    subst eq
    obtain ⟨now, w, passes, rfl, rfl⟩ := head
    rintro rfl
    exact ⟨⟨now, w, passes, .refl⟩, .refused (back _ w)⟩

/-- The normal send path is a run of the outbound half, whether or not it fails. -/
@[spec] lemma sendMessage_spec {msg : Message} {s0 : Sys σ ω} :
    ⦃fun s => ⌜s = s0⌝⦄ sendMessage msg
    ⦃post⟨fun _ s => ⌜Sends s0 s⌝, fun _ s => ⌜Sends s0 s⌝⟩⦄ := by
  generalize goal : Sends s0 = R
  mvcgen [sendMessage_outcome]
  all_goals
    rename_i s eq _ t
    exact fun sent _ => goal ▸ eq ▸ sent.sends

/-- Where a logout may be started. -/
def MayLogOut (s : Sys σ ω) : Prop :=
  handled s.trace ≠ none ∨ s.session.outbound = true ∨ s.session.isLoggedOn = true

/-- Starting a logout is a run of the outbound half. -/
lemma initiateLogout_spec {reason} {s0 : Sys σ ω} (may : MayLogOut s0) :
    ⦃fun s => ⌜s = s0⌝⦄ initiateLogout reason
    ⦃post⟨fun _ s => ⌜Sends s0 s⌝, fun _ s => ⌜Sends s0 s⌝⟩⦄ := by
  generalize goal : Sends s0 = R
  mvcgen [initiateLogout]
  all_goals
    rename_i s eq _ t
    intro sent
    subst goal eq
    exact (ReflTransGen.single (.logout may)).trans sent

/-- A Logon that was announced is sent on. -/
lemma SentOn.announced {line logon} {s t : Sys σ ω}
    (sent : SentOn logon (s.called (.log line) s.world) t)
    (own : Announced s.session s.trace line logon)
    (admin : logon.isAdmin = true) : Sends s t := by
  obtain ⟨now, w, passes, sent⟩ := sent
  change Sends (Sys.callingBack (s.session.filledHeader now logon.fresh) _) t at sent
  rw [Sys.callingBack, if_pos ((s.session.isAdmin_filledHeader now logon).trans admin)] at sent
  exact .head (.announce rfl now w own passes) sent

/-- Sending the first Logon is a run of the outbound half. -/
lemma sendLogon_spec {s0 : Sys σ ω} (connected : s0.session.outbound = true) :
    ⦃fun s => ⌜s = s0⌝⦄ sendLogon
    ⦃post⟨fun _ s => ⌜Sends s0 s⌝, fun _ s => ⌜Sends s0 s⌝⟩⦄ := by
  generalize goal : Sends s0 = R
  mvcgen [sendLogon, -sendMessage_spec, sendMessage_outcome]
  all_goals
    rename_i s eq _ t
    intro sent _
    subst goal eq
    have announced := sent.announced .initiated (Session.isAdmin_logonMessage ..)
    exact .head (.logon _ (.inl connected)) announced

/-- The session is undisturbed while it keeps its connection. -/
lemma Undisturbed.keep {s t : Sys σ ω} (h : Undisturbed s) (sub : s.trace ⊆ t.trace)
    (inbound : t.session.inbound = s.session.inbound)
    (outbound : t.session.outbound = s.session.outbound) : Undisturbed t := by
  obtain ⟨c, mem, up, same⟩ := h
  exact ⟨c, sub mem, up, inbound.trans same.1, outbound.trans same.2⟩

/-- What may be computed may be computed when that is called for. -/
lemma Computed.due {s : Sys σ ω} {what} (why : Computed s [what]) (due : Bool) :
    Computed s (if due then [what] else []) := by
  cases due with
  | true => exact why
  | false => exact .none

/-- Adopting the heartbeat interval of a Logon. -/
lemma Sends.adopt {msg : Message} {s : Sys σ ω} (acceptor : s.session.isInitiator = false)
    (passed : PassedLogon msg s.trace) (type : msg.msgTypeOrDefault = MsgType.logon) :
    Sends s (s.updated (Session.adoptHeartbeat (msg.bodyU64 Tags.heartBtInt))) := by
  have adopted : Sends s _ := .single (.adopt acceptor passed type rfl)
  cases asked : msg.bodyU64 Tags.heartBtInt with
  | none => exact .refl
  | some secs =>
    rw [asked] at adopted
    exact adopted

/-- Answering a Logon is a run of the outbound half. -/
lemma sendLogonReply_spec {msg : Message} {s0 : Sys σ ω} (same : Undisturbed s0)
    (acceptor : s0.session.isInitiator = false) (passed : PassedLogon msg s0.trace)
    (type : msg.msgTypeOrDefault = MsgType.logon) :
    ⦃fun s => ⌜s = s0⌝⦄ sendLogonReply (msg.bodyU64 Tags.heartBtInt)
    ⦃post⟨fun _ s => ⌜Sends s0 s⌝, fun _ s => ⌜Sends s0 s⌝⟩⦄ := by
  generalize goal : Sends s0 = R
  mvcgen [sendLogonReply, -sendMessage_spec, sendMessage_outcome]
  all_goals
    rename_i s eq _ t
    intro sent _
    subst goal eq
    have adopted := Sends.adopt acceptor passed type
    have same : Undisturbed (s.updated (Session.adoptHeartbeat (msg.bodyU64 Tags.heartBtInt))) := by
      cases msg.bodyU64 Tags.heartBtInt <;> exact same.keep (fun _ h => h) rfl rfl
    have announced :=
      sent.announced (.responding rfl passed) (Session.isAdmin_logonMessage ..)
    exact ((adopted.tail (.logon _ (.inr same))).tail (.compute _ (.due .nextExpected _))).trans
      announced

/-- A gap fill is sent as a possible duplicate. -/
lemma gapFillMessage_possDup (m : Message) (b n : Nat) (now : UtcTimestamp) :
    (gapFillMessage m b n now).possDup = true := by
  simp +decide [gapFillMessage, Message.possDup, Message.set, encode]

/-- Sending a gap fill is a resend, of nothing else. -/
lemma sendGapFill_spec {begin' newSeq} {s0 : Sys σ ω} :
    ⦃fun s => ⌜s = s0⌝⦄ sendGapFill begin' newSeq
    ⦃⇓ _ s => ⌜Resends s0 s ∧ Extends Event.fills s0 s⌝⦄ := by
  have hand {raw} {s1 : Sys σ ω} (why : Transmittable false raw s1) := transmit_spec false why
  mvcgen [sendGapFill, fillHeader_spec, utcNow, hand]
  case vc1.why s eq m s1 head msg =>
    have dup : msg.possDup = true := gapFillMessage_possDup _ _ _ _
    exact .resent ⟨[], _, _, msg, _, rfl, by simp, .inl rfl, dup, rfl⟩
  case vc2.post.success.post.success s eq m s1 head msg _ t =>
    obtain ⟨now, w, passes, rfl, rfl⟩ := head
    subst eq
    intro handed recent
    have called : Extends Event.fills s (s.called (.toAdmin msg (Application.toAdmin msg
        (Runtime.utcNow w).2).1) (Application.toAdmin msg (Runtime.utcNow w).2).2) :=
      Extends.cons (.refl (t := s) rfl) rfl rfl
    refine ⟨?_, called.trans (recent.imp Event.fills_of_carries)⟩
    exact (((ReflTransGen.single (.clock w passes)).tail (.clock _)).tail (.toAdmin msg)).trans handed

/-! ## What sending leaves -/

/-- Giving up the connection adds sending calls to the trace, and resets the store only where that is
asked for. -/
lemma Cut.trace {s t : Sys σ ω} (h : Cut s t) :
    ∃ recent, t.trace = recent ++ s.trace ∧ ∀ c ∈ recent, c.event.isSend = true ∧
      ∀ site res, c.event = .reset site res → c.session.cfg.resetOnDisconnect = true := by
  cases h with
  | kept => exact ⟨[_], rfl, by simp [Event.isSend]⟩
  | reset w now flag => exact ⟨[_, _], rfl, by simp [Event.isSend, Sys.updated, Sys.called, Session.detached, flag]⟩

/-- Giving up the connection makes sending calls, and resets where that is configured. -/
lemma GivenUp.trace {s t : Sys σ ω} (h : GivenUp s t) :
    ∃ recent, t.trace = recent ++ s.trace ∧ ∀ c ∈ recent, c.event.isSend = true ∧
      ∀ site res, c.event = .reset site res → c.session.cfg.resetOnDisconnect = true := by
  refine h.elim (P := fun t => ∃ recent, t.trace = recent ++ s.trace ∧ ∀ c ∈ recent, _) Cut.trace ?_
  rintro u _ ⟨recent, tr, sends⟩
  refine ⟨_ :: recent, congrArg _ tr, List.forall_mem_cons.mpr ⟨⟨rfl, nofun⟩, sends⟩⟩

/-- An act of the outbound half adds sending calls to the trace, and resets the store only after a
failed write. -/
lemma SendAct.trace {fresh} {s t : Sys σ ω} (h : SendAct fresh s t) :
    ∃ recent, t.trace = recent ++ s.trace ∧ ∀ c ∈ recent, c.event.isSend = true ∧
      ∀ site res, c.event = .reset site res →
        c.session.cfg.resetOnDisconnect = true ∧ WriteFailed s := by
  cases h with
  | quiet | adopt | logon => exact ⟨[], rfl, by simp⟩
  | cut failed _ left =>
    obtain ⟨recent, tr, sends⟩ := left.trace
    refine ⟨recent, tr, fun c mem => ⟨(sends c mem).1, fun site res ev => ⟨?_, failed⟩⟩⟩
    exact (sends c mem).2 site res ev
  | announce => exact ⟨[_, _], rfl, by simp [Event.isSend, Sys.called]⟩
  | _ => exact ⟨[_], rfl, by simp [Event.isSend]⟩

/-- Sending only adds to the trace. -/
lemma sends_suffix {fresh} {s t : Sys σ ω} (h : ReflTransGen (SendAct fresh) s t) :
    s.trace <:+ t.trace := by
  induction h with
  | refl => exact List.suffix_rfl
  | tail _ act ih =>
    obtain ⟨recent, tr, -⟩ := act.trace
    exact ih.trans ⟨recent, tr.symm⟩

/-- Sending adds sending calls to the trace. -/
lemma Sends.log {s t : Sys σ ω} (h : Sends s t) (start : ¬ WriteFailed s) :
    ∃ recent, t.trace = recent ++ s.trace ∧ SendLog recent := by
  induction h with
  | refl => exact ⟨[], rfl, ⟨by simp, by simp⟩⟩
  | @tail t u _ act ih =>
    obtain ⟨recent, tr, log⟩ := ih
    obtain ⟨more, tr', sends⟩ := act.trace
    refine ⟨more ++ recent, by rw [tr', tr, List.append_assoc], ?_, ?_⟩
    · intro c mem
      exact (List.mem_append.mp mem).elim (fun h => (sends c h).1) (log.sends c)
    · intro c mem site res ev
      rcases List.mem_append.mp mem with mem | mem
      · obtain ⟨flag, d, head, raw, failed⟩ := (sends c mem).2 site res ev
        refine ⟨flag, ?_⟩
        cases recent with
        | nil => exact absurd ⟨d, by simpa [tr] using head, raw, failed⟩ start
        | cons r rest =>
          have same : r = d := by simpa [tr] using head
          exact ⟨r, rest, raw, List.suffix_append _ _, same ▸ failed⟩
      · obtain ⟨flag, d, rest, raw, suf, failed⟩ := log.resets c mem site res ev
        exact ⟨flag, d, rest, raw, suf.trans (List.suffix_append _ _), failed⟩

/-- Sending calls take nothing up. -/
lemma handled_append {recent rest : List (Call σ)} (sends : ∀ c ∈ recent, c.event.isSend = true) :
    handled (recent ++ rest) = handled rest := by
  induction recent with
  | nil => rfl
  | cons c recent ih =>
    have send := sends c (by simp)
    have ih := ih fun d mem => sends d (by simp [mem])
    rw [List.cons_append, handled, ih]
    cases ev : c.event <;> simp_all [Event.isSend]

/-- Sending calls do not move the next target number. -/
lemma stale_append {recent rest : List (Call σ)} (sends : ∀ c ∈ recent, c.event.isSend = true) :
    stale (recent ++ rest) = stale rest := by
  induction recent with
  | nil => rfl
  | cons c recent ih =>
    have send := sends c (by simp)
    have ih := ih fun d mem => sends d (by simp [mem])
    rw [List.cons_append, stale, ih]
    cases ev : c.event <;> simp_all [Event.isSend]

/-- A range that was recorded stays so while sending. -/
lemma Sends.stale {s t : Sys σ ω} (h : Sends s t) : stale t.trace = stale s.trace := by
  induction h with
  | refl => rfl
  | tail _ act ih =>
    obtain ⟨recent, tr, sends⟩ := act.trace
    rw [tr, ← ih]
    exact stale_append fun c mem => (sends c mem).1

/-- What is handled stays the same while sending. -/
lemma Sends.handled {s t : Sys σ ω} (h : Sends s t) : handled t.trace = handled s.trace := by
  induction h with
  | refl => rfl
  | tail _ act ih =>
    obtain ⟨recent, tr, sends⟩ := act.trace
    rw [tr, ← ih]
    exact handled_append fun c mem => (sends c mem).1

/-! ## Resends -/

/-- A stored message is sent again as a possible duplicate. -/
lemma Message.resent_possDup (m : Message) (now : UtcTimestamp) : (m.resent now).possDup = true := by
  cases sent : m.header.getRaw Tags.sendingTime with
  | none => simp +decide [resent, possDup, stampSendingTime, encode, sent]
  | some orig => simp +decide [resent, possDup, stampSendingTime, encode, sent]

/-- What is sent again after its callback, and maybe a gap fill, may be sent. -/
lemma Extends.resent {m m' : Message} {answer} {s t : Sys σ ω} {w} (dup : m.possDup = true)
    (h : Extends Event.fills (s.called (.toApp m answer) w) t) (sent : answer = some m') :
    Transmittable false m'.toBytes t := by
  obtain ⟨recent, tr, fills⟩ := h
  exact .resent ⟨recent, _, _, m, m', tr, fills, .inr (by rw [sent]), dup, rfl⟩

/-- Sending one number again is a resend. -/
@[spec] lemma retransmitOne_spec {stored now gapBegin seq} {s0 : Sys σ ω} :
    ⦃fun s => ⌜s = s0⌝⦄ retransmitOne stored now gapBegin seq ⦃⇓ _ s => ⌜Resends s0 s⌝⦄ := by
  have hand {raw} {s1 : Sys σ ω} (why : Transmittable false raw s1) := transmit_spec false why
  generalize goal : Resends s0 = R
  mvcgen [retransmitOne, sendGapFill_spec, hand]
  all_goals clear hand
  case vc1.h_1 s eq => exact goal ▸ eq ▸ .refl
  case vc2.h_2.h_1 m _ s eq veto => exact goal ▸ eq ▸ .single (.toApp _)
  case vc3.why m _ s eq sent called jp gb _ _ s1 filled =>
    exact filled.2.resent (m.resent_possDup now) called
  case vc4.h_2.h_2.h_1.post.success.post.success m _ s eq sent called jp gb _ _ s1 filled _ t last =>
    exact goal ▸ eq ▸ ((ReflTransGen.single (.toApp _)).trans filled.1).trans last.1
  case vc5.why m _ s eq sent called jp _ =>
    exact Extends.resent (m.resent_possDup now) (.refl rfl) called
  case vc6.h_2.h_2.h_2.post.success m _ s eq sent called jp _ _ t last =>
    exact goal ▸ eq ▸ (ReflTransGen.single (.toApp _)).trans last.1

/-- Sending numbers again is a resend. -/
@[spec] lemma retransmitAll_spec {stored now gapBegin} {seqs} {s0 : Sys σ ω} :
    ⦃fun s => ⌜s = s0⌝⦄ retransmitAll stored now seqs gapBegin ⦃⇓ _ s => ⌜Resends s0 s⌝⦄ := by
  induction seqs generalizing gapBegin s0 with
  | nil =>
    mvcgen [retransmitAll]
    rename_i s eq
    exact eq ▸ .refl
  | cons seq seqs ih =>
    generalize goal : Resends s0 = R
    mvcgen [retransmitAll, ih]
    rename_i s eq _ s1 first _ s2
    exact fun rest => goal ▸ eq ▸ first.trans rest

/-- The number was sent before a call. -/
def SentBefore (n : Nat) (s : Sys σ ω) : Prop := ∃ c ∈ s.trace, n + 1 ≤ max 1 c.nextSender

/-- A gap fill up to a number that was sent may be made. -/
lemma SentBefore.computed {n} {s t : Sys σ ω} (h : SentBefore n s) (more : s.trace <:+ t.trace) :
    Computed t [.fillEnd n] := by
  obtain ⟨c, mem, sent⟩ := h
  exact .fillEnd (more.subset mem) sent

/-- Replaying a range is a resend. -/
lemma retransmit_spec {b e} {s0 : Sys σ ω} (sent : SentBefore e s0) :
    ⦃fun s => ⌜s = s0⌝⦄ retransmit b e ⦃⇓ _ s => ⌜Resends s0 s⌝⦄ := by
  generalize goal : Resends s0 = R
  mvcgen [retransmit, getMessages, storeOp, utcNow, sendGapFill_spec]
  case vc1.h_1.post.success.h_1.post.success s eq ms _ _ gb _ s1 all _ s2 =>
    intro last _
    subst goal eq
    have run := ((ReflTransGen.single (.getMessages b e)).tail (.clock _)).trans all
    exact (run.tail (.compute _ (sent.computed (sends_suffix run)))).trans last
  case vc2.h_1.post.success.h_2 s eq ms _ _ _ s1 all =>
    exact goal ▸ eq ▸ ((ReflTransGen.single (.getMessages b e)).tail (.clock _)).trans all
  case vc3.h_2 s eq e' _ => exact goal ▸ eq ▸ .single (.getMessages b e)

/-- Answering a resend range is a resend. -/
lemma answerResend_spec {b e} {s0 : Sys σ ω} (sent : SentBefore e s0) :
    ⦃fun s => ⌜s = s0⌝⦄ answerResend b e ⦃⇓ _ s => ⌜Resends s0 s⌝⦄ := by
  generalize goal : Resends s0 = R
  mvcgen [answerResend, retransmit_spec, sendGapFill_spec]
  case vc1.isTrue s eq => exact goal ▸ eq ▸ .refl
  case vc2.sent => exact ‹_ = s0› ▸ sent
  case vc3 s eq _ _ t => exact fun sent => goal ▸ eq ▸ sent
  case vc4 s eq _ _ t =>
    intro filled _
    subst goal eq
    exact (ReflTransGen.single (.compute _ (sent.computed List.suffix_rfl))).trans filled

end QuickFix
