import QuickFix.Session.Script
import QuickFix.Steps.Kept
import QuickFix.Steps.Refusals
import QuickFix.Steps.Run
import QuickFix.Wire.Stash

/-!
# Replaying the stash

An application message that comes into sequence in the stash is handed to `process` like one that just
arrived, and is passed over only when the application was given it or a Reject answers it
(`drainOne_replays_iff`). What decides about it is not its type, though, but whether its bytes read
`35=A` or `35=2` somewhere behind a separator: a MsgType that starts with these, and a binary field that
holds them, count as a queued Logon or ResendRequest, which are only counted. So are bytes that do not
parse any more, as they may do when the sort of the header parted data from its length.
-/

namespace QuickFix

set_option mvcgen.warning false
set_option linter.unusedSectionVars false

open Std.Do Session Relation

section Replay

variable {σ ω : Type} [Chrono] [MessageStore σ] [Application ω] [Runtime ω]

/-! ## Settling a message -/

/-- The call gives a message to the application, or answers it with a Reject. -/
def Call.settles (msg : Message) (c : Call σ) : Prop :=
  (∃ answer, c.event = .fromApp msg answer) ∨ c.rejects msg

/-- The message was settled since. -/
def SettledSince (msg : Message) (s t : Sys σ ω) : Prop :=
  ∃ recent, t.trace = recent ++ s.trace ∧ ∃ c ∈ recent, c.settles msg

/-- The next target number was not moved up, unless the message was settled. -/
def Accounted (msg : Message) (s t : Sys σ ω) : Prop := SettledSince msg s t ∨ NotMovedUp s t

variable {msg : Message} {s t u : Sys σ ω}

/-- The history of a settled message goes on. -/
lemma SettledSince.suffix (h : SettledSince msg s t) : s.trace <:+ t.trace := by
  obtain ⟨recent, tr, -⟩ := h
  exact ⟨recent, tr.symm⟩

/-- A settled message stays settled. -/
lemma SettledSince.more (h : SettledSince msg s t) (suf : t.trace <:+ u.trace) : SettledSince msg s u := by
  obtain ⟨recent, tr, c, mem, settles⟩ := h
  obtain ⟨later, tr'⟩ := suf
  exact ⟨later ++ recent, by rw [← tr', tr, List.append_assoc], c, List.mem_append_right _ mem, settles⟩

/-- What was done before does not matter to a message that is settled. -/
lemma SettledSince.since (suf : s.trace <:+ t.trace) (h : SettledSince msg t u) : SettledSince msg s u := by
  obtain ⟨earlier, tr⟩ := suf
  obtain ⟨recent, tr', c, mem, settles⟩ := h
  exact ⟨recent ++ earlier, by rw [tr', ← tr, List.append_assoc], c, List.mem_append_left _ mem, settles⟩

/-- Accounting for a message only adds to the history. -/
lemma Accounted.suffix (h : Accounted msg s t) : s.trace <:+ t.trace := by
  cases h with
  | inl settled => exact settled.suffix
  | inr still => exact still.suffix

/-- What is accounted for in two steps is accounted for. -/
lemma Accounted.trans (h : Accounted msg s t) (h' : Accounted msg t u) : Accounted msg s u := by
  cases h with
  | inl settled => exact .inl (settled.more h'.suffix)
  | inr still =>
    cases h' with
    | inl settled => exact .inl (settled.since still.suffix)
    | inr still' => exact .inr (still.trans still')

/-- Calls that move nothing. -/
lemma Accounted.called {e w} (h : Accounted msg s t) (quiet : e.movesUp = false) :
    Accounted msg s (t.called e w) :=
  h.trans (.inr (.cons (.refl (t := t) rfl) rfl (by simp [quiet])))

/-! ## Rejects -/

/-- A message that is answered with a Reject is settled. -/
lemma SentOn.settled {rej} (h : SentOn (rejectMessage s.session.cfg.sessionId msg rej) s t) :
    SettledSince msg s t := by
  obtain ⟨now, w, -, sent⟩ := h
  have admin := (s.session.isAdmin_filledHeader now _).trans
    (isAdmin_rejectMessage s.session.cfg.sessionId msg rej)
  rw [Sys.callingBack, if_pos admin] at sent
  refine SettledSince.more ⟨[_], rfl, _, List.mem_singleton_self _, ?_⟩ (sends_suffix sent)
  exact .inr ⟨rej, now, _, rfl⟩

/-- Rejecting a message settles it, unless it could not be counted. -/
@[local spec high] lemma reject_accounted {rej} {s0 : Sys σ ω} :
    ⦃fun s => ⌜s = s0⌝⦄ reject msg rej ⦃⇓ _ s => ⌜Accounted msg s0 s⌝⦄ := by
  mvcgen [reject, -reject_spec, sendReject, incrNextTargetSeqNum, storeOp, -sendMessage_spec,
    sendMessage_outcome]
  all_goals subst_vars
  case vc3.isTrue.h_2 s _ _ _ e failed =>
    refine .inr (.cons (.refl (t := s) rfl) rfl ?_)
    rw [failed]
    rfl
  case vc1.isTrue.h_1.post.success s _ _ _ _ _ _ t =>
    exact fun sent _ => .inl (.since (t := s.counted) ⟨[_], rfl⟩ sent.settled)
  case vc2.isTrue.h_1.post.except.handle s _ _ _ _ _ _ t =>
    exact fun sent _ => .inl (.since (t := s.counted) ⟨[_], rfl⟩ sent.settled)
  all_goals exact fun sent _ => .inl sent.settled

/-! ## The checks -/

/-- Where nothing was done, nothing was counted. -/
lemma Accounted.refl (s : Sys σ ω) : Accounted msg s s := .inr (.refl rfl)

/-- An application message is settled by its callback. -/
@[local spec]
lemma incomingCallback_settled (app : msg.isAdmin = false) {s0 : Sys σ ω} :
    ⦃fun s => ⌜s = s0⌝⦄ incomingCallback msg ⦃⇓ _ s => ⌜SettledSince msg s0 s⌝⦄ := by
  mvcgen [incomingCallback]
  case vc1.isTrue admin _ _ => exact absurd admin (Bool.not_eq_true _ ▸ app)
  case vc2.isFalse _ eq =>
    subst eq
    exact ⟨[_], rfl, _, List.mem_singleton_self _, .inl ⟨_, rfl⟩⟩

/-- What follows on a refusal only adds to the trace. -/
@[local spec]
lemma refuse_suffix {e : ApplicationError} {s0 : Sys σ ω} :
    ⦃fun s => ⌜s = s0⌝⦄ refuse msg e
    ⦃post⟨fun _ s => ⌜s0.trace <:+ s.trace⌝, fun _ s => ⌜s0.trace <:+ s.trace⌝⟩⦄ := by
  have counted (s : Sys σ ω) : s.trace <:+ s.counted.trace := List.suffix_cons _ _
  mvcgen [refuse, sendBusinessReject_spec, -reject_spec, logOut_only]
  all_goals subst_vars
  case vc1.h_1.post.success out => exact (counted _).trans out.notMovedUp.suffix
  case vc2.h_2.post.success rejected => exact rejected.suffix
  case vc3.h_3.post.success sent => exact (counted _).trans (sends_suffix sent)
  case vc4.h_3.post.except.handle sent => exact (counted _).trans (sends_suffix sent)

/-- An application message that reaches its callback is settled. -/
lemma verifyCallback_settled (app : msg.isAdmin = false) {s0 : Sys σ ω} :
    ⦃fun s => ⌜s = s0⌝⦄ verifyCallback msg
    ⦃post⟨fun _ s => ⌜SettledSince msg s0 s⌝, fun _ s => ⌜SettledSince msg s0 s⌝⟩⦄ := by
  mvcgen [verifyCallback, instantNow]
  all_goals subst_vars
  case vc2.post.success.h_1 settled => exact settled
  case vc3.post.success.h_2.post.success settled _ _ => exact fun suf => SettledSince.more settled suf
  case vc4.post.success.h_2.post.except.handle settled _ _ => exact fun suf => SettledSince.more settled suf

/-- The checks of an application message account for it, and settle it where they let it pass. -/
lemma accounted_checks (app : msg.isAdmin = false) :
    Checks (σ := σ) (ω := ω) msg (Accounted msg) (SettledSince msg) where
  trans h h' := h.trans h'
  since h h' := h'.since h.suffix
  still := .inr
  counted h := .inl (h.more (List.suffix_cons _ _))
  rejects := reject_accounted
  callback {s0} := by
    have settled := @verifyCallback_settled σ ω _ _ _ _ msg app s0
    mvcgen [settled]
    case vc2 => exact fun settled => ⟨fun _ => settled, .inl settled⟩
    case vc3 => exact .inl

/-! ## Processing -/

/-- A message of another version is counted, and answered with a Logout. -/
lemma process_otherVersion {mt} (type : msg.msgType = .ok mt) {s0 : Sys σ ω}
    (other : msg.header.getRaw Tags.beginString ≠ some s0.session.cfg.sessionId.beginString) :
    ⦃fun s => ⌜s = s0⌝⦄ process msg
    ⦃post⟨fun _ s => ⌜Extends (Event.sendsType MsgType.logout) s0.counted s⌝,
      fun _ s => ⌜Extends (Event.sendsType MsgType.logout) s0.counted s⌝⟩⦄ := by
  mvcgen [process, logOut_only]
  all_goals subst_vars
  case vc1.h_1 untyped _ =>
    rw [type] at untyped
    cases untyped
  case vc2.h_2.isTrue.post.success.post.success out => exact out
  case vc3.h_2.isFalse.h_1.post.success other own _ _ _ _ => exact absurd other own
  case vc4.h_2.isFalse.h_2 other own _ => exact absurd other own

/-- The message is of another version, and can be counted. -/
structure OtherVersion (msg : Message) (s : Sys σ ω) : Prop where
  typed : ∃ mt, msg.msgType = .ok mt
  version : msg.header.getRaw Tags.beginString ≠ some s.session.cfg.sessionId.beginString
  counts : (MessageStore.incrNextTargetSeqNum s.session.store).1 = .ok ()

/-- An application message is accounted for when it is processed, unless it is of another version. -/
lemma process_accounted (app : msg.isAdmin = false) {s0 : Sys σ ω} (own : ¬ OtherVersion msg s0) :
    ⦃fun s => ⌜s = s0⌝⦄ process msg
    ⦃post⟨fun _ s => ⌜Accounted msg s0 s⌝, fun _ s => ⌜Accounted msg s0 s⌝⟩⦄ := by
  apply (accounted_checks app).process app
  intro mt reason type other
  -- The number is not moved: it could not be counted.
  have still : NotMovedUp s0 s0.counted := by
    refine .cons (.refl (t := s0) rfl) rfl ?_
    cases counts : (MessageStore.incrNextTargetSeqNum s0.session.store).1 with
    | ok => exact absurd ⟨⟨mt, type⟩, other, counts⟩ own
    | error => rfl
  mvcgen [logOut_only]
  case vc1 eq _ _ => exact fun out => .inr (still.trans (eq ▸ out.notMovedUp))

/-! ## Replaying -/

/-- The system when `process` is handed the entry of the stash that is in sequence. -/
def Sys.replaying (raw : Bytes) (msg : Message) (s : Sys σ ω) : Sys σ ω :=
  ((s.called (.unstash s.nextTarget raw) s.world).updated (unstashing s.nextTarget)).called
    (.process .stash msg) s.world

/-- Replaying an entry processes it like a message that just arrived in sequence, and moves the next
target number past it only when it was settled. -/
structure Replays (raw : Bytes) (msg : Message) (s : Sys σ ω) : Prop where
  handed : (drainOne : ExceptT Disconnect (SessionM σ ω) Bool).run.run s =
    ((fun _ => true) <$> process msg : ExceptT Disconnect (SessionM σ ω) Bool).run.run (s.replaying raw msg)
  accounted : Accounted msg s (s.after drainOne.run)

/-- What holds however a computation ends holds of the system after it. -/
lemma after_of_spec {α : Type} {x : ExceptT Disconnect (SessionM σ ω) α} {P : Sys σ ω → Prop}
    (spec : ⦃fun t => ⌜t = s⌝⦄ x ⦃post⟨fun _ t => ⌜P t⌝, fun _ t => ⌜P t⌝⟩⦄) : P (s.after x.run) := by
  have ended := spec s rfl
  simp only [wp, PredTrans.apply_pushExcept, PredTrans.apply_pushArg] at ended
  unfold Sys.after
  generalize x.run.run s = outcome at ended ⊢
  obtain ⟨result, t⟩ := outcome
  cases result with
  | ok => exact ended
  | error => exact ended

/-- Counting, and returning something. -/
lemma after_incrTarget {α : Type} (a : α) (s : Sys σ ω) :
    s.after ((do incrTarget; return a : ExceptT Disconnect (SessionM σ ω) α).run) = s.counted := by
  refine after_of_spec (P := (· = s.counted)) ?_
  mvcgen [incrTarget, incrNextTargetSeqNum, storeOp]
  all_goals
    subst_vars
    rfl

/-- A computation that reads the session first. -/
lemma run_current {α : Type} (f : Session σ → ExceptT Disconnect (SessionM σ ω) α) (s : Sys σ ω) :
    (lift current >>= f).run.run s = (f s.session).run.run s := rfl

/-- An entry that reads like a queued Logon or ResendRequest is counted only. -/
lemma drainOne_queuedAdmin {raw} (entry : s.session.stash[s.nextTarget]? = some raw)
    (queued : queuedAdmin raw = true) :
    s.after drainOne.run =
      ((s.called (.unstash s.nextTarget raw) s.world).updated (unstashing s.nextTarget)).counted := by
  unfold drainOne
  rw [Sys.after, run_current]
  simp only [entry]
  unfold queuedAdmin at queued
  simp only [queued]
  exact after_incrTarget true _

/-- Any other entry is processed. -/
lemma drainOne_process {raw} (entry : s.session.stash[s.nextTarget]? = some raw)
    (parsed : Message.parse raw false = .ok msg) (queued : queuedAdmin raw = false) :
    (drainOne : ExceptT Disconnect (SessionM σ ω) Bool).run.run s =
      ((fun _ => true) <$> process msg : ExceptT Disconnect (SessionM σ ω) Bool).run.run
        (s.replaying raw msg) := by
  unfold drainOne
  rw [run_current]
  simp only [entry]
  unfold queuedAdmin at queued
  simp only [queued, parsed]
  rfl

/-- A computation whose result is mapped ends in the same system. -/
lemma after_map {α β : Type} (f : α → β) (x : ExceptT Disconnect (SessionM σ ω) α) (s : Sys σ ω) :
    s.after (f <$> x).run = s.after x.run := by
  simp only [Sys.after, ExceptT.run_map, StateT.run_map]
  rfl

/-- Any other entry is handed to `process`. -/
lemma after_drainOne {raw} (handed : (drainOne : ExceptT Disconnect (SessionM σ ω) Bool).run.run s =
      ((fun _ => true) <$> process msg : ExceptT Disconnect (SessionM σ ω) Bool).run.run
        (s.replaying raw msg)) :
    s.after drainOne.run = (s.replaying raw msg).after (process msg).run := by
  rw [Sys.after, handed]
  exact after_map _ _ _

/-- Processing an application message only adds to the trace. -/
lemma process_suffix (app : msg.isAdmin = false) :
    s.trace <:+ (s.after (process msg).run).trace := by
  by_cases other : OtherVersion msg s
  · obtain ⟨mt, type⟩ := other.typed
    obtain ⟨recent, tr, -⟩ := after_of_spec (process_otherVersion type other.version)
    exact (List.suffix_cons _ _).trans ⟨recent, tr.symm⟩
  · exact (after_of_spec (process_accounted app other)).suffix

/-- Bytes that read like a queued Logon or ResendRequest are not handed to `process`. -/
lemma Replays.plain {raw} (h : Replays raw msg s) (entry : s.session.stash[s.nextTarget]? = some raw)
    (app : msg.isAdmin = false) : queuedAdmin raw = false := by
  by_contra queued
  have counted := drainOne_queuedAdmin entry (Bool.eq_true_of_not_eq_false queued)
  have suf : (s.replaying raw msg).trace <:+ _ := process_suffix app
  rw [← after_drainOne h.handed, counted] at suf
  -- Both made one call since the entry was taken out, but not the same.
  have same := suf.eq_of_length rfl
  injection same with call
  cases congrArg Call.event call

/-- No call that sends a Logout settles a message. -/
lemma not_settles {c : Call σ} (only : c.event.sendsType MsgType.logout = true) : ¬ c.settles msg := by
  intro settles
  cases settles with
  | inl given =>
    obtain ⟨answer, ev⟩ := given
    simp [ev, Event.sendsType, Event.isSend] at only
  | inr rejects =>
    obtain ⟨rej, now, sent, ev⟩ := rejects
    have type : (rejectMessage c.session.cfg.sessionId msg rej).header.getRaw Tags.msgType =
        some MsgType.reject := by
      rw [header_rejectMessage, getRaw_reverseRoute]
      rfl
    simp +decide [ev, Event.sendsType, Event.isSend, Message.fresh, type] at only

/-- What is counted and answered with a Logout is not accounted for. -/
lemma OtherVersion.not_accounted {raw} (other : OtherVersion msg s)
    (only : Extends (Event.sendsType MsgType.logout) (s.replaying raw msg).counted t) :
    ¬ Accounted msg s t := by
  obtain ⟨recent, tr, only⟩ := only
  obtain ⟨taken, start, events⟩ : ∃ taken, (s.replaying raw msg).counted.trace = taken ++ s.trace ∧
      taken.map Call.event =
        [.incrTarget (.ok ()), .process .stash msg, .unstash s.nextTarget raw] :=
    ⟨[_, _, _], rfl, congrArg (fun res => [Event.incrTarget res, _, _]) other.counts⟩
  -- The calls since are these three and those that send the Logout.
  have unique {recent' : List (Call σ)} (tr' : t.trace = recent' ++ s.trace) :
      recent' = recent ++ taken := by
    rw [tr, start, ← List.append_assoc] at tr'
    exact (List.append_cancel_right tr').symm
  intro accounted
  cases accounted with
  | inl settled =>
    obtain ⟨recent', tr', c, mem, settles⟩ := settled
    rw [unique tr', List.mem_append] at mem
    cases mem with
    | inl sent => exact not_settles (only c sent) settles
    | inr mem =>
      have event : c.event ∈ taken.map Call.event := List.mem_map_of_mem mem
      rw [events] at event
      rcases settles with ⟨answer, ev⟩ | ⟨rej, now, sent, ev⟩ <;> simp [ev] at event
  | inr still =>
    obtain ⟨recent', tr', still⟩ := still
    have counted : Event.incrTarget (.ok ()) ∈ taken.map Call.event := by
      rw [events]
      exact List.mem_cons_self
    obtain ⟨c, mem, ev⟩ := List.mem_map.mp counted
    have moved := still c (unique tr' ▸ List.mem_append_right recent mem)
    simp [ev, Event.movesUp] at moved

/-- The bytes are those of an application message, as far as they parse. -/
def OfApplication (raw : Bytes) : Prop := ∀ msg, Message.parse raw false = .ok msg → msg.isAdmin = false

/-- The bytes an application message is stashed as are of the application. -/
lemma ofApplication_toBytes {raw strict} {m : Message} {seq} (arrived : Message.parse raw strict = .ok m)
    (number : m.seqNum = .ok seq) (app : m.isAdmin = false) : OfApplication m.toBytes := by
  intro msg parsed
  cases own : m.header.getRaw Tags.msgSeqNum with
  | none =>
    rw [Message.seqNum, FieldMap.get, own] at number
    cases number
  | some digits =>
    obtain ⟨type, front⟩ := Message.fronted_of_parse arrived own
    rw [Message.isAdmin, (Message.reparse_front front parsed).1, ← front.msgType]
    exact app

/-- An entry of the stash is replayed: its bytes parse, and it is replayed as what they say. -/
def ReplaysEntry (raw : Bytes) (s : Sys σ ω) : Prop :=
  ∃ msg, Message.parse raw false = .ok msg ∧ Replays raw msg s

/-- An application message that comes into sequence in the stash is replayed like one that just arrived
exactly when its bytes do not read like a queued Logon or ResendRequest and still parse, and its version is
ours or it cannot be counted. -/
theorem drainOne_replays_iff {raw} {s : Sys σ ω} (entry : s.session.stash[s.nextTarget]? = some raw)
    (app : OfApplication raw) : ReplaysEntry raw s ↔
      queuedAdmin raw = false ∧ ∃ msg, Message.parse raw false = .ok msg ∧ ¬ OtherVersion msg s := by
  constructor
  case mp =>
    rintro ⟨msg, parsed, h⟩
    refine ⟨h.plain entry (app msg parsed), msg, parsed, fun other => ?_⟩
    obtain ⟨mt, type⟩ := other.typed
    have only := after_of_spec (s := s.replaying raw msg) (process_otherVersion type other.version)
    rw [← after_drainOne h.handed] at only
    exact other.not_accounted only h.accounted
  case mpr =>
    rintro ⟨plain, msg, parsed, own⟩
    have handed := drainOne_process entry parsed plain
    refine ⟨msg, parsed, handed, ?_⟩
    rw [after_drainOne handed]
    have taken : Accounted msg s (s.replaying raw msg) :=
      .inr ⟨[_, _], rfl, by simp [Event.movesUp]⟩
    have own : ¬ OtherVersion msg (s.replaying raw msg) := fun other => own ⟨other.1, other.2, other.3⟩
    exact taken.trans (after_of_spec (process_accounted (app msg parsed) own))

/-! ## What is only counted -/

/-- Whether bytes of the application came into sequence in the stash and were only counted. -/
def dropsReplay (raw : Bytes) (s : Sys σ ω) : Bool :=
  decide (s.session.stash[s.nextTarget]? = some raw) &&
    match Message.parse raw false with
    | .ok msg => !msg.isAdmin && queuedAdmin raw
    | .error _ => true

/-- Bytes of the application that were only counted were not replayed. -/
lemma not_replaysEntry {raw} {s : Sys σ ω} (h : dropsReplay raw s = true) :
    s.session.stash[s.nextTarget]? = some raw ∧ OfApplication raw ∧ ¬ ReplaysEntry raw s := by
  rw [dropsReplay, Bool.and_eq_true, decide_eq_true_eq] at h
  obtain ⟨entry, dropped⟩ := h
  cases parsed : Message.parse raw false with
  | error e =>
    refine ⟨entry, fun msg parsed' => ?_, fun ⟨msg, parsed', _⟩ => ?_⟩
    · cases parsed.symm.trans parsed'
    · cases parsed.symm.trans parsed'
  | ok msg =>
    rw [parsed] at dropped
    simp only [Bool.and_eq_true, Bool.not_eq_true'] at dropped
    obtain ⟨app, queued⟩ := dropped
    refine ⟨entry, fun msg' parsed' => ?_, fun ⟨msg', parsed', replays⟩ => ?_⟩
    · cases parsed.symm.trans parsed'
      exact app
    · cases parsed.symm.trans parsed'
      rw [replays.plain entry app] at queued
      cases queued

end Replay

namespace Script

/-- An application message of the counterparty. -/
def ahead (mt : Bytes) : Bytes := (fromPeer mt 3).toBytes

/-- A session with a message in its stash whose turn has come. -/
def due (mt : Bytes) : Sys MemoryStore Script :=
  play acceptor {} [.attach, .inbound (fromPeer MsgType.logon 1).toBytes, .inbound (ahead mt),
    .setSeqNums none (some 3)]

example : (due (ascii "D")).session.stash.toList.map (·.1) = [3] := by decide +kernel

/-- An AllocationReport, whose type starts with the A of a Logon. -/
def allocationReport : Bytes := ascii "AS"

/-- An order. -/
def order : Bytes := ascii "D"

/-- An order is an application message of our version. -/
lemma parse_order : ∃ msg, Message.parse (ahead order) false = .ok msg ∧ msg.isAdmin = false ∧
    msg.header.getRaw Tags.beginString = some localId.beginString := by
  have read : (Message.parse (ahead order) false).toOption.map
      (fun m => (m.isAdmin, m.header.getRaw Tags.beginString)) =
      some (false, some localId.beginString) := by decide +kernel
  cases parsed : Message.parse (ahead order) false with
  | error => simp [parsed, Except.toOption] at read
  | ok msg =>
    simp only [parsed, Except.toOption, Option.map_some, Option.some.injEq, Prod.mk.injEq] at read
    exact ⟨msg, rfl, read⟩

/-- An order in the stash is replayed. -/
theorem drainOne_replays_order :
    letI := epochDay
    ReplaysEntry (ahead order) (due order) := by
  let := epochDay
  obtain ⟨msg, parsed, app, version⟩ := parse_order
  have entry : (due order).session.stash[(due order).nextTarget]? = some (ahead order) := by
    decide +kernel
  have ofApplication : OfApplication (ahead order) := by
    intro msg' parsed'
    cases parsed.symm.trans parsed'
    exact app
  have own : ¬ OtherVersion msg (due order) := by
    intro other
    have settings : localId.beginString = (due order).session.cfg.sessionId.beginString := by
      decide +kernel
    exact other.version (version.trans (congrArg some settings))
  exact (drainOne_replays_iff entry ofApplication).mpr ⟨by decide +kernel, msg, parsed, own⟩

/-- An order with signed data in front of its length, as it arrives. -/
def dataAhead : Bytes :=
  Message.sentBy [⟨Tags.msgType, order⟩, ⟨Tags.senderCompId, localId.targetCompId⟩,
    ⟨Tags.targetCompId, localId.senderCompId⟩, ⟨Tags.msgSeqNum, ascii "3"⟩,
    ⟨Tags.sendingTime, ascii "19700101-00:00:00.000"⟩, ⟨Tags.secureData, ascii "abc"⟩,
    ⟨Tags.secureDataLen, ascii "2"⟩]

/-- The session that stashed it, when its turn has come. -/
def dueData : Sys MemoryStore Script :=
  play acceptor {} [.attach, .inbound (fromPeer MsgType.logon 1).toBytes, .inbound dataAhead,
    .setSeqNums none (some 3)]

/-- An AllocationReport in the stash is passed over without being handled, and so is an order whose bytes do
not parse any more after the sort of its header. -/
theorem not_replays_allocationReport :
    letI := epochDay
    ((∃ msg, Message.parse (ahead allocationReport) false = .ok msg) ∧
      (due allocationReport).session.stash[(due allocationReport).nextTarget]? =
        some (ahead allocationReport) ∧
      OfApplication (ahead allocationReport) ∧
      ¬ ReplaysEntry (ahead allocationReport) (due allocationReport)) ∧
    ∃ m raw, Message.parse dataAhead true = .ok m ∧ m.isAdmin = false ∧ raw = m.toBytes ∧
      dueData.session.stash[dueData.nextTarget]? = some raw ∧ OfApplication raw ∧ ¬ ReplaysEntry raw dueData := by
  let := epochDay
  constructor
  · refine ⟨?_, not_replaysEntry (by decide +kernel)⟩
    have reads : (Message.parse (ahead allocationReport) false).toOption.isSome = true := by decide +kernel
    cases parsed : Message.parse (ahead allocationReport) false with
    | ok msg => exact ⟨msg, rfl⟩
    | error e =>
      rw [parsed] at reads
      cases reads
  · exact ⟨Message.arrival dataAhead, _, Message.parse_arrival (by decide +kernel), by decide +kernel, rfl,
      not_replaysEntry (by decide +kernel)⟩

end Script

end QuickFix
