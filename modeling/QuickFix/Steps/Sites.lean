import QuickFix.Steps.Run

/-!
# Where calls come from

Every call of a run has its place in the code: a message of the wire is the parse of a frame that
arrived, an admin message goes to `to_admin` and another to `to_app`, a possible duplicate is offered to
`to_app` only after it was read from the store, a message is stored right after its callback and is no
possible duplicate, and bytes reach the write task only from `transmit`.
-/

namespace QuickFix

set_option mvcgen.warning false
set_option linter.unusedSectionVars false

open Std.Do Session

variable {σ ω : Type}

/-- The message was read with a range of the store, and is offered to be sent again. -/
def Replayed [Chrono] [MessageStore σ] (m : Message) (earlier : List (Call σ)) : Prop :=
  ∃ c ∈ earlier, ∃ b e stored seq p now, c.event = .getMessages b e ∧
    (MessageStore.getMessages b e c.session.store).1 = .ok stored ∧
    resendable (.ofList stored) seq = some p ∧ m = p.resent now

/-- The call stands where the code makes it, when `arrived` are the frames that arrive. -/
structure Sited [Chrono] [MessageStore σ] (arrived : Bytes → Prop) (c : Call σ)
    (earlier : List (Call σ)) : Prop where
  received : ∀ msg, c.event = .process .wire msg →
    ∃ raw strict, arrived raw ∧ Message.parse raw strict = .ok msg
  shown : ∀ m m', c.event = .toAdmin m m' → m.isAdmin = true
  offered : ∀ m answer, c.event = .toApp m answer →
    m.isAdmin = false ∧ (m.possDup = true → Replayed m earlier)
  saved : ∀ n raw res, c.event = .save n raw res → ∃ d rest, earlier = d :: rest ∧
    d.session = c.session ∧ ∀ m answer, d.event = .toApp m answer → m.possDup = false
  written : ∀ raw ok, c.event = .write raw ok →
    ∃ d, earlier.head? = some d ∧ d.event = .transmit raw

/-- Whether the place of an event matters. -/
def Event.isSite : Event → Bool
  | .process .wire _ | .toAdmin .. | .toApp .. | .save .. | .write .. => true
  | _ => false

/-- The frames an input hands to the session. -/
def Input.frames : Input → List Bytes
  | .inbound raw => [raw]
  | .stop frames => frames
  | _ => []

variable [Chrono] [MessageStore σ] [Application ω] [Runtime ω]

/-- A call that is no site asks for nothing. -/
lemma Sited.of_other {arrived} {c : Call σ} {earlier} (other : c.event.isSite = false) :
    Sited arrived c earlier := by
  constructor <;> intros <;> simp_all [Event.isSite]

/-- The calls so far stand where the code makes them; where a range of the store is at hand, it was
read by one of them. -/
structure Siting (arrived : Bytes → Prop) (range : Option (SeqMap Bytes)) (s : Sys σ ω) : Prop where
  along : Along (Sited arrived) s.trace
  read : ∀ stored, range = some stored → ∃ c ∈ s.trace, ∃ b e l, c.event = .getMessages b e ∧
    (MessageStore.getMessages b e c.session.store).1 = .ok l ∧ stored = .ofList l

variable {arrived : Bytes → Prop} {range : Option (SeqMap Bytes)} {s : Sys σ ω}

/-! ## One call more -/

/-- One more call at a site. -/
lemma Siting.cons {t : Sys σ ω} {c} (h : Siting arrived range s) (tr : t.trace = c :: s.trace)
    (site : Sited arrived c s.trace) : Siting arrived range t := by
  refine ⟨by rw [tr]; exact ⟨site, h.along⟩, fun stored known => ?_⟩
  obtain ⟨d, mem, rest⟩ := h.read stored known
  exact ⟨d, tr ▸ List.mem_cons_of_mem c mem, rest⟩

/-- One more call that is no site. -/
lemma siting_called {e w} (h : Siting arrived range s) (other : e.isSite = false := by rfl) :
    Siting arrived range (s.called e w) := h.cons rfl (.of_other other)

/-- One more store operation that is no site. -/
lemma siting_stored {e} {st : σ} (h : Siting arrived range s) (other : e.isSite = false := by rfl) :
    Siting arrived range (s.stored e st) := h.cons rfl (.of_other other)

/-- Updating the session makes no call. -/
lemma siting_updated {f} (h : Siting arrived range s) : Siting arrived range (s.updated f) :=
  ⟨h.along, h.read⟩

/-- Neither does reading a clock. -/
lemma siting_clock {x : Session σ} {w : ω} (h : Siting arrived range s) :
    Siting arrived range (Sys.mk x w s.trace) := ⟨h.along, h.read⟩

/-- A range of the store comes to hand. -/
lemma siting_read {b e l} {st : σ} (h : Siting arrived range s)
    (got : (MessageStore.getMessages b e s.session.store).1 = .ok l) :
    Siting arrived (some (.ofList l)) (s.stored (.getMessages b e) st) := by
  refine ⟨⟨.of_other rfl, h.along⟩, ?_⟩
  rintro _ ⟨⟩
  exact ⟨_, List.mem_cons_self, b, e, l, rfl, got, rfl⟩

/-- The range that was read may be forgotten. -/
lemma siting_forget {stored : SeqMap Bytes} (h : Siting arrived (some stored) s) :
    Siting arrived none s := ⟨h.along, by simp⟩

/-- An administrative message is shown to `to_admin`. -/
lemma shown_admin {m m' w} (h : Siting arrived range s) (admin : m.isAdmin = true) :
    Siting arrived range (s.called (.toAdmin m m') w) := by
  refine h.cons rfl ⟨by simp, ?_, by simp, by simp, by simp⟩
  rintro m m' ⟨⟩
  exact admin

/-- What was handed on is written. -/
lemma wrote_transmitted {raw ok} {w w' : ω} (h : Siting arrived range s) :
    Siting arrived range ((s.called (.transmit raw) w).called (.write raw ok) w') := by
  refine Siting.cons (siting_called h (w := w) (e := .transmit raw)) rfl
    ⟨by simp, by simp, by simp, by simp, ?_⟩
  rintro raw' ok' ⟨⟩
  exact ⟨_, rfl, rfl⟩

/-- A message that is sent afresh is no possible duplicate. -/
lemma Session.possDup_filledHeader (x : Session σ) (now) (m : Message) :
    (x.filledHeader now m.fresh).possDup = false := by
  simp +decide [Message.possDup, Message.fresh, FieldMap.getRaw_remove, filledHeader, identify,
    Message.stampSendingTime, getRaw_setLastProcessed, Message.getRaw_setHeaderUnlessEmpty]

/-- A new application message is shown to `to_app`. -/
lemma offered_fresh {now} {m : Message} {m' w} {x : Session σ} (h : Siting arrived range s)
    (app : ¬ (x.filledHeader now m.fresh).isAdmin = true) :
    Siting arrived range (s.called (.toApp (x.filledHeader now m.fresh) m') w) := by
  refine h.cons rfl ⟨by simp, by simp, ?_, by simp, by simp⟩
  rintro m m' ⟨⟩
  refine ⟨(Bool.not_eq_true _).mp app, fun dup => ?_⟩
  rw [x.possDup_filledHeader] at dup
  cases dup

/-- A message is stored right after its callback, where that is not about a possible duplicate. -/
lemma saved_after {e n raw res} {w : ω} {st : σ} (h : Siting arrived range (s.called e w))
    (fresh : ∀ m answer, e = .toApp m answer → m.possDup = false) :
    Siting arrived range ((s.called e w).stored (.save n raw res) st) := by
  refine h.cons rfl ⟨by simp, by simp, by simp, ?_, by simp⟩
  intro _ _ _ _
  exact ⟨_, _, rfl, rfl, fresh⟩

/-- An administrative message is stored once it was shown. -/
lemma saved_admin {m m' n raw res} {w : ω} {st : σ} (h : Siting arrived range s)
    (admin : m.isAdmin = true) :
    Siting arrived range ((s.called (.toAdmin m m') w).stored (.save n raw res) st) :=
  saved_after (shown_admin h admin) (by simp)

/-- A new application message is stored once it was shown. -/
lemma saved_fresh {now} {m : Message} {m' n raw res} {w : ω} {st : σ} {x : Session σ}
    (h : Siting arrived range s) (app : ¬ (x.filledHeader now m.fresh).isAdmin = true) :
    Siting arrived range ((s.called (.toApp (x.filledHeader now m.fresh) m') w).stored
      (.save n raw res) st) := by
  apply saved_after (offered_fresh h app)
  intro _ _ ev
  cases ev
  exact x.possDup_filledHeader now m

/-- A gap fill is administrative. -/
lemma isAdmin_gapFill {x : Session σ} {now b n now'} :
    (gapFillMessage (x.filledHeader now (.withType MsgType.sequenceReset)) b n now').isAdmin = true := by
  have type : (gapFillMessage (x.filledHeader now (.withType MsgType.sequenceReset)) b n now').header.getRaw
      Tags.msgType = some MsgType.sequenceReset := by
    simp +decide [gapFillMessage, Message.set]
  rw [Message.isAdmin, type]
  rfl

/-- Marking a message as sent again keeps its kind. -/
lemma isAdmin_resent (m : Message) (now : UtcTimestamp) : (m.resent now).isAdmin = m.isAdmin := by
  have type : (m.resent now).header.getRaw Tags.msgType = m.header.getRaw Tags.msgType := by
    unfold Message.resent
    dsimp only
    split <;> simp +decide [Message.stampSendingTime]
  rw [Message.isAdmin, Message.isAdmin, type]

/-- A stored application message is shown to `to_app` again. -/
lemma offered_again {stored seq now w m m'} (h : Siting arrived (some stored) s)
    (found : resendable stored seq = some m) :
    Siting arrived (some stored) (s.called (.toApp (m.resent now) m') w) := by
  refine h.cons rfl ⟨by simp, by simp, ?_, by simp, by simp⟩
  rintro m m' ⟨⟩
  obtain ⟨c, mem, b, e, l, ev, got, rfl⟩ := h.read stored rfl
  obtain ⟨-, -, -, app⟩ := resendable_eq_some.mp found
  exact ⟨(isAdmin_resent _ now).trans app, fun _ => ⟨c, mem, b, e, l, seq, _, now, ev, got, found, rfl⟩⟩

/-- A frame that arrived is taken up. -/
lemma arrived_taken {raw strict msg} {w : ω} (h : Siting arrived range s) (known : arrived raw)
    (parsed : Message.parse raw strict = .ok msg) :
    Siting arrived range (s.called (.process .wire msg) w) := by
  refine h.cons rfl ⟨?_, by simp, by simp, by simp, by simp⟩
  rintro msg ⟨⟩
  exact ⟨raw, strict, known, parsed⟩

/-! ## The outbound half -/

/-- Giving up the connection keeps the sites. -/
@[local spec] lemma disconnect_sites :
    ⦃fun (s : Sys σ ω) => ⌜Siting arrived range s⌝⦄ disconnect ⦃⇓ _ s => ⌜Siting arrived range s⌝⦄ := by
  mvcgen [disconnect]
  all_goals apply_rules [siting_called, siting_stored, siting_updated, siting_clock]

/-- Handing on bytes keeps the sites. -/
@[local spec] lemma transmit_sites {raw} :
    ⦃fun (s : Sys σ ω) => ⌜Siting arrived range s⌝⦄ transmit raw ⦃⇓ _ s => ⌜Siting arrived range s⌝⦄ := by
  mvcgen [transmit, write, instantNow]
  all_goals apply_rules [wrote_transmitted, siting_called, siting_updated, siting_clock]

/-- Sending a message shows it before it is stored. -/
@[local spec] lemma sendMessage_sites {m} :
    ⦃fun (s : Sys σ ω) => ⌜Siting arrived none s⌝⦄ sendMessage m
    ⦃post⟨fun _ s => ⌜Siting arrived none s⌝, fun _ s => ⌜Siting arrived none s⌝⟩⦄ := by
  mvcgen [sendMessage, fillHeader, utcNow, outgoingCallback, seqNumOf, persist, saveMessageAndIncr,
    incrNextSenderSeqNum, storeOp, -sendMessage_spec]
  all_goals apply_rules [saved_admin, saved_fresh, shown_admin, offered_fresh, siting_called,
    siting_stored, siting_updated, siting_clock]

/-- So does sending our Logon. -/
@[local spec] lemma sendLogon_sites :
    ⦃fun (s : Sys σ ω) => ⌜Siting arrived none s⌝⦄ sendLogon
    ⦃post⟨fun _ s => ⌜Siting arrived none s⌝, fun _ s => ⌜Siting arrived none s⌝⟩⦄ := by
  mvcgen [sendLogon, -sendMessage_spec]
  all_goals apply_rules [siting_called, siting_stored, siting_updated, siting_clock]

/-- So does answering a Logon. -/
@[local spec] lemma sendLogonReply_sites {hbi} :
    ⦃fun (s : Sys σ ω) => ⌜Siting arrived none s⌝⦄ sendLogonReply hbi
    ⦃post⟨fun _ s => ⌜Siting arrived none s⌝, fun _ s => ⌜Siting arrived none s⌝⟩⦄ := by
  mvcgen [sendLogonReply, -sendMessage_spec]
  all_goals apply_rules [siting_called, siting_stored, siting_updated, siting_clock]

/-- So does starting a logout. -/
@[local spec] lemma initiateLogout_sites {reason} :
    ⦃fun (s : Sys σ ω) => ⌜Siting arrived none s⌝⦄ initiateLogout reason
    ⦃post⟨fun _ s => ⌜Siting arrived none s⌝, fun _ s => ⌜Siting arrived none s⌝⟩⦄ := by
  mvcgen [initiateLogout, -sendMessage_spec]
  all_goals apply_rules [siting_called, siting_stored, siting_updated, siting_clock]

/-- So does logging out, whatever fails. -/
@[local spec] lemma logOut_sites {reason} :
    ⦃fun (s : Sys σ ω) => ⌜Siting arrived none s⌝⦄ logOut reason ⦃⇓ _ s => ⌜Siting arrived none s⌝⦄ := by
  mvcgen [logOut]

/-- So does sending a Reject. -/
@[local spec] lemma sendReject_sites {msg rej} :
    ⦃fun (s : Sys σ ω) => ⌜Siting arrived none s⌝⦄ sendReject msg rej
    ⦃post⟨fun _ s => ⌜Siting arrived none s⌝, fun _ s => ⌜Siting arrived none s⌝⟩⦄ := by
  mvcgen [sendReject, incrNextTargetSeqNum, storeOp, -sendMessage_spec]
  all_goals apply_rules [siting_called, siting_stored, siting_updated, siting_clock]

/-- So does rejecting a message, whatever fails. -/
@[local spec] lemma reject_sites {msg rej} :
    ⦃fun (s : Sys σ ω) => ⌜Siting arrived none s⌝⦄ reject msg rej ⦃⇓ _ s => ⌜Siting arrived none s⌝⦄ := by
  mvcgen [reject, -reject_spec]

/-- So does sending a BusinessMessageReject. -/
@[local spec] lemma sendBusinessReject_sites {msg} :
    ⦃fun (s : Sys σ ω) => ⌜Siting arrived none s⌝⦄ sendBusinessReject msg
    ⦃post⟨fun _ s => ⌜Siting arrived none s⌝, fun _ s => ⌜Siting arrived none s⌝⟩⦄ := by
  mvcgen [sendBusinessReject, incrNextTargetSeqNum, storeOp, -sendMessage_spec]
  all_goals apply_rules [siting_called, siting_stored, siting_updated, siting_clock]

/-- So does asking for a range. -/
@[local spec] lemma sendResendRequest_sites {b n} :
    ⦃fun (s : Sys σ ω) => ⌜Siting arrived none s⌝⦄ sendResendRequest b n
    ⦃post⟨fun _ s => ⌜Siting arrived none s⌝, fun _ s => ⌜Siting arrived none s⌝⟩⦄ := by
  mvcgen [sendResendRequest, expect, -sendMessage_spec]
  all_goals apply_rules [siting_called, siting_stored, siting_updated, siting_clock]

/-- So does asking for the next chunk. -/
@[local spec] lemma checkResendChunks_sites :
    ⦃fun (s : Sys σ ω) => ⌜Siting arrived none s⌝⦄ checkResendChunks
    ⦃⇓ _ s => ⌜Siting arrived none s⌝⦄ := by
  mvcgen [checkResendChunks, -checkResendChunks_spec]
  all_goals apply_rules [siting_called, siting_stored, siting_updated, siting_clock]

/-- A gap fill is shown, and never stored. -/
@[local spec] lemma sendGapFill_sites {b n} :
    ⦃fun (s : Sys σ ω) => ⌜Siting arrived range s⌝⦄ sendGapFill b n
    ⦃⇓ _ s => ⌜Siting arrived range s⌝⦄ := by
  mvcgen [sendGapFill, fillHeader, utcNow]
  all_goals apply_rules [shown_admin, isAdmin_gapFill, siting_called, siting_stored, siting_updated,
    siting_clock]

/-! ## The inbound half -/

/-- Checking SendingTime sends a Reject and a Logout at most. -/
@[local spec] lemma verifySendingTime_sites {msg} :
    ⦃fun (s : Sys σ ω) => ⌜Siting arrived none s⌝⦄ verifySendingTime msg
    ⦃⇓ _ s => ⌜Siting arrived none s⌝⦄ := by
  mvcgen [verifySendingTime, utcNow, -reject_spec]
  all_goals apply_rules [siting_called, siting_stored, siting_updated, siting_clock]

/-- So does checking the CompIDs. -/
@[local spec] lemma verifyCompIds_sites {msg} :
    ⦃fun (s : Sys σ ω) => ⌜Siting arrived none s⌝⦄ verifyCompIds msg
    ⦃⇓ _ s => ⌜Siting arrived none s⌝⦄ := by
  mvcgen [verifyCompIds, -reject_spec]

/-- A message that is too high is stashed, and a range asked for. -/
@[local spec] lemma onTargetTooHigh_sites {msg seq expected} :
    ⦃fun (s : Sys σ ω) => ⌜Siting arrived none s⌝⦄ onTargetTooHigh msg seq expected
    ⦃post⟨fun _ s => ⌜Siting arrived none s⌝, fun _ s => ⌜Siting arrived none s⌝⟩⦄ := by
  mvcgen [onTargetTooHigh, stashMessage, sendResendRequest_sites]
  all_goals apply_rules [siting_called, siting_stored, siting_updated, siting_clock]

/-- A message that is too low is answered at most. -/
@[local spec] lemma onTargetTooLow_sites {msg seq expected} :
    ⦃fun (s : Sys σ ω) => ⌜Siting arrived none s⌝⦄ onTargetTooLow msg seq expected
    ⦃post⟨fun _ s => ⌜Siting arrived none s⌝, fun _ s => ⌜Siting arrived none s⌝⟩⦄ := by
  mvcgen [onTargetTooLow, -reject_spec]

/-- Checking the number keeps the sites. -/
@[local spec] lemma verifySeqNum_sites {msg high low} :
    ⦃fun (s : Sys σ ω) => ⌜Siting arrived none s⌝⦄ verifySeqNum msg high low
    ⦃post⟨fun _ s => ⌜Siting arrived none s⌝, fun _ s => ⌜Siting arrived none s⌝⟩⦄ := by
  mvcgen [verifySeqNum, -reject_spec]

/-- Refusing a message keeps the sites. -/
@[local spec] lemma refuse_sites {msg e} :
    ⦃fun (s : Sys σ ω) => ⌜Siting arrived none s⌝⦄ refuse msg e
    ⦃post⟨fun _ s => ⌜Siting arrived none s⌝, fun _ s => ⌜Siting arrived none s⌝⟩⦄ := by
  cases e <;> mvcgen [refuse, incrNextTargetSeqNum, storeOp, -reject_spec, -ignoring_incrTarget_spec]
  all_goals apply_rules [siting_called, siting_stored, siting_updated, siting_clock]

/-- So does the callback of a message. -/
@[local spec] lemma verifyCallback_sites {msg} :
    ⦃fun (s : Sys σ ω) => ⌜Siting arrived none s⌝⦄ verifyCallback msg
    ⦃post⟨fun _ s => ⌜Siting arrived none s⌝, fun _ s => ⌜Siting arrived none s⌝⟩⦄ := by
  mvcgen [verifyCallback, incomingCallback, instantNow]
  all_goals apply_rules [siting_called, siting_stored, siting_updated, siting_clock]

/-- So do all checks of a message. -/
@[local spec] lemma verify_sites {msg high low} :
    ⦃fun (s : Sys σ ω) => ⌜Siting arrived none s⌝⦄ verify msg high low
    ⦃post⟨fun _ s => ⌜Siting arrived none s⌝, fun _ s => ⌜Siting arrived none s⌝⟩⦄ := by
  mvcgen [verify]

/-- A message that is sent again was read from the store. -/
@[local spec] lemma retransmitOne_sites {stored now gb seq} :
    ⦃fun (s : Sys σ ω) => ⌜Siting arrived (some stored) s⌝⦄ retransmitOne stored now gb seq
    ⦃⇓ _ s => ⌜Siting arrived (some stored) s⌝⦄ := by
  mvcgen [retransmitOne, -retransmitOne_spec]
  all_goals apply_rules [offered_again]

/-- So are all that are sent again. -/
@[local spec] lemma retransmitAll_sites {stored now seqs gb} :
    ⦃fun (s : Sys σ ω) => ⌜Siting arrived (some stored) s⌝⦄ retransmitAll stored now seqs gb
    ⦃⇓ _ s => ⌜Siting arrived (some stored) s⌝⦄ := by
  induction seqs generalizing gb with
  | nil => mvcgen [retransmitAll, -retransmitAll_spec]
  | cons seq seqs ih => mvcgen [retransmitAll, -retransmitOne_spec, -retransmitAll_spec, ih]

/-- Sending a range again reads it first. -/
@[local spec] lemma retransmit_sites {b e} :
    ⦃fun (s : Sys σ ω) => ⌜Siting arrived none s⌝⦄ retransmit b e ⦃⇓ _ s => ⌜Siting arrived none s⌝⦄ := by
  mvcgen [retransmit, getMessages, storeOp, utcNow, -retransmitAll_spec]
  case vc2.h_1.pre =>
    apply siting_clock
    apply siting_read <;> assumption
  case vc3 => exact siting_called (siting_forget ‹_›)
  case vc4 => exact siting_forget ‹_›
  case vc5 => exact siting_stored ‹_›

/-- So does answering a ResendRequest. -/
@[local spec] lemma answerResend_sites {b e} :
    ⦃fun (s : Sys σ ω) => ⌜Siting arrived none s⌝⦄ answerResend b e ⦃⇓ _ s => ⌜Siting arrived none s⌝⦄ := by
  mvcgen [answerResend]
  all_goals apply_rules [siting_called, siting_stored, siting_updated, siting_clock]

/-- Looking at the schedule may log out. -/
@[local spec] lemma logonTimeGood_sites {msg} :
    ⦃fun (s : Sys σ ω) => ⌜Siting arrived none s⌝⦄ logonTimeGood msg
    ⦃⇓ _ s => ⌜Siting arrived none s⌝⦄ := by
  mvcgen [logonTimeGood, utcNow]
  all_goals apply_rules [siting_called, siting_stored, siting_updated, siting_clock]

/-- Resets before a Logon is verified keep the sites. -/
@[local spec] lemma logonResets_sites {msg} :
    ⦃fun (s : Sys σ ω) => ⌜Siting arrived none s⌝⦄ logonResets msg
    ⦃post⟨fun _ s => ⌜Siting arrived none s⌝, fun _ s => ⌜Siting arrived none s⌝⟩⦄ := by
  mvcgen [logonResets, peerReset, acceptorResets, storeReset, storeRefresh, utcNow, storeOp]
  all_goals apply_rules [siting_called, siting_stored, siting_updated, siting_clock]

/-- Sending again what NextExpectedMsgSeqNum asks for reads it first. -/
@[local spec] lemma retransmitFrom_sites {msg} :
    ⦃fun (s : Sys σ ω) => ⌜Siting arrived none s⌝⦄ retransmitFrom msg
    ⦃post⟨fun _ s => ⌜Siting arrived none s⌝, fun _ s => ⌜Siting arrived none s⌝⟩⦄ := by
  mvcgen [retransmitFrom]

/-- Counting a Logon asks for a range at most. -/
@[local spec] lemma countLogon_sites {msg} :
    ⦃fun (s : Sys σ ω) => ⌜Siting arrived none s⌝⦄ countLogon msg
    ⦃post⟨fun _ s => ⌜Siting arrived none s⌝, fun _ s => ⌜Siting arrived none s⌝⟩⦄ := by
  mvcgen [countLogon, stashMessage, expect, incrTarget, incrNextTargetSeqNum, storeOp]
  all_goals apply_rules [siting_called, siting_stored, siting_updated, siting_clock]

/-- Accepting a Logon keeps the sites. -/
@[local spec] lemma acceptLogon_sites {msg} :
    ⦃fun (s : Sys σ ω) => ⌜Siting arrived none s⌝⦄ acceptLogon msg
    ⦃post⟨fun _ s => ⌜Siting arrived none s⌝, fun _ s => ⌜Siting arrived none s⌝⟩⦄ := by
  mvcgen [acceptLogon, answerLogon, completeLogon]
  all_goals apply_rules [siting_called, siting_stored, siting_updated, siting_clock]

/-- Every handler keeps the sites. -/
@[local spec] lemma dispatch_sites {mt msg} :
    ⦃fun (s : Sys σ ω) => ⌜Siting arrived none s⌝⦄ dispatch mt msg
    ⦃post⟨fun _ s => ⌜Siting arrived none s⌝, fun _ s => ⌜Siting arrived none s⌝⟩⦄ := by
  mvcgen [dispatch, handleLogon, handlePlainAdmin, handleTestRequest, handleResendRequest,
    handleSequenceReset, handleLogout, handleAppMessage, incrTarget, incrNextTargetSeqNum,
    setNextTargetSeqNum, storeReset, utcNow, storeOp, -sendMessage_spec, -reject_spec]
  all_goals apply_rules [siting_called, siting_stored, siting_updated, siting_clock]

/-- Processing a message keeps the sites. -/
@[local spec] lemma process_sites {msg} :
    ⦃fun (s : Sys σ ω) => ⌜Siting arrived none s⌝⦄ process msg
    ⦃post⟨fun _ s => ⌜Siting arrived none s⌝, fun _ s => ⌜Siting arrived none s⌝⟩⦄ := by
  mvcgen [process, incrNextTargetSeqNum, storeOp, -reject_spec, -ignoring_incrTarget_spec]
  all_goals apply_rules [siting_called, siting_stored, siting_updated, siting_clock]

/-- Replaying one entry keeps the sites. -/
@[local spec] lemma drainOne_sites :
    ⦃fun (s : Sys σ ω) => ⌜Siting arrived none s⌝⦄ drainOne
    ⦃post⟨fun _ s => ⌜Siting arrived none s⌝, fun _ s => ⌜Siting arrived none s⌝⟩⦄ := by
  mvcgen [drainOne, incrTarget, incrNextTargetSeqNum, storeOp]
  all_goals apply_rules [siting_called, siting_stored, siting_updated, siting_clock]

/-- Replaying entries keeps the sites. -/
@[local spec] lemma drainLoop_sites {fuel} :
    ⦃fun (s : Sys σ ω) => ⌜Siting arrived none s⌝⦄ drainLoop fuel
    ⦃post⟨fun _ s => ⌜Siting arrived none s⌝, fun _ s => ⌜Siting arrived none s⌝⟩⦄ := by
  induction fuel with
  | zero => mvcgen [drainLoop]
  | succ fuel ih => mvcgen [drainLoop, ih]

/-- Handling the bytes of a frame that arrived keeps the sites. -/
lemma onInbound_sites {raw} (known : arrived raw) :
    ⦃fun (s : Sys σ ω) => ⌜Siting arrived none s⌝⦄ onInbound raw ⦃⇓ _ s => ⌜Siting arrived none s⌝⦄ := by
  have taken {s : Sys σ ω} {strict msg w} (h : Siting arrived none s)
      (parsed : Message.parse raw strict = .ok msg) :
      Siting arrived none (s.called (.process .wire msg) w) := arrived_taken h known parsed
  mvcgen [onInbound, noteReceived, handleInbound, drainStash, -checkResendChunks_spec]
  all_goals apply_rules [taken, siting_called, siting_stored, siting_updated, siting_clock]

/-! ## The run loop -/

/-- Logging on keeps the sites. -/
@[local spec] lemma logOn_sites :
    ⦃fun (s : Sys σ ω) => ⌜Siting arrived none s⌝⦄ logOn ⦃⇓ _ s => ⌜Siting arrived none s⌝⦄ := by
  mvcgen [logOn]

/-- Leaving keeps the sites. -/
@[local spec] lemma leave_sites {x} :
    ⦃fun (s : Sys σ ω) => ⌜Siting arrived none s⌝⦄ leave x ⦃⇓ _ s => ⌜Siting arrived none s⌝⦄ := by
  mvcgen [leave]

/-- A deadline of the protocol keeps the sites. -/
@[local spec] lemma onProtocolDeadline_sites :
    ⦃fun (s : Sys σ ω) => ⌜Siting arrived none s⌝⦄ onProtocolDeadline
    ⦃⇓ _ s => ⌜Siting arrived none s⌝⦄ := by
  mvcgen -trivial [onProtocolDeadline, instantNow, sendTestRequest, -sendMessage_spec]
  all_goals apply_rules [siting_called, siting_stored, siting_updated, siting_clock]

/-- A look at the schedule keeps the sites. -/
@[local spec] lemma onScheduleTick_sites :
    ⦃fun (s : Sys σ ω) => ⌜Siting arrived none s⌝⦄ onScheduleTick ⦃⇓ _ s => ⌜Siting arrived none s⌝⦄ := by
  mvcgen [onScheduleTick, utcNow, storeReset, storeOp]
  all_goals apply_rules [siting_called, siting_stored, siting_updated, siting_clock]

/-- Attaching a connection keeps the sites. -/
@[local spec] lemma onAttach_sites :
    ⦃fun (s : Sys σ ω) => ⌜Siting arrived none s⌝⦄ onAttach ⦃⇓ _ s => ⌜Siting arrived none s⌝⦄ := by
  mvcgen [onAttach, connect, initiatorResets, logOnOrDefer, instantNow, utcNow, storeReset, storeRefresh, storeOp]
  all_goals apply_rules [siting_called, siting_stored, siting_updated, siting_clock]

/-- Setting the numbers keeps the sites. -/
@[local spec] lemma onSetSeqNums_sites {sender target} :
    ⦃fun (s : Sys σ ω) => ⌜Siting arrived none s⌝⦄ onSetSeqNums sender target
    ⦃⇓ _ s => ⌜Siting arrived none s⌝⦄ := by
  mvcgen [onSetSeqNums, setNextSenderSeqNum, setNextTargetSeqNum, storeOp]
  all_goals apply_rules [siting_called, siting_stored, siting_updated, siting_clock]

/-- Waiting for a Logout keeps the sites. -/
lemma awaitLogout_sites (deadline) {frames : List Bytes} (known : ∀ raw ∈ frames, arrived raw) :
    ⦃fun (s : Sys σ ω) => ⌜Siting arrived none s⌝⦄ awaitLogout deadline frames
    ⦃⇓ _ s => ⌜Siting arrived none s⌝⦄ := by
  induction frames with
  | nil => mvcgen [awaitLogout]
  | cons raw frames ih =>
    obtain ⟨here, later⟩ := List.forall_mem_cons.mp known
    have first := onInbound_sites (σ := σ) (ω := ω) here
    have rest := ih later
    mvcgen [awaitLogout, instantNow, first, rest]
    all_goals apply_rules [siting_called, siting_stored, siting_updated, siting_clock]

/-- Every step keeps the sites. -/
lemma step_sites {input : Input} (known : ∀ raw ∈ input.frames, arrived raw) :
    ⦃fun (s : Sys σ ω) => ⌜Siting arrived none s⌝⦄ step input ⦃⇓ _ s => ⌜Siting arrived none s⌝⦄ := by
  cases input with
  | inbound raw =>
    have first := onInbound_sites (σ := σ) (ω := ω) (known raw (List.mem_singleton_self raw))
    mvcgen [step, first]
  | stop frames =>
    have known : ∀ raw ∈ frames, arrived raw := known
    have rest (deadline) := awaitLogout_sites (σ := σ) (ω := ω) deadline known
    mvcgen [step, onStop, instantNow, rest]
    all_goals apply_rules [siting_called, siting_stored, siting_updated, siting_clock]
  | _ => mvcgen [step, onLogoutCommand, -sendMessage_spec]

/-- Every run keeps the sites. -/
lemma run_sites {inputs : List Input} (known : ∀ input ∈ inputs, ∀ raw ∈ input.frames, arrived raw) :
    ⦃fun (s : Sys σ ω) => ⌜Siting arrived none s⌝⦄ Session.run inputs
    ⦃⇓ _ s => ⌜Siting arrived none s⌝⦄ := by
  induction inputs with
  | nil => mvcgen [Session.run]
  | cons input inputs ih =>
    obtain ⟨here, later⟩ := List.forall_mem_cons.mp known
    have first := step_sites (σ := σ) (ω := ω) here
    have rest := ih later
    mvcgen [Session.run, first, rest]

variable {cfg : SessionConfig} {dictionary adminDictionary : Option DataDictionary} {store : σ}
variable {now : Nat} {world : ω} {inputs : List Input}

/-- The frames of the inputs. -/
def Arrives (inputs : List Input) (raw : Bytes) : Prop := ∃ input ∈ inputs, raw ∈ input.frames

/-- Along every run, every call stands where the code makes it. -/
theorem sited_ran : Along (Sited (Arrives inputs))
    (Sys.ran cfg dictionary adminDictionary store now world inputs).trace := by
  have start : Siting (Arrives inputs) none (Sys.init cfg dictionary adminDictionary store now world) :=
    ⟨trivial, by simp⟩
  exact (run_sites (fun input mem raw frame => ⟨input, mem, frame⟩) _ start).along

end QuickFix
