import QuickFix.Sending.Numbering
import QuickFix.Wire.AnswerSpec
import QuickFix.Wire.Canonical
import QuickFix.Wire.Front

/-!
# Rejects that are valid themselves

A Reject and a BusinessMessageReject copy parts of the message they answer. Under the dictionary of the
session they are valid exactly when what is copied is there and can be written: a number, a type that is
not empty, a reason that the version knows (`answer_valid_iff`).
-/

namespace QuickFix

set_option linter.unusedSectionVars false

set_option mvcgen.warning false

open Std.Do Message

/-! ## The answers of a session -/

/-- What a message that is not accepted is answered with. -/
inductive Refusal where
  | reject (rej : RejectError)
  /-- The application does not know the type. -/
  | unsupported

namespace Refusal

/-- The message that `send_reject` or `send_business_reject` builds. -/
def message (id : SessionId) (offender : Message) : Refusal → Message
  | reject rej => Session.rejectMessage id offender rej
  | unsupported => Session.businessRejectMessage id offender

/-- Its type. -/
def msgType (s : Spec) : Refusal → Bytes
  | reject _ => MsgType.reject
  | unsupported => if s.modern then MsgType.businessMessageReject else MsgType.reject

/-- The text. -/
def text (s : Spec) : Refusal → Bytes
  | reject rej => Session.rejectText s.modern rej
  | unsupported =>
    if s.modern then ascii "Unsupported Message Type" else ascii "Unsupported message type"

/-- The tag that is cited. -/
def refTag : Refusal → Option Tag
  | reject rej => rej.refTag
  | unsupported => none

/-- The reason that is cited, where the version knows RefTagID at all and the code is not one of those
that came after FIX.4.2. -/
def cited (id : SessionId) : Refusal → Option SessionRejectReason
  | reject rej => if rej.reason.code ≤ 11 ∨ ascii "FIX.4.2" < id.beginString then some rej.reason else none
  | unsupported => none

/-- A field of a body when there is a value for it. -/
def optional (tag : Tag) (value : Option Bytes) : List TagValue := (value.map (TagValue.mk tag)).toList

/-- The value of a result, where there is one. -/
def valueOf {α : Type} : Except ConversionError α → Option α
  | .ok v => some v
  | .error _ => none

/-- The business reason that is given. -/
def business : Refusal → Option Nat
  | reject _ => none
  | unsupported => some 3

/-- The fields in the body of an answer. -/
def bodyFields (s : Spec) (id : SessionId) (offender : Message) (a : Refusal) : List TagValue :=
  optional Tags.refSeqNum ((valueOf offender.seqNum).map encode) ++
    optional Tags.text ((some (a.text s)).map encode) ++
    if s.modern then
      optional Tags.refTagId (a.refTag.map encode) ++
        (optional Tags.refMsgType ((valueOf offender.msgType).map encode) ++
        (optional Tags.sessionRejectReason (((a.cited id).map SessionRejectReason.code).map encode) ++
          optional Tags.businessRejectReason (a.business.map encode)))
    else []

/-- An optional field has its tag. -/
lemma tag_optional {tag value f} (mem : f ∈ optional tag value) : f.tag = tag := by
  obtain ⟨v, -, rfl⟩ := Option.map_eq_some_iff.mp (Option.mem_toList.mp mem)
  rfl

/-- A body with fields below a tag. -/
structure HasBody (m : Message) (fs : List TagValue) (t : Tag) : Prop where
  body : m.body = ⟨fs⟩
  below : ∀ f ∈ fs, f.tag < t

/-- A tag above all others is appended. -/
lemma HasBody.setOption {α} [FixEncode α] {m : Message} {fs : List TagValue} {t : Tag} (h : HasBody m fs t)
    (t' : Tag) (lt : t < t') (v : Option α) :
    HasBody (m.setOption t v) (fs ++ optional t (v.map encode)) t' where
  body := by
    cases v with
    | none => simpa [Message.setOption, optional] using h.body
    | some v =>
      rw [Message.setOption, Message.set, h.body]
      exact congrArg FieldMap.mk (FieldMap.setFields_new fun f mem => (h.below f mem).ne)
  below := by
    intro f mem
    rcases List.mem_append.mp mem with mem | mem
    · exact (h.below f mem).trans lt
    · rw [tag_optional mem]
      exact lt

/-- RefSeqNum is set where the offender has a number. -/
lemma setRefSeqNum_eq (offender m : Message) :
    Session.setRefSeqNum offender m = m.setOption Tags.refSeqNum (valueOf offender.seqNum) := by
  unfold Session.setRefSeqNum
  cases offender.seqNum <;> rfl

/-- RefMsgType is set where the offender has a type. -/
lemma setRefMsgType_eq (offender m : Message) :
    Session.setRefMsgType offender m = m.setOption Tags.refMsgType (valueOf offender.msgType) := by
  unfold Session.setRefMsgType
  cases offender.msgType <;> rfl

/-- What holds before the routing fields are copied, and is kept by copying one, holds after that. -/
lemma reverseRoute_keeps {P : Message → Prop} {offender reply : Message} {id : SessionId} (start : P reply)
    (step : ∀ reply src dst v, (src, dst) ∈ routePairs → offender.header.getRaw src = some v → v ≠ [] →
      (src ∈ [Tags.onBehalfOfLocationId, Tags.deliverToLocationId] → id.atLeast (ascii "FIX.4.1") = true) →
      P reply → P (reply.setHeader dst v)) : P (reverseRoute offender reply id) := by
  refine List.foldlRecOn routePairs _ start ?_
  rintro reply holds ⟨src, dst⟩ mem
  dsimp only
  split
  case isTrue => exact holds
  case isFalse allowed =>
    split
    · exact holds
    · exact holds
    · rename_i v nonempty some
      refine step reply src dst v mem some nonempty (fun location => ?_) holds
      simpa [location] using allowed

/-- The routing fields are in the header. -/
lemma body_reverseRoute (offender reply : Message) (id : SessionId) :
    (reverseRoute offender reply id).body = reply.body :=
  reverseRoute_keeps (P := fun m => m.body = reply.body) rfl fun _ _ _ _ _ _ _ _ same => same

/-- The body is made of these. -/
lemma body_message {s : Spec} {id : SessionId} (version : id.fix42Plus = s.modern) (offender : Message)
    (a : Refusal) : (a.message id offender).body = ⟨a.bodyFields s id offender⟩ := by
  have start (mt) : HasBody (reverseRoute offender (.withType mt) id) [] Tags.refSeqNum :=
    ⟨body_reverseRoute .., by simp⟩
  have numbered (mt) := (start mt).setOption Tags.text (by decide) (valueOf offender.seqNum)
  have texted (mt) (text : Bytes) := (numbered mt).setOption Tags.refTagId (by decide) (some text)
  cases a with
  | reject rej =>
    unfold bodyFields message Session.rejectMessage
    cases modern : s.modern with
    | false =>
      simp only [version, modern, Bool.false_eq_true, if_false, List.append_nil, setRefSeqNum_eq, text]
      exact (texted _ _).body
    | true =>
      simp only [version, modern, if_true, setRefSeqNum_eq, setRefMsgType_eq, text]
      have tagged := (texted MsgType.reject (Session.rejectText true rej)).setOption
        Tags.refMsgType (by decide) rej.refTag
      have typed := tagged.setOption Tags.sessionRejectReason (by decide) (valueOf offender.msgType)
      have coded := typed.setOption Tags.businessRejectReason (by decide)
        ((cited id (.reject rej)).map SessionRejectReason.code)
      have nothing : optional Tags.businessRejectReason ((business (.reject rej)).map encode) = [] := rfl
      rw [nothing, List.append_nil, ← List.append_assoc, ← List.append_assoc]
      by_cases cites : rej.reason.code ≤ 11 ∨ ascii "FIX.4.2" < id.beginString
      · rw [if_pos cites]
        rw [cited, if_pos cites] at coded ⊢
        exact coded.body
      · rw [if_neg cites]
        rw [cited, if_neg cites] at coded ⊢
        exact coded.body
  | unsupported =>
    unfold bodyFields message Session.businessRejectMessage
    cases modern : s.modern with
    | false =>
      simp only [version, modern, Bool.false_eq_true, if_false, List.append_nil, setRefSeqNum_eq, text]
      exact (texted _ _).body
    | true =>
      simp only [version, modern, if_true, setRefSeqNum_eq, setRefMsgType_eq, text]
      have tagged := (texted MsgType.businessMessageReject (ascii "Unsupported Message Type")).setOption
        Tags.refMsgType (by decide) (none : Option Tag)
      have typed := tagged.setOption Tags.businessRejectReason (by decide) (valueOf offender.msgType)
      have reasoned := typed.setOption (Tags.businessRejectReason + 1) (by decide) (some 3)
      rw [← List.append_assoc, ← List.append_assoc]
      exact reasoned.body

/-- Outside the body there are the type and the routing fields. -/
lemma besides_body {s : Spec} {id : SessionId} (version : id.fix42Plus = s.modern) (offender : Message)
    (a : Refusal) :
    let routed := reverseRoute offender (.withType (a.msgType s)) id
    (a.message id offender).header = routed.header ∧ (a.message id offender).trailer = routed.trailer ∧
      (a.message id offender).structureError = routed.structureError := by
  have option {α} [FixEncode α] (m : Message) (tag : Tag) (v : Option α) :
      (m.setOption tag v).header = m.header ∧ (m.setOption tag v).trailer = m.trailer ∧
        (m.setOption tag v).structureError = m.structureError := by
    cases v <;> exact ⟨rfl, rfl, rfl⟩
  cases a with
  | reject rej =>
    simp only [message, Session.rejectMessage, setRefSeqNum_eq, setRefMsgType_eq]
    split
    · split <;> simp [option, Message.set, msgType]
    · simp [option, Message.set, msgType]
  | unsupported =>
    simp only [message, Session.businessRejectMessage, setRefSeqNum_eq, setRefMsgType_eq, version]
    cases modern : s.modern <;> simp [option, Message.set, msgType, modern]

/-- A message that was built of header fields with a property, without a trailer. -/
structure Built (P : TagValue → Prop) (m : Message) : Prop where
  header : ∀ f ∈ m.header.fields, P f
  trailer : m.trailer = {}
  inOrder : m.structureError = none

namespace Built

variable {P : TagValue → Prop} {m : Message}

/-- Setting a field of the header keeps what is built. -/
lemma setHeader {α} [FixEncode α] (h : Built P m) {tag : Tag} {v : α} (own : P ⟨tag, encode v⟩) :
    Built P (m.setHeader tag v) where
  header := by
    intro f mem
    rcases FieldMap.mem_setFields mem with rfl | mem
    · exact own
    · exact h.header f mem
  trailer := h.trailer
  inOrder := h.inOrder

/-- So does setting one that is not empty. -/
lemma setHeaderUnlessEmpty (h : Built P m) {tag : Tag} {v : Bytes} (own : v ≠ [] → P ⟨tag, v⟩) :
    Built P (m.setHeaderUnlessEmpty tag v) := by
  unfold Message.setHeaderUnlessEmpty
  split
  case isTrue => exact h
  case isFalse some => exact h.setHeader (own some)

/-- So does reversing the route of the offender. -/
lemma reverseRoute {id : SessionId} {offender : Message} (h : Built P m)
    (route : ∀ src dst v, (src, dst) ∈ routePairs → offender.header.getRaw src = some v → v ≠ [] →
      (src ∈ [Tags.onBehalfOfLocationId, Tags.deliverToLocationId] → id.atLeast (ascii "FIX.4.1") = true) →
      P ⟨dst, v⟩) : Built P (reverseRoute offender m id) :=
  reverseRoute_keeps h fun _ src dst v mem read some allowed built =>
    built.setHeader (route src dst v mem read some allowed)

/-- An answer before its header is filled. -/
lemma message {s : Spec} {id : SessionId} {offender : Message} (a : Refusal)
    (version : id.fix42Plus = s.modern) (type : P ⟨Tags.msgType, a.msgType s⟩)
    (route : ∀ src dst v, (src, dst) ∈ routePairs → offender.header.getRaw src = some v → v ≠ [] →
      (src ∈ [Tags.onBehalfOfLocationId, Tags.deliverToLocationId] → id.atLeast (ascii "FIX.4.1") = true) →
      P ⟨dst, v⟩) : Built P (a.message id offender) := by
  have start : Built P (.withType (a.msgType s)) := by
    refine ⟨fun f mem => ?_, rfl, rfl⟩
    rw [List.mem_singleton.mp mem]
    exact type
  obtain ⟨header, trailer, inOrder⟩ := start.reverseRoute route
  obtain ⟨header', trailer', inOrder'⟩ := besides_body version offender a
  exact ⟨header'.symm ▸ header, trailer'.trans trailer, inOrder'.trans inOrder⟩

/-- So does counting as fresh. -/
lemma fresh (h : Built P m) : Built P m.fresh where
  header := by
    intro f mem
    exact h.header f (List.mem_filter.mp (List.mem_filter.mp mem).1).1
  trailer := h.trailer
  inOrder := h.inOrder

variable {σ : Type} [Chrono] [MessageStore σ]

/-- What a session writes into the header. -/
structure Fills (P : TagValue → Prop) (x : Session σ) (now : UtcTime) : Prop where
  beginString : P ⟨Tags.beginString, x.cfg.sessionId.beginString⟩
  senderCompId : P ⟨Tags.senderCompId, x.cfg.sessionId.senderCompId⟩
  targetCompId : P ⟨Tags.targetCompId, x.cfg.sessionId.targetCompId⟩
  senderSubId : x.cfg.sessionId.senderSubId ≠ [] → P ⟨Tags.senderSubId, x.cfg.sessionId.senderSubId⟩
  senderLocationId : x.cfg.sessionId.senderLocationId ≠ [] →
    P ⟨Tags.senderLocationId, x.cfg.sessionId.senderLocationId⟩
  targetSubId : x.cfg.sessionId.targetSubId ≠ [] → P ⟨Tags.targetSubId, x.cfg.sessionId.targetSubId⟩
  targetLocationId : x.cfg.sessionId.targetLocationId ≠ [] →
    P ⟨Tags.targetLocationId, x.cfg.sessionId.targetLocationId⟩
  msgSeqNum : P ⟨Tags.msgSeqNum, encode (MessageStore.nextSenderSeqNum x.store)⟩
  lastProcessed : x.cfg.enableLastMsgSeqNumProcessed = true →
    P ⟨Tags.lastMsgSeqNumProcessed, encode x.lastReceivedSeq⟩
  sendingTime : P ⟨Tags.sendingTime, encode (x.timestamp now)⟩

/-- So does filling in the header. -/
lemma filled {x : Session σ} {now} (h : Built P m) (fills : Fills P x now) :
    Built P (x.filledHeader now m) := by
  have identified : Built P (Session.identify x.cfg.sessionId m) :=
    ((((((h.setHeader fills.beginString).setHeader fills.senderCompId).setHeader
      fills.targetCompId).setHeaderUnlessEmpty fills.senderSubId).setHeaderUnlessEmpty
      fills.senderLocationId).setHeaderUnlessEmpty fills.targetSubId).setHeaderUnlessEmpty
      fills.targetLocationId
  have numbered := identified.setHeader fills.msgSeqNum
  unfold Session.filledHeader Session.setLastProcessed
  dsimp only
  split
  case isTrue enabled => exact (numbered.setHeader (fills.lastProcessed enabled)).setHeader fills.sendingTime
  case isFalse => exact numbered.setHeader fills.sendingTime

end Built

/-! ## Values without delimiters -/

/-- No data is copied from an offender. -/
lemma not_data : ∀ t ∈ Tags.msgType :: routePairs.map Prod.fst, ∀ p ∈ Tags.lengthDataTags, p.2 ≠ t := by
  decide

/-- No number is written with a separator. -/
lemma soh_not_mem_encode (n : Nat) : soh ∉ encode n := not_mem_itoa (by decide) (by decide) (asI64 n)

/-- The type of an offender has no delimiter. -/
lemma plain_msgType {raw : Bytes} {v} {m : Message} (parsed : parse raw v = .ok m) {mt}
    (type : m.msgType = .ok mt) : soh ∉ mt := by
  obtain ⟨value, read, rfl⟩ : ∃ value, m.header.getRaw Tags.msgType = some value ∧ value = mt := by
    rw [Message.msgType, FieldMap.get] at type
    cases read : m.header.getRaw Tags.msgType with
    | none =>
      rw [read] at type
      cases type
    | some value =>
      rw [read] at type
      simp only [decodeString] at type
      split at type
      case isTrue => exact ⟨value, rfl, Except.ok.inj type⟩
      case isFalse => cases type
  exact plain_of_parse parsed (not_data _ List.mem_cons_self) read

section Sent

variable {σ : Type} [Chrono] [MessageStore σ]

/-- The answer as it is written when its callback leaves it alone. -/
def sent (x : Session σ) (now : UtcTime) (offender : Message) (a : Refusal) : Message :=
  x.canonicalized (x.filledHeader now (a.message x.cfg.sessionId offender).fresh)

variable {s : Spec} {x : Session σ} {now : UtcTime} {offender : Message} {a : Refusal}

/-- What a session writes of its own has no delimiters. -/
structure Plain (s : Spec) (x : Session σ) (now : UtcTime) (a : Refusal) : Prop where
  ids : ∀ v ∈ [x.cfg.sessionId.beginString, x.cfg.sessionId.senderCompId, x.cfg.sessionId.targetCompId,
    x.cfg.sessionId.senderSubId, x.cfg.sessionId.senderLocationId, x.cfg.sessionId.targetSubId,
    x.cfg.sessionId.targetLocationId], soh ∉ v
  text : soh ∉ a.text s
  time : soh ∉ encode (x.timestamp now)

/-- The canonical order is one of the body. -/
lemma canonicalized_eq (x : Session σ) (m : Message) :
    ∃ fs, (x.canonicalized m) = { m with body := ⟨fs⟩ } ∧ fs.Perm m.body.fields := by
  have same : ∃ fs, m = { m with body := ⟨fs⟩ } ∧ fs.Perm m.body.fields := ⟨m.body.fields, rfl, .refl _⟩
  unfold Session.canonicalized
  cases x.dictionary with
  | none => exact same
  | some dd =>
    cases type : m.msgType with
    | error => simpa [DataDictionary.canonicalizeBody, type] using same
    | ok mt =>
      cases found : dd.messages.lookup mt with
      | none => simpa [DataDictionary.canonicalizeBody, type, found] using same
      | some d => exact ⟨_, DataDictionary.canonicalizeBody_eq type found, DataDictionary.perm_canonical ..⟩

/-- The body of an answer, in some order. -/
lemma body_sent (now : UtcTime) (offender : Message) (a : Refusal)
    (version : x.cfg.sessionId.fix42Plus = s.modern) :
    (a.sent x now offender).body.fields.Perm (a.bodyFields s x.cfg.sessionId offender) := by
  obtain ⟨fs, same, perm⟩ :=
    canonicalized_eq x (x.filledHeader now (a.message x.cfg.sessionId offender).fresh)
  rw [sent, same]
  rw [Session.body_filledHeader] at perm
  simpa only [Message.fresh, body_message version] using perm

/-- Canonicalization leaves the header alone. -/
lemma header_sent (x : Session σ) (now) (offender : Message) (a : Refusal) :
    (a.sent x now offender).header =
      (x.filledHeader now (a.message x.cfg.sessionId offender).fresh).header := by
  obtain ⟨fs, same, -⟩ := canonicalized_eq x (x.filledHeader now (a.message x.cfg.sessionId offender).fresh)
  rw [sent, same]

/-- The type of an answer. -/
lemma type_sent (now : UtcTime) (offender : Message) (a : Refusal)
    (version : x.cfg.sessionId.fix42Plus = s.modern) :
    (a.sent x now offender).header.getRaw Tags.msgType = some (a.msgType s) := by
  have routed : (reverseRoute offender (.withType (a.msgType s)) x.cfg.sessionId).header.getRaw
      Tags.msgType = some (a.msgType s) := by
    refine reverseRoute_keeps (P := fun m => m.header.getRaw Tags.msgType = some (a.msgType s)) rfl ?_
    intro reply src dst v mem _ _ _ same
    have other : ∀ p ∈ routePairs, Tags.msgType ≠ p.2 := by decide
    rw [setHeader, FieldMap.getRaw_set, if_neg (other _ mem)]
    exact same
  have header := (besides_body version offender a).1
  rw [header_sent, Session.msgType_filledHeader, Message.fresh, FieldMap.getRaw_remove, if_neg (by decide),
    FieldMap.getRaw_remove, if_neg (by decide), header]
  exact routed

/-- The fields that are written into every header. -/
lemma getRaw_sent (x : Session σ) (now) (offender : Message) (a : Refusal) :
    (a.sent x now offender).header.getRaw Tags.beginString = some x.cfg.sessionId.beginString ∧
      (a.sent x now offender).header.getRaw Tags.senderCompId = some x.cfg.sessionId.senderCompId ∧
      (a.sent x now offender).header.getRaw Tags.targetCompId = some x.cfg.sessionId.targetCompId ∧
      (a.sent x now offender).header.getRaw Tags.msgSeqNum =
        some (encode (MessageStore.nextSenderSeqNum x.store)) ∧
      (a.sent x now offender).header.getRaw Tags.sendingTime = some (encode (x.timestamp now)) := by
  have same (v : Bytes) : encode v = v := rfl
  rw [header_sent]
  refine ⟨?_, ?_, ?_, ?_, ?_⟩ <;>
    simp +decide [Session.filledHeader, Session.identify, stampSendingTime, Session.getRaw_setLastProcessed,
      getRaw_setHeaderUnlessEmpty, same]

/-- The fields that are written where there is a value for them. -/
lemma getRaw_sent_some (x : Session σ) (now) (offender : Message) (a : Refusal) :
    (x.cfg.sessionId.senderLocationId ≠ [] → (a.sent x now offender).header.getRaw Tags.senderLocationId =
        some x.cfg.sessionId.senderLocationId) ∧
      (x.cfg.sessionId.targetLocationId ≠ [] → (a.sent x now offender).header.getRaw Tags.targetLocationId =
        some x.cfg.sessionId.targetLocationId) ∧
      (x.cfg.enableLastMsgSeqNumProcessed = true →
        (a.sent x now offender).header.getRaw Tags.lastMsgSeqNumProcessed =
          some (encode x.lastReceivedSeq)) := by
  have same (v : Bytes) : encode v = v := rfl
  have unlessEmpty {m : Message} {tag : Tag} {v : Bytes} (some' : v ≠ []) :
      (m.setHeaderUnlessEmpty tag v).header.getRaw tag = some v := by
    rw [setHeaderUnlessEmpty, if_neg some']
    simp [same]
  rw [header_sent]
  refine ⟨fun h => ?_, fun h => ?_, fun h => ?_⟩
  · simp +decide [Session.filledHeader, Session.identify, stampSendingTime, Session.getRaw_setLastProcessed,
      getRaw_setHeaderUnlessEmpty, unlessEmpty h]
  · simp +decide [Session.filledHeader, Session.identify, stampSendingTime, Session.getRaw_setLastProcessed,
      unlessEmpty h]
  · simp +decide [Session.filledHeader, stampSendingTime, Session.setLastProcessed, h]

/-- An answer is built of its type, the routing fields and what fills its header. -/
lemma built_sent {P : TagValue → Prop} (version : x.cfg.sessionId.fix42Plus = s.modern)
    (type : P ⟨Tags.msgType, a.msgType s⟩)
    (route : ∀ src dst v, (src, dst) ∈ routePairs → offender.header.getRaw src = some v → v ≠ [] →
      (src ∈ [Tags.onBehalfOfLocationId, Tags.deliverToLocationId] →
        x.cfg.sessionId.atLeast (ascii "FIX.4.1") = true) → P ⟨dst, v⟩)
    (fills : Built.Fills P x now) : Built P (a.sent x now offender) := by
  have filled := ((Built.message a version type route).fresh).filled fills
  obtain ⟨fs, same, -⟩ := canonicalized_eq x (x.filledHeader now (a.message x.cfg.sessionId offender).fresh)
  rw [sent, same]
  exact ⟨filled.header, filled.trailer, filled.inOrder⟩

/-- The tags in the header of an answer. -/
def headTags : List Tag :=
  [Tags.beginString, Tags.senderCompId, Tags.targetCompId, Tags.senderSubId, Tags.senderLocationId,
    Tags.targetSubId, Tags.targetLocationId, Tags.msgSeqNum, Tags.lastMsgSeqNumProcessed, Tags.sendingTime,
    Tags.msgType] ++ routePairs.map Prod.snd

/-- The header has fields of answers, without delimiters. -/
lemma plain_sent {raw : Bytes} {v} (version : x.cfg.sessionId.fix42Plus = s.modern)
    (parsed : parse raw v = .ok offender) (plain : Plain s x now a) :
    Built (fun f => f.tag ∈ Spec.answerTags ∧ Tags.isHeaderTag f.tag = true ∧ soh ∉ f.value)
      (a.sent x now offender) := by
  have known : ∀ t ∈ headTags, t ∈ Spec.answerTags ∧ Tags.isHeaderTag t = true := by decide
  have field (t : Tag) (value : Bytes) (mem : t ∈ headTags) (plain : soh ∉ value) :
      t ∈ Spec.answerTags ∧ Tags.isHeaderTag t = true ∧ soh ∉ value :=
    ⟨(known t mem).1, (known t mem).2, plain⟩
  have types : soh ∉ a.msgType s := by
    unfold msgType
    split
    · decide
    · split <;> decide
  have ids := plain.ids
  simp only [List.forall_mem_cons] at ids
  obtain ⟨begins, sender, target, senderSub, senderLocation, targetSub, targetLocation, -⟩ := ids
  refine built_sent version (field _ _ (by simp [headTags]) types) ?_ ?_
  · intro src dst value mem read _ _
    refine field dst value (List.mem_append_right _ (List.mem_map.mpr ⟨_, mem, rfl⟩)) ?_
    have own := not_data src (List.mem_cons_of_mem _ (List.mem_map.mpr ⟨_, mem, rfl⟩))
    exact plain_of_parse parsed own read
  · constructor
    case beginString => exact field _ _ (by simp [headTags]) begins
    case senderCompId => exact field _ _ (by simp [headTags]) sender
    case targetCompId => exact field _ _ (by simp [headTags]) target
    case senderSubId => exact fun _ => field _ _ (by simp [headTags]) senderSub
    case senderLocationId => exact fun _ => field _ _ (by simp [headTags]) senderLocation
    case targetSubId => exact fun _ => field _ _ (by simp [headTags]) targetSub
    case targetLocationId => exact fun _ => field _ _ (by simp [headTags]) targetLocation
    case msgSeqNum => exact field _ _ (by simp [headTags]) (soh_not_mem_encode _)
    case lastProcessed => exact fun _ => field _ _ (by simp [headTags]) (soh_not_mem_encode _)
    case sendingTime => exact field _ _ (by simp [headTags]) plain.time

/-! ## The body -/

/-- The tags in the body of an answer. -/
def bodyTags : List Tag :=
  [Tags.refSeqNum, Tags.text, Tags.refTagId, Tags.refMsgType, Tags.sessionRejectReason,
    Tags.businessRejectReason]

/-- What holds of an optional field holds of its value. -/
lemma forall_mem_optional {tag : Tag} {value : Option Bytes} {P : TagValue → Prop} :
    (∀ f ∈ optional tag value, P f) ↔ ∀ v, value = some v → P ⟨tag, v⟩ := by
  cases value <;> simp [optional]

/-- A value is there when it was converted. -/
lemma valueOf_eq_some {α : Type} {e : Except ConversionError α} {v : α} :
    valueOf e = some v ↔ e = .ok v := by
  cases e <;> simp [valueOf]

/-- What holds of the fields of a body. -/
lemma forall_mem_bodyFields {id : SessionId} {P : TagValue → Prop} :
    (∀ f ∈ a.bodyFields s id offender, P f) ↔
      (∀ n, offender.seqNum = .ok n → P ⟨Tags.refSeqNum, encode n⟩) ∧ P ⟨Tags.text, a.text s⟩ ∧
      (s.modern = true → (∀ t, a.refTag = some t → P ⟨Tags.refTagId, encode t⟩) ∧
        (∀ mt, offender.msgType = .ok mt → P ⟨Tags.refMsgType, mt⟩) ∧
        (∀ r, a.cited id = some r → P ⟨Tags.sessionRejectReason, encode r.code⟩) ∧
        ∀ n, a.business = some n → P ⟨Tags.businessRejectReason, encode n⟩) := by
  have same (v : Bytes) : encode v = v := rfl
  cases modern : s.modern <;>
    simp [bodyFields, modern, or_imp, forall_and, forall_mem_optional, valueOf_eq_some, same]

/-- The fields are in ascending order. -/
lemma sublist_bodyTags (s : Spec) (id : SessionId) (offender : Message) (a : Refusal) :
    ((a.bodyFields s id offender).map (·.tag)).Sublist bodyTags := by
  have one (tag : Tag) (value : Option Bytes) : ((optional tag value).map (·.tag)).Sublist [tag] := by
    cases value <;> simp [optional]
  unfold bodyFields
  simp only [List.map_append]
  refine ((one _ _).append (one _ _)).append (?_ : List.Sublist _ [Tags.refTagId, Tags.refMsgType,
    Tags.sessionRejectReason, Tags.businessRejectReason])
  cases s.modern with
  | false => exact List.nil_sublist _
  | true =>
    simp only [if_true, List.map_append]
    exact (one _ _).append ((one _ _).append ((one _ _).append (one _ _)))

/-- The body has no delimiters. -/
lemma plain_bodyFields {raw : Bytes} {v} {id : SessionId} (parsed : parse raw v = .ok offender)
    (text : soh ∉ a.text s) : ∀ f ∈ a.bodyFields s id offender, soh ∉ f.value := by
  rw [forall_mem_bodyFields (P := fun f => soh ∉ f.value)]
  refine ⟨fun n _ => soh_not_mem_encode n, text, fun _ => ⟨fun t _ => ?_, fun mt type => ?_, fun r _ => ?_,
    fun n _ => soh_not_mem_encode n⟩⟩
  · exact not_mem_itoa (by decide) (by decide) t
  · exact plain_msgType parsed type
  · exact soh_not_mem_encode _

/-- An answer can be sent. -/
lemma sendable_sent {raw : Bytes} {v} (version : x.cfg.sessionId.fix42Plus = s.modern)
    (parsed : parse raw v = .ok offender) (plain : Plain s x now a) : (a.sent x now offender).Sendable := by
  have built := plain_sent version parsed plain
  have perm := body_sent now offender a version
  have body (f) (mem : f ∈ (a.sent x now offender).body.fields) : f.tag ∈ bodyTags ∧ soh ∉ f.value := by
    have mem' := perm.mem_iff.mp mem
    exact ⟨(sublist_bodyTags ..).subset (List.mem_map.mpr ⟨f, mem', rfl⟩),
      plain_bodyFields parsed plain.text f mem'⟩
  have range : ∀ t ∈ bodyTags, Tags.isBodyTag t = true ∧ -2 ^ 31 ≤ t ∧ t < 2 ^ 31 := by decide
  have noLengths : ∀ t ∈ Spec.answerTags ++ bodyTags, Tags.dataTagForLengthTag t = none := by decide
  have type := type_sent now offender a version
  have inner (f) (mem : f ∈ (a.sent x now offender).innerFields) :
      f.tag ∈ Spec.answerTags ++ bodyTags ∧ soh ∉ f.value := by
    rw [innerFields, type] at mem
    simp only [Option.map_some, Option.toList_some, List.mem_append, List.mem_singleton, or_assoc] at mem
    rcases mem with rfl | mem | mem | mem
    · obtain ⟨known, -, value⟩ := built.header _ (mem_of_getRaw type)
      exact ⟨List.mem_append_left _ known, value⟩
    · obtain ⟨known, -, value⟩ := built.header f (mem_sortedHeader.mp mem).1
      exact ⟨List.mem_append_left _ known, value⟩
    · exact ⟨List.mem_append_right _ (body f mem).1, (body f mem).2⟩
    · have none := (mem_sortedTrailer.mp mem).1
      rw [built.trailer] at none
      cases none
  constructor
  case msgType => exact List.any_eq_true.mpr ⟨_, mem_of_getRaw type, by simp⟩
  case header => exact fun f mem => (built.header f mem).2.1
  case body => exact fun f mem => (range f.tag (body f mem).1).1
  case trailer => simp [built.trailer]
  case range => exact fun f mem => (range f.tag (body f mem).1).2
  case begins =>
    rw [beginBytes, (getRaw_sent x now offender a).1]
    exact plain.ids _ List.mem_cons_self
  case framed =>
    refine framed_plain (fun f mem => (inner f mem).2) fun f mem g _ => ?_
    rw [noLengths f.tag (inner f mem).1]
    exact Option.some_ne_none _ |>.symm

/-! ## What validation says of it -/

/-- A session of a version answers a message that was parsed. -/
structure Answers (s : Spec) (x : Session σ) (now : UtcTime) (offender : Message) (a : Refusal) : Prop where
  parsed : ∃ raw v, parse raw v = .ok offender
  begins : x.cfg.sessionId.beginString = s.beginString
  plain : Plain s x now a
  time : ∀ tag, DataDictionary.isOk (decodeTimestamp tag (encode (x.timestamp now))) = true
  /-- Numbers are `u64`, tags are `i32`. -/
  range : MessageStore.nextSenderSeqNum x.store < 2 ^ 64 ∧ x.lastReceivedSeq < 2 ^ 64 ∧
    ∀ t, a.refTag = some t → -2 ^ 31 ≤ t ∧ t < 2 ^ 31
  fits : (a.sent x now offender).toBytes.length < 2 ^ 63

/-- The header of an answer passes. -/
structure HeaderFits (s : Spec) (x : Session σ) : Prop where
  sender : x.cfg.sessionId.senderCompId ≠ []
  target : x.cfg.sessionId.targetCompId ≠ []
  locations : s = .fix40 → x.cfg.sessionId.senderLocationId = [] ∧ x.cfg.sessionId.targetLocationId = []
  number : s.writes (MessageStore.nextSenderSeqNum x.store)
  lastProcessed : x.cfg.enableLastMsgSeqNumProcessed = true → s.modern = true ∧ s.writes x.lastReceivedSeq

/-- The body of an answer has what its type requires, in values that pass. -/
structure BodyFits (s : Spec) (offender : Message) (a : Refusal) : Prop where
  text : ∀ rej, a = .reject rej → rej.text ≠ some []
  numbered : a.msgType s = MsgType.reject → ∃ n, offender.seqNum = .ok n
  number : ∀ n, offender.seqNum = .ok n → s.writes n
  typed : a.msgType s = MsgType.businessMessageReject → ∃ mt, offender.msgType = .ok mt
  type : s.modern = true → offender.msgType ≠ .ok []
  reason : s = .fix43 → ∀ rej, a = .reject rej → rej.reason ≠ .other

namespace Answers

variable {dd : DataDictionary}

/-- The versions that a session takes for modern are. -/
lemma version (h : Answers s x now offender a) : x.cfg.sessionId.fix42Plus = s.modern := by
  rw [SessionId.fix42Plus, SessionId.atLeast, SessionId.isFixt, h.begins]
  cases s <;> decide

/-- An answer can be sent. -/
lemma sendable (h : Answers s x now offender a) : (a.sent x now offender).Sendable := by
  obtain ⟨raw, v, parsed⟩ := h.parsed
  exact sendable_sent h.version parsed h.plain

/-- Answers have one of two types. -/
lemma answer_type (s : Spec) (a : Refusal) :
    a.msgType s = MsgType.reject ∨ a.msgType s = MsgType.businessMessageReject := by
  cases a with
  | reject => exact .inl rfl
  | unsupported => cases modern : s.modern <;> simp [msgType, modern]

/-- The location tags came with FIX.4.1. -/
lemma typeOf_location {t : Tag} (mem : t ∈ [Tags.senderLocationId, Tags.targetLocationId,
    Tags.onBehalfOfLocationId, Tags.deliverToLocationId]) :
    s.typeOf t = if s = .fix40 then none else some .string := by
  have all : ∀ t ∈ [Tags.senderLocationId, Tags.targetLocationId, Tags.onBehalfOfLocationId,
      Tags.deliverToLocationId], s.typeOf t = if s = .fix40 then none else some .string := by
    cases s <;> decide
  exact all t mem

/-- The location fields of the session pass where the version has them. -/
lemma check_location (ships : dd.ShipsAnswers s (a.msgType s)) (d : MessageDef) {t : Tag} {value : Bytes}
    (mem : t ∈ [Tags.senderLocationId, Tags.targetLocationId, Tags.onBehalfOfLocationId,
      Tags.deliverToLocationId]) (some : value ≠ []) :
    dd.checkField ⟨t, value⟩ false d {} = .ok () ↔ s ≠ .fix40 := by
  have known : ∀ t ∈ [Tags.senderLocationId, Tags.targetLocationId, Tags.onBehalfOfLocationId,
      Tags.deliverToLocationId], t ∈ Spec.answerTags ∧ t ≠ Tags.msgType ∧ t ≠ Tags.sessionRejectReason := by
    decide
  obtain ⟨known, free⟩ := known t mem
  have type := typeOf_location (s := s) mem
  by_cases first : s = .fix40
  · rw [if_pos first] at type
    exact iff_of_false (ships.check_undefined known type (by simp)) (by simpa using first)
  · rw [if_neg first] at type
    rw [ships.check_string known free (by simp) type]
    exact iff_of_true some first

/-- LastMsgSeqNumProcessed passes where the version has it and can write it. -/
lemma check_lastProcessed (ships : dd.ShipsAnswers s (a.msgType s)) (d : MessageDef) {n : Nat}
    (bound : n < 2 ^ 64) : dd.checkField ⟨Tags.lastMsgSeqNumProcessed, encode n⟩ false d {} = .ok () ↔
      s.modern = true ∧ s.writes n := by
  have type : s.typeOf Tags.lastMsgSeqNumProcessed = if s.modern then some s.numberType else none := by
    cases s <;> rfl
  cases modern : s.modern with
  | true =>
    rw [modern, if_pos rfl] at type
    rw [ships.check_number (by decide) (by decide) (by simp) type bound]
    exact (and_iff_right rfl).symm
  | false =>
    rw [modern, if_neg Bool.false_ne_true] at type
    exact iff_of_false (ships.check_undefined (by decide) type (by simp)) fun h => Bool.false_ne_true h.1

/-- The SendingTime passes. -/
lemma check_time (h : Answers s x now offender a) (ships : dd.ShipsAnswers s (a.msgType s))
    (d : MessageDef) :
    dd.checkField ⟨Tags.sendingTime, encode (x.timestamp now)⟩ false d {} = .ok () := by
  have typed : s.typeOf Tags.sendingTime = some .utcTimestamp := by cases s <;> rfl
  have header : false = true → Tags.sendingTime ∈ d.tags := by simp
  obtain ⟨field, type, checked⟩ := ships.check (by decide) (by decide) header typed
  have read := h.time field.tag
  rw [checked, DataDictionary.checkFormat, type]
  refine ⟨fun empty => ?_, read⟩
  rw [empty] at read
  simp [decodeTimestamp, precisionOfLength, DataDictionary.isOk] at read

/-- The BodyLength that is computed passes. -/
lemma check_length (h : Answers s x now offender a) (ships : dd.ShipsAnswers s (a.msgType s))
    (d : MessageDef) :
    dd.checkField ⟨Tags.bodyLength, dec (a.sent x now offender).inner.length⟩ false d {} = .ok () := by
  have bound : (a.sent x now offender).inner.length < 2 ^ 63 := by
    have fits := h.fits
    rw [toBytes_eq] at fits
    simp only [List.length_append, List.length_cons] at fits
    omega
  have typed : s.typeOf Tags.bodyLength = some (if s.intNumbers then .int else .length) := by
    cases s <;> rfl
  have header : false = true → Tags.bodyLength ∈ d.tags := by simp
  obtain ⟨field, type, checked⟩ := ships.check (by decide) (by decide) header typed
  rw [checked, DataDictionary.checkFormat, type, ← encode_nat bound]
  refine ⟨itoa_ne_nil _, ?_⟩
  cases s.intNumbers with
  | true =>
    simp only [if_true, decodeI64, parseSigned_encode]
    rfl
  | false =>
    simp only [Bool.false_eq_true, if_false, decodeU64_encode bound]
    rfl

/-- The header passes. -/
lemma header_iff (h : Answers s x now offender a) (ships : dd.ShipsAnswers s (a.msgType s))
    (d : MessageDef) :
    (∀ f ∈ ((a.sent x now offender).received (a.msgType s)).header.fields,
      dd.checkField f false d {} = .ok ()) ↔ HeaderFits s x := by
  obtain ⟨begins, sender, target, number, time⟩ := getRaw_sent x now offender a
  obtain ⟨senderLocation, targetLocation, lastProcessed⟩ := getRaw_sent_some x now offender a
  have string (t : Tag) (value : Bytes) (mem : t ∈ Spec.strings) :
      dd.checkField ⟨t, value⟩ false d {} = .ok () ↔ value ≠ [] := ships.check_strings mem (by simp)
  have numeral : s.typeOf Tags.msgSeqNum = some s.numberType := by cases s <;> rfl
  constructor
  · intro passes
    have own {t value} (read : (a.sent x now offender).header.getRaw t = some value)
        (other : t ∉ [Tags.beginString, Tags.bodyLength, Tags.msgType]) :
        dd.checkField ⟨t, value⟩ false d {} = .ok () := by
      refine passes _ ?_
      have mem := mem_sortedHeader.mpr ⟨mem_of_getRaw read, other⟩
      simp [received, serialHeader, mem]
    constructor
    case sender => exact (string _ _ (by decide)).mp (own sender (by decide))
    case target => exact (string _ _ (by decide)).mp (own target (by decide))
    case locations =>
      intro first
      refine ⟨by_contra fun some => ?_, by_contra fun some => ?_⟩
      · exact (check_location ships d (by simp) some).mp (own (senderLocation some) (by decide)) first
      · exact (check_location ships d (by simp) some).mp (own (targetLocation some) (by decide)) first
    case number =>
      have body : false = true → Tags.msgSeqNum ∈ d.tags := by simp
      exact (ships.check_number (by decide) (by decide) body numeral h.range.1).mp (own number (by decide))
    case lastProcessed =>
      intro enabled
      exact (check_lastProcessed ships d h.range.2.1).mp (own (lastProcessed enabled) (by decide))
  · intro fits
    have built : Built (fun f => dd.checkField f false d {} = .ok ()) (a.sent x now offender) := by
      refine built_sent h.version (ships.check_type (answer_type s a) d) ?_ ?_
      · intro src dst value mem _ nonempty allowed
        have tags : ∀ p ∈ routePairs,
            (p.1 ∈ [Tags.onBehalfOfLocationId, Tags.deliverToLocationId] ∧
              p.2 ∈ [Tags.onBehalfOfLocationId, Tags.deliverToLocationId]) ∨
            p.2 ∈ [Tags.onBehalfOfCompId, Tags.onBehalfOfSubId, Tags.deliverToCompId, Tags.deliverToSubId] := by
          decide
        rcases tags _ mem with ⟨location, location'⟩ | other
        · have versions := allowed location
          rw [SessionId.atLeast, h.begins] at versions
          refine (check_location ships d (by revert location'; simp; tauto) nonempty).mpr ?_
          rintro rfl
          revert versions
          decide
        · have strings : ∀ t ∈ [Tags.onBehalfOfCompId, Tags.onBehalfOfSubId, Tags.deliverToCompId,
              Tags.deliverToSubId], t ∈ Spec.strings := by decide
          exact (string _ _ (strings _ other)).mpr nonempty
      · constructor
        case beginString =>
          refine (string _ _ (by decide)).mpr ?_
          rw [h.begins]
          cases s <;> decide
        case senderCompId =>
          exact (string _ _ (by decide)).mpr fits.sender
        case targetCompId =>
          exact (string _ _ (by decide)).mpr fits.target
        case senderSubId => exact (string _ _ (by decide)).mpr
        case targetSubId => exact (string _ _ (by decide)).mpr
        case senderLocationId =>
          exact fun some => (check_location ships d (by simp) some).mpr fun first =>
            some (fits.locations first).1
        case targetLocationId =>
          exact fun some => (check_location ships d (by simp) some).mpr fun first =>
            some (fits.locations first).2
        case msgSeqNum =>
          exact (ships.check_number (by decide) (by decide) (by simp) numeral h.range.1).mpr fits.number
        case lastProcessed =>
          exact fun enabled => (check_lastProcessed ships d h.range.2.1).mpr (fits.lastProcessed enabled)
        case sendingTime => exact h.check_time ships d
    intro f mem
    simp only [received, serialHeader, List.mem_cons] at mem
    rcases mem with rfl | rfl | rfl | mem
    · refine built.header _ ?_
      rw [beginBytes, begins]
      exact mem_of_getRaw begins
    · exact h.check_length ships d
    · exact built.header _ (mem_of_getRaw (type_sent now offender a h.version))
    · exact built.header f (mem_sortedHeader.mp mem).1

/-- The version has the reason that is cited. -/
lemma cited_iff (h : Answers s x now offender a) (modern : s.modern = true) :
    (∀ r, a.cited x.cfg.sessionId = some r → s.knows r = true) ↔
      (s = .fix43 → ∀ rej, a = .reject rej → rej.reason ≠ .other) := by
  cases a with
  | unsupported => simp [cited]
  | reject rej =>
    have later : (ascii "FIX.4.2" < ascii "FIX.4.3") ∧ (ascii "FIX.4.2" < ascii "FIX.4.4") ∧
      (ascii "FIX.4.2" < ascii "FIXT.1.1") ∧ ¬ (ascii "FIX.4.2" < ascii "FIX.4.2") := by decide
    obtain ⟨fix43, fix44, fixt11, fix42⟩ := later
    cases s with
    | fix40 => cases modern
    | fix41 => cases modern
    | fix42 => simp [cited, h.begins, Spec.beginString, Spec.knows, fix42]
    | fix43 => simp [cited, h.begins, Spec.beginString, Spec.knows, fix43]
    | fix44 => simp [Spec.knows]
    | fixt11 => simp [Spec.knows]

/-- The body has a field of a tag. -/
lemma contains_iff (h : Answers s x now offender a) {t : Tag} :
    (a.sent x now offender).body.contains t = true ↔
    ¬ ∀ f ∈ a.bodyFields s x.cfg.sessionId offender, f.tag ≠ t := by
  rw [FieldMap.contains, List.any_eq_true]
  simp only [(body_sent now offender a h.version).mem_iff, beq_iff_eq]
  push Not
  rfl

/-- The text is empty when the application says so. -/
lemma text_iff (s : Spec) (a : Refusal) : a.text s ≠ [] ↔ ∀ rej, a = .reject rej → rej.text ≠ some [] := by
  cases a with
  | unsupported => cases modern : s.modern <;> simp +decide [text, modern]
  | reject rej =>
    have reasons : rej.reason.text ≠ [] := by cases rej.reason <;> decide
    obtain ⟨reason, cite, words⟩ := rej
    cases cite <;> cases words <;> cases modern : s.modern <;>
      simp_all [text, Session.rejectText, RejectError.display]

/-- The fields of the body pass. -/
lemma allowed_iff (ships : dd.ShipsAnswers s (a.msgType s)) (h : Answers s x now offender a) {d : MessageDef}
    (allowed : ∀ t ∈ s.answerAllowed (a.msgType s), t ∈ d.tags) :
    (∀ f ∈ (a.sent x now offender).body.fields, dd.checkField f true d {} = .ok ()) ↔
      (∀ n, offender.seqNum = .ok n → s.writes n) ∧
      (∀ rej, a = .reject rej → rej.text ≠ some []) ∧ (s.modern = true → offender.msgType ≠ .ok []) ∧
      (s = .fix43 → ∀ rej, a = .reject rej → rej.reason ≠ .other) := by
  have perm := body_sent now offender a h.version
  simp only [perm.mem_iff]
  rw [forall_mem_bodyFields (P := fun f => dd.checkField f true d {} = .ok ())]
  have always : Tags.refSeqNum ∈ d.tags ∧ Tags.text ∈ d.tags := by
    have listed : ∀ t ∈ [Tags.refSeqNum, Tags.text], t ∈ s.answerAllowed (a.msgType s) := by
      rcases answer_type s a with type | type <;> rw [type] <;> cases s <;> decide
    exact ⟨allowed _ (listed _ (by simp)), allowed _ (listed _ (by simp))⟩
  have numbers (n) (read : offender.seqNum = .ok n) :
      dd.checkField ⟨Tags.refSeqNum, encode n⟩ true d {} = .ok () ↔ s.writes n := by
    have typed : s.typeOf Tags.refSeqNum = some s.numberType := by cases s <;> rfl
    exact ships.check_number (by decide) (by decide) (fun _ => always.1) typed (seqNum_lt read)
  rw [forall₂_congr numbers, ships.check_strings (by decide) fun _ => always.2, text_iff]
  cases modern : s.modern with
  | false =>
    have old : s ≠ .fix43 := by
      rintro rfl
      cases modern
    simp [old]
  | true =>
    have typed : ∀ t ∈ [Tags.refTagId, Tags.sessionRejectReason], s.typeOf t = some .int := by
      cases s <;> first | decide | cases modern
    have type : (∀ mt, offender.msgType = .ok mt → dd.checkField ⟨Tags.refMsgType, mt⟩ true d {} = .ok ()) ↔
        offender.msgType ≠ .ok [] := by
      have string : s.typeOf Tags.refMsgType = some .string := by
        cases s <;> first | rfl | cases modern
      have listed : Tags.refMsgType ∈ d.tags := by
        refine allowed _ ?_
        rcases answer_type s a with type | type <;> rw [type] <;>
          cases s <;> first | decide | cases modern
      simp only [ships.check_string (by decide) (by decide) (fun _ => listed) string]
      exact ⟨fun all same => all [] same rfl, fun other mt same empty => other (empty ▸ same)⟩
    rw [type, ← h.cited_iff modern]
    refine and_congr Iff.rfl (and_congr Iff.rfl ?_)
    cases a with
    | unsupported =>
      have kind : msgType s .unsupported = MsgType.businessMessageReject := by simp [msgType, modern]
      rw [kind] at ships allowed
      have listed := allowed Tags.businessRejectReason (by cases s <;> decide)
      simp [refTag, cited, business, ships.check_business listed]
    | reject rej =>
      have listed : ∀ t ∈ [Tags.refTagId, Tags.sessionRejectReason], t ∈ d.tags := by
        intro t mem
        refine allowed t ?_
        have all : ∀ t ∈ [Tags.refTagId, Tags.sessionRejectReason], t ∈ s.answerAllowed MsgType.reject := by
          cases s <;> first | decide | cases modern
        exact all t mem
      have tags (t) (cite : refTag (.reject rej) = some t) :
          dd.checkField ⟨Tags.refTagId, encode t⟩ true d {} = .ok () :=
        ships.check_int (by decide) (by decide) (fun _ => listed _ (by simp)) (typed _ (by simp))
          (h.range.2.2 t cite)
      have reasons (r) := ships.check_reason modern (listed Tags.sessionRejectReason (by simp)) r
      simp only [business, reasons]
      exact ⟨fun passes => ⟨fun _ => (passes trivial).2.1, (passes trivial).2.2.1⟩,
        fun fits _ => ⟨tags, fits.1 trivial, fits.2, by simp⟩⟩

/-- The body has the fields its type requires. -/
lemma required_iff (h : Answers s x now offender a) {d : MessageDef}
    (required : ∀ t, t ∈ d.required ↔ t ∈ Spec.answerRequired (a.msgType s)) :
    (∀ t ∈ d.required, (a.sent x now offender).body.contains t = true) ↔
      (a.msgType s = MsgType.reject → ∃ n, offender.seqNum = .ok n) ∧
      (a.msgType s = MsgType.businessMessageReject → ∃ mt, offender.msgType = .ok mt) := by
  have numbered : (a.sent x now offender).body.contains Tags.refSeqNum = true ↔
      ∃ n, offender.seqNum = .ok n := by
    rw [h.contains_iff, forall_mem_bodyFields (P := fun f => f.tag ≠ Tags.refSeqNum)]
    simp
  have other : MsgType.businessMessageReject ≠ MsgType.reject := by decide
  simp only [required]
  cases a with
  | reject rej => simp [msgType, Spec.answerRequired, numbered, other.symm]
  | unsupported =>
    cases modern : s.modern with
    | false => simp [msgType, modern, Spec.answerRequired, numbered, other.symm]
    | true =>
      have typed : (sent x now offender unsupported).body.contains Tags.refMsgType = true ↔
          ∃ mt, offender.msgType = .ok mt := by
        rw [h.contains_iff, forall_mem_bodyFields (P := fun f => f.tag ≠ Tags.refMsgType)]
        simp [modern]
      have reasoned : (sent x now offender unsupported).body.contains Tags.businessRejectReason = true := by
        rw [h.contains_iff, forall_mem_bodyFields (P := fun f => f.tag ≠ Tags.businessRejectReason)]
        simp [modern, business]
      simp [msgType, modern, Spec.answerRequired, typed, reasoned, other]

/-- The header has the fields every message requires. -/
lemma header_required (x : Session σ) (now) (offender : Message) (a : Refusal) (mt : Bytes) :
    ∀ t ∈ [Tags.beginString, Tags.bodyLength, Tags.msgType, Tags.senderCompId, Tags.targetCompId,
      Tags.msgSeqNum, Tags.sendingTime], ((a.sent x now offender).received mt).header.contains t = true := by
  obtain ⟨-, sender, target, number, time⟩ := getRaw_sent x now offender a
  have there {t value} (read : (a.sent x now offender).header.getRaw t = some value)
      (other : t ∉ [Tags.beginString, Tags.bodyLength, Tags.msgType]) :
      ((a.sent x now offender).received mt).header.contains t = true := by
    have mem := mem_sortedHeader.mpr ⟨mem_of_getRaw read, other⟩
    refine List.any_eq_true.mpr ⟨⟨t, value⟩, ?_, by simp⟩
    simp [received, serialHeader, mem]
  have front : ∀ t ∈ [Tags.beginString, Tags.bodyLength, Tags.msgType],
      ((a.sent x now offender).received mt).header.contains t = true := by
    simp [FieldMap.contains, received, serialHeader]
  simp only [List.forall_mem_cons] at front ⊢
  exact ⟨front.1, front.2.1, front.2.2.1, there sender (by decide), there target (by decide),
    there number (by decide), there time (by decide), by simp⟩

/-- Validation accepts the answer that arrives. -/
lemma validate_iff (h : Answers s x now offender a) (ships : dd.ShipsAnswers s (a.msgType s)) :
    dd.validate ((a.sent x now offender).received (a.msgType s)) {} = .ok () ↔
      HeaderFits s x ∧ BodyFits s offender a := by
  obtain ⟨d, found, flat, required, allowed⟩ := ships.message
  have type : ((a.sent x now offender).received (a.msgType s)).msgType = .ok (a.msgType s) := by
    have valid : utf8Valid (a.msgType s) = true := by
      rcases answer_type s a with type | type <;> rw [type] <;> decide
    have read : ((a.sent x now offender).received (a.msgType s)).header.getRaw Tags.msgType =
        some (a.msgType s) := rfl
    simp [Message.msgType, FieldMap.get, read, decodeString, valid]
  have notXml : a.msgType s ≠ MsgType.xmlNonFix := by
    rcases answer_type s a with type | type <;> rw [type] <;> decide
  have nodup : ((a.sent x now offender).body.fields.map (·.tag)).Nodup := by
    have perm := (body_sent now offender a h.version).map (·.tag)
    have once : bodyTags.Nodup := by decide
    exact perm.nodup_iff.mpr (once.sublist (sublist_bodyTags ..))
  have trailer : (a.sent x now offender).serialTrailer =
      [⟨Tags.checkSum, padded 3 (checksum (a.sent x now offender).prefixBytes)⟩] := by
    obtain ⟨raw, v, parsed⟩ := h.parsed
    simp [serialTrailer, sortedTrailer, (plain_sent h.version parsed h.plain).trailer]
  have ends : ∀ f ∈ (a.sent x now offender).serialTrailer, dd.checkField f false d {} = .ok () := by
    rw [trailer, List.forall_mem_singleton]
    exact (ships.check_strings (by decide) (by simp)).mpr (padded_ne_nil _ _)
  have header := fun t mem => header_required x now offender a (a.msgType s) t ((ships.header t).mp mem)
  have closing (t) (mem : t ∈ dd.trailerRequired) :
      ((a.sent x now offender).received (a.msgType s)).trailer.contains t = true := by
    rw [(ships.trailer t).mp mem]
    simp [FieldMap.contains, received, trailer]
  rw [DataDictionary.validate_flat type notXml found flat rfl nodup]
  have heads := h.header_iff ships d
  have bodies := h.allowed_iff ships allowed
  have lacks := h.required_iff required
  constructor
  · rintro ⟨-, -, complete, passes, body, -⟩
    obtain ⟨numbered, typed⟩ := lacks.mp complete
    obtain ⟨number, text, type, reason⟩ := bodies.mp body
    exact ⟨heads.mp passes, text, numbered, number, typed, type, reason⟩
  · rintro ⟨fits, text, numbered, number, typed, type, reason⟩
    exact ⟨header, closing, lacks.mpr ⟨numbered, typed⟩, heads.mpr fits,
      bodies.mpr ⟨number, text, type, reason⟩, ends⟩

end Answers

variable {dd : DataDictionary}

/-- The answer of a session is valid exactly when its header and its body fit. -/
theorem answer_valid_iff (h : Answers s x now offender a) (ships : dd.ShipsAnswers s (a.msgType s)) :
    dd.Accepts (a.sent x now offender) ↔ HeaderFits s x ∧ BodyFits s offender a := by
  obtain ⟨mt, type, serial⟩ := h.sendable.serialFields_eq
  obtain rfl : mt = a.msgType s := Option.some.inj (type.symm.trans (type_sent now offender a h.version))
  have parsed := h.sendable.parse_eq h.fits serial
  rw [← h.validate_iff ships]
  constructor
  · rintro ⟨m', accepted, valid⟩
    rw [parsed] at accepted
    cases accepted
    exact valid
  · exact fun valid => ⟨_, parsed, valid⟩

/-! ## What is sent -/

variable {ω : Type} [Application ω] [Runtime ω]

/-- What a session does with a message that is not accepted. -/
def answer (offender : Message) : Refusal → ExceptT Error (SessionM σ ω) Unit
  | reject rej => Session.sendReject offender rej
  | unsupported => Session.sendBusinessReject offender

/-- The answer is what a session sends then, under its own settings. -/
lemma answer_sends {s0 : Sys σ ω} :
    ⦃fun s => ⌜s = s0⌝⦄ a.answer offender
    ⦃post⟨fun _ t => ⌜∃ s1, s1.session.cfg = s0.session.cfg ∧
      SentOn (a.message s1.session.cfg.sessionId offender) s1 t⌝, fun _ _ => ⌜True⌝⟩⦄ := by
  cases a with
  | reject rej =>
    mvcgen [answer, Session.sendReject, Session.incrNextTargetSeqNum, Session.storeOp, -sendMessage_spec,
      sendMessage_outcome]
    all_goals subst_vars
    all_goals
      intro sent _
      refine ⟨_, ?_, sent⟩
      rfl
  | unsupported =>
    mvcgen [answer, Session.sendBusinessReject, Session.incrNextTargetSeqNum, Session.storeOp,
      -sendMessage_spec, sendMessage_outcome]
    all_goals subst_vars
    all_goals
      intro sent _
      refine ⟨_, ?_, sent⟩
      rfl

end Sent

end Refusal

namespace Script

/-- Orders, which may be empty, and the messages that answer what is not accepted, in FIX.4.4. -/
def answersDictionary : DataDictionary where
  beginString := ascii "FIX.4.4"
  fieldsByTag := (Tags.businessRejectReason :: Spec.answerTags).map fun t => (t, {
    tag := t
    fieldType := if t = Tags.businessRejectReason then .int else (Spec.fix44.typeOf t).getD .string
    values :=
      if t = Tags.msgType then [ascii "3", ascii "D", ascii "j"]
      else if t = Tags.sessionRejectReason then ((List.range 18) ++ [99]).map dec
      else if t = Tags.businessRejectReason then (List.range 8).map dec
      else [] })
  headerTags := Spec.fix44.headerTags
  headerRequired := [Tags.beginString, Tags.bodyLength, Tags.msgType, Tags.senderCompId, Tags.targetCompId,
    Tags.msgSeqNum, Tags.sendingTime]
  trailerTags := Spec.trailerTags
  trailerRequired := [Tags.checkSum]
  messages := [(ascii "D", {}),
    (MsgType.reject, {
      tags := [Tags.refSeqNum, Tags.refTagId, Tags.refMsgType, Tags.sessionRejectReason, Tags.text]
      required := [Tags.refSeqNum] }),
    (MsgType.businessMessageReject, {
      tags := [Tags.refSeqNum, Tags.refMsgType, Tags.businessRejectReason, Tags.text]
      required := [Tags.refMsgType, Tags.businessRejectReason] })]

/-- It says what the dictionary in `spec/` says of answers. -/
lemma answersDictionary_ships (mt : Bytes)
    (answer : mt = MsgType.reject ∨ mt = MsgType.businessMessageReject) :
    answersDictionary.ShipsAnswers .fix44 mt := by
  have values : ∀ t ∈ Spec.answerTags, t ≠ Tags.msgType → t ≠ Tags.sessionRejectReason →
      (answersDictionary.fieldsByTag.lookup t).map (·.values) = some [] := by decide
  constructor
  case types => decide
  case free =>
    intro t known other other' f found
    have free := values t known other other'
    rw [found] at free
    exact Option.some.inj free
  case kind =>
    intro f found
    have kinds : (answersDictionary.fieldsByTag.lookup Tags.msgType).map (·.values) =
      some [ascii "3", ascii "D", ascii "j"] := by decide
    rw [found] at kinds
    rw [show f.values = _ from Option.some.inj kinds]
    rcases answer with rfl | rfl
    · decide
    · decide
  case reasons =>
    intro f found r
    have codes : (answersDictionary.fieldsByTag.lookup Tags.sessionRejectReason).map (·.values) =
      some (((List.range 18) ++ [99]).map dec) := by decide
    rw [found] at codes
    rw [show f.values = _ from Option.some.inj codes]
    cases r <;> decide
  case business => exact fun _ => ⟨_, rfl, rfl, by decide⟩
  case header => exact fun t => Iff.rfl
  case trailer => simp [answersDictionary]
  case message =>
    rcases answer with rfl | rfl
    · exact ⟨_, rfl, rfl, fun t => Iff.rfl, by decide⟩
    · exact ⟨_, rfl, rfl, fun t => Iff.rfl, by decide⟩

/-- An acceptor that answers. -/
def answerer : Session MemoryStore := (play acceptor {} []).session

/-- An order, with or without a number. -/
def numberedOrder (number : List TagValue) : Message where
  header := ⟨[⟨Tags.beginString, ascii "FIX.4.4"⟩, ⟨Tags.msgType, ascii "D"⟩, ⟨Tags.senderCompId, ascii "T"⟩,
    ⟨Tags.targetCompId, ascii "S"⟩, ⟨Tags.sendingTime, ascii "19700101-00:00:00"⟩] ++ number⟩

/-- The order as it arrives. -/
def arrived (number : List TagValue) : Message := (numberedOrder number).received (ascii "D")

example : (arrived []).seqNum.toOption = none ∧ (arrived [⟨Tags.msgSeqNum, ascii "2"⟩]).seqNum.toOption = some 2 := by
  decide +kernel

/-- A reject without a tag for an order with a number. -/
def unknownKind : Refusal := .reject (.new .invalidMsgType)

/-- It can be answered. -/
lemma answers_arrived : letI := epochDay
    Refusal.Answers .fix44 answerer 0 (arrived [⟨Tags.msgSeqNum, ascii "2"⟩]) unknownKind := by
  let _ := epochDay
  constructor
  case parsed => exact ⟨(numberedOrder [⟨Tags.msgSeqNum, ascii "2"⟩]).toBytes, true, by decide +kernel⟩
  case begins => rfl
  case plain => exact ⟨by decide +kernel, by decide +kernel, by decide +kernel⟩
  case time =>
    intro tag
    rfl
  case range =>
    refine ⟨by decide +kernel, by decide +kernel, ?_⟩
    simp [Refusal.refTag, unknownKind, RejectError.new]
  case fits => decide +kernel

/-- The answer to an order with a number is sent, and it is valid. -/
theorem answer_valid_iff_arrived : letI := epochDay
    (⦃fun s => ⌜s = play acceptor {} []⌝⦄
      unknownKind.answer (arrived [⟨Tags.msgSeqNum, ascii "2"⟩])
      ⦃post⟨fun _ t => ⌜∃ s, s.session.cfg = acceptor ∧
        SentOn (unknownKind.message s.session.cfg.sessionId (arrived [⟨Tags.msgSeqNum, ascii "2"⟩])) s t⌝,
        fun _ _ => ⌜True⌝⟩⦄) ∧
    answersDictionary.Accepts (unknownKind.sent answerer 0 (arrived [⟨Tags.msgSeqNum, ascii "2"⟩])) := by
  let := epochDay
  refine ⟨Refusal.answer_sends, ?_⟩
  apply (Refusal.answer_valid_iff answers_arrived (answersDictionary_ships _ (.inl rfl))).mpr
  constructor
  · exact ⟨by decide, by decide, nofun, .inr (by decide +kernel), fun on => absurd on (by decide)⟩
  · have numbered : (arrived [⟨Tags.msgSeqNum, ascii "2"⟩]).seqNum = .ok 2 := by decide +kernel
    refine ⟨?_, fun _ => ⟨2, numbered⟩, ?_, fun business => absurd business (by decide), ?_, nofun⟩
    · rintro rej ⟨⟩
      decide
    · intro n read
      cases numbered.symm.trans read
      exact .inr (by decide)
    · exact fun _ => by decide +kernel

/-- A session rejects an order for the number it lacks, and its Reject lacks RefSeqNum. -/
theorem not_accepted_numberless : letI := epochDay
    Message.parse (numberedOrder []).toBytes true = .ok (arrived []) ∧
      answersDictionary.validate (arrived []) {} = .error (.withTag .requiredTagMissing Tags.msgSeqNum) ∧
      ¬ answersDictionary.Accepts
        ((Refusal.reject (.withTag .requiredTagMissing Tags.msgSeqNum)).sent answerer 0 (arrived [])) := by
  let _ := epochDay
  refine ⟨by decide +kernel, by decide +kernel, ?_⟩
  rintro ⟨m, parsed, valid⟩
  have own : Message.parse ((Refusal.reject (.withTag .requiredTagMissing Tags.msgSeqNum)).sent answerer 0
      (arrived [])).toBytes true = .ok (((Refusal.reject (.withTag .requiredTagMissing
        Tags.msgSeqNum)).sent answerer 0 (arrived [])).received MsgType.reject) := by decide +kernel
  rw [own] at parsed
  cases parsed
  revert valid
  decide +kernel

end Script

end QuickFix
