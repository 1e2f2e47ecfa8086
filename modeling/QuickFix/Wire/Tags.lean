import QuickFix.Lib.Bytes

/-!
# Tags

Model of `src/tags.rs`: the tag numbers the session layer uses, the message types, and the
classification of tags into header, trailer and length-prefixed data.
-/

namespace QuickFix

/-- A FIX tag, an `i32` in the source. -/
abbrev Tag := Int

/-- The field delimiter. -/
abbrev soh : UInt8 := 1

namespace Tags

abbrev beginSeqNo : Tag := 7
abbrev beginString : Tag := 8
abbrev bodyLength : Tag := 9
abbrev checkSum : Tag := 10
abbrev endSeqNo : Tag := 16
abbrev msgSeqNum : Tag := 34
abbrev msgType : Tag := 35
abbrev newSeqNo : Tag := 36
abbrev possDupFlag : Tag := 43
abbrev refSeqNum : Tag := 45
abbrev senderCompId : Tag := 49
abbrev senderSubId : Tag := 50
abbrev sendingTime : Tag := 52
abbrev targetCompId : Tag := 56
abbrev targetSubId : Tag := 57
abbrev text : Tag := 58
abbrev signature : Tag := 89
abbrev secureDataLen : Tag := 90
abbrev secureData : Tag := 91
abbrev signatureLength : Tag := 93
abbrev possResend : Tag := 97
abbrev encryptMethod : Tag := 98
abbrev heartBtInt : Tag := 108
abbrev testReqId : Tag := 112
abbrev onBehalfOfCompId : Tag := 115
abbrev onBehalfOfSubId : Tag := 116
abbrev origSendingTime : Tag := 122
abbrev gapFillFlag : Tag := 123
abbrev deliverToCompId : Tag := 128
abbrev deliverToSubId : Tag := 129
abbrev resetSeqNumFlag : Tag := 141
abbrev senderLocationId : Tag := 142
abbrev targetLocationId : Tag := 143
abbrev onBehalfOfLocationId : Tag := 144
abbrev deliverToLocationId : Tag := 145
abbrev xmlDataLen : Tag := 212
abbrev xmlData : Tag := 213
abbrev messageEncoding : Tag := 347
abbrev lastMsgSeqNumProcessed : Tag := 369
abbrev refTagId : Tag := 371
abbrev refMsgType : Tag := 372
abbrev sessionRejectReason : Tag := 373
abbrev businessRejectReason : Tag := 380
abbrev noHops : Tag := 627
abbrev hopCompId : Tag := 628
abbrev hopSendingTime : Tag := 629
abbrev hopRefId : Tag := 630
abbrev nextExpectedMsgSeqNum : Tag := 789
abbrev applVerId : Tag := 1128
abbrev cstmApplVerId : Tag := 1129
abbrev defaultApplVerId : Tag := 1137

/-- The tags of the standard header. -/
def headerTags : List Tag :=
  [beginString, bodyLength, msgType, senderCompId, targetCompId, onBehalfOfCompId, deliverToCompId,
    secureDataLen, secureData, msgSeqNum, senderSubId, senderLocationId, targetSubId,
    targetLocationId, onBehalfOfSubId, onBehalfOfLocationId, deliverToSubId, deliverToLocationId,
    possDupFlag, possResend, sendingTime, origSendingTime, xmlDataLen, xmlData, messageEncoding,
    lastMsgSeqNumProcessed, noHops, hopCompId, hopSendingTime, hopRefId, applVerId, cstmApplVerId]

/-- Tags belonging to the standard message header. -/
def isHeaderTag (tag : Tag) : Bool := decide (tag ∈ headerTags)

/-- Tags belonging to the standard message trailer. -/
def isTrailerTag (tag : Tag) : Bool := decide (tag ∈ [signatureLength, signature, checkSum])

/-- All other tags belong to the body. -/
def isBodyTag (tag : Tag) : Bool := !isHeaderTag tag && !isTrailerTag tag

/-- No tag belongs to the header and to the trailer. -/
lemma not_isTrailerTag {tag} (h : isHeaderTag tag = true) : isTrailerTag tag = false := by
  have apart : ∀ t ∈ headerTags, isTrailerTag t = false := by decide
  exact apart tag (of_decide_eq_true h)

/-- A tag belongs to one section. -/
lemma of_isHeaderTag {tag} (h : isHeaderTag tag = true) :
    isBodyTag tag = false ∧ isTrailerTag tag = false := by
  refine ⟨?_, not_isTrailerTag h⟩
  rw [isBodyTag, h, Bool.not_true, Bool.false_and]

/-- A trailer tag is no other. -/
lemma of_isTrailerTag {tag} (h : isTrailerTag tag = true) :
    isHeaderTag tag = false ∧ isBodyTag tag = false := by
  cases header : isHeaderTag tag with
  | true => rw [not_isTrailerTag header] at h; cases h
  | false => rw [isBodyTag, h, Bool.not_true, Bool.and_false]; exact ⟨rfl, rfl⟩

/-- A body tag is no other. -/
lemma of_isBodyTag {tag} (h : isBodyTag tag = true) :
    isHeaderTag tag = false ∧ isTrailerTag tag = false := by
  rw [isBodyTag, Bool.and_eq_true, Bool.not_eq_true', Bool.not_eq_true'] at h
  exact h

/-- The standard length-prefixed data fields: a Length tag and the data tag that follows it. -/
def lengthDataTags : List (Tag × Tag) :=
  [(90, 91), (93, 89), (95, 96), (212, 213), (348, 349), (350, 351), (352, 353), (354, 355),
    (356, 357), (358, 359), (360, 361), (362, 363), (364, 365), (445, 446), (618, 619), (621, 622)]

/-- The data tag whose value a Length tag declares the length of. -/
def dataTagForLengthTag (lenTag : Tag) : Option Tag := lengthDataTags.lookup lenTag

/-- What the table pairs is listed. -/
lemma mem_lengthDataTags {t d : Tag} (table : dataTagForLengthTag t = some d) : (t, d) ∈ lengthDataTags := by
  obtain ⟨l, r, pairs, -⟩ := List.lookup_eq_some_iff.mp table
  rw [pairs]
  simp

/-- A tag that is not listed holds no data. -/
lemma dataTagForLengthTag_ne {tag : Tag} (other : ∀ p ∈ lengthDataTags, p.2 ≠ tag) (t : Tag) :
    dataTagForLengthTag t ≠ some tag := fun table => other _ (mem_lengthDataTags table) rfl

end Tags

/-! ## Message types -/

namespace MsgType

abbrev heartbeat : Bytes := ascii "0"
abbrev testRequest : Bytes := ascii "1"
abbrev resendRequest : Bytes := ascii "2"
abbrev reject : Bytes := ascii "3"
abbrev sequenceReset : Bytes := ascii "4"
abbrev logout : Bytes := ascii "5"
abbrev logon : Bytes := ascii "A"
abbrev businessMessageReject : Bytes := ascii "j"
/-- `XMLnonFIX` counts as administrative. -/
abbrev xmlNonFix : Bytes := ascii "n"

/-- The administrative message types. -/
def adminTypes : List Bytes :=
  [heartbeat, testRequest, resendRequest, reject, sequenceReset, logout, logon, xmlNonFix]

/-- Whether a message type is administrative. -/
def isAdmin (mt : Bytes) : Bool := decide (mt ∈ adminTypes)

end MsgType

end QuickFix
