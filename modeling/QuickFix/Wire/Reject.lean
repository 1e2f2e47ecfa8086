import QuickFix.Wire.Message

/-!
# Rejects

Model of `src/error.rs`: the session-level reject reasons with their codes and texts, the reject a
failed check asks for, and the errors of the engine.
-/

namespace QuickFix

/-- Session-level reject reasons (tag 373). -/
inductive SessionRejectReason where
  | invalidTagNumber
  | requiredTagMissing
  | tagNotDefinedForThisMessageType
  | undefinedTag
  | tagSpecifiedWithoutAValue
  | valueIsIncorrect
  | incorrectDataFormatForValue
  | decryptionProblem
  | signatureProblem
  | compIDProblem
  | sendingTimeAccuracyProblem
  | invalidMsgType
  | xmlValidationError
  | tagAppearsMoreThanOnce
  | tagSpecifiedOutOfRequiredOrder
  | repeatingGroupFieldsOutOfOrder
  | incorrectNumInGroupCountForRepeatingGroup
  | nonDataValueIncludesFieldDelimiter
  | other
  deriving DecidableEq

namespace SessionRejectReason

/-- The value of SessionRejectReason(373). -/
def code : SessionRejectReason → Nat
  | invalidTagNumber => 0
  | requiredTagMissing => 1
  | tagNotDefinedForThisMessageType => 2
  | undefinedTag => 3
  | tagSpecifiedWithoutAValue => 4
  | valueIsIncorrect => 5
  | incorrectDataFormatForValue => 6
  | decryptionProblem => 7
  | signatureProblem => 8
  | compIDProblem => 9
  | sendingTimeAccuracyProblem => 10
  | invalidMsgType => 11
  | xmlValidationError => 12
  | tagAppearsMoreThanOnce => 13
  | tagSpecifiedOutOfRequiredOrder => 14
  | repeatingGroupFieldsOutOfOrder => 15
  | incorrectNumInGroupCountForRepeatingGroup => 16
  | nonDataValueIncludesFieldDelimiter => 17
  | other => 99

/-- The standard text of a reason. -/
def text : SessionRejectReason → Bytes
  | invalidTagNumber => ascii "Invalid tag number"
  | requiredTagMissing => ascii "Required tag missing"
  | tagNotDefinedForThisMessageType => ascii "Tag not defined for this message type"
  | undefinedTag => ascii "Undefined tag"
  | tagSpecifiedWithoutAValue => ascii "Tag specified without a value"
  | valueIsIncorrect => ascii "Value is incorrect (out of range) for this tag"
  | incorrectDataFormatForValue => ascii "Incorrect data format for value"
  | decryptionProblem => ascii "Decryption problem"
  | signatureProblem => ascii "Signature problem"
  | compIDProblem => ascii "CompID problem"
  | sendingTimeAccuracyProblem => ascii "SendingTime accuracy problem"
  | invalidMsgType => ascii "Invalid MsgType"
  | xmlValidationError => ascii "XML validation error"
  | tagAppearsMoreThanOnce => ascii "Tag appears more than once"
  | tagSpecifiedOutOfRequiredOrder => ascii "Tag specified out of required order"
  | repeatingGroupFieldsOutOfOrder => ascii "Repeating group fields out of order"
  | incorrectNumInGroupCountForRepeatingGroup =>
    ascii "Incorrect NumInGroup count for repeating group"
  | nonDataValueIncludesFieldDelimiter =>
    ascii "Non-data value includes field delimiter (SOH character)"
  | other => ascii "Other"

end SessionRejectReason

/-- A message failed validation and should be answered with a session-level Reject. -/
structure RejectError where
  reason : SessionRejectReason
  refTag : Option Tag := none
  /-- Overrides the standard reason text in Text(58) when set. -/
  text : Option Bytes := none
  deriving DecidableEq

namespace RejectError

/-- A reject for a reason alone. -/
def new (reason : SessionRejectReason) : RejectError := { reason := reason }

/-- A reject that cites a tag. -/
def withTag (reason : SessionRejectReason) (tag : Tag) : RejectError :=
  { reason := reason, refTag := some tag }

/-- A reject with a text of its own. -/
def other (text : Bytes) (refTag : Tag) : RejectError :=
  { reason := .other, refTag := some refTag, text := some text }

/-- The reject as it is displayed. -/
def display (e : RejectError) : Bytes := e.text.getD e.reason.text

end RejectError

/-- The errors a session operation can end with. -/
inductive Error where
  | conversion (e : ConversionError)
  | store (text : Bytes)
  | doNotSend
  /-- The file system reports an error. -/
  | io
  deriving DecidableEq

end QuickFix
