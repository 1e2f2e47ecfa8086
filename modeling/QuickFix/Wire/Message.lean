import QuickFix.Wire.FieldMap
import Mathlib.Data.List.Sort

/-!
# Messages

Model of `src/message.rs`: the standard header, body and trailer of a message, its parser and its
serializer. The parser walks the bytes field by field (`parseField`, `parseFields`) and routes each
field to a section by its tag class.
-/

namespace QuickFix

/-- A FIX message. -/
structure Message where
  header : FieldMap := {}
  body : FieldMap := {}
  trailer : FieldMap := {}
  /-- The first tag found out of section order during parse, if any. -/
  structureError : Option Tag := none
  deriving DecidableEq

/-- Why a byte string is not a message. -/
inductive ParseError where
  | fieldWithoutEquals
  | invalidTag (bs : Bytes)
  | shortDataField (tag : Tag) (len : Nat)
  | notTerminated (tag : Tag)
  | firstNotBeginString
  | secondNotBodyLength
  | thirdNotMsgType
  | noCheckSum
  | badBodyLength
  | bodyLengthMismatch (declared actual : Nat)
  | badCheckSum
  | checkSumMismatch (declared actual : Nat)
  | fewerFields (n : Nat)
  deriving DecidableEq

namespace Message

/-- A skeleton message with its MsgType set. -/
def withType (mt : Bytes) : Message := { header := ({} : FieldMap).set Tags.msgType mt }

/-- The MsgType as a string. -/
def msgType (m : Message) : Except ConversionError Bytes := m.header.get decodeString Tags.msgType

/-- Whether the MsgType is administrative. -/
def isAdmin (m : Message) : Bool := ((m.header.getRaw Tags.msgType).map MsgType.isAdmin).getD false

/-- The MsgSeqNum. -/
def seqNum (m : Message) : Except ConversionError Nat := m.header.get decodeU64 Tags.msgSeqNum

/-- A sequence number is in the range of `u64`. -/
lemma seqNum_lt {m : Message} {seq} (h : m.seqNum = .ok seq) : seq < 2 ^ 64 := by
  unfold seqNum FieldMap.get at h
  split at h
  case h_1 => cases h
  case h_2 => exact decodeU64_lt h

/-- The PossDupFlag. -/
def possDup (m : Message) : Bool := m.header.getRaw Tags.possDupFlag == some (ascii "Y")

/-- Set a body field. -/
def set {α} [FixEncode α] (m : Message) (tag : Tag) (value : α) : Message :=
  { m with body := m.body.set tag value }

/-- Set a header field. -/
def setHeader {α} [FixEncode α] (m : Message) (tag : Tag) (value : α) : Message :=
  { m with header := m.header.set tag value }

/-- Stamp SendingTime(52). -/
def stampSendingTime [Chrono] (m : Message) (ts : UtcTimestamp) : Message :=
  m.setHeader Tags.sendingTime ts

/-! ## Parsing -/

/-- The section the parser is in. -/
inductive Section where
  | header | body | trailer
  deriving DecidableEq

/-- What the parser carries from field to field. -/
structure ParseState where
  msg : Message := {}
  part : Section := .header
  fieldIndex : Nat := 0
  checksumFieldStart : Option Nat := none
  pendingData : Option (Tag × Nat) := none

/-- The value at the head of the bytes after `tag=`, and what follows its delimiter. A field whose
Length field came directly before it is as long as that declared. -/
def takeValue (pending : Option (Tag × Nat)) (tag : Tag) (bs : Bytes) :
    Except ParseError (Bytes × Bytes) :=
  match pending.filter (·.1 == tag) with
  | some (_, len) =>
    if bs[len]? = some soh then .ok (bs.take len, bs.drop (len + 1))
    else .error (.shortDataField tag len)
  | none =>
    match splitOnce soh bs with
    | some (v, rest) => .ok (v, rest)
    | none => .error (.notTerminated tag)

/-- The data field a Length field announces. -/
def announcedData (tag : Tag) (value : Bytes) : Option (Tag × Nat) := do
  let dataTag ← Tags.dataTagForLengthTag tag
  let len ← parseUnsigned (2 ^ 64) value
  return (dataTag, len)

/-- The leading fields must be 8, 9, 35. -/
def checkLeading (fieldIndex : Nat) (tag : Tag) : Except ParseError Unit :=
  if fieldIndex = 0 ∧ tag ≠ Tags.beginString then .error .firstNotBeginString
  else if fieldIndex = 1 ∧ tag ≠ Tags.bodyLength then .error .secondNotBodyLength
  else if fieldIndex = 2 ∧ tag ≠ Tags.msgType then .error .thirdNotMsgType
  else .ok ()

/-- Puts a field into its section by tag class, recording the first one out of order. -/
def routeField (st : ParseState) (fieldStart : Nat) (tv : TagValue) : ParseState :=
  let m := st.msg
  let out := m.structureError <|> some tv.tag
  if tv.tag = Tags.checkSum then
    { st with
      checksumFieldStart := some fieldStart
      part := .trailer
      msg := { m with trailer := m.trailer.pushTagValue tv } }
  else if Tags.isHeaderTag tv.tag then
    { st with
      msg := { m with
        structureError := if st.part = .header then m.structureError else out
        header := m.header.pushTagValue tv } }
  else if Tags.isTrailerTag tv.tag then
    { st with part := .trailer, msg := { m with trailer := m.trailer.pushTagValue tv } }
  else
    { st with
      part := if st.part = .header then .body else st.part
      msg := { m with
        structureError := if st.part = .trailer then out else m.structureError
        body := m.body.pushTagValue tv } }

/-- Parses the field at the head of the remaining bytes, which start at offset `pos`. -/
def parseField (st : ParseState) (pos : Nat) (bs : Bytes) :
    Except ParseError (ParseState × Nat × Bytes) :=
  match splitOnce 61 bs with
  | none => .error .fieldWithoutEquals
  | some (tagBytes, afterEq) =>
    match parseSigned 32 tagBytes with
    | none => .error (.invalidTag tagBytes)
    | some tag => do
      let (value, rest) ← takeValue st.pendingData tag afterEq
      checkLeading st.fieldIndex tag
      let st := routeField st pos { tag := tag, value := value }
      let st := { st with
        fieldIndex := st.fieldIndex + 1
        pendingData := announcedData tag value }
      .ok (st, pos + (bs.length - rest.length), rest)

/-- Parses fields to the end of the bytes; every field has two bytes at least, so `fuel` at the
number of bytes is enough. -/
def parseFields : Nat → ParseState → Nat → Bytes → Except ParseError ParseState
  | _, st, _, [] => .ok st
  | 0, st, _, _ => .ok st
  | fuel + 1, st, pos, bs => do
    let (st, pos, bs) ← parseField st pos bs
    parseFields fuel st pos bs

/-- Byte offset just past the delimiter of the `n`th field. -/
def fieldEndOf : Bytes → Nat → Option Nat
  | [], _ => none
  | b :: bs, n =>
    match n, decide (b = soh) with
    | 0, true => some 1
    | n + 1, true => (fieldEndOf bs n).map (· + 1)
    | n, false => (fieldEndOf bs n).map (· + 1)

/-- FIX checksum: byte sum mod 256. -/
def checksum (bs : Bytes) : Nat := (bs.map (·.toNat)).sum % 256

/-- The checks of BodyLength(9) and CheckSum(10). -/
def checkLengthChecksum (raw : Bytes) (st : ParseState) : Except ParseError Unit :=
  match st.checksumFieldStart with
  | none => .error .noCheckSum
  | some checksumStart =>
    match st.msg.header.get decodeU64 Tags.bodyLength with
    | .error _ => .error .badBodyLength
    | .ok declaredLen =>
      match fieldEndOf raw 1 with
      | none => .error (.fewerFields 2)
      | some bodyFrom =>
        let actualLen := checksumStart - bodyFrom
        if declaredLen ≠ actualLen then .error (.bodyLengthMismatch declaredLen actualLen)
        else
          match st.msg.trailer.get decodeU32 Tags.checkSum with
          | .error _ => .error .badCheckSum
          | .ok declaredSum =>
            let actualSum := checksum (raw.take checksumStart)
            if declaredSum ≠ actualSum then .error (.checkSumMismatch declaredSum actualSum)
            else .ok ()

/-- Parse a single complete FIX message. -/
def parse (raw : Bytes) (validateLengthChecksum : Bool) : Except ParseError Message := do
  let st ← parseFields raw.length {} 0 raw
  if validateLengthChecksum then checkLengthChecksum raw st
  return st.msg

/-! ## Serialization -/

/-- The header fields after 8, 9 and 35, in ascending tag order. -/
def sortedHeader (m : Message) : List TagValue :=
  (m.header.fields.filter fun f =>
    f.tag ∉ [Tags.beginString, Tags.bodyLength, Tags.msgType]).insertionSort (·.tag ≤ ·.tag)

/-- The trailer fields before CheckSum, in descending tag order. -/
def sortedTrailer (m : Message) : List TagValue :=
  (m.trailer.fields.filter (·.tag ≠ Tags.checkSum)).insertionSort (·.tag ≥ ·.tag)

/-- The fields BodyLength counts, in serialized order. -/
def innerFields (m : Message) : List TagValue :=
  ((m.header.getRaw Tags.msgType).map (TagValue.mk Tags.msgType)).toList ++ m.sortedHeader ++
    m.body.fields ++ m.sortedTrailer

/-- The bytes BodyLength counts. -/
def inner (m : Message) : Bytes := FieldMap.writeTo ⟨m.innerFields⟩

/-- The bytes up to the CheckSum field. -/
def prefixBytes (m : Message) : Bytes :=
  writeTagValue Tags.beginString ((m.header.getRaw Tags.beginString).getD (ascii "FIX.4.4")) ++
    writeTagValue Tags.bodyLength (dec m.inner.length) ++ m.inner

/-- Serialize, computing BodyLength(9) and CheckSum(10). -/
def toBytes (m : Message) : Bytes :=
  m.prefixBytes ++ writeTagValue Tags.checkSum (padded 3 (checksum m.prefixBytes))

end Message

end QuickFix
