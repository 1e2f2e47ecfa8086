import QuickFix.Steps.Outbound
import QuickFix.Session.Script

/-!
# Numbers as they are written

The integer types share one conversion to field bytes, through `i64`, and each has a conversion of its
own back. A number is read back exactly when it is below `2 ^ 63`, which is no restriction but for the
unsigned 64-bit types; sequence numbers are of those (`written_readable`).
-/

namespace QuickFix

set_option linter.unusedSectionVars false

/-! ## The integer types -/

/-- The integer types with conversions to and from field bytes. -/
inductive IntType where
  | i32 | i64 | u32 | u64 | usize
  deriving DecidableEq

namespace IntType

/-- The number of bits. -/
def bits : IntType → Nat
  | i32 | u32 => 32
  | i64 | u64 | usize => 64

/-- Whether there is a sign. -/
def isSigned : IntType → Bool
  | i32 | i64 => true
  | u32 | u64 | usize => false

/-- The numbers of a type. -/
def Holds (t : IntType) (v : Int) : Prop :=
  if t.isSigned then -2 ^ (t.bits - 1) ≤ v ∧ v < 2 ^ (t.bits - 1) else 0 ≤ v ∧ v < 2 ^ t.bits

instance (t : IntType) (v : Int) : Decidable (t.Holds v) := by
  unfold Holds
  infer_instance

/-- The field bytes of a number: it is cast to `i64` and printed. -/
def encode (v : Int) : Bytes := itoa (BitVec.ofInt 64 v).toInt

/-- `str::parse` at the type. -/
def parse (t : IntType) (bs : Bytes) : Option Int :=
  if t.isSigned then parseSigned t.bits bs else (parseUnsigned (2 ^ t.bits) bs).map (↑·)

/-- The number of field bytes. -/
def decode (t : IntType) (tag : Tag) (bs : Bytes) : Except ConversionError Int :=
  match t.parse bs with
  | some v => .ok v
  | none => .error (invalid tag bs)

/-- The numbers below `2 ^ 63` are printed as they are. -/
lemma encode_small {v : Int} (lo : -2 ^ 63 ≤ v) (hi : v < 2 ^ 63) : encode v = itoa v := by
  rw [encode, BitVec.toInt_ofInt, Int.bmod_eq_of_le_mul_two (by omega) (by omega)]

/-- From `2 ^ 63` on the numbers are printed with a minus sign. -/
lemma encode_large {v : Int} (lo : 2 ^ 63 ≤ v) (hi : v < 2 ^ 64) :
    encode v = 45 :: dec (2 ^ 64 - v.toNat) := by
  have wrapped : (BitVec.ofInt 64 v).toInt = v - 2 ^ 64 := by
    rw [BitVec.toInt_ofInt, Int.bmod_def]
    omega
  have abs : (v - 2 ^ 64).natAbs = 2 ^ 64 - v.toNat := by omega
  rw [encode, wrapped, itoa, if_pos (by omega), abs]

/-- Unsigned types do not read a minus sign. -/
lemma parse_minus {t : IntType} (unsigned : t.isSigned = false) (bs) : t.parse (45 :: bs) = none := by
  simp [parse, unsigned, parseUnsigned, undec, isDigit]

/-- The numbers of a type that are below `2 ^ 63` are read back. -/
lemma parse_itoa {t : IntType} {v : Int} (holds : t.Holds v) (small : v < 2 ^ 63) :
    t.parse (itoa v) = some v := by
  cases signed : t.isSigned with
  | true =>
    rw [Holds, if_pos signed] at holds
    rw [parse, if_pos signed]
    exact parseSigned_itoa (by exact_mod_cast holds.1) (by exact_mod_cast holds.2)
  | false =>
    rw [Holds, if_neg (by simp [signed])] at holds
    obtain ⟨n, rfl⟩ := Int.eq_ofNat_of_zero_le holds.1
    have fits : n < 2 ^ t.bits := by exact_mod_cast holds.2
    have plain : itoa (n : Int) = dec n := by simp [itoa]
    rw [parse, if_neg (by simp [signed]), plain, parseUnsigned_dec fits]
    rfl

/-- A signed number is below `2 ^ 63`. -/
lemma small_of_signed {t : IntType} {v : Int} (holds : t.Holds v) (signed : t.isSigned = true) :
    -2 ^ 63 ≤ v ∧ v < 2 ^ 63 := by
  cases t <;> simp_all [Holds, isSigned, bits]
  omega

/-- No number is below `-2 ^ 63`, and none is `2 ^ 64` or more. -/
lemma Holds.bounds {t : IntType} {v : Int} (holds : t.Holds v) : -2 ^ 63 ≤ v ∧ v < 2 ^ 64 := by
  cases t <;> simp_all [Holds, isSigned, bits] <;> omega

/-- A number of a type is read back exactly when it is below `2 ^ 63`. -/
lemma decode_encode_iff {t : IntType} {v : Int} (tag) (holds : t.Holds v) :
    t.decode tag (encode v) = .ok v ↔ v < 2 ^ 63 := by
  constructor
  case mp =>
    intro read
    by_contra large
    have lo : 2 ^ 63 ≤ v := not_lt.mp large
    have unsigned : t.isSigned = false := by
      by_contra signed
      exact large (small_of_signed holds (by simpa using signed)).2
    rw [encode_large lo holds.bounds.2, decode, parse_minus unsigned] at read
    cases read
  case mpr =>
    intro small
    rw [encode_small holds.bounds.1 small, decode, parse_itoa holds small]

end IntType

/-- Field values of the session's own are encoded so. -/
lemma IntType.encode_natCast (n : Nat) : IntType.encode n = FixEncode.encode n := by
  have cast : (BitVec.ofInt 64 (n : Int)).toInt = asI64 n := by
    rw [BitVec.toInt_ofInt, Int.bmod_def, asI64]
    omega
  rw [IntType.encode, cast]
  rfl

/-! ## Sequence numbers in messages -/

section Messages

variable {σ ω : Type} [Chrono] [MessageStore σ] [Application ω] [Runtime ω]

open Session

/-- Setting a body field changes the reading of that field only. -/
lemma Message.getRaw_set {α} [FixEncode α] (m : Message) (tag t : Tag) (v : α) :
    (m.set tag v).body.getRaw t = if t = tag then some (encode v) else m.body.getRaw t := by
  simp [Message.set]

/-- Setting a body field to another value, if there is one, leaves the reading. -/
lemma Message.getRaw_setOption {α} [FixEncode α] {m : Message} {tag t : Tag} {v : Option α} (ne : t ≠ tag) :
    (m.setOption tag v).body.getRaw t = m.body.getRaw t := by
  unfold Message.setOption
  split
  case h_1 => simp [Message.getRaw_set, ne]
  case h_2 => rfl

/-- RefMsgType is the only field that `setRefMsgType` sets. -/
lemma getRaw_setRefMsgType {offender reject : Message} {t : Tag} (ne : t ≠ Tags.refMsgType) :
    (setRefMsgType offender reject).body.getRaw t = reject.body.getRaw t := by
  unfold setRefMsgType
  split
  case h_1 => simp [Message.getRaw_set, ne]
  case h_2 => rfl

/-- RefSeqNum is the number of the offender. -/
lemma getRaw_setRefSeqNum {offender : Message} {n} (number : offender.seqNum = .ok n) (reject) :
    (setRefSeqNum offender reject).body.getRaw Tags.refSeqNum = some (encode n) := by
  rw [setRefSeqNum, number]
  simp [Message.getRaw_set]

/-- The fields in which a session writes a sequence number. -/
inductive NumberField (s : Session σ) : FieldMap → Tag → Nat → Prop
  | msgSeqNum (now m) :
      NumberField s (s.filledHeader now m).header Tags.msgSeqNum (MessageStore.nextSenderSeqNum s.store)
  | gapFillSeqNum (m b newSeq now) :
      NumberField s (gapFillMessage m b newSeq now).header Tags.msgSeqNum b
  | newSeqNo (m b newSeq now) :
      NumberField s (gapFillMessage m b newSeq now).body Tags.newSeqNo newSeq
  | beginSeqNo (b e) : NumberField s (resendRequestMessage b e).body Tags.beginSeqNo b
  | refSeqNum {offender : Message} {n} (number : offender.seqNum = .ok n) (rej) :
      NumberField s (rejectMessage s.cfg.sessionId offender rej).body Tags.refSeqNum n
  | businessRefSeqNum {offender : Message} {n} (number : offender.seqNum = .ok n) :
      NumberField s (businessRejectMessage s.cfg.sessionId offender).body Tags.refSeqNum n
  | nextExpected (announces : s.sendNextExpected = true) (reset n) :
      NumberField s (s.logonMessage reset n).body Tags.nextExpectedMsgSeqNum n

/-- A field is read as a number, and has the format of the dictionary's types for it. -/
structure ReadsAs (fields : FieldMap) (tag : Tag) (n : Nat) : Prop where
  decoded : fields.get decodeU64 tag = .ok n
  seqNum : ∀ raw, fields.getRaw tag = some raw →
    DataDictionary.checkFormat { tag := tag, fieldType := .seqNum, values := [] } raw = true
  length : ∀ raw, fields.getRaw tag = some raw →
    DataDictionary.checkFormat { tag := tag, fieldType := .length, values := [] } raw = true

/-- Each of the fields holds its number as it is written. -/
lemma NumberField.raw {s : Session σ} {fields tag n} (h : NumberField s fields tag n) :
    fields.getRaw tag = some (IntType.encode n) := by
  rw [IntType.encode_natCast]
  cases h with
  | msgSeqNum now m => exact msgSeqNum_filledHeader s now m
  | gapFillSeqNum => simp +decide [gapFillMessage, Message.set]
  | newSeqNo => simp +decide [gapFillMessage, Message.getRaw_set]
  | beginSeqNo => simp +decide [resendRequestMessage, Message.getRaw_set]
  | refSeqNum number rej =>
    unfold rejectMessage
    split
    case isTrue =>
      dsimp only
      split <;> simp +decide [Message.getRaw_set, Message.getRaw_setOption, getRaw_setRefMsgType,
        getRaw_setRefSeqNum number]
    case isFalse => simp +decide [Message.getRaw_set, getRaw_setRefSeqNum number]
  | businessRefSeqNum number =>
    unfold businessRejectMessage
    split <;> simp +decide [Message.getRaw_set, getRaw_setRefMsgType, getRaw_setRefSeqNum number]
  | nextExpected announces =>
    simp [logonMessage, announces, Message.getRaw_set]

/-- A sequence number in one of the fields is read back, and has the format of the dictionary's types
for it, exactly when it is below `2 ^ 63`. -/
lemma NumberField.readsAs_iff {s : Session σ} {fields tag n} (h : NumberField s fields tag n)
    (bound : n < 2 ^ 64) : ReadsAs fields tag n ↔ n < 2 ^ 63 := by
  have raw := h.raw
  rw [IntType.encode_natCast] at raw
  constructor
  case mp =>
    intro reads
    by_contra large
    obtain ⟨e, failed⟩ : ∃ e, decodeU64 tag (encode n) = .error e :=
      decodeU64_encode_neg (not_lt.mp large) bound
    have decoded := reads.decoded
    simp only [FieldMap.get, raw, failed] at decoded
    cases decoded
  case mpr =>
    intro small
    have read : decodeU64 tag (FixEncode.encode n) = .ok n := decodeU64_encode small
    refine ⟨?_, fun r found => ?_, fun r found => ?_⟩
    · simp only [FieldMap.get, raw, read]
    all_goals
      cases Option.some.inj (found.symm.trans raw)
      simp only [DataDictionary.checkFormat, read, DataDictionary.isOk]

/-- A number of any of the types is read back exactly when it is below `2 ^ 63`, and so is a sequence
number in the messages of a session, which the dictionary's types for it accept then. -/
theorem written_readable :
    (∀ (t : IntType) (tag : Tag) (v : Int), t.Holds v →
      (t.decode tag (IntType.encode v) = .ok v ↔ v < 2 ^ 63)) ∧
    ∀ (s : Session σ) (fields : FieldMap) (tag : Tag) (n : Nat), NumberField s fields tag n →
      n < 2 ^ 64 → (ReadsAs fields tag n ↔ n < 2 ^ 63) :=
  ⟨fun _ tag _ holds => IntType.decode_encode_iff tag holds, fun _ _ _ _ field => field.readsAs_iff⟩

end Messages

/-- The last number below `2 ^ 63` is read back, at `u64` and from a ResendRequest. -/
theorem written_readable_last :
    letI := epochDay
    IntType.u64.decode Tags.msgSeqNum (IntType.encode (2 ^ 63 - 1)) = .ok (2 ^ 63 - 1) ∧
      ReadsAs (Session.resendRequestMessage (2 ^ 63 - 1) 0).body Tags.beginSeqNo (2 ^ 63 - 1) := by
  let := epochDay
  have both := @written_readable MemoryStore _ _
  let s : Session MemoryStore := .spawn Script.acceptor none none { creationTime := 0 } 0
  exact ⟨(both.1 .u64 Tags.msgSeqNum (2 ^ 63 - 1) (by decide)).mpr (by decide),
    (both.2 s _ Tags.beginSeqNo (2 ^ 63 - 1) (.beginSeqNo _ _) (by decide)).mpr (by decide)⟩

/-- The number `2 ^ 63` is written with a minus sign, and not read back at `u64`. -/
theorem not_readable_signBit :
    IntType.u64.Holds (2 ^ 63) ∧ IntType.encode (2 ^ 63) = ascii "-9223372036854775808" ∧
      IntType.u64.decode Tags.newSeqNo (IntType.encode (2 ^ 63)) ≠ .ok (2 ^ 63) := by
  decide +kernel

end QuickFix
