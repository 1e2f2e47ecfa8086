import QuickFix.Wire.Tags

/-!
# Field values

Model of `src/value.rs` and of the conversion errors of `src/error.rs`: how values are written into
and read from field bytes. The two conversions of the calendar library the source calls
(`NaiveDateTime::parse_from_str`, `DateTime::format`) are the parameter `Chrono`.
-/

namespace QuickFix

/-- A `DateTime<Utc>`, in nanoseconds from the epoch. -/
abbrev UtcTime := Int

/-- Nanoseconds in a second. -/
abbrev nanosPerSec : Nat := 1000000000

/-- Precision used when encoding UTCTimestamp values. -/
inductive TimestampPrecision where
  | seconds | millis | micros | nanos
  deriving DecidableEq

/-- The calendar conversions of the `chrono` crate, and the local time zone. -/
class Chrono where
  /-- `NaiveDateTime::parse_from_str` at the pattern of the precision. -/
  parseFromStr : TimestampPrecision → Bytes → Option UtcTime
  /-- `DateTime::format` at the pattern of the precision. -/
  format : TimestampPrecision → UtcTime → Bytes
  /-- `NaiveDate::parse_from_str` at `%Y%m%d` succeeds. -/
  isDate : Bytes → Bool
  /-- Offset of local time from UTC, in seconds. -/
  localOffset : UtcTime → Int

/-- Errors converting a field value from its wire representation. -/
inductive ConversionError where
  | fieldNotFound (tag : Tag)
  | invalidValue (tag : Tag) (value : Bytes)
  deriving DecidableEq

/-! ## Integers -/

/-- The `i64` that a cast of a 64-bit number yields. -/
def asI64 (n : Nat) : Int :=
  let m : Nat := n % 2 ^ 64
  if m < 2 ^ 63 then (m : Int) else (m : Int) - 2 ^ 64

/-- `i64::to_string`. -/
def itoa (v : Int) : Bytes := if v < 0 then 45 :: dec v.natAbs else dec v.natAbs

/-- `str::parse` at an unsigned type of the given bound: an optional `+`, then digits. -/
def parseUnsigned (bound : Nat) (bs : Bytes) : Option Nat :=
  let ds := match bs with
    | 43 :: ds => ds
    | ds => ds
  (undec ds).filter (· < bound)

/-- `str::parse` at a signed type of the given bits: an optional sign, then digits. -/
def parseSigned (bits : Nat) (bs : Bytes) : Option Int :=
  match bs with
  | 43 :: ds => ((undec ds).filter (· < 2 ^ (bits - 1))).map (↑·)
  | 45 :: ds => ((undec ds).filter (· ≤ 2 ^ (bits - 1))).map (-↑·)
  | ds => ((undec ds).filter (· < 2 ^ (bits - 1))).map (↑·)

/-! ## Encoding -/

/-- A value that can be written as a FIX field value. -/
class FixEncode (α : Type) where
  encode : α → Bytes

export FixEncode (encode)

/-- Strings are written as they are. -/
instance : FixEncode Bytes where
  encode s := s

/-- Booleans are written `Y` and `N`. -/
instance : FixEncode Bool where
  encode b := if b then ascii "Y" else ascii "N"

/-- The unsigned types go through `i64` before they are printed. -/
instance : FixEncode Nat where
  encode n := itoa (asI64 n)

/-- The signed types are printed as they are. -/
instance : FixEncode Int where
  encode v := itoa v

/-- A FIX UTCTimestamp. -/
structure UtcTimestamp where
  time : UtcTime
  precision : TimestampPrecision

/-- Timestamps are written at their precision. -/
instance [Chrono] : FixEncode UtcTimestamp where
  encode t := Chrono.format t.precision t.time

/-! ## Decoding -/

/-- The bytes of a field are not a value of the type asked for. -/
def invalid (tag : Tag) (bs : Bytes) : ConversionError := .invalidValue tag (utf8Lossy bs)

/-- Decoding at `String`. -/
def decodeString (tag : Tag) (bs : Bytes) : Except ConversionError Bytes :=
  if utf8Valid bs then .ok bs else .error (invalid tag bs)

/-- Decoding at `u64` and `usize`. -/
def decodeU64 (tag : Tag) (bs : Bytes) : Except ConversionError Nat :=
  match parseUnsigned (2 ^ 64) bs with
  | some n => .ok n
  | none => .error (invalid tag bs)

/-- Decoding at `u32`. -/
def decodeU32 (tag : Tag) (bs : Bytes) : Except ConversionError Nat :=
  match parseUnsigned (2 ^ 32) bs with
  | some n => .ok n
  | none => .error (invalid tag bs)

/-- Decoding at `i64`. -/
def decodeI64 (tag : Tag) (bs : Bytes) : Except ConversionError Int :=
  match parseSigned 64 bs with
  | some n => .ok n
  | none => .error (invalid tag bs)

/-- The precision a timestamp of that length is written at. -/
def precisionOfLength : Nat → Option TimestampPrecision
  | 17 => some .seconds
  | 21 => some .millis
  | 24 => some .micros
  | 27 => some .nanos
  | _ => none

/-- Decoding at `UtcTimestamp`. -/
def decodeTimestamp [Chrono] (tag : Tag) (bs : Bytes) : Except ConversionError UtcTimestamp :=
  if utf8Valid bs then
    match precisionOfLength bs.length with
    | none => .error (invalid tag bs)
    | some p =>
      match Chrono.parseFromStr p bs with
      | some t => .ok { time := t, precision := p }
      | none => .error (invalid tag bs)
  else .error (invalid tag bs)

/-! ## Round trips -/

/-- Digits are read without a sign. -/
lemma parseUnsigned_digits {bound} {ds : Bytes} (digits : ∀ b ∈ ds, isDigit b = true) :
    parseUnsigned bound ds = (undec ds).filter (· < bound) := by
  unfold parseUnsigned
  split
  case h_1 => exact absurd (digits 43 List.mem_cons_self) (by decide)
  case h_2 => rfl

/-- A number below the bound is read back from its numeral. -/
lemma parseUnsigned_dec {bound n} (h : n < bound) : parseUnsigned bound (dec n) = some n := by
  rw [parseUnsigned_digits fun b => isDigit_of_mem_dec, undec_dec]
  simp [h]

/-- So it is from one that is padded. -/
lemma parseUnsigned_padded {bound n} (width) (h : n < bound) :
    parseUnsigned bound (padded width n) = some n := by
  rw [parseUnsigned_digits fun b => isDigit_of_mem_padded, undec_padded]
  simp [h]

/-- Integers are written with digits and a minus sign. -/
lemma not_mem_itoa {b : UInt8} (other : isDigit b = false) (minus : b ≠ 45) (v : Int) : b ∉ itoa v := by
  have digits : b ∉ dec v.natAbs := fun mem => by simp [isDigit_of_mem_dec mem] at other
  unfold itoa
  split
  · simp [digits, minus]
  · exact digits

/-- A number is written with some bytes. -/
lemma itoa_ne_nil (v : Int) : itoa v ≠ [] := by
  unfold itoa
  split
  · exact List.cons_ne_nil _ _
  · exact dec_ne_nil _

/-- An integer that fits is read back. -/
lemma parseSigned_itoa {bits} {v : Int} (lo : -((2 ^ (bits - 1) : Nat) : Int) ≤ v)
    (hi : v < ((2 ^ (bits - 1) : Nat) : Int)) : parseSigned bits (itoa v) = some v := by
  unfold itoa
  split
  case isTrue neg =>
    have fits : v.natAbs ≤ 2 ^ (bits - 1) := by omega
    have abs : -(v.natAbs : Int) = v := by omega
    simp only [parseSigned, undec_dec, Option.filter, fits, decide_true, if_true, Option.map_some, abs]
  case isFalse pos =>
    have fits : v.natAbs < 2 ^ (bits - 1) := by omega
    have abs : (v.natAbs : Int) = v := by omega
    unfold parseSigned
    split
    case h_1 ds e | h_2 ds e =>
      have digit := isDigit_of_mem_dec (n := v.natAbs) (b := _) (e ▸ List.mem_cons_self)
      exact absurd digit (by decide)
    case h_3 =>
      simp only [undec_dec, Option.filter, fits, decide_true, if_true]
      exact congrArg some abs

/-- What is read at `u64` is in its range. -/
lemma decodeU64_lt {tag raw n} (h : decodeU64 tag raw = .ok n) : n < 2 ^ 64 := by
  unfold decodeU64 at h
  split at h
  case h_1 k parsed =>
    obtain rfl : k = n := by simpa using h
    unfold parseUnsigned at parsed
    simpa using (Option.filter_eq_some_iff.mp parsed).2
  case h_2 => simp at h

/-- Counters below `2 ^ 63` are written as their numeral. -/
lemma encode_nat {n : Nat} (h : n < 2 ^ 63) : encode n = dec n := by
  have m : n % 2 ^ 64 = n := Nat.mod_eq_of_lt (by omega)
  have nn : ¬ ((n : Int) < 0) := by omega
  simp only [encode, itoa, asI64, m, h, if_true, nn, if_false, Int.natAbs_natCast]

/-- From `2 ^ 63` on a counter is written with a minus sign. -/
lemma encode_nat_neg {n : Nat} (lo : 2 ^ 63 ≤ n) (hi : n < 2 ^ 64) :
    encode n = 45 :: dec (2 ^ 64 - n) := by
  have m : n % 2 ^ 64 = n := Nat.mod_eq_of_lt hi
  have neg : (n : Int) - 2 ^ 64 < 0 := by omega
  have abs : ((n : Int) - 2 ^ 64).natAbs = 2 ^ 64 - n := by omega
  simp only [encode, itoa, asI64, m, Nat.not_lt.mpr lo, if_false, neg, if_true, abs]

/-- Counters below `2 ^ 63` are read back. -/
@[simp] lemma decodeU64_encode {tag n} (h : n < 2 ^ 63) :
    decodeU64 tag (encode (n : Nat)) = .ok n := by
  rw [encode_nat h, decodeU64, parseUnsigned_dec (by omega)]

/-- Counters from `2 ^ 63` on are not. -/
lemma decodeU64_encode_neg {tag n} (lo : 2 ^ 63 ≤ n) (hi : n < 2 ^ 64) :
    ∃ e, decodeU64 tag (encode (n : Nat)) = .error e := by
  refine ⟨invalid tag (encode n), ?_⟩
  rw [encode_nat_neg lo hi]
  simp [decodeU64, parseUnsigned, undec, isDigit]

/-- Any counter that is written is read as the integer it is cast to. -/
lemma parseSigned_encode (n : Nat) : parseSigned 64 (encode n) = some (asI64 n) := by
  have range : -((2 ^ 63 : Nat) : Int) ≤ asI64 n ∧ asI64 n < ((2 ^ 63 : Nat) : Int) := by
    simp only [asI64]
    split <;> omega
  exact @parseSigned_itoa 64 _ range.1 range.2

end QuickFix
