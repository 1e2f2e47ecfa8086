import QuickFix.Lib.Ranged
import QuickFix.Wire.Fields

/-!
# Bounds of the parser

The parser of `src/message.rs` once more, with its offsets into the bytes and its machine
arithmetic. Where nothing leaves its range it is the parser of `Wire.Message` (`parseAt_eq`). It
faults exactly where a data field that a Length field declared would end beyond 64 bits, or where
the byte sum before a CheckSum field that is reached does not fit 32 bits (`parseAt_safe`).
-/

namespace QuickFix.Message

open Ranged

/-- An addition of `usize`s. -/
def addUsize (a b : Nat) : Ranged ParseError Nat := add (2 ^ 64) a b

/-- `iter().position`. -/
def position (b : UInt8) (bs : Bytes) : Option Nat := bs.findIdx? (· == b)

/-- Where the value that starts at an offset ends. -/
def valueEndAt (raw : Bytes) (pending : Option (Tag × Nat)) (tag : Tag) (valStart : Nat) :
    Ranged ParseError Nat :=
  match pending.filter (·.1 == tag) with
  | some (_, len) => do
    let stop ← addUsize valStart len
    if raw.length < stop ∨ raw[stop]? ≠ some soh then fail (.shortDataField tag len)
    else .ok stop
  | none => do
    let tail ← slice raw valStart raw.length
    match position soh tail with
    | some p => addUsize valStart p
    | none => fail (.notTerminated tag)

/-- Parses the field at an offset, and the offset after it. -/
def parseFieldAt (raw : Bytes) (st : ParseState) (pos : Nat) :
    Ranged ParseError (ParseState × Nat) := do
  let tail ← slice raw pos raw.length
  match position 61 tail with
  | none => fail .fieldWithoutEquals
  | some p =>
    let eq ← addUsize p pos
    let tagBytes ← slice raw pos eq
    match parseSigned 32 tagBytes with
    | none =>
      -- the message of the error shows the start of the field
      let shown ← addUsize pos 16
      let _ ← slice raw pos (min eq shown)
      fail (.invalidTag tagBytes)
    | some tag =>
      let valStart ← addUsize eq 1
      let valEnd ← valueEndAt raw st.pendingData tag valStart
      let value ← slice raw valStart valEnd
      let next ← addUsize valEnd 1
      lift (checkLeading st.fieldIndex tag)
      let fieldIndex ← addUsize st.fieldIndex 1
      let st := routeField st pos { tag := tag, value := value }
      .ok ({ st with fieldIndex := fieldIndex, pendingData := announcedData tag value }, next)

/-- Parses fields to the end of the bytes. -/
def parseFieldsAt (raw : Bytes) : Nat → ParseState → Nat → Ranged ParseError ParseState
  | 0, st, _ => .ok st
  | fuel + 1, st, pos =>
    if pos < raw.length then do
      let (st, pos) ← parseFieldAt raw st pos
      parseFieldsAt raw fuel st pos
    else .ok st

/-- Byte offset just past the delimiter of the `n`th field: of the bytes from offset `i`, after
`seen` delimiters. -/
def fieldEndAt (n : Nat) : Bytes → Nat → Nat → Ranged ParseError Nat
  | [], _, _ => fail (.fewerFields (n + 1))
  | b :: bs, i, seen =>
    if b = soh then
      if seen = n then addUsize i 1
      else do
        let seen ← addUsize seen 1
        fieldEndAt n bs (i + 1) seen
    else fieldEndAt n bs (i + 1) seen

/-- FIX checksum: byte sum mod 256, summed at 32 bits. -/
def checksumAt (bs : Bytes) : Ranged ParseError Nat := do
  let total ← sum (2 ^ 32) 0 (bs.map (·.toNat))
  .ok (total % 256)

/-- The checks of BodyLength(9) and CheckSum(10). -/
def checkLengthChecksumAt (raw : Bytes) (st : ParseState) : Ranged ParseError Unit :=
  match st.checksumFieldStart with
  | none => fail .noCheckSum
  | some checksumStart =>
    match st.msg.header.get decodeU64 Tags.bodyLength with
    | .error _ => fail .badBodyLength
    | .ok declaredLen => do
      let bodyFrom ← fieldEndAt 1 raw 0 0
      let actualLen ← sub checksumStart bodyFrom
      if declaredLen ≠ actualLen then fail (.bodyLengthMismatch declaredLen actualLen)
      else
        match st.msg.trailer.get decodeU32 Tags.checkSum with
        | .error _ => fail .badCheckSum
        | .ok declaredSum =>
          let summed ← slice raw 0 checksumStart
          let actualSum ← checksumAt summed
          if declaredSum ≠ actualSum then fail (.checkSumMismatch declaredSum actualSum)
          else .ok ()

/-- Parse a single complete FIX message. -/
def parseAt (raw : Bytes) (validateLengthChecksum : Bool) : Ranged ParseError Message := do
  let st ← parseFieldsAt raw raw.length {} 0
  if validateLengthChecksum then checkLengthChecksumAt raw st
  return st.msg

/-! ## One field -/

/-- A value declared after `pending` ends beyond 64 bits. -/
def FarValue (pending : Option (Tag × Nat)) (tag : Tag) (valStart : Nat) : Prop :=
  ∃ len, pending = some (tag, len) ∧ 2 ^ 64 ≤ valStart + len

/-- The field at the head of the bytes at an offset ends beyond 64 bits. -/
def FarField (pending : Option (Tag × Nat)) (pos : Nat) (bs : Bytes) : Prop :=
  ∃ tagBytes tag rest, bs = tagBytes ++ 61 :: rest ∧ 61 ∉ tagBytes ∧
    parseSigned 32 tagBytes = some tag ∧ FarValue pending tag (pos + tagBytes.length + 1)

/-- Positions are where `splitOnce` splits. -/
lemma position_eq (b bs) : position b bs = (splitOnce b bs).map (·.1.length) := findIdx_eq b bs

variable {raw : Bytes} {pending : Option (Tag × Nat)} {tag : Tag}

/-- The pending data field, where the tag is its own. -/
lemma filter_pending {len : Nat} : pending.filter (·.1 == tag) = some (tag, len) ↔ pending = some (tag, len) := by
  rw [Option.filter_eq_some_iff]
  simp

/-- A value that ends beyond 64 bits overflows. -/
lemma valueEndAt_far {valStart} (far : FarValue pending tag valStart) :
    valueEndAt raw pending tag valStart = .error (.inl .overflow) := by
  obtain ⟨len, declared, beyond⟩ := far
  simp only [valueEndAt, filter_pending.mpr declared, addUsize, add_of_le beyond, fault_bind]

/-- Any other value ends where the parser takes it to end. -/
lemma valueEndAt_eq {valStart} (fits : raw.length < 2 ^ 63) (within : valStart ≤ raw.length)
    (near : ¬ FarValue pending tag valStart) :
    valueEndAt raw pending tag valStart =
      lift ((takeValue pending tag (raw.drop valStart)).map fun (v, _) => valStart + v.length) := by
  rw [valueEndAt, takeValue]
  cases declared : pending.filter (·.1 == tag) with
  | some announced =>
    obtain ⟨t, len⟩ := announced
    obtain ⟨rfl, same⟩ : pending = some (t, len) ∧ t = tag := by
      simpa [Option.filter_eq_some_iff] using declared
    have small : valStart + len < 2 ^ 64 := by
      by_contra large
      exact near ⟨len, by rw [same], Nat.not_lt.mp large⟩
    simp only [addUsize, add_of_lt small, ok_bind, List.getElem?_drop]
    by_cases stop : raw[valStart + len]? = some soh
    · have lt : valStart + len < raw.length := (List.getElem?_eq_some_iff.mp stop).1
      rw [if_neg (by simp [stop]; omega), if_pos stop]
      simp [Except.map]
      omega
    · rw [if_pos (.inr stop), if_neg stop]
      rfl
  | none =>
    simp only [slice_end within, ok_bind, position_eq]
    cases split : splitOnce soh (raw.drop valStart) with
    | none => rfl
    | some vr =>
      obtain ⟨v, rest⟩ := vr
      obtain ⟨whole, -⟩ := splitOnce_eq split
      have size := congrArg List.length whole
      simp only [List.length_drop, List.length_append, List.length_cons] at size
      simp only [Option.map_some, addUsize, add_of_lt (show valStart + v.length < 2 ^ 64 by omega)]
      rfl

/-- The parser on a field whose tag was read. -/
lemma parseField_eq {st pos tagBytes rest} {bs : Bytes} (equals : splitOnce 61 bs = some (tagBytes, rest))
    (number : parseSigned 32 tagBytes = some tag) :
    parseField st pos bs =
      (takeValue st.pendingData tag rest).bind fun (value, rest) =>
        (checkLeading st.fieldIndex tag).bind fun _ =>
          .ok (st.after pos ⟨⟨tag, value⟩, tagBytes⟩, pos + (bs.length - rest.length), rest) := by
  simp only [parseField, equals, number]
  cases takeValue st.pendingData tag rest with
  | error e => rfl
  | ok vr => cases checkLeading st.fieldIndex tag <;> rfl

/-- A field that ends beyond 64 bits overflows. -/
lemma parseFieldAt_far {st pos} (fits : raw.length < 2 ^ 63) (within : pos ≤ raw.length)
    (far : FarField st.pendingData pos (raw.drop pos)) :
    parseFieldAt raw st pos = .error (.inl .overflow) := by
  obtain ⟨tagBytes, tag, rest, whole, plain, number, far⟩ := far
  have size := congrArg List.length whole
  simp only [List.length_drop, List.length_append, List.length_cons] at size
  have eq : tagBytes.length + pos < 2 ^ 64 := by omega
  have start : tagBytes.length + pos + 1 < 2 ^ 64 := by omega
  have tagSlice : ((raw.drop pos).take (tagBytes.length + pos - pos)) = tagBytes := by
    rw [Nat.add_sub_cancel, whole, List.take_left]
  rw [Nat.add_comm pos] at far
  simp only [parseFieldAt, slice_end within, ok_bind, position_eq, whole, splitOnce_append plain,
    Option.map_some, addUsize, add_of_lt eq, add_of_lt start]
  rw [slice_of_le (by omega) (by omega), tagSlice]
  simp only [ok_bind, number, valueEndAt_far far, fault_bind]

/-- Any other field is parsed as the parser does. -/
lemma parseFieldAt_eq {st pos} (fits : raw.length < 2 ^ 63) (within : pos ≤ raw.length)
    (index : st.fieldIndex ≤ pos) (near : ¬ FarField st.pendingData pos (raw.drop pos)) :
    parseFieldAt raw st pos =
      lift ((parseField st pos (raw.drop pos)).map fun (st, pos, _) => (st, pos)) := by
  cases equals : splitOnce 61 (raw.drop pos) with
  | none =>
    simp only [parseFieldAt, slice_end within, ok_bind, position_eq, equals, parseField]
    rfl
  | some split =>
    obtain ⟨tagBytes, rest⟩ := split
    obtain ⟨whole, plain⟩ := splitOnce_eq equals
    have size := congrArg List.length whole
    simp only [List.length_drop, List.length_append, List.length_cons] at size
    have eq : tagBytes.length + pos < 2 ^ 64 := by omega
    have start : tagBytes.length + pos + 1 < 2 ^ 64 := by omega
    have tagSlice : ((raw.drop pos).take (tagBytes.length + pos - pos)) = tagBytes := by
      rw [Nat.add_sub_cancel, whole, List.take_left]
    simp only [parseFieldAt, slice_end within, ok_bind, position_eq, equals, Option.map_some,
      addUsize, add_of_lt eq]
    rw [slice_of_le (by omega) (by omega), tagSlice]
    simp only [ok_bind]
    cases number : parseSigned 32 tagBytes with
    | none =>
      rw [add_of_lt (by omega), ok_bind, slice_of_le (by omega) (by omega)]
      simp only [ok_bind, parseField, equals, number]
      rfl
    | some tag =>
      have near : ¬ FarValue st.pendingData tag (tagBytes.length + pos + 1) := by
        rw [Nat.add_comm tagBytes.length]
        exact fun far => near ⟨tagBytes, tag, rest, whole, plain, number, far⟩
      have after : raw.drop (tagBytes.length + pos + 1) = rest := by
        rw [show tagBytes.length + pos + 1 = pos + (tagBytes.length + 1) by omega, ← List.drop_drop,
          whole]
        simp
      simp only [add_of_lt start, ok_bind]
      rw [valueEndAt_eq fits (by omega) near, after, parseField_eq equals number]
      cases taken : takeValue st.pendingData tag rest with
      | error e => rfl
      | ok vr =>
        obtain ⟨value, rest'⟩ := vr
        obtain ⟨rfl, -⟩ := takeValue_ok.mp taken
        simp only [List.length_append, List.length_cons] at size
        have valueSlice : (raw.drop (tagBytes.length + pos + 1)).take
            (tagBytes.length + pos + 1 + value.length - (tagBytes.length + pos + 1)) = value := by
          rw [after, Nat.add_sub_cancel_left, List.take_left]
        simp only [Except.map, lift_ok, ok_bind, Except.bind]
        rw [slice_of_le (by omega) (by omega), valueSlice, ok_bind, add_of_lt (by omega), ok_bind]
        cases leading : checkLeading st.fieldIndex tag with
        | error e => rfl
        | ok u =>
          simp only [lift_ok, ok_bind]
          rw [add_of_lt (by omega), ok_bind]
          have moved : pos + ((raw.drop pos).length - rest'.length) =
              tagBytes.length + pos + 1 + value.length + 1 := by
            simp only [List.length_drop]
            omega
          simp only [moved, ParseState.after, routeField_fieldIndex]

/-! ## All fields -/

/-- Some field, after others that are in their places, ends beyond 64 bits. -/
def FarData (n : Nat) (pending : Option (Tag × Nat)) (pos : Nat) (bs : Bytes) : Prop :=
  ∃ fs rest, Fields n pending fs ∧ bs = wire fs ++ rest ∧
    FarField (pendingAfter pending fs) (pos + (wire fs).length) rest

/-- A field that stands within the bytes does not end beyond 64 bits. -/
lemma WireField.Fits.near {f : WireField} {n pos rest} (fits : f.Fits n pending)
    (within : pos + (f.bytes ++ rest).length < 2 ^ 64) :
    ¬ FarField pending pos (f.bytes ++ rest) := by
  rintro ⟨tagBytes, tag, rest', whole, plain, number, len, declared, beyond⟩
  have split : splitOnce 61 (f.bytes ++ rest) = some (f.tagBytes, f.value ++ soh :: rest) := by
    have here := splitOnce_append fits.plain (f.value ++ soh :: rest)
    simpa [WireField.bytes] using here
  rw [whole, splitOnce_append plain] at split
  simp only [Option.some.injEq, Prod.mk.injEq] at split
  obtain ⟨rfl, -⟩ := split
  obtain rfl : tag = f.tag := Option.some.inj (number.symm.trans fits.number)
  have length := fits.delimited
  simp only [Delimited, filter_pending.mpr declared] at length
  simp only [WireField.bytes, List.length_append, List.length_cons, List.length_nil] at within
  omega

/-- A field in its place is parsed, and the parser goes on after it. -/
lemma parseFieldsAt_cons {fuel st pos rest} {f : WireField} (fits : raw.length < 2 ^ 63)
    (index : st.fieldIndex ≤ pos) (field : f.Fits st.fieldIndex st.pendingData)
    (within : pos ≤ raw.length) (whole : raw.drop pos = f.bytes ++ rest) :
    parseFieldsAt raw (fuel + 1) st pos =
      parseFieldsAt raw fuel (st.after pos f) (pos + f.bytes.length) := by
  have size := congrArg List.length whole
  have bytes := f.bytes_pos
  rw [List.length_drop, List.length_append] at size
  have near : ¬ FarField st.pendingData pos (raw.drop pos) := by
    rw [whole]
    apply field.near
    rw [List.length_append]
    omega
  rw [parseFieldsAt, if_pos (by omega), parseFieldAt_eq fits within index near,
    parseField_ok.mpr ⟨f, field, whole, rfl, rfl⟩]
  rfl

/-- Fields up to one that ends beyond 64 bits overflow there. -/
lemma parseFieldsAt_far {fuel st pos fs rest} (fits : raw.length < 2 ^ 63) (within : pos ≤ raw.length)
    (enough : raw.length - pos ≤ fuel) (index : st.fieldIndex ≤ pos)
    (fields : Fields st.fieldIndex st.pendingData fs) (whole : raw.drop pos = wire fs ++ rest)
    (far : FarField (pendingAfter st.pendingData fs) (pos + (wire fs).length) rest) :
    parseFieldsAt raw fuel st pos = .error (.inl .overflow) := by
  have size := congrArg List.length whole
  rw [List.length_drop, List.length_append] at size
  induction fs generalizing fuel st pos with
  | nil =>
    have some : 0 < rest.length := by
      obtain ⟨tagBytes, tag, rest', rfl, -⟩ := far
      rw [List.length_append, List.length_cons]
      omega
    cases fuel with
    | zero => omega
    | succ fuel =>
      have here : FarField st.pendingData pos (raw.drop pos) := whole ▸ far
      rw [parseFieldsAt, if_pos (by omega), parseFieldAt_far fits within here]
      rfl
  | cons f fs ih =>
    obtain ⟨field, fields⟩ := fields
    have bytes := f.bytes_pos
    rw [wire_cons, List.append_assoc] at whole
    rw [wire_cons, List.length_append] at size far
    cases fuel with
    | zero => omega
    | succ fuel =>
      rw [parseFieldsAt_cons fits index field within whole]
      apply ih
      · omega
      · omega
      · rw [after_fieldIndex]
        omega
      · simpa using fields
      · rw [← List.drop_drop, whole, List.drop_left]
      · rw [after_pendingData, Nat.add_assoc]
        exact far
      · omega

/-- Where no field ends beyond 64 bits, fields are parsed as the parser does. -/
lemma parseFieldsAt_near {fuel st pos} (fits : raw.length < 2 ^ 63) (within : pos ≤ raw.length)
    (enough : raw.length - pos ≤ fuel) (index : st.fieldIndex ≤ pos)
    (near : ¬ FarData st.fieldIndex st.pendingData pos (raw.drop pos)) :
    parseFieldsAt raw fuel st pos = lift (parseFields fuel st pos (raw.drop pos)) := by
  induction fuel generalizing st pos with
  | zero =>
    rw [List.drop_eq_nil_of_le (by omega)]
    rfl
  | succ fuel ih =>
    by_cases stop : pos < raw.length
    · have ne : raw.drop pos ≠ [] := by
        intro empty
        have size := congrArg List.length empty
        simp only [List.length_drop, List.length_nil] at size
        omega
      have here : ¬ FarField st.pendingData pos (raw.drop pos) := fun far =>
        near ⟨[], _, trivial, rfl, far⟩
      rw [parseFieldsAt, if_pos stop, parseFieldAt_eq fits within index here, parseFields_succ ne]
      cases first : parseField st pos (raw.drop pos) with
      | error e => rfl
      | ok taken =>
        obtain ⟨st1, pos1, rest⟩ := taken
        obtain ⟨f, field, whole, rfl, rfl⟩ := parseField_ok.mp first
        have size := congrArg List.length whole
        have bytes := f.bytes_pos
        rw [List.length_drop, List.length_append] at size
        have after : raw.drop (pos + f.bytes.length) = rest := by
          rw [← List.drop_drop, whole, List.drop_left]
        have near : ¬ FarData (st.after pos f).fieldIndex (st.after pos f).pendingData
            (pos + f.bytes.length) (raw.drop (pos + f.bytes.length)) := by
          rintro ⟨fs, rest', fields, rest_eq, far⟩
          rw [after] at rest_eq
          refine near ⟨f :: fs, rest', ⟨field, by simpa using fields⟩, ?_, ?_⟩
          · rw [whole, rest_eq, wire_cons, List.append_assoc]
          · rw [wire_cons, List.length_append, ← Nat.add_assoc]
            exact far
        have rest_eq := @ih (st.after pos f) (pos + f.bytes.length) (by omega) (by omega)
          (by rw [after_fieldIndex]; omega) near
        rw [after] at rest_eq
        exact rest_eq
    · rw [parseFieldsAt, if_neg stop, List.drop_eq_nil_of_le (by omega)]
      rfl

/-! ## The checks -/

/-- The sum of bytes. -/
def byteSum (bs : Bytes) : Nat := (bs.map (·.toNat)).sum

/-- The search for the end of a field stays in range. -/
lemma fieldEndAt_eq {n bs i seen} (within : i + bs.length < 2 ^ 63) (counted : seen ≤ n)
    (small : n < 2 ^ 63) :
    fieldEndAt n bs i seen =
      match fieldEndOf bs (n - seen) with
      | some k => .ok (i + k)
      | none => fail (.fewerFields (n + 1)) := by
  induction bs generalizing i seen with
  | nil => rfl
  | cons b bs ih =>
    rw [List.length_cons] at within
    by_cases delimiter : b = soh
    · subst delimiter
      by_cases last : seen = n
      · rw [fieldEndAt, if_pos rfl, if_pos last, last, Nat.sub_self]
        simp only [addUsize, add_of_lt (show i + 1 < 2 ^ 64 by omega)]
        rfl
      · have count : n - seen = n - (seen + 1) + 1 := by omega
        simp only [fieldEndAt, if_pos, if_neg last, addUsize,
          add_of_lt (show seen + 1 < 2 ^ 64 by omega), ok_bind]
        rw [ih (by omega) (by omega), count, fieldEndOf_soh]
        cases fieldEndOf bs (n - (seen + 1)) with
        | none => rfl
        | some k => simp only [Option.map_some, Nat.add_assoc, Nat.add_comm 1]
    · rw [fieldEndAt, if_neg delimiter, ih (by omega) counted, fieldEndOf_other delimiter]
      cases fieldEndOf bs (n - seen) with
      | none => rfl
      | some k => simp only [Option.map_some, Nat.add_assoc, Nat.add_comm 1]

/-- The byte sum before the last CheckSum field does not fit 32 bits, and is asked for. -/
def HeavySum (raw : Bytes) : Prop :=
  ∃ fs f gs n s, Fields 0 none (fs ++ f :: gs) ∧ raw = wire (fs ++ f :: gs) ∧
    f.tag = Tags.checkSum ∧ (∀ g ∈ gs, g.tag ≠ Tags.checkSum) ∧
    FieldMap.get decodeU64 ⟨values (fs ++ f :: gs)⟩ Tags.bodyLength = .ok n ∧
    n + (wire (fs.take 2)).length = (wire fs).length ∧
    FieldMap.get decodeU32 ⟨values (fs ++ f :: gs)⟩ Tags.checkSum = .ok s ∧
    2 ^ 32 ≤ byteSum (wire fs)

/-- The first two fields are not CheckSum fields. -/
lemma two_le_of_checksum {fs gs : List WireField} {f : WireField}
    (fields : Fields 0 none (fs ++ f :: gs)) (sum : f.tag = Tags.checkSum) :
    ∃ a b hs, fs = a :: b :: hs := by
  cases fs with
  | nil =>
    have leading := fields.1.leading
    simp [checkLeading, sum] at leading
  | cons a fs =>
    cases fs with
    | nil =>
      have leading := fields.2.1.leading
      simp [checkLeading, sum] at leading
    | cons b fs => exact ⟨a, b, fs, rfl⟩

/-- The sum of bytes at 32 bits. -/
lemma checksumAt_eq (bs : Bytes) :
    checksumAt bs =
      if byteSum bs < 2 ^ 32 then .ok (checksum bs) else .error (.inl .overflow) := by
  rw [checksumAt, sum_eq (by decide), Nat.zero_add]
  unfold byteSum checksum
  split <;> rfl

/-- What the checks read from the sections is what stands first among all fields. -/
lemma afterAll_get {α} (decode : Tag → Bytes → Except ConversionError α) (fs : List WireField) :
    FieldMap.get decode (({} : ParseState).afterAll 0 fs).msg.header Tags.bodyLength =
        FieldMap.get decode ⟨values fs⟩ Tags.bodyLength ∧
      FieldMap.get decode (({} : ParseState).afterAll 0 fs).msg.trailer Tags.checkSum =
        FieldMap.get decode ⟨values fs⟩ Tags.checkSum := by
  obtain ⟨header, -, trailer⟩ := afterAll_message fs
  have length := FieldMap.getRaw_filter (q := Tags.isHeaderTag) (by decide : Tags.isHeaderTag
    Tags.bodyLength = true) (values fs)
  have sum := FieldMap.getRaw_filter (q := Tags.isTrailerTag) (by decide : Tags.isTrailerTag
    Tags.checkSum = true) (values fs)
  unfold FieldMap.get
  rw [header, trailer, length, sum]
  exact ⟨rfl, rfl⟩

/-- A heavy sum in the one way the bytes are fields. -/
lemma heavySum_wire {gs f hs} (fields : Fields 0 none (gs ++ f :: hs)) (sum : f.tag = Tags.checkSum)
    (last : ∀ h ∈ hs, h.tag ≠ Tags.checkSum) :
    HeavySum (wire (gs ++ f :: hs)) ↔ ∃ n s,
      FieldMap.get decodeU64 ⟨values (gs ++ f :: hs)⟩ Tags.bodyLength = .ok n ∧
      n + (wire (gs.take 2)).length = (wire gs).length ∧
      FieldMap.get decodeU32 ⟨values (gs ++ f :: hs)⟩ Tags.checkSum = .ok s ∧
      2 ^ 32 ≤ byteSum (wire gs) := by
  constructor
  · rintro ⟨gs', f', hs', n, s, fields', same, sum', last', length, jump, number, heavy⟩
    obtain ⟨rfl, rfl, rfl⟩ :=
      last_checksum_unique (wire_injective fields fields' same) sum sum' last last'
    exact ⟨n, s, length, jump, number, heavy⟩
  · rintro ⟨n, s, length, jump, number, heavy⟩
    exact ⟨gs, f, hs, n, s, fields, rfl, sum, last, length, jump, number, heavy⟩

/-- Without a CheckSum field no sum is asked for. -/
lemma not_heavySum {fs} (fields : Fields 0 none fs) (none : ∀ f ∈ fs, f.tag ≠ Tags.checkSum) :
    ¬ HeavySum (wire fs) := by
  rintro ⟨gs, f, hs, n, s, fields', same, sum, -⟩
  obtain rfl := wire_injective fields fields' same
  exact none f (by simp) sum

/-- The checks fault exactly at a heavy sum; elsewhere they are those of the parser. -/
lemma checkLengthChecksumAt_spec {fs} (fields : Fields 0 none fs)
    (fits : (wire fs).length < 2 ^ 63) :
    (HeavySum (wire fs) →
      checkLengthChecksumAt (wire fs) (({} : ParseState).afterAll 0 fs) = .error (.inl .overflow)) ∧
    (¬ HeavySum (wire fs) →
      checkLengthChecksumAt (wire fs) (({} : ParseState).afterAll 0 fs) =
        lift (checkLengthChecksum (wire fs) (({} : ParseState).afterAll 0 fs))) := by
  unfold checkLengthChecksumAt checkLengthChecksum
  rcases exists_last_checksum fs with none | ⟨gs, f, hs, rfl, sum, last⟩
  · rw [afterAll_checksum_none none]
    exact ⟨fun heavy => absurd heavy (not_heavySum fields none), fun _ => rfl⟩
  rw [heavySum_wire fields sum last, afterAll_checksum sum last, Nat.zero_add]
  simp only [afterAll_get]
  cases length : FieldMap.get decodeU64 ⟨values (gs ++ f :: hs)⟩ Tags.bodyLength with
  | error e => exact ⟨by simp, fun _ => rfl⟩
  | ok n =>
    obtain ⟨a, b, ks, rfl⟩ := two_le_of_checksum fields sum
    have from' : fieldEndOf (wire (a :: b :: ks ++ f :: hs)) 1 = some (a.bytes ++ b.bytes).length :=
      fieldEndOf_wire fields
    have before : (a.bytes ++ b.bytes).length ≤ (wire (a :: b :: ks)).length := by
      simp only [wire_cons, List.length_append]
      omega
    have head : wire ((a :: b :: ks).take 2) = a.bytes ++ b.bytes := by simp
    have ends : fieldEndAt 1 (wire (a :: b :: ks ++ f :: hs)) 0 0 =
        .ok (0 + (a.bytes ++ b.bytes).length) := by
      rw [fieldEndAt_eq (by omega) (Nat.zero_le 1) (by decide), Nat.sub_zero, from']
    simp only [ends, from', Nat.zero_add, ok_bind, sub_of_le before, head]
    by_cases jump : n ≠ (wire (a :: b :: ks)).length - (a.bytes ++ b.bytes).length
    · rw [if_pos jump, if_pos jump]
      refine ⟨?_, fun _ => rfl⟩
      rintro ⟨m, s, eq, jumps, -⟩
      cases eq
      omega
    rw [if_neg jump, if_neg jump]
    cases number : FieldMap.get decodeU32 ⟨values (a :: b :: ks ++ f :: hs)⟩ Tags.checkSum with
    | error e => exact ⟨by simp, fun _ => rfl⟩
    | ok s =>
      have start : (wire (a :: b :: ks)).length ≤ (wire (a :: b :: ks ++ f :: hs)).length := by
        simp
      have summed : (wire (a :: b :: ks ++ f :: hs)).take (wire (a :: b :: ks)).length =
          wire (a :: b :: ks) := by
        rw [wire_append, List.take_left]
      simp only [slice_of_le (Nat.zero_le _) start, List.drop_zero, Nat.sub_zero, summed, ok_bind,
        checksumAt_eq]
      by_cases small : byteSum (wire (a :: b :: ks)) < 2 ^ 32
      · rw [if_pos small]
        refine ⟨?_, fun _ => ?_⟩
        · rintro ⟨m, t, -, -, -, heavy⟩
          omega
        · rw [ok_bind]
          split <;> rfl
      · rw [if_neg small]
        refine ⟨fun _ => rfl, fun light => absurd ⟨n, s, rfl, by omega, rfl, by omega⟩ light⟩

/-! ## The parser -/

/-- A field that ends beyond 64 bits overflows, whatever is validated. -/
lemma parseAt_far {v} (fits : raw.length < 2 ^ 63) (far : FarData 0 none 0 raw) :
    parseAt raw v = .error (.inl .overflow) := by
  obtain ⟨fs, rest, fields, whole, far⟩ := far
  rw [parseAt, @parseFieldsAt_far raw raw.length {} 0 fs rest fits (Nat.zero_le _) (by simp)
    (Nat.le_refl 0) fields whole far, fault_bind]

/-- Where nothing leaves its range, the parser with offsets is the parser. -/
theorem parseAt_eq {v} (fits : raw.length < 2 ^ 63) (near : ¬ FarData 0 none 0 raw)
    (light : v = true → ¬ HeavySum raw) : parseAt raw v = lift (parse raw v) := by
  rw [parseAt, @parseFieldsAt_near raw raw.length {} 0 fits (Nat.zero_le _) (by simp)
    (Nat.le_refl 0) near, parse, List.drop_zero]
  cases walked : parseFields raw.length {} 0 raw with
  | error e => rfl
  | ok st =>
    obtain ⟨fs, fields, rfl, rfl⟩ := (parseFields_ok (Nat.le_refl _)).mp walked
    cases v with
    | false => rfl
    | true =>
      have checked := (checkLengthChecksumAt_spec fields fits).2 (light rfl)
      simp only [lift_ok, ok_bind, if_true, checked]
      cases checks : checkLengthChecksum (wire fs) (({} : ParseState).afterAll 0 fs) <;>
        simp [checks, bind, Except.bind, pure, Except.pure, fail]

/-- The parser stays in range exactly where no data field is declared to end beyond 64 bits and,
where BodyLength and CheckSum are validated, the sum asked for fits 32 bits. -/
theorem parseAt_safe {v} (fits : raw.length < 2 ^ 63) :
    Safe (parseAt raw v) ↔ ¬ FarData 0 none 0 raw ∧ (v = true → ¬ HeavySum raw) := by
  constructor
  · intro safe
    have near : ¬ FarData 0 none 0 raw := fun far => safe _ (parseAt_far fits far)
    refine ⟨near, ?_⟩
    rintro rfl heavy
    obtain ⟨fs, f, gs, n, s, fields, rfl, -⟩ := id heavy
    have walked := (@parseFields_ok _ {} 0 _ _ (Nat.le_refl _)).mpr ⟨_, fields, rfl, rfl⟩
    have fault := (checkLengthChecksumAt_spec fields fits).1 heavy
    apply safe .overflow
    rw [parseAt, @parseFieldsAt_near _ _ {} 0 fits (Nat.zero_le _) (by simp) (Nat.le_refl 0) near,
      List.drop_zero, walked]
    simp only [lift_ok, ok_bind, if_true, fault, fault_bind]
  · rintro ⟨near, light⟩
    rw [parseAt_eq fits near light]
    exact safe_lift _

/-- A short message whose Length field declares as much as 64 bits hold. -/
def farMessage : Bytes :=
  ascii "8=FIX.4.4" ++ soh :: ascii "9=5" ++ soh :: ascii "35=B" ++ soh ::
    ascii "95=18446744073709551615" ++ soh :: ascii "96=x" ++ soh :: ascii "10=000" ++ [soh]

/-- The parser does not stay in range for every byte string. -/
theorem parseAt_unsafe :
    ¬ ∀ (raw : Bytes) (v : Bool), raw.length < 2 ^ 63 → Safe (parseAt raw v) := by
  intro safe
  apply safe farMessage false (by decide +kernel) .overflow
  decide +kernel

/-- A message with data that holds a separator. -/
def dataMessage : Bytes :=
  ascii "8=F" ++ soh :: ascii "9=17" ++ soh :: ascii "35=B" ++ soh :: ascii "95=3" ++ soh ::
    ascii "96=a" ++ soh :: ascii "b" ++ soh :: ascii "10=211" ++ [soh]

/-- It is parsed in range, so its data does not end too far and its sum is not too large. -/
theorem parseAt_safe_dataMessage :
    ¬ FarData 0 none 0 dataMessage ∧ (true = true → ¬ HeavySum dataMessage) := by
  apply (parseAt_safe (by decide +kernel)).mp
  intro fault faulty
  have parsed : (parseAt dataMessage true).toOption.isSome = true := by decide +kernel
  rw [faulty] at parsed
  cases parsed

end QuickFix.Message
