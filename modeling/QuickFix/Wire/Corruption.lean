import QuickFix.Wire.Accept
import QuickFix.Wire.Integrity

/-!
# One changed byte

What the parser does with the bytes of a message in which one byte was changed. The sum of the bytes is
another one, so that the change is detected unless it leaves the CheckSum what it says, with a sign for
its leading zero, or makes a field before it another CheckSum (`corrupted_rejected`).
-/

namespace QuickFix.Message

variable {m : Message} {i : Nat} {b : UInt8}

/-- The leading zero of the CheckSum is changed to a plus sign. -/
def SignForZero (m : Message) (i : Nat) (b : UInt8) : Prop :=
  i = m.prefixBytes.length + 3 ∧ checksum m.prefixBytes < 100 ∧ b = 43

/-- The bytes after BodyLength are changed so that they are fields up to the CheckSum at the end, of
which the first CheckSum denotes the sum of the bytes as they are now. -/
def Disguised (m : Message) (i : Nat) (b : UInt8) : Prop :=
  m.prefixBytes.length - m.inner.length ≤ i ∧ i < m.prefixBytes.length ∧
    ∃ fs, Fields 0 none (fs ++ [closing (padded 3 (checksum m.prefixBytes))]) ∧
      wire fs = m.prefixBytes.set i b ∧
      FieldMap.get decodeU32 ⟨values fs⟩ Tags.checkSum = .ok (checksum (m.prefixBytes.set i b))

/-! ## The sum -/

/-- The sum of the bytes once one was changed. -/
lemma byteSum_set {bs : Bytes} (lt : i < bs.length) :
    byteSum (bs.set i b) + bs[i].toNat = byteSum bs + b.toNat := by
  induction bs generalizing i with
  | nil => cases lt
  | cons c cs ih =>
    cases i with
    | zero =>
      simp only [byteSum, List.set_cons_zero, List.map_cons, List.sum_cons, List.getElem_cons_zero]
      omega
    | succ i =>
      have later := ih (Nat.lt_of_succ_lt_succ lt)
      simp only [byteSum, List.set_cons_succ, List.map_cons, List.sum_cons,
        List.getElem_cons_succ] at later ⊢
      omega

/-- Changing a byte changes the checksum. -/
lemma checksum_set {bs : Bytes} (lt : i < bs.length) (ne : bs[i] ≠ b) :
    checksum (bs.set i b) ≠ checksum bs := by
  intro same
  have sums := byteSum_set (b := b) lt
  have lo := bs[i].toNat_lt
  have hi := b.toNat_lt
  have other : bs[i].toNat ≠ b.toNat := fun eq => ne (UInt8.toNat_inj.mp eq)
  change byteSum (bs.set i b) % 256 = byteSum bs % 256 at same
  omega

/-! ## The fields of a message -/

/-- The fields in front of those that BodyLength counts. -/
def leads (m : Message) : List WireField :=
  [written ⟨Tags.beginString, m.beginBytes⟩, written ⟨Tags.bodyLength, dec m.inner.length⟩]

/-- The checksum field as it is written. -/
lemma written_checkSum (value : Bytes) : written ⟨Tags.checkSum, value⟩ = closing value := by
  rw [written, closing, show itoa Tags.checkSum = ascii "10" by decide]

/-- A message is its leads, what is inside, and the checksum. -/
lemma serial_written (m : Message) : m.serialFields.map written =
    m.leads ++ m.innerFields.map written ++ [closing (padded 3 (checksum m.prefixBytes))] := by
  simp only [serialFields, leads, List.map_cons, List.map_append, List.map_nil, written_checkSum]
  rfl

/-- The bytes of what is inside. -/
lemma wire_inner (m : Message) : wire (m.innerFields.map written) = m.inner := wire_written _

/-- The bytes that the checksum is of. -/
lemma wire_prefix (m : Message) : wire (m.leads ++ m.innerFields.map written) = m.prefixBytes := by
  rw [prefixBytes_wire]
  rfl

/-- A message ends in its checksum. -/
lemma toBytes_closing (m : Message) :
    m.toBytes = m.prefixBytes ++ (closing (padded 3 (checksum m.prefixBytes))).bytes := by
  rw [toBytes_wire, serial_written, wire_append, wire_prefix]
  simp

/-- No field but the last one is a CheckSum. -/
lemma Sendable.inner_tags (h : m.Sendable) :
    ∀ f ∈ m.leads ++ m.innerFields.map written, f.tag ≠ Tags.checkSum := by
  have header : Tags.isHeaderTag Tags.checkSum = false := rfl
  have body : Tags.isBodyTag Tags.checkSum = false := rfl
  intro f mem sum
  rcases List.mem_append.mp mem with lead | inner
  · have others : ∀ f ∈ m.leads, f.tag ≠ Tags.checkSum := by simp [leads]
    exact others f lead sum
  · obtain ⟨g, own, rfl⟩ := List.mem_map.mp inner
    change g.tag = _ at sum
    simp only [innerFields, List.mem_append] at own
    rcases own with ((type | mem) | mem) | mem
    · cases type' : m.header.getRaw Tags.msgType with
      | none =>
        rw [type'] at type
        cases type
      | some mt =>
        rw [type'] at type
        obtain rfl : g = ⟨Tags.msgType, mt⟩ := List.mem_singleton.mp type
        cases sum
    · have own := h.header g (mem_sortedHeader.mp mem).1
      rw [sum, header] at own
      cases own
    · have own := h.body g mem
      rw [sum, body] at own
      cases own
    · exact (mem_sortedTrailer.mp mem).2 sum

/-- The parts of a message that can be sent are read field by field. -/
lemma Sendable.fields_parts (h : m.Sendable) :
    Fields 0 none m.leads ∧ Fields 0 none (m.leads ++ m.innerFields.map written) ∧
      Fields 0 none (m.leads ++ m.innerFields.map written ++
        [closing (padded 3 (checksum m.prefixBytes))]) := by
  have fields := h.fields
  rw [serial_written] at fields
  have inner := (fields_append.mp fields).1
  exact ⟨(fields_append.mp inner).1, inner, fields⟩

/-! ## Accepted bytes that start alike -/

section Accepted

variable {gs hs : List WireField} {c : WireField}

/-- Accepted bytes with the BodyLength of a message have as many bytes up to their last CheckSum. -/
lemma Summed.body_length (summed : Summed gs c hs) (h : m.Sendable) (fits : m.toBytes.length < 2 ^ 63)
    {rest} (same : wire (gs ++ c :: hs) = wire m.leads ++ rest) :
    ∃ fs, gs = m.leads ++ fs ∧ (wire fs).length = m.inner.length := by
  obtain ⟨ks, split, -⟩ := fields_prefix h.fields_parts.1 summed.fields same
  obtain ⟨x, y, fs, rfl⟩ := two_le_of_checksum summed.fields summed.sum
  simp only [leads, List.cons_append, List.nil_append, List.cons.injEq] at split
  obtain ⟨rfl, rfl, -⟩ := split
  refine ⟨fs, rfl, ?_⟩
  have short : m.inner.length < 2 ^ 64 := by
    rw [toBytes_closing, ← wire_prefix, wire_append, wire_inner] at fits
    simp only [List.length_append] at fits
    omega
  have length := summed.length
  rw [FieldMap.get, show (FieldMap.mk (values _)).getRaw Tags.bodyLength = some (dec m.inner.length)
    from rfl] at length
  have declared := (parseUnsigned_dec short).symm.trans (decodeU64_ok.mp length)
  simp only [List.take_succ_cons, List.take_zero, wire_cons, wire_nil, List.append_nil,
    List.length_append, Option.some.injEq] at declared
  omega

/-- A CheckSum field that stands where one ends the bytes is that one. -/
lemma closing_of_end {n pending value} (fit : c.Fits n pending) (sum : c.tag = Tags.checkSum)
    (other : pending.filter (·.1 == Tags.checkSum) = none) (plain : soh ∉ value)
    (same : c.bytes ++ wire hs = (closing value).bytes) : c = closing value ∧ hs = [] := by
  have free : soh ∉ c.value := by
    have delimited := fit.delimited
    rw [sum, Delimited, other] at delimited
    exact delimited
  have fit' : (closing value).Fits n pending := by
    refine ⟨(by decide : 61 ∉ ascii "10"), (by decide : parseSigned 32 (ascii "10") = some Tags.checkSum),
      ?_, ?_⟩
    · rw [Delimited, show (closing value).tag = Tags.checkSum from rfl, other]
      exact plain
    · have leading := fit.leading
      rw [sum] at leading
      exact leading
  obtain ⟨rfl, rest⟩ := fit.unique fit' (by rw [same, List.append_nil])
  exact ⟨rfl, eq_nil_of_wire rest.symm⟩

/-- With the bytes between BodyLength and CheckSum changed, a CheckSum stands among the fields. -/
lemma Summed.disguised (summed : Summed gs c hs) (h : m.Sendable) (fits : m.toBytes.length < 2 ^ 63)
    (lo : m.prefixBytes.length - m.inner.length ≤ i) (lt : i < m.prefixBytes.length)
    (ne : m.prefixBytes[i] ≠ b) (same : wire (gs ++ c :: hs) = m.toBytes.set i b) :
    Disguised m i b := by
  have size : m.prefixBytes.length = (wire m.leads).length + m.inner.length := by
    rw [← wire_prefix, wire_append, wire_inner, List.length_append]
  have front : m.prefixBytes.set i b =
      wire m.leads ++ m.inner.set (i - (wire m.leads).length) b := by
    rw [← wire_prefix, wire_append, wire_inner, List.set_append_right _ _ (by omega)]
  rw [toBytes_closing, List.set_append_left _ _ lt] at same
  obtain ⟨fs, rfl, length⟩ := summed.body_length h fits (by rw [same, front, List.append_assoc])
  obtain ⟨whole, ends⟩ : wire (m.leads ++ fs) = m.prefixBytes.set i b ∧
      c.bytes ++ wire hs = (closing (padded 3 (checksum m.prefixBytes))).bytes := by
    apply List.append_inj
    · simpa using same
    · rw [wire_append, List.length_append, List.length_set, length, size]
  obtain ⟨-, fit, -⟩ := fields_append.mp summed.fields
  obtain ⟨rfl, rfl⟩ := closing_of_end fit summed.sum (pendingAfter_checkSum _)
    (soh_not_mem_padded 3 _) ends
  refine ⟨lo, lt, m.leads ++ fs, summed.fields, whole, ?_⟩
  have agrees := summed.agrees
  rw [whole, FieldMap.get, values, List.map_append, FieldMap.getRaw_append] at agrees
  cases first : (FieldMap.mk (values (m.leads ++ fs))).getRaw Tags.checkSum with
  | some v =>
    rw [FieldMap.get, first]
    rw [values] at first
    rw [first] at agrees
    exact agrees
  | none =>
    -- the CheckSum is the one that was computed for other bytes
    rw [values] at first
    rw [first] at agrees
    have small : checksum m.prefixBytes < 2 ^ 32 :=
      (Nat.mod_lt _ (by decide)).trans (by decide : 256 < 2 ^ 32)
    have denotes := (parseUnsigned_padded 3 small).symm.trans (decodeU32_ok.mp agrees)
    exact absurd (Option.some.inj denotes).symm (checksum_set lt ne)

/-! ## The digits of the CheckSum -/

/-- When digits are read as a number. -/
lemma undec_eq {bs n} : undec bs = some n ↔ bs ≠ [] ∧ bs.all isDigit ∧ digitsValue bs = n := by
  unfold undec
  split
  case isTrue digits => simp [digits]
  case isFalse other =>
    constructor
    · intro h
      cases h
    · rintro ⟨ne, all, -⟩
      exact absurd ⟨ne, all⟩ other

/-- The digits of ASCII. -/
lemma isDigit_iff {b : UInt8} : isDigit b = true ↔ 48 ≤ b.toNat ∧ b.toNat ≤ 57 := by
  simp only [isDigit, Bool.and_eq_true, decide_eq_true_eq, UInt8.le_iff_toNat_le]
  rfl

/-- The value of three digits. -/
lemma digitsValue_three (x y z : UInt8) :
    digitsValue [x, y, z] = 100 * (x.toNat - 48) + 10 * (y.toNat - 48) + (z.toNat - 48) := by
  simp only [digitsValue, List.foldl_cons, List.foldl_nil]
  omega

/-- The three digits of a byte sum. -/
lemma padded_digits {s : Nat} (lt : s < 256) : ∃ x y z, padded 3 s = [x, y, z] ∧ isDigit x = true ∧
    isDigit y = true ∧ isDigit z = true ∧
    s = 100 * (x.toNat - 48) + 10 * (y.toNat - 48) + (z.toNat - 48) := by
  have length : (padded 3 s).length = 3 := length_padded (by decide) (by omega)
  have denotes := undec_eq.mp (undec_padded 3 s)
  obtain ⟨x, y, z, digits⟩ := List.length_eq_three.mp length
  rw [digits, digitsValue_three] at denotes
  obtain ⟨-, all, value⟩ := denotes
  simp only [List.all_cons, List.all_nil, Bool.and_true, Bool.and_eq_true] at all
  exact ⟨x, y, z, digits, all.1, all.2.1, all.2.2, value.symm⟩

example : padded 3 7 = ascii "007" := by decide +kernel

/-- What a numeral of three bytes denotes, without a sign. -/
lemma unsigned_three {x y z : UInt8} {s : Nat} (sign : x ≠ 43)
    (denotes : parseUnsigned (2 ^ 32) [x, y, z] = some s) :
    (48 ≤ x.toNat ∧ x.toNat ≤ 57) ∧ (48 ≤ y.toNat ∧ y.toNat ≤ 57) ∧ (48 ≤ z.toNat ∧ z.toNat ≤ 57) ∧
      100 * (x.toNat - 48) + 10 * (y.toNat - 48) + (z.toNat - 48) = s := by
  unfold parseUnsigned at denotes
  split at denotes
  case h_1 eq =>
    cases eq
    contradiction
  case h_2 =>
    obtain ⟨-, all, value⟩ := undec_eq.mp (Option.filter_eq_some_iff.mp denotes).1
    simp only [List.all_cons, List.all_nil, Bool.and_true, Bool.and_eq_true, isDigit_iff] at all
    rw [digitsValue_three] at value
    exact ⟨all.1, all.2.1, all.2.2, value⟩

/-- With a plus sign before two digits. -/
lemma signed_three {y z : UInt8} {s : Nat} (denotes : parseUnsigned (2 ^ 32) [43, y, z] = some s) :
    10 * (y.toNat - 48) + (z.toNat - 48) = s := by
  have number : (undec [y, z]).filter (· < 2 ^ 32) = some s := denotes
  obtain ⟨-, -, value⟩ := undec_eq.mp (Option.filter_eq_some_iff.mp number).1
  simp only [digitsValue, List.foldl_cons, List.foldl_nil] at value
  omega

/-- Three digits of which one was changed denote the same number only with a sign for a leading zero. -/
lemma changed_digits {s k : Nat} {b : UInt8} (lt : s < 256) (ne : (padded 3 s)[k]? ≠ some b) (three : k < 3)
    (denotes : parseUnsigned (2 ^ 32) ((padded 3 s).set k b) = some s) : k = 0 ∧ s < 100 ∧ b = 43 := by
  obtain ⟨x, y, z, digits, dx, dy, dz, value⟩ := padded_digits lt
  rw [digits] at ne denotes
  rw [isDigit_iff] at dx dy dz
  have plain : x ≠ 43 := by
    rintro rfl
    exact absurd dx.1 (by decide)
  obtain rfl | rfl | rfl : k = 0 ∨ k = 1 ∨ k = 2 := by omega
  · refine ⟨rfl, ?_⟩
    by_cases sign : b = 43
    · subst sign
      have sum := signed_three denotes
      exact ⟨by omega, rfl⟩
    · obtain ⟨db, -, -, sum⟩ := unsigned_three sign denotes
      exact absurd (congrArg some (UInt8.toNat_inj.mp (by omega : x.toNat = b.toNat))) ne
  · obtain ⟨-, db, -, sum⟩ := unsigned_three plain denotes
    exact absurd (congrArg some (UInt8.toNat_inj.mp (by omega : y.toNat = b.toNat))) ne
  · obtain ⟨-, -, db, sum⟩ := unsigned_three plain denotes
    exact absurd (congrArg some (UInt8.toNat_inj.mp (by omega : z.toNat = b.toNat))) ne

/-- Two bytes are the tag of a CheckSum in one way. -/
lemma two_digits_ten {x y : UInt8} (number : parseSigned 32 [x, y] = some 10) :
    x = 49 ∧ y = 48 := by
  unfold parseSigned at number
  split at number
  case h_1 eq =>
    cases eq
    cases value : undec [y] with
    | none => simp [value] at number
    | some n =>
      obtain ⟨-, all, digit⟩ := undec_eq.mp value
      simp only [List.all_cons, List.all_nil, Bool.and_true, isDigit_iff] at all
      simp only [digitsValue, List.foldl_cons, List.foldl_nil] at digit
      simp [value, Option.filter, show n < 2147483648 by omega] at number
      omega
  case h_2 eq =>
    cases eq
    cases value : undec [y] with
    | none => simp [value] at number
    | some n =>
      simp [value, Option.filter] at number
      omega
  case h_3 =>
    cases value : undec [x, y] with
    | none => simp [value] at number
    | some n =>
      obtain ⟨-, all, digits⟩ := undec_eq.mp value
      simp only [List.all_cons, List.all_nil, Bool.and_true, Bool.and_eq_true, isDigit_iff] at all
      simp only [digitsValue, List.foldl_cons, List.foldl_nil] at digits
      simp [value, Option.filter, show n < 2147483648 by omega] at number
      constructor
      · exact UInt8.toNat_inj.mp (show x.toNat = 49 by omega)
      · exact UInt8.toNat_inj.mp (show y.toNat = 48 by omega)

/-! ## The CheckSum changed -/

/-- Every field holds an equals sign. -/
lemma equals_mem_bytes (f : WireField) : 61 ∈ f.bytes := by simp [WireField.bytes]

/-- The three digits end at the delimiter as long as that was not changed. -/
lemma digit_changed {s k value} (lt : s < 256) (ne : (padded 3 s)[k]? ≠ some b) (three : k < 3)
    (free : soh ∉ value) (rest : (padded 3 s).set k b ++ [soh] = value ++ soh :: wire hs)
    (denotes : parseUnsigned (2 ^ 32) value = some s) : k = 0 ∧ s < 100 ∧ b = 43 := by
  cases hs with
  | nil =>
    have same : (padded 3 s).set k b = value := List.append_cancel_right rest
    rw [← same] at denotes
    exact changed_digits lt ne three denotes
  | cons f fs =>
    -- a field behind has an equals sign, which is the one byte that is no digit
    have equals : 61 ∈ (padded 3 s).set k b ++ [soh] := by
      rw [rest, wire_cons]
      exact List.mem_append_right _ (.tail _ (List.mem_append_left _ (equals_mem_bytes f)))
    have plain {a : UInt8} (mem : a ∈ (padded 3 s).set k b) : isDigit a = true ∨ a = b :=
      (List.mem_or_eq_of_mem_set mem).imp_left isDigit_of_mem_padded
    have here : isDigit 61 = true ∨ 61 = b := by
      rcases List.mem_append.mp equals with mem | mem
      · exact plain mem
      · cases List.mem_singleton.mp mem
    have changed : 61 = b := here.resolve_left (by decide)
    have closed : soh ∉ (padded 3 s).set k b := by
      intro mem
      have stop := (plain mem).resolve_left (by decide)
      rw [← changed] at stop
      cases stop
    have behind := (soh_inj closed free rest).2
    cases eq_nil_of_wire behind

/-- A CheckSum field with one byte changed denotes the same number only with a sign for a leading
zero. -/
lemma changed_closing {s k n pending} (lt : s < 256) (fit : c.Fits n pending) (sum : c.tag = Tags.checkSum)
    (other : pending.filter (·.1 == Tags.checkSum) = none) (ne : (closing (padded 3 s)).bytes[k]? ≠ some b)
    (within : k < 7) (same : c.bytes ++ wire hs = (closing (padded 3 s)).bytes.set k b)
    (denotes : parseUnsigned (2 ^ 32) c.value = some s) : k = 3 ∧ s < 100 ∧ b = 43 := by
  obtain ⟨x, y, z, digits, dx, dy, dz, -⟩ := padded_digits lt
  have digit {a : UInt8} (da : isDigit a = true) : a ≠ 61 ∧ a ≠ soh := by
    constructor
    · rintro rfl
      cases da
    · rintro rfl
      cases da
  have free : soh ∉ c.value := by
    have delimited := fit.delimited
    rw [sum, Delimited, other] at delimited
    exact delimited
  have bytes : (closing (padded 3 s)).bytes = [49, 48, 61, x, y, z, soh] := by
    rw [WireField.bytes, closing, digits]
    rfl
  have number := fit.number
  rw [sum] at number
  have split := splitOnce_append fit.plain (c.value ++ soh :: wire hs)
  have whole : c.tagBytes ++ 61 :: (c.value ++ soh :: wire hs) =
      ([49, 48, 61, x, y, z, soh] : Bytes).set k b := by
    rw [← bytes, ← same]
    simp [WireField.bytes]
  rw [whole] at split
  rw [bytes] at ne
  obtain rfl | rfl | rfl | rfl | rfl | rfl | rfl :
      k = 0 ∨ k = 1 ∨ k = 2 ∨ k = 3 ∨ k = 4 ∨ k = 5 ∨ k = 6 := by omega
  · exfalso
    by_cases equals : b = 61
    · have tag : c.tagBytes = [] := by
        rw [equals] at split
        exact (Prod.mk.inj (Option.some.inj split)).1.symm
      rw [tag] at number
      cases number
    · have tag : [b, 48] = c.tagBytes := by
        simp [splitOnce, equals] at split
        exact split.1
      rw [← tag] at number
      exact ne (congrArg some (two_digits_ten number).1.symm)
  · exfalso
    by_cases equals : b = 61
    · have tag : [49] = c.tagBytes := by
        rw [equals] at split
        exact (Prod.mk.inj (Option.some.inj split)).1
      rw [← tag] at number
      exact absurd number (by decide)
    · have tag : [49, b] = c.tagBytes := by
        simp [splitOnce, equals] at split
        exact split.1
      rw [← tag] at number
      exact ne (congrArg some (two_digits_ten number).2.symm)
  · have equals : b ≠ 61 := by
      rintro rfl
      exact ne rfl
    simp [splitOnce, equals, digit dx, digit dy, digit dz] at split
  · obtain ⟨-, rest⟩ := Prod.mk.inj (Option.some.inj split)
    obtain ⟨-, low, sign⟩ := digit_changed lt (by rw [digits]; exact ne) (by decide : 0 < 3) free
      (by rw [digits]; exact rest) denotes
    exact ⟨rfl, low, sign⟩
  · obtain ⟨-, rest⟩ := Prod.mk.inj (Option.some.inj split)
    obtain ⟨first, -⟩ := digit_changed lt (by rw [digits]; exact ne) (by decide : 1 < 3) free
      (by rw [digits]; exact rest) denotes
    cases first
  · obtain ⟨-, rest⟩ := Prod.mk.inj (Option.some.inj split)
    obtain ⟨first, -⟩ := digit_changed lt (by rw [digits]; exact ne) (by decide : 2 < 3) free
      (by rw [digits]; exact rest) denotes
    cases first
  · exfalso
    obtain ⟨-, rest⟩ := Prod.mk.inj (Option.some.inj split)
    have last : ([x, y, z, b] : Bytes).getLast? = some soh := by
      rw [show [x, y, z, b] = c.value ++ soh :: wire hs from rest]
      cases hs with
      | nil => simp
      | cons f fs =>
        obtain ⟨bs, closed⟩ := wire_closed (List.cons_ne_nil f fs)
        rw [closed, show c.value ++ soh :: (bs ++ [soh]) = (c.value ++ soh :: bs) ++ [soh] by simp,
          List.getLast?_concat]
    have stop : b = soh := Option.some.inj last
    exact ne (congrArg some stop.symm)

/-- Without a CheckSum in front the first one is the last one. -/
lemma getRaw_of_last {fs : List WireField} (others : ∀ f ∈ fs, f.tag ≠ Tags.checkSum)
    (sum : c.tag = Tags.checkSum) :
    (FieldMap.mk (values (fs ++ c :: hs))).getRaw Tags.checkSum = some c.value := by
  induction fs with
  | nil =>
    show (FieldMap.mk (c.toTagValue :: values hs)).getRaw _ = _
    rw [FieldMap.getRaw_cons, if_pos sum]
  | cons f fs ih =>
    obtain ⟨other, others⟩ := List.forall_mem_cons.mp others
    show (FieldMap.mk (f.toTagValue :: values (fs ++ c :: hs))).getRaw _ = _
    rw [FieldMap.getRaw_cons, if_neg other, ih others]

/-- With a byte of the CheckSum changed, it has a sign for a leading zero. -/
lemma Summed.signed (summed : Summed gs c hs) (h : m.Sendable) (fits : m.toBytes.length < 2 ^ 63)
    (le : m.prefixBytes.length ≤ i) (lt : i < m.toBytes.length) (ne : m.toBytes[i]? ≠ some b)
    (same : wire (gs ++ c :: hs) = m.toBytes.set i b) : SignForZero m i b := by
  rw [toBytes_closing, List.set_append_right _ _ le] at same
  rw [toBytes_closing, List.getElem?_append_right le] at ne
  obtain ⟨fs, rfl, length⟩ := summed.body_length h fits
    (by rw [same, ← wire_prefix, wire_append, List.append_assoc])
  have size : m.prefixBytes.length = (wire (m.leads ++ fs)).length := by
    rw [← wire_prefix, wire_append, wire_append, wire_inner, List.length_append, List.length_append,
      length]
  obtain ⟨whole, ends⟩ : wire (m.leads ++ fs) = m.prefixBytes ∧ c.bytes ++ wire hs =
      (closing (padded 3 (checksum m.prefixBytes))).bytes.set (i - m.prefixBytes.length) b := by
    apply List.append_inj
    · simpa using same
    · exact size.symm
  obtain ⟨before, fit, -⟩ := fields_append.mp summed.fields
  rw [← wire_prefix] at whole
  have own := wire_injective before h.fields_parts.2.1 whole
  have small : checksum m.prefixBytes < 256 := Nat.mod_lt _ (by decide)
  have agrees := summed.agrees
  rw [own, FieldMap.get, getRaw_of_last h.inner_tags summed.sum, wire_prefix] at agrees
  have within : i - m.prefixBytes.length < 7 := by
    obtain ⟨x, y, z, digits, -⟩ := padded_digits small
    rw [toBytes_closing, List.length_append, WireField.bytes, closing, digits] at lt
    simp [ascii] at lt
    omega
  obtain ⟨third, low, sign⟩ := changed_closing small fit summed.sum (pendingAfter_checkSum _) ne within
    ends (decodeU32_ok.mp agrees)
  exact ⟨by omega, low, sign⟩

/-! ## The leading fields changed -/

/-- A field without data ends at the first delimiter. -/
lemma WireField.Fits.until_soh {f : WireField} {n} {rest bs tail : Bytes} (fit : f.Fits n none)
    (plain : soh ∉ bs) (same : f.bytes ++ rest = bs ++ soh :: tail) :
    f.tagBytes ++ 61 :: f.value = bs ∧ rest = tail := by
  have value : soh ∉ f.value := fit.delimited
  have tag := soh_not_mem_tag fit.number
  apply soh_inj _ plain
  · rw [← same]
    simp [WireField.bytes]
  · simp [tag, value, show soh ≠ 61 by decide]

/-- A field does not start with a delimiter before its equals sign. -/
lemma WireField.Fits.not_delimited {f : WireField} {n pending} {rest bs tail : Bytes}
    (fit : f.Fits n pending) (plain : 61 ∉ bs) : f.bytes ++ rest ≠ bs ++ soh :: tail := by
  intro same
  have tag := soh_not_mem_tag fit.number
  have split : f.tagBytes ++ 61 :: (f.value ++ soh :: rest) = bs ++ soh :: tail := by
    rw [← same]
    simp [WireField.bytes]
  rcases List.append_eq_append_iff.mp split with ⟨more, rfl, ends⟩ | ⟨more, long, ends⟩
  · cases more with
    | nil => cases ends
    | cons a as =>
      obtain ⟨rfl, -⟩ := List.cons.inj ends
      exact plain (by simp)
  · cases more with
    | nil => cases ends
    | cons a as =>
      obtain ⟨rfl, -⟩ := List.cons.inj ends
      exact tag (by simp [long])

/-- A number holds none. -/
lemma parseUnsigned_plain {bound bs n} (h : parseUnsigned bound bs = some n) : 61 ∉ bs := by
  have digits {ds : Bytes} {k} (number : undec ds = some k) : 61 ∉ ds := by
    intro mem
    obtain ⟨-, all, -⟩ := undec_eq.mp number
    exact absurd (List.all_eq_true.mp all 61 mem) (by decide)
  unfold parseUnsigned at h
  split at h
  case h_1 ds =>
    have plain := digits (Option.filter_eq_some_iff.mp h).1
    simpa [show (61 : UInt8) ≠ 43 by decide] using plain
  case h_2 => exact digits (Option.filter_eq_some_iff.mp h).1

/-- The bytes up to the first two delimiters, and those of the type behind them. -/
lemma Sendable.lines (h : m.Sendable) : ∃ mt tail,
    m.toBytes = ascii "8=" ++ m.beginBytes ++ soh :: (ascii "9=" ++ dec m.inner.length ++ soh ::
      (m.inner ++ (closing (padded 3 (checksum m.prefixBytes))).bytes)) ∧
    m.inner = ascii "35=" ++ mt ++ soh :: tail ∧ soh ∉ mt := by
  obtain ⟨mt, type, -⟩ := h.serialFields_eq
  have fields : m.innerFields =
      ⟨Tags.msgType, mt⟩ :: (m.sortedHeader ++ m.body.fields ++ m.sortedTrailer) := by
    simp [innerFields, type]
  have framed := h.framed
  rw [fields] at framed
  refine ⟨mt, FieldMap.writeTo ⟨m.sortedHeader ++ m.body.fields ++ m.sortedTrailer⟩, ?_, ?_, framed.1⟩
  · rw [toBytes_closing, prefixBytes, writeTagValue, writeTagValue,
      show itoa Tags.beginString = ascii "8" by decide, show itoa Tags.bodyLength = ascii "9" by decide]
    simp [ascii, beginBytes]
  · rw [inner, fields]
    show writeTagValue Tags.msgType mt ++ _ = _
    rw [writeTagValue, show itoa Tags.msgType = ascii "35" by decide]
    simp only [ascii, List.append_assoc, List.cons_append, List.nil_append]
    rfl

/-- Behind leading fields that end where they did the bytes are those of the message. -/
lemma Summed.sum_changed (summed : Summed gs c hs) (h : m.Sendable) {x y fs}
    (split : gs = x :: y :: fs) (same : wire (gs ++ c :: hs) = m.toBytes.set i b)
    (lt : i < m.prefixBytes.length) (ne : m.prefixBytes[i] ≠ b)
    (rest : wire (fs ++ c :: hs) = m.inner ++ (closing (padded 3 (checksum m.prefixBytes))).bytes) :
    False := by
  subst split
  have fields : Fields 0 none (x :: y :: (fs ++ c :: hs)) := summed.fields
  obtain ⟨tag, tag'⟩ := leading_tags fields
  obtain ⟨fit, fit', fields⟩ := fields
  have inner : Fields 2 none (m.innerFields.map written ++
      [closing (padded 3 (checksum m.prefixBytes))]) := by
    have parts := h.fields_parts.2.2
    rw [List.append_assoc] at parts
    exact (fields_append.mp parts).2
  rw [show announcedData y.tag y.value = none by rw [tag']; rfl] at fields
  have own := wire_injective fields inner (by rw [rest, wire_append, wire_inner]; simp)
  have others : ∀ f ∈ m.innerFields.map written, f.tag ≠ Tags.checkSum := fun f mem =>
    h.inner_tags f (List.mem_append_right _ mem)
  obtain ⟨rfl, rfl, rfl⟩ := last_checksum_unique own summed.sum rfl summed.last (by simp)
  -- the sum is the one of the bytes before the change
  have agrees := summed.agrees
  have none : ∀ f ∈ x :: y :: m.innerFields.map written, f.tag ≠ Tags.checkSum := by
    intro f mem
    rcases List.mem_cons.mp mem with rfl | mem
    · rw [tag]
      decide
    · rcases List.mem_cons.mp mem with rfl | mem
      · rw [tag']
        decide
      · exact others f mem
  have front : wire (x :: y :: m.innerFields.map written) = m.prefixBytes.set i b := by
    rw [toBytes_closing, List.set_append_left _ _ lt, wire_append] at same
    refine (List.append_inj' same ?_).1
    simp
  rw [FieldMap.get, getRaw_of_last none rfl, front] at agrees
  have small : checksum m.prefixBytes < 2 ^ 32 :=
    (Nat.mod_lt _ (by decide)).trans (by decide : 256 < 2 ^ 32)
  have denotes := (parseUnsigned_padded 3 small).symm.trans (decodeU32_ok.mp agrees)
  exact checksum_set lt ne (Option.some.inj denotes).symm

/-- The leading fields of accepted bytes are not changed. -/
lemma Summed.lead_kept (summed : Summed gs c hs) (h : m.Sendable)
    (lt : i < m.prefixBytes.length - m.inner.length) (ne : m.toBytes[i]? ≠ some b)
    (same : wire (gs ++ c :: hs) = m.toBytes.set i b) : False := by
  obtain ⟨mt, tail, lines, inner, plain⟩ := h.lines
  obtain ⟨x, y, fs, rfl⟩ := two_le_of_checksum summed.fields summed.sum
  have fields : Fields 0 none (x :: y :: (fs ++ c :: hs)) := summed.fields
  obtain ⟨tag, tag'⟩ := leading_tags fields
  obtain ⟨fit, fit', later⟩ := fields
  rw [show announcedData x.tag x.value = none by rw [tag]; rfl] at fit'
  rw [show announcedData y.tag y.value = none by rw [tag']; rfl] at later
  have unchanged (rest : wire (fs ++ c :: hs) =
      m.inner ++ (closing (padded 3 (checksum m.prefixBytes))).bytes) : False := by
    have lt' : i < m.prefixBytes.length := by omega
    refine summed.sum_changed h rfl same lt' ?_ rest
    rw [toBytes_closing, List.getElem?_append_left lt', List.getElem?_eq_getElem lt'] at ne
    exact fun eq => ne (congrArg some eq)
  have sign : soh ≠ 56 ∧ soh ≠ 57 ∧ soh ≠ 61 ∧ soh ≠ 51 ∧ soh ≠ 53 := by decide
  have plain_p : soh ∉ ascii "8=" ++ m.beginBytes := by simp [ascii, h.begins, sign]
  have plain_q : soh ∉ ascii "9=" ++ dec m.inner.length := by simp [ascii, soh_not_mem_dec, sign]
  have plain_r : soh ∉ ascii "35=" ++ mt := by simp [ascii, plain, sign]
  have size : m.prefixBytes.length - m.inner.length =
      (ascii "8=" ++ m.beginBytes).length + 1 + (ascii "9=" ++ dec m.inner.length).length + 1 := by
    have whole := congrArg List.length (lines.symm.trans (toBytes_closing m))
    simp only [List.length_append, List.length_cons] at whole ⊢
    omega
  have whole : wire (x :: y :: fs ++ c :: hs) = x.bytes ++ (y.bytes ++ wire (fs ++ c :: hs)) := rfl
  rw [whole, lines] at same
  rw [lines] at ne
  -- the type is the third field
  obtain ⟨z, zs, third⟩ : ∃ z zs, fs ++ c :: hs = z :: zs := by
    cases fs with
    | nil => exact ⟨c, hs, rfl⟩
    | cons z zs => exact ⟨z, zs ++ c :: hs, rfl⟩
  rw [third] at later same unchanged
  have type : z.tag = Tags.msgType := by
    by_contra other
    simpa [checkLeading, other] using later.1.leading
  have declared : 61 ∉ y.value := by
    have length := summed.length
    rw [FieldMap.get, show values (x :: y :: fs ++ c :: hs) =
      x.toTagValue :: y.toTagValue :: values (fs ++ c :: hs) from rfl, FieldMap.getRaw_cons,
      if_neg (by rw [tag]; decide), FieldMap.getRaw_cons, if_pos tag'] at length
    exact parseUnsigned_plain (decodeU64_ok.mp length)
  have number_z := later.1.number
  have number_y := fit'.number
  rw [type] at number_z
  rw [tag'] at number_y
  have nine : parseSigned 32 (ascii "9") ≠ some Tags.msgType := by decide
  have thirtyFive : parseSigned 32 (ascii "35") ≠ some Tags.bodyLength := by decide
  generalize ascii "8=" ++ m.beginBytes = p at *
  have q : ascii "9=" ++ dec m.inner.length = ascii "9" ++ 61 :: dec m.inner.length := rfl
  have r : ascii "35=" ++ mt = ascii "35" ++ 61 :: mt := rfl
  have zbytes : wire (z :: zs) = z.tagBytes ++ 61 :: (z.value ++ soh :: wire zs) := by
    simp [WireField.bytes]
  have ybytes : y.bytes = y.tagBytes ++ 61 :: (y.value ++ [soh]) := rfl
  rcases Nat.lt_trichotomy i p.length with before | here | behind
  · rw [List.set_append_left _ _ before] at same
    by_cases stop : b = soh
    · -- BeginString is cut in two, and the field with BodyLength comes third
      subst stop
      rw [List.set_eq_take_append_cons_drop, if_pos before, List.append_assoc] at same
      obtain ⟨-, same⟩ := fit.until_soh (fun mem => plain_p (List.mem_of_mem_take mem)) same
      obtain ⟨-, same⟩ := fit'.until_soh (fun mem => plain_p (List.mem_of_mem_drop mem)) same
      rw [zbytes, q, List.append_assoc] at same
      obtain ⟨nine', -⟩ := later.1.until_equals (by decide) same
      exact nine (nine' ▸ number_z)
    · have free : soh ∉ p.set i b := fun mem =>
        (List.mem_or_eq_of_mem_set mem).elim plain_p fun eq => stop eq.symm
      obtain ⟨-, same⟩ := fit.until_soh free same
      exact unchanged (fit'.until_soh plain_q same).2
  · -- BeginString goes on up to BodyLength, and the type comes second
    subst here
    have other : b ≠ soh := by
      rintro rfl
      simp at ne
    rw [List.set_append_right _ _ (le_refl _), Nat.sub_self, List.set_cons_zero] at same
    have joined : p ++ b :: (ascii "9=" ++ dec m.inner.length ++ soh ::
        (m.inner ++ (closing (padded 3 (checksum m.prefixBytes))).bytes)) =
      (p ++ b :: (ascii "9=" ++ dec m.inner.length)) ++ soh ::
        (m.inner ++ (closing (padded 3 (checksum m.prefixBytes))).bytes) := by simp
    rw [joined] at same
    obtain ⟨-, same⟩ := fit.until_soh (by simp [plain_p, other.symm, plain_q]) same
    rw [ybytes, inner, r, List.append_assoc, List.append_assoc, List.append_assoc] at same
    obtain ⟨type', -⟩ := fit'.until_equals (by decide) same
    exact thirtyFive (type' ▸ number_y)
  · obtain ⟨j, rfl⟩ : ∃ j, i = p.length + 1 + j := ⟨i - p.length - 1, by omega⟩
    have shift : p.length + 1 + j - p.length = j + 1 := by omega
    rw [List.set_append_right _ _ (by omega), shift, List.set_cons_succ] at same
    rw [List.getElem?_append_right (by omega), shift, List.getElem?_cons_succ] at ne
    obtain ⟨-, same⟩ := fit.until_soh plain_p same
    rcases Nat.lt_or_ge j (ascii "9=" ++ dec m.inner.length).length with inside | past
    · rw [List.set_append_left _ _ inside] at same
      by_cases stop : b = soh
      · -- BodyLength is cut in two, and the field of its other digits would need an equals sign
        subst stop
        rw [List.set_eq_take_append_cons_drop, if_pos inside, List.append_assoc] at same
        obtain ⟨front, same⟩ := fit'.until_soh (fun mem => plain_q (List.mem_of_mem_take mem)) same
        rcases j with _ | _ | j
        · simp at front
        · have equals : 61 ∈ (ascii "9=" ++ dec m.inner.length).take 1 := by
            rw [← front]
            simp
          exact absurd equals (by simp [ascii])
        · have digits : 61 ∉ (ascii "9=" ++ dec m.inner.length).drop (j + 2 + 1) := fun mem =>
            absurd (isDigit_of_mem_dec (List.mem_of_mem_drop (show 61 ∈ (dec m.inner.length).drop (j + 1)
              from mem))) (by decide)
          have stuck : z.bytes ++ wire zs = _ := same
          exact later.1.not_delimited digits stuck
      · have free : soh ∉ (ascii "9=" ++ dec m.inner.length).set j b := fun mem =>
          (List.mem_or_eq_of_mem_set mem).elim plain_q fun eq => stop eq.symm
        exact unchanged (fit'.until_soh free same).2
    · -- BodyLength goes on up to the type, and is no number
      have end' : j = (ascii "9=" ++ dec m.inner.length).length := by omega
      subst end'
      have other : b ≠ soh := by
        rintro rfl
        simp at ne
      have joined (d e : Bytes) :
          d ++ b :: (m.inner ++ e) = (d ++ b :: (ascii "35=" ++ mt)) ++ soh :: (tail ++ e) := by
        rw [inner]
        simp
      rw [List.set_append_right _ _ (le_refl _), Nat.sub_self, List.set_cons_zero, joined] at same
      obtain ⟨front, -⟩ := fit'.until_soh (by simp [ascii, soh_not_mem_dec, other.symm, plain, sign]) same
      rw [q, List.append_assoc] at front
      obtain ⟨-, value⟩ := fit'.until_equals (by decide) front
      exact declared (by simp [value, ascii])

end Accepted

/-! ## What is accepted all the same -/

/-- The checksum field fits late. -/
lemma fits_closing {n fs value} (late : 3 ≤ n) (plain : soh ∉ value) :
    (closing value).Fits n (pendingAfter none fs) := by
  refine ⟨(by decide : 61 ∉ ascii "10"), (by decide : parseSigned 32 (ascii "10") = some Tags.checkSum),
    ?_, checkLeading_later late⟩
  rw [Delimited, show (closing value).tag = Tags.checkSum from rfl, pendingAfter_checkSum]
  exact plain

/-- Fields after the leading ones of a message have its BodyLength. -/
lemma length_leads {fs gs : List WireField} (h : m.toBytes.length < 2 ^ 63)
    (same : (wire fs).length = m.inner.length) :
    FieldMap.get decodeU64 ⟨values (m.leads ++ fs ++ gs)⟩ Tags.bodyLength =
      .ok ((wire (m.leads ++ fs)).length - (wire ((m.leads ++ fs).take 2)).length) := by
  have short : m.inner.length < 2 ^ 64 := by
    rw [toBytes_closing, ← wire_prefix, wire_append, wire_inner] at h
    simp only [List.length_append] at h
    omega
  rw [FieldMap.get, show (FieldMap.mk (values _)).getRaw Tags.bodyLength = some (dec m.inner.length)
    from rfl]
  refine decodeU64_ok.mpr ((parseUnsigned_dec short).trans (congrArg some ?_))
  rw [show (m.leads ++ fs).take 2 = m.leads from rfl, wire_append, List.length_append, same]
  omega

/-- It is late enough in a message. -/
lemma Sendable.late (h : m.Sendable) : 3 ≤ 0 + (m.leads ++ m.innerFields.map written).length := by
  obtain ⟨mt, type, -⟩ := h.serialFields_eq
  simp only [leads, innerFields, type, Option.map_some, Option.toList_some, List.length_append,
    List.length_map, List.length_cons, List.length_nil]
  omega

/-- A sign in front of the checksum is accepted. -/
lemma Sendable.accepted_of_sign (h : m.Sendable) (fits : m.toBytes.length < 2 ^ 63)
    (sign : SignForZero m i b) : ∃ m', parse (m.toBytes.set i b) true = .ok m' := by
  obtain ⟨rfl, low, rfl⟩ := sign
  obtain ⟨x, y, z, digits, dx, dy, dz, value⟩ := padded_digits (s := checksum m.prefixBytes) (by omega)
  have plain : soh ∉ ([43, y, z] : Bytes) := by
    have free := soh_not_mem_padded 3 (checksum m.prefixBytes)
    rw [digits] at free
    simp only [List.mem_cons, not_or] at free ⊢
    exact ⟨by decide, free.2⟩
  have number : parseUnsigned (2 ^ 32) [43, y, z] = some (checksum m.prefixBytes) := by
    show (undec [y, z]).filter (· < 2 ^ 32) = _
    have two : undec [y, z] = some (checksum m.prefixBytes) := by
      refine undec_eq.mpr ⟨by simp, by simp [dy, dz], ?_⟩
      rw [isDigit_iff] at dx
      simp only [digitsValue, List.foldl_cons, List.foldl_nil]
      omega
    rw [two, Option.filter_some, if_pos]
    exact decide_eq_true (by omega)
  have changed : m.toBytes.set (m.prefixBytes.length + 3) 43 =
      wire (m.leads ++ m.innerFields.map written ++ [closing [43, y, z]]) := by
    rw [toBytes_closing, List.set_append_right _ _ (by omega), Nat.add_sub_cancel_left, digits,
      wire_append, wire_prefix]
    rfl
  refine ⟨_, parse_true_ok.mpr ⟨_, _, [], ⟨?_, rfl, by simp, ?_, ?_⟩, changed, rfl⟩⟩
  · exact fields_append.mpr ⟨h.fields_parts.2.1, fits_closing h.late plain, trivial⟩
  · exact length_leads fits (congrArg List.length (wire_inner m))
  · rw [FieldMap.get, getRaw_of_last h.inner_tags rfl, wire_prefix]
    exact decodeU32_ok.mpr number

/-- A checksum in disguise is accepted. -/
lemma Sendable.accepted_of_disguised (h : m.Sendable) (fits : m.toBytes.length < 2 ^ 63)
    (disguised : Disguised m i b) : ∃ m', parse (m.toBytes.set i b) true = .ok m' := by
  obtain ⟨lo, lt, fs, fields, wires, agrees⟩ := disguised
  have size : m.prefixBytes.length = (wire m.leads).length + m.inner.length := by
    rw [← wire_prefix, wire_append, wire_inner, List.length_append]
  have front : m.prefixBytes.set i b = wire m.leads ++ m.inner.set (i - (wire m.leads).length) b := by
    rw [← wire_prefix, wire_append, wire_inner, List.set_append_right _ _ (by omega)]
  have changed : m.toBytes.set i b = wire (fs ++ [closing (padded 3 (checksum m.prefixBytes))]) := by
    rw [toBytes_closing, List.set_append_left _ _ lt, wire_append, wires]
    simp
  obtain ⟨rest, rfl, behind⟩ := fields_prefix h.fields_parts.1 (fields_append.mp fields).1
    (wires.trans front)
  refine ⟨_, parse_true_ok.mpr ⟨_, _, [], ⟨fields, rfl, by simp, ?_, ?_⟩, changed, rfl⟩⟩
  · exact length_leads fits (by rw [behind, List.length_set])
  · rw [wires, values, List.map_append, FieldMap.get, FieldMap.getRaw_append]
    rw [FieldMap.get, values] at agrees
    cases first : (FieldMap.mk ((m.leads ++ rest).map (·.toTagValue))).getRaw Tags.checkSum with
    | none =>
      rw [first] at agrees
      cases agrees
    | some v =>
      rw [first] at agrees
      exact agrees

/-- A changed byte is detected exactly where it is neither a sign for the leading zero of the CheckSum
nor one that makes another field a CheckSum with the sum of the changed bytes. -/
theorem corrupted_rejected (h : m.Sendable) (fits : m.toBytes.length < 2 ^ 63)
    (lt : i < m.toBytes.length) (ne : m.toBytes[i] ≠ b) :
    (∃ e, parse (m.toBytes.set i b) true = .error e) ↔ ¬ SignForZero m i b ∧ ¬ Disguised m i b := by
  have ne' : m.toBytes[i]? ≠ some b := by
    rw [List.getElem?_eq_getElem lt]
    exact fun eq => ne (Option.some.inj eq)
  constructor
  · rintro ⟨e, rejected⟩
    constructor
    · intro sign
      obtain ⟨m', accepted⟩ := h.accepted_of_sign fits sign
      cases rejected.symm.trans accepted
    · intro disguised
      obtain ⟨m', accepted⟩ := h.accepted_of_disguised fits disguised
      cases rejected.symm.trans accepted
  · rintro ⟨notSign, notDisguised⟩
    cases parsed : parse (m.toBytes.set i b) true with
    | error e => exact ⟨e, rfl⟩
    | ok m' =>
      exfalso
      obtain ⟨gs, c, hs, summed, same, -⟩ := parse_true_ok.mp parsed
      rcases Nat.lt_or_ge i (m.prefixBytes.length - m.inner.length) with lead | lo
      · exact summed.lead_kept h lead ne' same.symm
      rcases Nat.lt_or_ge i m.prefixBytes.length with inner | last
      · refine notDisguised (summed.disguised h fits lo inner ?_ same.symm)
        rw [toBytes_closing, List.getElem?_append_left inner, List.getElem?_eq_getElem inner] at ne'
        exact fun eq => ne' (congrArg some eq)
      · exact notSign (summed.signed h fits last lt ne' same.symm)

/-- A message is rejected when the delimiter that begins its data was changed, so the changed byte is no
sign and disguises nothing. -/
theorem corrupted_rejected_signedData :
    ¬ SignForZero signedData 38 66 ∧ ¬ Disguised signedData 38 66 := by
  have rejected : (parse (signedData.toBytes.set 38 66) true).toOption = none := by decide +kernel
  apply (corrupted_rejected sendable_signedData (by decide) (by decide) (by decide)).mp
  cases parsed : parse (signedData.toBytes.set 38 66) true with
  | error e => exact ⟨e, rfl⟩
  | ok m =>
    rw [parsed] at rejected
    cases rejected

example : (parse (signedData.toBytes.set 53 48) true).toOption.isSome = true := by decide +kernel

/-- A Heartbeat whose CheckSum starts with a zero. -/
def shortBeat : Message where
  header := ⟨[⟨Tags.beginString, ascii "F"⟩, ⟨Tags.msgType, ascii "0"⟩]⟩

/-- An order whose ClOrdID(11) is the CheckSum that its bytes have when its tag is changed to 10. -/
def orderBeforeSum : Message where
  header := ⟨[⟨Tags.beginString, ascii "F"⟩, ⟨Tags.msgType, ascii "D"⟩]⟩
  body := ⟨[⟨11, ascii "099"⟩, ⟨Tags.text, ascii "wz"⟩]⟩

/-- The Heartbeat can be sent. -/
lemma sendable_shortBeat : shortBeat.Sendable where
  msgType := by decide
  header := by decide
  body := by decide
  trailer := by decide
  range := by decide
  begins := by decide
  framed := by
    have plain (s : String) (h : soh ∉ ascii s := by decide) := h
    exact ⟨plain "0", trivial⟩

/-- The order can be sent. -/
lemma sendable_orderBeforeSum : orderBeforeSum.Sendable where
  msgType := by decide
  header := by decide
  body := by decide
  trailer := by decide
  range := by decide
  begins := by decide
  framed := by
    have plain (s : String) (h : soh ∉ ascii s := by decide) := h
    exact ⟨plain "D", plain "099", plain "wz", trivial⟩

/-- Both are accepted with one byte changed: `10=062` to `10=+62`, and `11=099` to `10=099`. -/
theorem corrupted_accepted :
    (shortBeat.Sendable ∧ shortBeat.toBytes[16]? = some 48 ∧
      ∃ m, parse (shortBeat.toBytes.set 16 43) true = .ok m) ∧
    (orderBeforeSum.Sendable ∧ orderBeforeSum.toBytes[15]? = some 49 ∧
      ∃ m, parse (orderBeforeSum.toBytes.set 15 48) true = .ok m) := by
  have accepted {raw : Bytes} (ok : (parse raw true).toOption.isSome = true) :
      ∃ m, parse raw true = .ok m := by
    cases parsed : parse raw true with
    | error e =>
      rw [parsed] at ok
      cases ok
    | ok m => exact ⟨m, rfl⟩
  exact ⟨⟨sendable_shortBeat, by decide, accepted (by decide +kernel)⟩,
    sendable_orderBeforeSum, by decide, accepted (by decide +kernel)⟩

end QuickFix.Message
