import QuickFix.Wire.Accept
import QuickFix.Wire.FrameBounds
import QuickFix.Wire.RoundTrip

/-!
# Integrity of accepted frames

The framer searches the bytes for `<SOH>10=`; the parser takes fields apart on its own, in which data
may hold these bytes, and compares the value of its first CheckSum field with the sum before its last
one. A frame that both accept ends in the CheckSum that covers it exactly where it does not end in data
and its first and last CheckSum agree (`frame_intact`).
-/

namespace QuickFix.Message

variable {frame : Bytes} {m : Message}

/-- The CheckSum field that ends a frame. -/
def closing (value : Bytes) : WireField := ⟨⟨Tags.checkSum, value⟩, ascii "10"⟩

/-- A frame `8=…<SOH>9=N<SOH>body10=v<SOH>` with a body of `N` bytes whose last field is the CheckSum
`v`, which denotes the sum of the bytes before it and is what the parser compared. -/
def Intact (frame : Bytes) (m : Message) : Prop :=
  ∃ begin digits body value fs,
    frame = ascii "8=" ++ begin ++ soh :: (ascii "9=" ++ (digits ++ soh ::
      (body ++ (ascii "10=" ++ (value ++ [soh]))))) ∧
    soh ∉ begin ∧ soh ∉ digits ∧ soh ∉ value ∧
    parseUnsigned (2 ^ 64) digits = some body.length ∧
    parseUnsigned (2 ^ 32) value = some (checksum (ascii "8=" ++ begin ++ soh ::
      (ascii "9=" ++ (digits ++ soh :: body)))) ∧
    Fields 0 none (fs ++ [closing value]) ∧ frame = wire (fs ++ [closing value]) ∧
    m.trailer.get decodeU32 Tags.checkSum = decodeU32 Tags.checkSum value

/-- A frame whose last field is data, as long as the Length field before it declares. -/
def EndsInData (frame : Bytes) : Prop :=
  ∃ fs f, Fields 0 none (fs ++ [f]) ∧ frame = wire (fs ++ [f]) ∧
    (pendingAfter none fs).filter (·.1 == f.tag) ≠ none

/-- A frame whose first and last CheckSum fields, however their tags are spelled, denote one number. -/
def OneCheckSum (frame : Bytes) : Prop :=
  ∀ fs, Fields 0 none fs → frame = wire fs →
    ∀ first last, (values fs).find? (·.tag == Tags.checkSum) = some first →
      (values fs).reverse.find? (·.tag == Tags.checkSum) = some last →
      parseUnsigned (2 ^ 32) first.value = parseUnsigned (2 ^ 32) last.value

/-! ## Where a frame ends -/

/-- When a number of 32 bits is decoded. -/
lemma decodeU32_ok {tag raw n} : decodeU32 tag raw = .ok n ↔ parseUnsigned (2 ^ 32) raw = some n := by
  unfold decodeU32
  cases parseUnsigned (2 ^ 32) raw <;> simp

/-- When a number of 64 bits is decoded. -/
lemma decodeU64_ok {tag raw n} : decodeU64 tag raw = .ok n ↔ parseUnsigned (2 ^ 64) raw = some n := by
  unfold decodeU64
  cases parseUnsigned (2 ^ 64) raw <;> simp

/-- No data is pending where a CheckSum field may stand. -/
lemma pendingAfter_checkSum (fs : List WireField) :
    (pendingAfter none fs).filter (·.1 == Tags.checkSum) = none := by
  cases fs using List.reverseRecOn with
  | nil => rfl
  | append_singleton fs f =>
    rw [pendingAfter_append]
    exact announcedData_checkSum f.tag f.value

/-- Bytes before their last delimiter but one. -/
lemma soh_inj_last {a b x y : Bytes} (plain : soh ∉ a) (plain' : soh ∉ b)
    (eq : x ++ soh :: (a ++ [soh]) = y ++ soh :: (b ++ [soh])) : a = b ∧ x = y := by
  have turned := congrArg List.reverse eq
  simp only [List.reverse_append, List.reverse_cons, List.reverse_nil, List.nil_append,
    List.append_assoc, List.cons_append, List.cons.injEq, true_and] at turned
  obtain ⟨ends, starts⟩ := soh_inj (by simpa using plain) (by simpa using plain') turned
  exact ⟨List.reverse_injective ends, List.reverse_injective starts⟩

/-- Fields end in a separator. -/
lemma wire_closed {fs : List WireField} (ne : fs ≠ []) : ∃ bs, wire fs = bs ++ [soh] := by
  cases fs using List.reverseRecOn with
  | nil => contradiction
  | append_singleton fs f =>
    refine ⟨wire fs ++ (f.tagBytes ++ 61 :: f.value), ?_⟩
    simp [WireField.bytes]

/-- The last field of a frame is the CheckSum that ends it, when it is not data. -/
lemma closing_of_plain {before value : Bytes} {fs : List WireField} {f : WireField} {n pending}
    (fit : f.Fits n pending) (plain : soh ∉ f.value) (ne : fs ≠ []) (plain' : soh ∉ value)
    (same : before ++ soh :: (ascii "10=" ++ (value ++ [soh])) = wire fs ++ f.bytes) :
    f = closing value ∧ wire fs = before ++ [soh] := by
  obtain ⟨front, closed⟩ := wire_closed ne
  have tag := soh_not_mem_tag fit.number
  have split : before ++ soh :: ((ascii "10=" ++ value) ++ [soh]) =
      front ++ soh :: ((f.tagBytes ++ 61 :: f.value) ++ [soh]) := by
    simpa [closed, WireField.bytes] using same
  have sign : soh ≠ 49 ∧ soh ≠ 48 ∧ soh ≠ 61 := by decide
  obtain ⟨bytes, rfl⟩ := soh_inj_last (by simp [ascii, plain', sign]) (by simp [tag, plain, sign]) split
  have equals := splitOnce_append fit.plain f.value
  rw [← bytes, show ascii "10=" ++ value = ascii "10" ++ 61 :: value from rfl,
    splitOnce_append (by decide : 61 ∉ ascii "10")] at equals
  simp only [Option.some.injEq, Prod.mk.injEq] at equals
  refine ⟨?_, closed⟩
  have number := fit.number
  rw [← equals.1] at number
  obtain ⟨⟨tag', value'⟩, tagBytes'⟩ := f
  obtain ⟨rfl, rfl⟩ := equals
  cases number
  rfl

/-! ## The two ways to read a frame -/

/-- The parts of a frame before its CheckSum are its first two fields and the others. -/
lemma body_of_frame {begin digits body : Bytes} {a b : WireField} {fs gs : List WireField}
    (fields : Fields 0 none (a :: b :: gs)) (plain : soh ∉ begin) (plain' : soh ∉ digits)
    (same : wire (a :: b :: fs) = ascii "8=" ++ begin ++ soh :: (ascii "9=" ++ (digits ++ soh :: body))) :
    b.value = digits ∧ wire fs = body := by
  obtain ⟨tag, tag'⟩ := leading_tags fields
  obtain ⟨fit, fit', -⟩ := fields
  have none : announcedData a.tag a.value = none := by
    rw [tag]
    rfl
  rw [none] at fit'
  have sign : soh ≠ 56 ∧ soh ≠ 57 ∧ soh ≠ 61 := by decide
  obtain ⟨x, ends, free⟩ := fit.plain_bytes
  obtain ⟨y, ends', free'⟩ := fit'.plain_bytes
  rw [wire_cons, wire_cons, ends, ends', List.append_assoc, List.append_assoc] at same
  obtain ⟨-, same⟩ := soh_inj free (by simp [ascii, plain, sign]) same
  obtain ⟨rfl, rest⟩ := soh_inj free' (by simp [ascii, plain', sign] : soh ∉ ascii "9=" ++ digits)
    (by simpa using same)
  refine ⟨?_, rest⟩
  have bytes : b.tagBytes ++ 61 :: b.value = ascii "9" ++ 61 :: digits := by
    have whole : (b.tagBytes ++ 61 :: b.value) ++ [soh] = (ascii "9=" ++ digits) ++ [soh] := by
      simpa [WireField.bytes] using ends'
    exact List.append_cancel_right whole
  have equals := splitOnce_append fit'.plain b.value
  rw [bytes, splitOnce_append (by decide : 61 ∉ ascii "9")] at equals
  simp only [Option.some.injEq, Prod.mk.injEq] at equals
  exact equals.2.symm

/-- The CheckSum that ends an intact frame is no data, and agrees with the one that was compared. -/
lemma conditions_of_intact (accepted : parse frame true = .ok m) :
    Intact frame m → ¬ EndsInData frame ∧ OneCheckSum frame := by
  obtain ⟨gs, c, hs, summed, rfl, rfl⟩ := parse_true_ok.mp accepted
  obtain ⟨-, compared⟩ := afterAll_get decodeU32 (gs ++ c :: hs)
  rintro ⟨begin, digits, body, value, fs, -, -, -, plain, -, denotes, fields, same, same'⟩
  have whole := wire_injective summed.fields fields same
  rw [compared, summed.agrees] at same'
  constructor
  · rintro ⟨fs', f, fields', again, pending⟩
    have last := wire_injective fields fields' (same.symm.trans again)
    obtain ⟨rfl, ends⟩ := List.append_inj' last rfl
    obtain rfl : closing value = f := List.singleton_inj.mp ends
    exact pending (pendingAfter_checkSum fs)
  · intro fs' fields' again first last here there
    obtain rfl := wire_injective summed.fields fields' again
    have agrees := summed.agrees
    rw [FieldMap.get, FieldMap.getRaw, here] at agrees
    rw [whole, values, List.map_append, List.reverse_append] at there
    cases there
    exact (decodeU32_ok.mp agrees).trans (decodeU32_ok.mp same'.symm).symm

/-- A frame whose last field is no data ends in the CheckSum that the framer found. -/
lemma intact_of_conditions {buf rest : Bytes} (framed : extractFrame buf = (some frame, rest))
    (accepted : parse frame true = .ok m) : ¬ EndsInData frame ∧ OneCheckSum frame → Intact frame m := by
  obtain ⟨gs, c, hs, summed, rfl, rfl⟩ := parse_true_ok.mp accepted
  obtain ⟨-, compared⟩ := afterAll_get decodeU32 (gs ++ c :: hs)
  rintro ⟨plain, one⟩
  obtain ⟨begin, digits, body, value, n, shape, free, free', free₂, number, -, closed, -⟩ :=
    (extractFrame_shape framed).2 _ rfl
  obtain ⟨start, closed⟩ := closed
  -- the last field ends in a delimiter of its own, so that it is the CheckSum the framer found
  obtain ⟨fs, f, split⟩ : ∃ fs f, gs ++ c :: hs = fs ++ [f] :=
    ⟨_, _, (List.dropLast_append_getLast (by simp : gs ++ c :: hs ≠ [])).symm⟩
  have fields := summed.fields
  obtain ⟨a, b, gs, rfl⟩ := two_le_of_checksum fields summed.sum
  have ne : fs ≠ [] := by
    rintro rfl
    simp at split
  rw [split] at fields
  obtain ⟨-, fit, -⟩ := fields_append.mp fields
  have own : soh ∉ f.value := by
    have none : (pendingAfter none fs).filter (·.1 == f.tag) = none := by
      by_contra pending
      exact plain ⟨fs, f, fields, congrArg wire split, pending⟩
    have delimited := fit.delimited
    rw [Delimited, none] at delimited
    exact delimited
  have before : (ascii "8=" ++ begin ++ soh :: (ascii "9=" ++ digits) ++ start) ++
      soh :: (ascii "10=" ++ (value ++ [soh])) = wire fs ++ f.bytes := by
    rw [split, wire_append, wire_cons, wire_nil, List.append_nil] at shape
    have middle : soh :: (body ++ (ascii "10=" ++ (value ++ [soh]))) =
        start ++ [soh] ++ (ascii "10=" ++ (value ++ [soh])) := by rw [closed]; rfl
    rw [shape, middle]
    simp
  obtain ⟨rfl, wires⟩ := closing_of_plain fit own ne free₂ before
  obtain ⟨rfl, rfl, rfl⟩ : a :: b :: gs = fs ∧ c = closing value ∧ hs = [] :=
    last_checksum_unique split summed.sum rfl summed.last (by simp)
  have front : wire (a :: b :: gs) =
      ascii "8=" ++ begin ++ soh :: (ascii "9=" ++ (digits ++ soh :: body)) := by
    rw [wires, List.append_assoc _ start, closed]
    simp
  obtain ⟨rfl, rfl⟩ := body_of_frame fields free free' front
  have denotes : parseUnsigned (2 ^ 32) value = some (checksum (wire (a :: b :: gs))) := by
    have agrees := summed.agrees
    rw [FieldMap.get, FieldMap.getRaw] at agrees
    cases here : (values (a :: b :: gs ++ [closing value])).find? (·.tag == Tags.checkSum) with
    | none =>
      rw [here] at agrees
      cases agrees
    | some first =>
      rw [here] at agrees
      have last : (values (a :: b :: gs ++ [closing value])).reverse.find? (·.tag == Tags.checkSum) =
          some (closing value).toTagValue := by
        rw [values, List.map_append, List.reverse_append]
        rfl
      rw [← decodeU32_ok.mp agrees]
      exact (one _ fields rfl first _ here last).symm
  obtain ⟨tag, tag'⟩ := leading_tags fields
  refine ⟨begin, b.value, wire gs, value, a :: b :: gs, shape, free, free', free₂, ?_, front ▸ denotes,
    fields, rfl, ?_⟩
  · have length := summed.length
    rw [FieldMap.get, show values (a :: b :: gs ++ [closing value]) =
      a.toTagValue :: b.toTagValue :: values (gs ++ [closing value]) from rfl,
      FieldMap.getRaw_cons, if_neg (by rw [tag]; decide), FieldMap.getRaw_cons, if_pos tag'] at length
    rw [decodeU64_ok.mp length]
    simp only [List.take_succ_cons, List.take_zero, wire_cons, wire_nil, List.append_nil,
      List.length_append]
    congr 1
    omega
  · rw [compared, summed.agrees]
    exact (decodeU32_ok.mpr denotes).symm

/-- An accepted frame is intact exactly where it does not end in data, and its first and its last CheckSum
denote one number. -/
theorem frame_intact {buf rest : Bytes} (framed : extractFrame buf = (some frame, rest))
    (accepted : parse frame true = .ok m) : Intact frame m ↔ ¬ EndsInData frame ∧ OneCheckSum frame :=
  ⟨conditions_of_intact accepted, intact_of_conditions framed accepted⟩

/-- A buffer that is one message is taken whole. -/
lemma framed_whole {buf : Bytes} (start : (ascii "8=").isPrefixOf buf = true)
    (head : frameHead buf = .message buf.length) : extractFrame buf = (some buf, []) := by
  rw [extractFrame_ok (resync_self (List.isPrefixOf_iff_prefix.mp start)), head]
  simp

/-- The fields of a Heartbeat. -/
def beat : List WireField :=
  [⟨⟨Tags.beginString, ascii "F"⟩, ascii "8"⟩, ⟨⟨Tags.bodyLength, ascii "5"⟩, ascii "9"⟩,
    ⟨⟨Tags.msgType, ascii "0"⟩, ascii "35"⟩, closing (ascii "062")]

/-- It is read field by field. -/
lemma fields_beat : Fields 0 none beat := by
  have plain (s : String) (h : soh ∉ ascii s := by decide) := h
  exact ⟨⟨by decide, by decide, plain "F", by decide⟩, ⟨by decide, by decide, plain "5", by decide⟩,
    ⟨by decide, by decide, plain "0", by decide⟩, ⟨by decide, by decide, plain "062", by decide⟩,
    trivial⟩

/-- A Heartbeat is taken off the stream and accepted, and it is intact. -/
theorem frame_intact_beat : ∃ m, extractFrame (wire beat) = (some (wire beat), []) ∧
    parse (wire beat) true = .ok m ∧ Intact (wire beat) m := by
  have framed := framed_whole (by decide : (ascii "8=").isPrefixOf (wire beat) = true) (by decide)
  have accepted : parse (wire beat) true = .ok
      { header := ⟨[⟨Tags.beginString, ascii "F"⟩, ⟨Tags.bodyLength, ascii "5"⟩, ⟨Tags.msgType, ascii "0"⟩]⟩
        trailer := ⟨[⟨Tags.checkSum, ascii "062"⟩]⟩ } := by decide +kernel
  refine ⟨_, framed, accepted, (frame_intact framed accepted).mpr ⟨?_, ?_⟩⟩
  · rintro ⟨fs, f, fields, same, data⟩
    have whole : beat = beat.take 3 ++ [closing (ascii "062")] := rfl
    obtain ⟨rfl, last⟩ := List.append_inj' (whole.symm.trans (wire_injective fields_beat fields same)) rfl
    obtain rfl : closing (ascii "062") = f := List.singleton_inj.mp last
    exact data rfl
  · intro fs fields same first last first' last'
    obtain rfl := wire_injective fields_beat fields same
    cases first'
    cases last'
    rfl

/-! ## Frames that are not what they seem -/

/-- A frame with two CheckSums: the first one is compared with the sum before the second. -/
def twoSums : List WireField :=
  [⟨⟨Tags.beginString, ascii "F"⟩, ascii "8"⟩, ⟨⟨Tags.bodyLength, ascii "18"⟩, ascii "9"⟩,
    ⟨⟨Tags.msgType, ascii "0"⟩, ascii "35"⟩, ⟨⟨Tags.text, ascii "ae"⟩, ascii "58"⟩,
    ⟨⟨Tags.checkSum, ascii "020"⟩, ascii "10"⟩, closing (ascii "000")]

/-- A frame whose CheckSum is spelled `010`: the framer goes on to the `10=` in data. -/
def dataAfterSum : List WireField :=
  [⟨⟨Tags.beginString, ascii "F"⟩, ascii "8"⟩, ⟨⟨Tags.bodyLength, ascii "5"⟩, ascii "9"⟩,
    ⟨⟨Tags.msgType, ascii "0"⟩, ascii "35"⟩, ⟨⟨Tags.checkSum, ascii "062"⟩, ascii "010"⟩,
    ⟨⟨95, ascii "6"⟩, ascii "95"⟩, ⟨⟨96, ascii "a" ++ soh :: ascii "10=0"⟩, ascii "96"⟩]

example : ((extractFrame (wire twoSums)).1, (extractFrame (wire dataAfterSum)).1) =
    (some (wire twoSums), some (wire dataAfterSum)) := by decide +kernel

/-- A frame with two checksums is read field by field. -/
lemma fields_twoSums : Fields 0 none twoSums := by
  have plain (s : String) (h : soh ∉ ascii s := by decide) := h
  refine ⟨⟨by decide, by decide, plain "F", by decide⟩, ⟨by decide, by decide, plain "18", by decide⟩,
    ⟨by decide, by decide, plain "0", by decide⟩, ⟨by decide, by decide, plain "ae", by decide⟩,
    ⟨by decide, by decide, plain "020", by decide⟩, ⟨by decide, by decide, plain "000", by decide⟩,
    trivial⟩

/-- So is one with data after its checksum. -/
lemma fields_dataAfterSum : Fields 0 none dataAfterSum := by
  have plain (s : String) (h : soh ∉ ascii s := by decide) := h
  refine ⟨⟨by decide, by decide, plain "F", by decide⟩, ⟨by decide, by decide, plain "5", by decide⟩,
    ⟨by decide, by decide, plain "0", by decide⟩, ⟨by decide, by decide, plain "062", by decide⟩,
    ⟨by decide, by decide, plain "6", by decide⟩, ⟨by decide, by decide, rfl, by decide⟩, trivial⟩

/-- Both are accepted, and neither is intact. -/
theorem accepted_not_intact :
    (∃ m, extractFrame (wire twoSums) = (some (wire twoSums), []) ∧
      parse (wire twoSums) true = .ok m ∧ ¬ Intact (wire twoSums) m) ∧
    ∃ m, extractFrame (wire dataAfterSum) = (some (wire dataAfterSum), []) ∧
      parse (wire dataAfterSum) true = .ok m ∧ ¬ Intact (wire dataAfterSum) m := by
  constructor
  · have framed := framed_whole (by decide : (ascii "8=").isPrefixOf (wire twoSums) = true)
      (by decide +kernel)
    have summed : Summed (twoSums.take 5) (closing (ascii "000")) [] :=
      ⟨fields_twoSums, rfl, by simp, by decide +kernel, by decide +kernel⟩
    have accepted := parse_true_ok.mpr ⟨_, _, _, summed, rfl, rfl⟩
    refine ⟨_, framed, accepted, fun intact => ?_⟩
    have one := (conditions_of_intact accepted intact).2 twoSums fields_twoSums rfl _ _ rfl rfl
    exact absurd one (by decide)
  · have framed := framed_whole (by decide : (ascii "8=").isPrefixOf (wire dataAfterSum) = true)
      (by decide +kernel)
    have summed : Summed (dataAfterSum.take 3) ⟨⟨Tags.checkSum, ascii "062"⟩, ascii "010"⟩
        (dataAfterSum.drop 4) :=
      ⟨fields_dataAfterSum, rfl, by decide, by decide +kernel, by decide +kernel⟩
    have accepted := parse_true_ok.mpr ⟨_, _, _, summed, rfl, rfl⟩
    refine ⟨_, framed, accepted, fun intact => ?_⟩
    apply (conditions_of_intact accepted intact).1
    exact ⟨dataAfterSum.take 5, ⟨⟨96, ascii "a" ++ soh :: ascii "10=0"⟩, ascii "96"⟩,
      fields_dataAfterSum, rfl, by decide⟩

end QuickFix.Message
