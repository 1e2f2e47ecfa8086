import QuickFix.Wire.Stash

/-!
# The front of a serialized message

A message that was parsed has BeginString, BodyLength and MsgType in front, and serializing it puts
MsgSeqNum behind them, before all that is sorted. So whatever else becomes of a message that is
serialized and parsed again, its type and its number stay (`reparse_front`).
-/

namespace QuickFix

/-- No data field has the tag of a header field in front. -/
lemma Tags.dataTag_front {t tag : Tag} (front : tag ∈ [Tags.beginString, Tags.msgType, Tags.msgSeqNum]) :
    Tags.dataTagForLengthTag t ≠ some tag := by
  have others : ∀ u ∈ [Tags.beginString, Tags.msgType, Tags.msgSeqNum],
      ∀ p ∈ Tags.lengthDataTags, p.2 ≠ u := by decide
  exact Tags.dataTagForLengthTag_ne (others tag front) t

namespace Message

variable {m m' : Message} {raw type number : Bytes}

/-- A message with a front: BeginString, a type and a number, in values without delimiters. -/
structure Fronted (m : Message) (type number : Bytes) : Prop where
  beginString : m.header.getRaw Tags.beginString = some m.beginBytes
  msgType : m.header.getRaw Tags.msgType = some type
  msgSeqNum : m.header.getRaw Tags.msgSeqNum = some number
  plain : soh ∉ m.beginBytes ∧ soh ∉ type ∧ soh ∉ number
  header : ∀ f ∈ m.header.fields, Tags.isHeaderTag f.tag = true

/-- A value that is read from fields is one of theirs. -/
lemma mem_of_getRaw {fs : List TagValue} {tag : Tag} {value} (read : (FieldMap.mk fs).getRaw tag = some value) :
    ⟨tag, value⟩ ∈ fs := by
  obtain ⟨f, found, same⟩ := Option.map_eq_some_iff.mp read
  have own : f.tag = tag := by simpa using List.find?_some found
  have mem := List.mem_of_find?_eq_some found
  rwa [← own, ← same]

/-- A header field that was parsed has no delimiter, unless it is data. -/
lemma plain_of_parse {v} (accepted : parse raw v = .ok m) {t : Tag} {value}
    (other : ∀ p ∈ Tags.lengthDataTags, p.2 ≠ t) (read : m.header.getRaw t = some value) : soh ∉ value := by
  obtain ⟨fs, fields, -, rfl⟩ := fields_of_parse accepted
  obtain ⟨header, -, -⟩ := afterAll_message fs
  rw [header] at read
  have mem := (List.mem_filter.mp (mem_of_getRaw read)).1
  exact (framed_values fields).plain rfl (Tags.dataTagForLengthTag_ne other) _ mem rfl

/-- A message with a number has a front when it was parsed. -/
lemma fronted_of_parse {v} (accepted : parse raw v = .ok m)
    (read : m.header.getRaw Tags.msgSeqNum = some number) : ∃ type, m.Fronted type number := by
  obtain ⟨fs, fields, -, rfl⟩ := fields_of_parse accepted
  obtain ⟨header, -, -⟩ := afterAll_message fs
  have inHeader {tag value} (own : Tags.isHeaderTag tag = true) :
      (({} : ParseState).afterAll 0 fs).msg.header.getRaw tag = some value ↔
        (FieldMap.mk (values fs)).getRaw tag = some value := by
    rw [header, FieldMap.getRaw_filter own]
  have plain {tag value} (front : tag ∈ [Tags.beginString, Tags.msgType, Tags.msgSeqNum])
      (read : (FieldMap.mk (values fs)).getRaw tag = some value) : soh ∉ value :=
    (framed_values fields).plain rfl (fun t => Tags.dataTag_front front) _ (mem_of_getRaw read) rfl
  rw [inHeader rfl] at read
  have number' := plain (by simp) read
  cases fs with
  | nil => cases read
  | cons a fs =>
    have first := (checkLeading_ok fields.1.leading).1 rfl
    rw [values, List.map_cons, FieldMap.getRaw_cons, if_neg (by rw [first]; decide)] at read
    cases fs with
    | nil => cases read
    | cons b fs =>
      have second := (checkLeading_ok fields.2.1.leading).2.1 rfl
      rw [List.map_cons, FieldMap.getRaw_cons, if_neg (by rw [second]; decide)] at read
      cases fs with
      | nil => cases read
      | cons c fs =>
        have third := (checkLeading_ok fields.2.2.1.leading).2.2 rfl
        have begins : (FieldMap.mk (values (a :: b :: c :: fs))).getRaw Tags.beginString = some a.value := by
          rw [values, List.map_cons, FieldMap.getRaw_cons, if_pos first]
        have types : (FieldMap.mk (values (a :: b :: c :: fs))).getRaw Tags.msgType = some c.value := by
          rw [values, List.map_cons, FieldMap.getRaw_cons, if_neg (by rw [first]; decide),
            List.map_cons, FieldMap.getRaw_cons, if_neg (by rw [second]; decide),
            List.map_cons, FieldMap.getRaw_cons, if_pos third]
        have begin' : (({} : ParseState).afterAll 0 (a :: b :: c :: fs)).msg.beginBytes = a.value := by
          rw [beginBytes, (inHeader rfl).mpr begins]
          rfl
        refine ⟨c.value, ?_, (inHeader rfl).mpr types, ?_, ⟨?_, plain (by simp) types, number'⟩, ?_⟩
        · rw [begin']
          exact (inHeader rfl).mpr begins
        · refine (inHeader rfl).mpr ?_
          rw [values, List.map_cons, FieldMap.getRaw_cons, if_neg (by rw [first]; decide),
            List.map_cons, FieldMap.getRaw_cons, if_neg (by rw [second]; decide)]
          exact read
        · rw [begin']
          exact plain (by simp) begins
        · rw [header]
          exact fun f mem => (List.mem_filter.mp mem).2

/-- The fields in front of a serialized message. -/
def frontFields (m : Message) (type number : Bytes) : List TagValue :=
  [⟨Tags.beginString, m.beginBytes⟩, ⟨Tags.bodyLength, dec m.inner.length⟩, ⟨Tags.msgType, type⟩,
    ⟨Tags.msgSeqNum, number⟩]

namespace Fronted

/-- The number is the first of the sorted header fields. -/
lemma sortedHeader (h : m.Fronted type number) :
    ∃ rest, m.sortedHeader = ⟨Tags.msgSeqNum, number⟩ :: rest := by
  have sorted : StablySorted (· ≤ ·) TagValue.tag (m.header.fields.filter (sorts ·.tag)) m.sortedHeader :=
    stablySorted_insertionSort (· ≤ ·) TagValue.tag _
  have least : ∀ t ∈ Tags.headerTags, sorts t = true → Tags.msgSeqNum ≤ t := by decide
  have none : (m.sortedHeader.filter fun f => ¬ Tags.msgSeqNum ≤ f.tag) = [] := by
    rw [List.filter_eq_nil_iff]
    intro f mem
    obtain ⟨own, other⟩ := mem_sortedHeader.mp mem
    have above := least f.tag (of_decide_eq_true (h.header f own)) (decide_eq_true other)
    simpa using above
  have split := sorted.split Tags.msgSeqNum
  rw [none, List.nil_append, filter_tag rfl] at split
  have head : (m.header.fields.filter (·.tag = Tags.msgSeqNum)).head? = some ⟨Tags.msgSeqNum, number⟩ := by
    obtain ⟨⟨tag, value⟩, found, same⟩ := Option.map_eq_some_iff.mp h.msgSeqNum
    have own : tag = Tags.msgSeqNum := by simpa using List.find?_some found
    cases same
    cases own
    rw [List.head?_filter, ← found]
    exact congrArg (List.find? · _) (funext fun f => (beq_eq_decide _ _).symm)
  obtain ⟨rest, first⟩ := List.head?_eq_some_iff.mp head
  rw [first, List.cons_append] at split
  exact ⟨_, split⟩

/-- A message with a front is serialized with it. -/
lemma toBytes (h : m.Fronted type number) :
    ∃ rest : List TagValue, m.toBytes = wire ((m.frontFields type number ++ rest).map written) := by
  obtain ⟨rest, sorted⟩ := h.sortedHeader
  refine ⟨rest ++ m.body.fields ++ m.sortedTrailer ++
    [⟨Tags.checkSum, padded 3 (checksum m.prefixBytes)⟩], ?_⟩
  rw [toBytes_wire, serialFields, innerFields, h.msgType, sorted]
  simp [frontFields]

/-- The fields of the front stand in their places. -/
lemma fields (h : m.Fronted type number) : Fields 0 none ((m.frontFields type number).map written) :=
  ⟨fits_written (range_of_class (.inl rfl)) h.plain.1 rfl,
    fits_written (range_of_class (.inl rfl)) (soh_not_mem_dec _) rfl,
    fits_written (range_of_class (.inl rfl)) h.plain.2.1 rfl,
    fits_written (range_of_class (.inl rfl)) h.plain.2.2 rfl, trivial⟩

end Fronted

/-- The type of a serialized message stands in its bytes, behind a delimiter. -/
lemma Fronted.type_infix (h : m.Fronted type number) : soh :: (ascii "35=" ++ type) <:+: m.toBytes := by
  obtain ⟨rest, bytes⟩ := h.toBytes
  rw [bytes, List.map_append, wire_append]
  refine ⟨ascii "8=" ++ m.beginBytes ++ soh :: (ascii "9=" ++ dec m.inner.length),
    soh :: (ascii "34=" ++ number ++ soh :: wire (rest.map written)), ?_⟩
  have tags : itoa Tags.beginString = ascii "8" ∧ itoa Tags.bodyLength = ascii "9" ∧
      itoa Tags.msgType = ascii "35" ∧ itoa Tags.msgSeqNum = ascii "34" := by decide
  simp [frontFields, wire, WireField.bytes, written, tags, ascii]

/-- Parsed again, a serialized message has its type and its number. -/
theorem reparse_front {v} (h : m.Fronted type number) (parsed : parse m.toBytes v = .ok m') :
    m'.header.getRaw Tags.msgType = some type ∧ m'.header.getRaw Tags.msgSeqNum = some number := by
  obtain ⟨rest, bytes⟩ := h.toBytes
  obtain ⟨fs, fields, same, rfl⟩ := fields_of_parse parsed
  rw [bytes, List.map_append, wire_append] at same
  obtain ⟨hs, rfl, -⟩ := fields_prefix h.fields fields same.symm
  rw [(afterAll_message _).1, FieldMap.getRaw_filter rfl, FieldMap.getRaw_filter rfl, values,
    List.map_append, FieldMap.getRaw_append, FieldMap.getRaw_append]
  exact ⟨rfl, rfl⟩

end Message

end QuickFix
