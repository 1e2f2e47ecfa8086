import QuickFix.Lib.StableSort
import QuickFix.Wire.Fields
import QuickFix.Wire.Framing

/-!
# Messages come back

A message whose fields are in their sections is parsed back from its bytes: the body field for field,
header and trailer in the order they were written in (`parse_toBytes`). A value may hold delimiters
where it is data that comes directly after a Length field with its length.
-/

namespace QuickFix.Message

/-- The values end where the parser ends them, after a field that announced `pending`: data directly
after its Length field is as long as that declares, and no other value has a delimiter. -/
def Framed (pending : Option (Tag × Nat)) : List TagValue → Prop
  | [] => True
  | f :: fs => Delimited pending f.tag f.value ∧ Framed (announcedData f.tag f.value) fs

/-- A message that says its type, with fields in the sections of their tags, whose values end where the
parser ends them. -/
structure Sendable (m : Message) : Prop where
  msgType : m.header.contains Tags.msgType = true
  header : ∀ f ∈ m.header.fields, Tags.isHeaderTag f.tag = true
  body : ∀ f ∈ m.body.fields, Tags.isBodyTag f.tag = true
  trailer : ∀ f ∈ m.trailer.fields, Tags.isTrailerTag f.tag = true
  /-- Tags are `i32`. -/
  range : ∀ f ∈ m.body.fields, -2 ^ 31 ≤ f.tag ∧ f.tag < 2 ^ 31
  begins : soh ∉ m.beginBytes
  framed : Framed none m.innerFields

/-! ## Fields as they are written -/

/-- A field with its tag as it is written. -/
def written (f : TagValue) : WireField := { f with tagBytes := itoa f.tag }

/-- A field is read back from how it is written. -/
@[simp] lemma written_toTagValue (f : TagValue) : (written f).toTagValue = f := rfl

/-- The fields of a serialized message. -/
def serialFields (m : Message) : List TagValue :=
  ⟨Tags.beginString, m.beginBytes⟩ :: ⟨Tags.bodyLength, dec m.inner.length⟩ :: (m.innerFields ++
    [⟨Tags.checkSum, padded 3 (checksum m.prefixBytes)⟩])

/-- The bytes of fields are what is written for them. -/
lemma wire_written (fs : List TagValue) : wire (fs.map written) = FieldMap.writeTo ⟨fs⟩ := by
  induction fs with
  | nil => rfl
  | cons f fs ih =>
    rw [List.map_cons, wire_cons, ih]
    simp [FieldMap.writeTo, WireField.bytes, writeTagValue, written]

/-- So are several. -/
lemma values_written (fs : List TagValue) : values (fs.map written) = fs := by
  rw [values, List.map_map]
  exact List.map_id fs

variable {m : Message} {n : Nat} {pending : Option (Tag × Nat)} {fs : List TagValue}

/-- The bytes of a message are those of its fields. -/
lemma toBytes_wire (m : Message) : m.toBytes = wire (m.serialFields.map written) := by
  rw [wire_written]
  simp [toBytes, prefixBytes, serialFields, FieldMap.writeTo, inner, beginBytes]

/-- The bytes before the CheckSum field. -/
lemma prefixBytes_wire (m : Message) : m.prefixBytes = wire ((⟨Tags.beginString, m.beginBytes⟩ ::
    ⟨Tags.bodyLength, dec m.inner.length⟩ :: m.innerFields : List TagValue).map written) := by
  rw [wire_written]
  simp [prefixBytes, FieldMap.writeTo, inner, beginBytes]

/-- No tag with an equals sign is written. -/
lemma plain_itoa (v : Int) : 61 ∉ itoa v := not_mem_itoa (by decide) (by decide) v

/-- A field stands in its place when its value ends there. -/
lemma fits_written {f : TagValue} (range : -2 ^ 31 ≤ f.tag ∧ f.tag < 2 ^ 31)
    (delimited : Delimited pending f.tag f.value) (leading : checkLeading n f.tag = .ok ()) :
    (written f).Fits n pending :=
  ⟨plain_itoa f.tag, parseSigned_itoa range.1 range.2, delimited, leading⟩

/-- From the fourth field on every tag may stand. -/
lemma checkLeading_later {tag} (late : 3 ≤ n) : checkLeading n tag = .ok () := by
  unfold checkLeading
  rw [if_neg (by omega), if_neg (by omega), if_neg (by omega)]

/-- Fields stand in their places when their values end there. -/
lemma fields_written (late : 3 ≤ n) (range : ∀ f ∈ fs, -2 ^ 31 ≤ f.tag ∧ f.tag < 2 ^ 31)
    (framed : Framed pending fs) : Fields n pending (fs.map written) := by
  induction fs generalizing n pending with
  | nil => trivial
  | cons f fs ih =>
    obtain ⟨here, later⟩ := List.forall_mem_cons.mp range
    exact ⟨fits_written here framed.1 (checkLeading_later late), ih (by omega) later framed.2⟩

/-- No Length field announces a CheckSum. -/
lemma announcedData_checkSum (tag value) :
    (announcedData tag value).filter (·.1 == Tags.checkSum) = none := by
  unfold announcedData
  cases data : Tags.dataTagForLengthTag tag with
  | none => rfl
  | some dataTag =>
    have other : ∀ p ∈ Tags.lengthDataTags, p.2 ≠ Tags.checkSum := by decide
    obtain ⟨l, r, pairs, -⟩ := List.lookup_eq_some_iff.mp data
    have ne : dataTag ≠ Tags.checkSum := other (tag, dataTag) (by rw [pairs]; simp)
    cases parseUnsigned (2 ^ 64) value with
    | none => rfl
    | some len => simp [Option.filter, ne]

/-- A CheckSum may come after fields. -/
lemma Framed.snoc {value} (h : Framed pending fs) (plain : soh ∉ value)
    (other : pending.filter (·.1 == Tags.checkSum) = none) :
    Framed pending (fs ++ [⟨Tags.checkSum, value⟩]) := by
  induction fs generalizing pending with
  | nil =>
    refine ⟨?_, trivial⟩
    rw [Delimited, other]
    exact plain
  | cons f fs ih => exact ⟨h.1, ih h.2 (announcedData_checkSum f.tag f.value)⟩

/-! ## The fields of a message -/

/-- The tags of header and trailer are `i32`. -/
lemma range_of_class {tag} (h : Tags.isHeaderTag tag = true ∨ Tags.isTrailerTag tag = true) :
    -2 ^ 31 ≤ tag ∧ tag < 2 ^ 31 := by
  have bounds : ∀ t ∈ Tags.headerTags ++ [Tags.signatureLength, Tags.signature, Tags.checkSum],
      -2 ^ 31 ≤ t ∧ t < 2 ^ 31 := by decide
  apply bounds
  rw [List.mem_append]
  exact h.imp of_decide_eq_true of_decide_eq_true

/-- The sorted header holds all but the leads. -/
lemma mem_sortedHeader {f} : f ∈ m.sortedHeader ↔ f ∈ m.header.fields ∧
    f.tag ∉ [Tags.beginString, Tags.bodyLength, Tags.msgType] := by
  rw [sortedHeader, List.mem_insertionSort, List.mem_filter, decide_eq_true_iff]

/-- The sorted trailer holds all but the checksum. -/
lemma mem_sortedTrailer {f} : f ∈ m.sortedTrailer ↔ f ∈ m.trailer.fields ∧ f.tag ≠ Tags.checkSum := by
  rw [sortedTrailer, List.mem_insertionSort, List.mem_filter, decide_eq_true_iff]

/-- All fields are of one class. -/
lemma filter_all {fs : List TagValue} {p : Tag → Bool} (h : ∀ f ∈ fs, p f.tag = true) :
    fs.filter (p ·.tag) = fs := List.filter_eq_self.mpr h

/-- No fields are. -/
lemma filter_none {fs : List TagValue} {p : Tag → Bool} (h : ∀ f ∈ fs, p f.tag = false) :
    fs.filter (p ·.tag) = [] := List.filter_eq_nil_iff.mpr fun f mem => by simp [h f mem]

/-- The header as it is written. -/
def serialHeader (m : Message) (mt : Bytes) : List TagValue :=
  ⟨Tags.beginString, m.beginBytes⟩ :: ⟨Tags.bodyLength, dec m.inner.length⟩ :: ⟨Tags.msgType, mt⟩ ::
    m.sortedHeader

/-- The trailer as it is written. -/
def serialTrailer (m : Message) : List TagValue :=
  m.sortedTrailer ++ [⟨Tags.checkSum, padded 3 (checksum m.prefixBytes)⟩]

namespace Sendable

/-- The type comes first, and the sections come one after another. -/
lemma serialFields_eq (h : m.Sendable) : ∃ mt, m.header.getRaw Tags.msgType = some mt ∧
    m.serialFields = m.serialHeader mt ++ (m.body.fields ++ m.serialTrailer) := by
  have present := h.msgType
  rw [FieldMap.contains, List.any_eq_true, ← List.find?_isSome] at present
  obtain ⟨f, found⟩ := Option.isSome_iff_exists.mp present
  have type : m.header.getRaw Tags.msgType = some f.value := by rw [FieldMap.getRaw, found]; rfl
  refine ⟨f.value, type, ?_⟩
  simp [serialFields, innerFields, type, serialHeader, serialTrailer]

/-- What is written of the header has header tags. -/
lemma class_serialHeader (h : m.Sendable) (mt) :
    ∀ f ∈ m.serialHeader mt, Tags.isHeaderTag f.tag = true := by
  intro f mem
  simp only [serialHeader, List.mem_cons] at mem
  rcases mem with rfl | rfl | rfl | mem
  · rfl
  · rfl
  · rfl
  · exact h.header f (mem_sortedHeader.mp mem).1

/-- What is written of the trailer has trailer tags. -/
lemma class_serialTrailer (h : m.Sendable) : ∀ f ∈ m.serialTrailer, Tags.isTrailerTag f.tag = true := by
  intro f mem
  rw [serialTrailer, List.mem_append, List.mem_singleton] at mem
  rcases mem with mem | rfl
  · exact h.trailer f (mem_sortedTrailer.mp mem).1
  · rfl

/-- The fields of a message stand in their places. -/
lemma fields (h : m.Sendable) : Fields 0 none (m.serialFields.map written) := by
  obtain ⟨mt, -, serial⟩ := h.serialFields_eq
  have framed : Framed none (m.innerFields ++ [⟨Tags.checkSum, padded 3 (checksum m.prefixBytes)⟩]) :=
    h.framed.snoc (soh_not_mem_padded 3 (checksum m.prefixBytes)) rfl
  have inner : m.innerFields ++ [⟨Tags.checkSum, padded 3 (checksum m.prefixBytes)⟩] =
      ⟨Tags.msgType, mt⟩ :: (m.sortedHeader ++ (m.body.fields ++ m.serialTrailer)) :=
    (List.cons.inj (List.cons.inj serial).2).2
  rw [inner] at framed
  rw [serialFields, inner]
  refine ⟨fits_written (range_of_class (.inl rfl)) h.begins rfl,
    fits_written (range_of_class (.inl rfl)) (soh_not_mem_dec _) rfl,
    fits_written (range_of_class (.inl rfl)) framed.1 rfl, ?_⟩
  apply fields_written (le_refl 3) _ framed.2
  intro f mem
  simp only [List.mem_append] at mem
  rcases mem with header | body | trailer
  · exact range_of_class (.inl (h.header f (mem_sortedHeader.mp header).1))
  · exact h.range f body
  · exact range_of_class (.inr (h.class_serialTrailer f trailer))

/-- The fields of a message by the sections of their tags. -/
lemma sections (h : m.Sendable) {mt}
    (serial : m.serialFields = m.serialHeader mt ++ (m.body.fields ++ m.serialTrailer)) :
    m.serialFields.filter (Tags.isHeaderTag ·.tag) = m.serialHeader mt ∧
      m.serialFields.filter (Tags.isBodyTag ·.tag) = m.body.fields ∧
      m.serialFields.filter (Tags.isTrailerTag ·.tag) = m.serialTrailer := by
  have header (f) (mem : f ∈ m.serialHeader mt) := Tags.of_isHeaderTag (h.class_serialHeader mt f mem)
  have body (f) (mem : f ∈ m.body.fields) := Tags.of_isBodyTag (h.body f mem)
  have trailer (f) (mem : f ∈ m.serialTrailer) := Tags.of_isTrailerTag (h.class_serialTrailer f mem)
  simp only [serial, List.filter_append]
  refine ⟨?_, ?_, ?_⟩
  · rw [filter_all (h.class_serialHeader mt), filter_none fun f mem => (body f mem).1,
      filter_none fun f mem => (trailer f mem).1]
    exact List.append_nil _
  · rw [filter_none fun f mem => (header f mem).1, filter_all h.body,
      filter_none fun f mem => (trailer f mem).2]
    exact List.append_nil _
  · rw [filter_none fun f mem => (header f mem).2, filter_none fun f mem => (body f mem).2,
      filter_all h.class_serialTrailer]
    rfl

end Sendable

/-! ## Sections in order -/

/-- The section of a tag. -/
def sectionOf (tag : Tag) : Section :=
  if Tags.isHeaderTag tag then .header else if Tags.isTrailerTag tag then .trailer else .body

/-- The place of a section in a message. -/
def Section.rank : Section → Nat
  | .header => 0
  | .body => 1
  | .trailer => 2

/-- A field that does not come before the section the parser is in is in order. -/
lemma routeField_inOrder {st tv} (pos) (le : st.part.rank ≤ (sectionOf tv.tag).rank) :
    (routeField st pos tv).part = sectionOf tv.tag ∧
      (routeField st pos tv).msg.structureError = st.msg.structureError := by
  unfold routeField
  by_cases sum : tv.tag = Tags.checkSum
  · rw [if_pos sum, sum]
    exact ⟨rfl, rfl⟩
  rw [if_neg sum]
  unfold sectionOf at le ⊢
  cases header : Tags.isHeaderTag tv.tag with
  | true =>
    rw [header, if_pos rfl] at le
    have first : st.part = .header := by
      cases part : st.part with
      | header => rfl
      | body | trailer =>
        rw [part] at le
        cases le
    simp [first]
  | false =>
    cases trailer : Tags.isTrailerTag tv.tag with
    | true => simp
    | false =>
      cases part : st.part with
      | header | body => simp
      | trailer =>
        rw [header, trailer, part] at le
        cases le with
        | step le => cases le

/-- Fields in the order of their sections leave no error. -/
lemma afterAll_inOrder {st : ParseState} {pos} {fs : List WireField}
    (inOrder : fs.Pairwise fun f g => (sectionOf f.tag).rank ≤ (sectionOf g.tag).rank)
    (start : ∀ f ∈ fs, st.part.rank ≤ (sectionOf f.tag).rank) :
    (st.afterAll pos fs).msg.structureError = st.msg.structureError := by
  induction fs generalizing st pos with
  | nil => rfl
  | cons f fs ih =>
    obtain ⟨here, later⟩ := List.pairwise_cons.mp inOrder
    obtain ⟨part, error⟩ := routeField_inOrder pos (start f List.mem_cons_self)
    rw [ParseState.afterAll, ih later]
    · exact error
    · intro g mem
      show (routeField st pos f.toTagValue).part.rank ≤ _
      rw [part]
      exact here g mem

/-- Tags of the sections, in order. -/
lemma sectionOf_header {tag} (h : Tags.isHeaderTag tag = true) : sectionOf tag = .header := if_pos h

/-- Body tags go into the body. -/
lemma sectionOf_body {tag} (h : Tags.isBodyTag tag = true) : sectionOf tag = .body := by
  obtain ⟨header, trailer⟩ := Tags.of_isBodyTag h
  simp [sectionOf, header, trailer]

/-- Trailer tags go into the trailer. -/
lemma sectionOf_trailer {tag} (h : Tags.isTrailerTag tag = true) : sectionOf tag = .trailer := by
  simp [sectionOf, (Tags.of_isTrailerTag h).1, h]

/-- Fields of one section are in order. -/
lemma pairwise_section {p : Section} (own : ∀ f ∈ fs, sectionOf f.tag = p) :
    fs.Pairwise fun f g => (sectionOf f.tag).rank ≤ (sectionOf g.tag).rank := by
  apply List.pairwise_of_forall_mem_list
  intro f mem g mem'
  rw [own f mem, own g mem']

/-- Fields of one section may come before fields of sections that come later. -/
lemma pairwise_sections {gs : List TagValue} {p : Section} (own : ∀ f ∈ fs, sectionOf f.tag = p)
    (later : ∀ g ∈ gs, p.rank ≤ (sectionOf g.tag).rank)
    (inOrder : gs.Pairwise fun f g => (sectionOf f.tag).rank ≤ (sectionOf g.tag).rank) :
    (fs ++ gs).Pairwise fun f g => (sectionOf f.tag).rank ≤ (sectionOf g.tag).rank := by
  rw [List.pairwise_append]
  refine ⟨pairwise_section own, inOrder, fun f mem g mem' => ?_⟩
  rw [own f mem]
  exact later g mem'

namespace Sendable

/-- The sections of a message stand in order. -/
lemma inOrder (h : m.Sendable) : (m.serialFields.map written).Pairwise
    fun f g => (sectionOf f.tag).rank ≤ (sectionOf g.tag).rank := by
  obtain ⟨mt, -, serial⟩ := h.serialFields_eq
  rw [List.pairwise_map, serial]
  refine pairwise_sections (fun f mem => sectionOf_header (h.class_serialHeader mt f mem))
    (fun g _ => Nat.zero_le _) ?_
  refine pairwise_sections (fun f mem => sectionOf_body (h.body f mem)) (fun g mem => ?_) ?_
  · rw [sectionOf_trailer (h.class_serialTrailer g mem)]
    decide
  · exact pairwise_section fun f mem => sectionOf_trailer (h.class_serialTrailer f mem)

/-! ## Length and checksum -/

/-- Where the CheckSum field starts. -/
lemma checksumFieldStart (m : Message) :
    (({} : ParseState).afterAll 0 (m.serialFields.map written)).checksumFieldStart =
      some m.prefixBytes.length := by
  have last : m.serialFields.map written = (⟨Tags.beginString, m.beginBytes⟩ ::
      ⟨Tags.bodyLength, dec m.inner.length⟩ :: m.innerFields : List TagValue).map written ++
        written ⟨Tags.checkSum, padded 3 (checksum m.prefixBytes)⟩ :: [] := by
    simp [serialFields]
  rw [last, afterAll_checksum rfl (by simp), ← prefixBytes_wire, Nat.zero_add]

/-- The CheckSum that is read back. -/
lemma getRaw_checkSum (m : Message) : (FieldMap.mk m.serialTrailer).getRaw Tags.checkSum =
    some (padded 3 (checksum m.prefixBytes)) := by
  have none : m.sortedTrailer.find? (·.tag == Tags.checkSum) = none := by
    rw [List.find?_eq_none]
    intro f mem
    simp [(mem_sortedTrailer.mp mem).2]
  rw [FieldMap.getRaw, serialTrailer, List.find?_append, none]
  rfl

/-- BodyLength and CheckSum are right. -/
lemma checked (h : m.Sendable) (fits : m.toBytes.length < 2 ^ 63) : checkLengthChecksum m.toBytes
    (({} : ParseState).afterAll 0 (m.serialFields.map written)) = .ok () := by
  obtain ⟨header, -, trailer⟩ := afterAll_message (m.serialFields.map written)
  obtain ⟨mt, -, serial⟩ := h.serialFields_eq
  obtain ⟨headers, -, trailers⟩ := h.sections serial
  rw [values_written, headers] at header
  rw [values_written, trailers] at trailer
  have size : m.prefixBytes.length = (writeTagValue Tags.beginString m.beginBytes).length +
      (writeTagValue Tags.bodyLength (dec m.inner.length)).length + m.inner.length := by
    simp only [prefixBytes, beginBytes, List.length_append]
  have whole : m.toBytes = m.prefixBytes ++ writeTagValue Tags.checkSum
    (padded 3 (checksum m.prefixBytes)) := rfl
  have short : m.inner.length < 2 ^ 64 := by
    rw [whole, List.length_append, size] at fits
    omega
  have length : (FieldMap.mk (m.serialHeader mt)).get decodeU64 Tags.bodyLength =
      .ok m.inner.length := by
    show decodeU64 Tags.bodyLength (dec m.inner.length) = _
    rw [decodeU64, parseUnsigned_dec short]
  have sum : (FieldMap.mk m.serialTrailer).get decodeU32 Tags.checkSum =
      .ok (checksum m.prefixBytes) := by
    have small : checksum m.prefixBytes < 2 ^ 32 :=
      (Nat.mod_lt _ (by decide)).trans (by decide : 256 < 2 ^ 32)
    rw [FieldMap.get, getRaw_checkSum]
    show decodeU32 Tags.checkSum _ = _
    rw [decodeU32, parseUnsigned_padded 3 small]
  have start : fieldEndOf m.toBytes 1 = some (m.prefixBytes.length - m.inner.length) := by
    rw [toBytes_wire]
    refine (fieldEndOf_wire h.fields).trans ?_
    rw [size, Nat.add_sub_cancel, List.length_append]
    simp [WireField.bytes, writeTagValue, written]
  rw [checkLengthChecksum, checksumFieldStart, header, length]
  simp only [start, trailer, sum]
  rw [if_neg (by omega), whole, List.take_left, if_neg (by simp)]

end Sendable

/-! ## The round trip -/

/-- The message that is parsed from the bytes of one. -/
def received (m : Message) (mt : Bytes) : Message :=
  { header := ⟨m.serialHeader mt⟩, body := m.body, trailer := ⟨m.serialTrailer⟩ }

/-- The header fields are in order already. -/
lemma sortedHeader_received (m : Message) (mt) : (m.received mt).sortedHeader = m.sortedHeader := by
  have others : m.sortedHeader.filter (fun f =>
      f.tag ∉ [Tags.beginString, Tags.bodyLength, Tags.msgType]) = m.sortedHeader :=
    List.filter_eq_self.mpr fun f mem => decide_eq_true (mem_sortedHeader.mp mem).2
  have ordered : m.sortedHeader.Pairwise (·.tag ≤ ·.tag) :=
    (stablySorted_insertionSort (· ≤ ·) TagValue.tag _).ordered
  show (m.sortedHeader.filter _).insertionSort (·.tag ≤ ·.tag) = m.sortedHeader
  rw [others, ordered.insertionSort_eq]

/-- The trailer as it is written has its fields before CheckSum. -/
lemma filter_serialTrailer (m : Message) :
    m.serialTrailer.filter (·.tag ≠ Tags.checkSum) = m.sortedTrailer := by
  rw [serialTrailer, List.filter_append]
  refine (List.append_nil _).trans (List.filter_eq_self.mpr fun f mem => ?_)
  exact decide_eq_true (mem_sortedTrailer.mp mem).2

/-- So are the trailer fields. -/
lemma sortedTrailer_received (m : Message) (mt) : (m.received mt).sortedTrailer = m.sortedTrailer := by
  have ordered : m.sortedTrailer.Pairwise (·.tag ≥ ·.tag) :=
    (stablySorted_insertionSort (· ≥ ·) TagValue.tag _).ordered
  show (m.serialTrailer.filter _).insertionSort (·.tag ≥ ·.tag) = m.sortedTrailer
  rw [filter_serialTrailer, ordered.insertionSort_eq]

/-- The bytes are the same. -/
lemma toBytes_received {mt} (type : m.header.getRaw Tags.msgType = some mt) :
    (m.received mt).toBytes = m.toBytes := by
  have fields : (m.received mt).innerFields = m.innerFields := by
    rw [innerFields, innerFields, sortedHeader_received, sortedTrailer_received, type]
    rfl
  have start : (m.received mt).prefixBytes = m.prefixBytes := by
    rw [prefixBytes, prefixBytes, inner, fields]
    rfl
  rw [toBytes, toBytes, start]

/-- What is parsed. -/
lemma Sendable.parse_eq (h : m.Sendable) (fits : m.toBytes.length < 2 ^ 63) {mt}
    (serial : m.serialFields = m.serialHeader mt ++ (m.body.fields ++ m.serialTrailer)) :
    parse m.toBytes true = .ok (m.received mt) := by
  have parsed : parseFields m.toBytes.length {} 0 m.toBytes =
      .ok (({} : ParseState).afterAll 0 (m.serialFields.map written)) :=
    (parseFields_ok (le_refl _)).mpr ⟨_, h.fields, toBytes_wire m, rfl⟩
  obtain ⟨header, body, trailer⟩ := afterAll_message (m.serialFields.map written)
  obtain ⟨headers, bodies, trailers⟩ := h.sections serial
  have error : (({} : ParseState).afterAll 0 (m.serialFields.map written)).msg.structureError = none :=
    afterAll_inOrder h.inOrder fun f _ => Nat.zero_le _
  have same : (({} : ParseState).afterAll 0 (m.serialFields.map written)).msg = m.received mt := by
    rw [values_written] at header body trailer
    generalize (({} : ParseState).afterAll 0 (m.serialFields.map written)).msg = t at *
    obtain ⟨_, _, _, _⟩ := t
    simp only at header body trailer error
    rw [header, body, trailer, error, headers, bodies, trailers]
    rfl
  simp only [parse, parsed, h.checked fits, same, bind, Except.bind, if_true, pure, Except.pure]

/-- A message comes back from its bytes: the body as it was, the header as 8, 9 and 35 and the other
fields in ascending order, the trailer in descending order up to CheckSum; and its bytes are the
same. -/
theorem parse_toBytes (h : m.Sendable) (fits : m.toBytes.length < 2 ^ 63) :
    ∃ m' mt headers trailers,
      parse m.toBytes true = .ok m' ∧
      m.header.getRaw Tags.msgType = some mt ∧
      StablySorted (· ≤ ·) TagValue.tag (m.header.fields.filter fun f =>
        f.tag ∉ [Tags.beginString, Tags.bodyLength, Tags.msgType]) headers ∧
      StablySorted (· ≥ ·) TagValue.tag (m.trailer.fields.filter (·.tag ≠ Tags.checkSum)) trailers ∧
      m'.header.fields = [⟨Tags.beginString, m.beginBytes⟩,
        ⟨Tags.bodyLength, dec m.inner.length⟩, ⟨Tags.msgType, mt⟩] ++ headers ∧
      m'.body = m.body ∧
      m'.trailer.fields = trailers ++ [⟨Tags.checkSum, padded 3 (checksum m.prefixBytes)⟩] ∧
      m'.structureError = none ∧
      m'.toBytes = m.toBytes := by
  obtain ⟨mt, type, serial⟩ := h.serialFields_eq
  refine ⟨m.received mt, mt, m.sortedHeader, m.sortedTrailer, h.parse_eq fits serial, type, ?_, ?_,
    rfl, rfl, rfl, rfl, toBytes_received type⟩
  · exact stablySorted_insertionSort (· ≤ ·) TagValue.tag _
  · exact stablySorted_insertionSort (· ≥ ·) TagValue.tag _

/-- A message with delimiters in its data, and a signature. -/
def signedData : Message where
  header := ⟨[⟨Tags.senderCompId, ascii "S"⟩, ⟨Tags.msgType, ascii "B"⟩, ⟨Tags.msgSeqNum, ascii "2"⟩]⟩
  body := ⟨[⟨95, ascii "3"⟩, ⟨96, [soh, 65, soh]⟩]⟩
  trailer := ⟨[⟨Tags.signature, [soh]⟩, ⟨Tags.signatureLength, ascii "1"⟩]⟩

/-- It can be sent. -/
lemma sendable_signedData : signedData.Sendable where
  msgType := by decide
  header := by decide
  body := by decide
  trailer := by decide
  range := by decide
  begins := by decide
  framed := by
    have fields : signedData.innerFields = [⟨Tags.msgType, ascii "B"⟩, ⟨Tags.msgSeqNum, ascii "2"⟩,
      ⟨Tags.senderCompId, ascii "S"⟩, ⟨95, ascii "3"⟩, ⟨96, [soh, 65, soh]⟩,
      ⟨Tags.signatureLength, ascii "1"⟩, ⟨Tags.signature, [soh]⟩] := by decide
    rw [fields]
    have plain (s : String) (h : soh ∉ ascii s := by decide) := h
    exact ⟨plain "B", plain "2", plain "S", plain "3", rfl, plain "1", rfl, trivial⟩

/-- It comes back. -/
theorem parse_toBytes_signedData : ∃ m', parse signedData.toBytes true = .ok m' ∧
    m'.body = signedData.body ∧ m'.structureError = none ∧ m'.toBytes = signedData.toBytes := by
  obtain ⟨m', _, _, _, parsed, _, _, _, _, body, _, error, bytes⟩ :=
    parse_toBytes sendable_signedData (by decide)
  exact ⟨m', parsed, body, error, bytes⟩

example : signedData.prefixBytes.length = 52 ∧ signedData.toBytes.length = 59 := by decide +kernel

end QuickFix.Message
