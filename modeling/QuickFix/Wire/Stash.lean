import QuickFix.Wire.Accept
import QuickFix.Wire.WriteGroups

/-!
# Stashed messages

A message that comes too early is stashed as its own serialization, which is parsed again when its turn
comes. Serializing leaves the body as it was and sorts the header, so that a Length field may come
apart from its data and the instances of a group from each other. An accepted message comes back as it
was exactly where the sort keeps both and its BodyLength is spelled as a serialized one is
(`stash_lossless`).
-/

namespace QuickFix.Message

/-! ## Values that end in place -/

section Framing

variable {pending : Option (Tag × Nat)} {fs gs : List TagValue} {tag : Tag} {value : Bytes}

/-- A field announces data of the tag that its own has in the table. -/
lemma announcedData_other {data} (other : Tags.dataTagForLengthTag tag ≠ some data) :
    (announcedData tag value).filter (·.1 == data) = none := by
  unfold announcedData
  cases table : Tags.dataTagForLengthTag tag with
  | none => rfl
  | some t =>
    rw [table] at other
    have ne : t ≠ data := fun same => other (congrArg some same)
    cases parseUnsigned (2 ^ 64) value with
    | none => rfl
    | some len => simp [Option.filter, ne]

/-- Fields with other tags announce nothing of the data. -/
lemma announcedAfter_other {data} (others : ∀ f ∈ fs, Tags.dataTagForLengthTag f.tag ≠ some data)
    (start : pending.filter (·.1 == data) = none) :
    (announcedAfter pending fs).filter (·.1 == data) = none := by
  induction fs generalizing pending with
  | nil => exact start
  | cons f fs ih =>
    obtain ⟨here, later⟩ := List.forall_mem_cons.mp others
    exact ih later (announcedData_other here)

/-- What is announced counts where its data comes first. -/
lemma framed_start (start : ∀ f ∈ fs, pending.filter (·.1 == f.tag) = none) :
    Framed pending fs ↔ Framed none fs := by
  cases fs with
  | nil => exact Iff.rfl
  | cons f fs =>
    have here := start f List.mem_cons_self
    rw [Framed, Framed, Delimited, here]
    rfl

/-- Fields after others that announce none of them. -/
lemma framed_join (apart : ∀ f ∈ fs, ∀ g ∈ gs, Tags.dataTagForLengthTag f.tag ≠ some g.tag) :
    Framed none (fs ++ gs) ↔ Framed none fs ∧ Framed none gs := by
  have start : ∀ g ∈ gs, (announcedAfter none fs).filter (·.1 == g.tag) = none := fun g mem =>
    announcedAfter_other (fun f mem' => apart f mem' g mem) rfl
  rw [framed_append, framed_start start]

/-- Values without delimiters end where they should. -/
lemma framed_plain (plain : ∀ f ∈ fs, soh ∉ f.value)
    (others : ∀ f ∈ fs, ∀ g ∈ fs, Tags.dataTagForLengthTag f.tag ≠ some g.tag) : Framed none fs := by
  induction fs with
  | nil => trivial
  | cons f fs ih =>
    obtain ⟨here, later⟩ := List.forall_mem_cons.mp plain
    refine ⟨here, (framed_start fun g mem => ?_).mpr (ih later fun g mem h mem' => ?_)⟩
    · exact announcedData_other (others f List.mem_cons_self g (List.mem_cons_of_mem _ mem))
    · exact others g (List.mem_cons_of_mem _ mem) h (List.mem_cons_of_mem _ mem')

/-- No other values have delimiters than data. -/
lemma Framed.plain (h : Framed pending fs) (start : pending.filter (·.1 == tag) = none)
    (none : ∀ t, Tags.dataTagForLengthTag t ≠ some tag) : ∀ f ∈ fs, f.tag = tag → soh ∉ f.value := by
  induction fs generalizing pending with
  | nil => simp
  | cons f fs ih =>
    obtain ⟨here, later⟩ := h
    intro g mem own
    cases mem with
    | head =>
      rw [Delimited, own, start] at here
      exact here
    | tail _ mem => exact ih later (announcedData_other (none f.tag)) g mem own

/-- Fields in their places end in place. -/
lemma framed_values {n} {fs : List WireField} (fields : Fields n pending fs) :
    Framed pending (values fs) := by
  induction fs generalizing n pending with
  | nil => trivial
  | cons f fs ih => exact ⟨fields.1.delimited, ih fields.2⟩

end Framing

/-! ## Fields in order -/

section InOrder

variable {st : ParseState} {fs : List WireField}

/-- A field that leaves no error comes in order. -/
lemma routeField_ordered {pos tv} (ordered : (routeField st pos tv).msg.structureError = none) :
    st.msg.structureError = none ∧ st.part.rank ≤ (sectionOf tv.tag).rank ∧
      (routeField st pos tv).part = sectionOf tv.tag := by
  have before : st.msg.structureError = none ∧ st.part.rank ≤ (sectionOf tv.tag).rank := by
    unfold routeField at ordered
    unfold sectionOf
    by_cases sum : tv.tag = Tags.checkSum
    · rw [if_pos sum] at ordered
      rw [sum]
      refine ⟨ordered, ?_⟩
      cases st.part <;> decide
    rw [if_neg sum] at ordered
    cases header : Tags.isHeaderTag tv.tag with
    | true =>
      rw [header, if_pos rfl] at ordered
      cases part : st.part with
      | header => simpa [part] using ordered
      | body | trailer => cases error : st.msg.structureError <;> simp [part, error] at ordered
    | false =>
      cases trailer : Tags.isTrailerTag tv.tag with
      | true =>
        simp only [header, trailer, if_true] at ordered
        refine ⟨ordered, ?_⟩
        cases st.part <;> decide
      | false =>
        simp only [header, trailer] at ordered
        cases part : st.part with
        | header | body =>
          simp only [part] at ordered
          exact ⟨ordered, by decide⟩
        | trailer => cases error : st.msg.structureError <;> simp [part, error] at ordered
  exact ⟨before.1, before.2, (routeField_inOrder pos before.2).1⟩

/-- Fields that leave no error come in order. -/
lemma afterAll_ordered {pos} (ordered : (st.afterAll pos fs).msg.structureError = none) :
    st.msg.structureError = none ∧ (∀ f ∈ fs, st.part.rank ≤ (sectionOf f.tag).rank) ∧
      fs.Pairwise fun f g => (sectionOf f.tag).rank ≤ (sectionOf g.tag).rank := by
  induction fs generalizing st pos with
  | nil => exact ⟨ordered, by simp, List.Pairwise.nil⟩
  | cons f fs ih =>
    obtain ⟨none, later, pairs⟩ := ih ordered
    obtain ⟨before, le, part⟩ := routeField_ordered none
    have behind : ∀ g ∈ fs, (sectionOf f.tag).rank ≤ (sectionOf g.tag).rank := by
      intro g mem
      rw [← part]
      exact later g mem
    refine ⟨before, ?_, List.Pairwise.cons behind pairs⟩
    intro g mem
    cases mem with
    | head => exact le
    | tail _ mem => exact le.trans (behind g mem)

/-- They are those of the header, those of the body and those of the trailer. -/
lemma values_ordered {fs : List TagValue}
    (ordered : fs.Pairwise fun f g => (sectionOf f.tag).rank ≤ (sectionOf g.tag).rank) :
    fs = fs.filter (Tags.isHeaderTag ·.tag) ++ (fs.filter (Tags.isBodyTag ·.tag) ++
      fs.filter (Tags.isTrailerTag ·.tag)) := by
  have split : fs = (fs.filter fun f => ¬ 1 ≤ (sectionOf f.tag).rank) ++
      ((fs.filter fun f => (sectionOf f.tag).rank = 1) ++
        fs.filter fun f => ¬ (sectionOf f.tag).rank ≤ 1) := ordered_split ordered 1
  have ranks (tag : Tag) : (¬ 1 ≤ (sectionOf tag).rank ↔ Tags.isHeaderTag tag = true) ∧
      ((sectionOf tag).rank = 1 ↔ Tags.isBodyTag tag = true) ∧
      (¬ (sectionOf tag).rank ≤ 1 ↔ Tags.isTrailerTag tag = true) := by
    unfold sectionOf Tags.isBodyTag
    cases header : Tags.isHeaderTag tag with
    | true => simp [Tags.not_isTrailerTag header, Section.rank]
    | false => cases Tags.isTrailerTag tag <;> simp [Section.rank]
  simpa only [(ranks _).1, (ranks _).2.1, (ranks _).2.2, Bool.decide_eq_true] using split

end InOrder

/-! ## A message as it arrived -/

/-- A message with its sections in order, as the parser makes it. -/
structure Arrived (m : Message) : Prop where
  beginString : m.header.contains Tags.beginString = true
  msgType : m.header.contains Tags.msgType = true
  header : ∀ f ∈ m.header.fields, Tags.isHeaderTag f.tag = true
  body : ∀ f ∈ m.body.fields, Tags.isBodyTag f.tag = true
  trailer : ∀ f ∈ m.trailer.fields, Tags.isTrailerTag f.tag = true
  range : ∀ f ∈ m.body.fields, -2 ^ 31 ≤ f.tag ∧ f.tag < 2 ^ 31
  framed : Framed none (m.header.fields ++ (m.body.fields ++ m.trailer.fields))

/-- Accepted fields have a type. -/
lemma Summed.third {gs hs : List WireField} {c : WireField} (summed : Summed gs c hs) :
    ∃ x y z fs, gs ++ c :: hs = x :: y :: z :: fs ∧ x.tag = Tags.beginString ∧ z.tag = Tags.msgType := by
  have fields := summed.fields
  obtain ⟨x, y, fs, rfl⟩ := two_le_of_checksum fields summed.sum
  obtain ⟨tag, -⟩ := leading_tags fields
  obtain ⟨z, zs, rest⟩ : ∃ z zs, fs ++ c :: hs = z :: zs := by
    cases fs with
    | nil => exact ⟨c, hs, rfl⟩
    | cons z zs => exact ⟨z, zs ++ c :: hs, rfl⟩
  rw [List.cons_append, List.cons_append, rest] at fields ⊢
  refine ⟨x, y, z, zs, rfl, tag, ?_⟩
  by_contra other
  simpa [checkLeading, other] using fields.2.2.1.leading

variable {raw : Bytes} {m : Message}

/-- What is accepted with its sections in order has arrived. -/
lemma arrived_of_parse (accepted : parse raw true = .ok m) (inOrder : m.structureError = none) :
    m.Arrived := by
  obtain ⟨gs, c, hs, summed, -, rfl⟩ := parse_true_ok.mp accepted
  obtain ⟨header, body, trailer⟩ := afterAll_message (gs ++ c :: hs)
  obtain ⟨-, -, pairs⟩ := afterAll_ordered inOrder
  have present {f : WireField} (mem : f ∈ gs ++ c :: hs) (own : Tags.isHeaderTag f.tag = true) :
      (({} : ParseState).afterAll 0 (gs ++ c :: hs)).msg.header.contains f.tag = true := by
    rw [header]
    exact List.any_eq_true.mpr ⟨f.toTagValue,
      List.mem_filter.mpr ⟨List.mem_map_of_mem mem, own⟩, by simp⟩
  obtain ⟨x, y, z, fs, three, first, third⟩ := summed.third
  constructor
  case beginString =>
    have mem : x ∈ gs ++ c :: hs := by simp [three]
    exact first ▸ present mem (by rw [first]; rfl)
  case msgType =>
    have mem : z ∈ gs ++ c :: hs := by simp [three]
    exact third ▸ present mem (by rw [third]; rfl)
  case header =>
    rw [header]
    exact fun f mem => (List.mem_filter.mp mem).2
  case body =>
    rw [body]
    exact fun f mem => (List.mem_filter.mp mem).2
  case trailer =>
    rw [trailer]
    exact fun f mem => (List.mem_filter.mp mem).2
  case range =>
    rw [body]
    intro f mem
    obtain ⟨g, own, rfl⟩ := List.mem_map.mp (List.mem_filter.mp mem).1
    obtain ⟨n, pending, fit⟩ := fits_of_mem summed.fields own
    exact parseSigned_range fit.number
  case framed =>
    have ordered : (values (gs ++ c :: hs)).Pairwise
        fun f g => (sectionOf f.tag).rank ≤ (sectionOf g.tag).rank := List.pairwise_map.mpr pairs
    rw [header, body, trailer]
    exact values_ordered ordered ▸ framed_values summed.fields

/-! ## What the sort leaves -/

/-- The Length fields and the data fields of a pair, as the sort leaves them. -/
def paired (length data : Tag) (fs : List TagValue) : List TagValue :=
  fs.filter (·.tag = length) ++ fs.filter (·.tag = data)

/-- What is counted by BodyLength, in the order it arrived in. -/
def counted (m : Message) : List TagValue :=
  ((m.header.getRaw Tags.msgType).map (TagValue.mk Tags.msgType)).toList ++
    (m.header.fields.filter fun f => f.tag ∉ [Tags.beginString, Tags.bodyLength, Tags.msgType]) ++
    m.body.fields ++ m.trailer.fields.filter (·.tag ≠ Tags.checkSum)

/-- BodyLength is the length of the fields with plain tags, and a plain number. -/
def LengthSpelled (m : Message) : Prop :=
  m.header.getRaw Tags.bodyLength = some (dec (FieldMap.writeTo ⟨m.counted⟩).length)

/-- The NoHops group of the standard header. -/
def hops : GroupTemplate := ⟨Tags.noHops, [Tags.hopCompId, Tags.hopSendingTime, Tags.hopRefId], by decide⟩

/-- The fields of the hops, tag by tag. -/
def hopsByTag (m : Message) : List TagValue :=
  paired Tags.noHops Tags.hopCompId m.header.fields ++
    paired Tags.hopSendingTime Tags.hopRefId m.header.fields

/-- The hops are the same when they are read tag by tag. -/
def HopsKept (m : Message) : Prop :=
  FieldMap.readGroups ⟨m.hopsByTag⟩ hops = m.header.readGroups hops

/-- The data of the header comes after its Length fields as they are sorted. -/
def PairsKept (m : Message) : Prop :=
  Framed none (paired Tags.secureDataLen Tags.secureData m.header.fields) ∧
    Framed none (paired Tags.xmlDataLen Tags.xmlData m.header.fields)

/-- The message that came back is the one that was stashed. -/
structure SameAs (m' m : Message) : Prop where
  body : m'.body.fields = m.body.fields
  header : ∀ tag, Tags.isHeaderTag tag = true → m'.header.getRaw tag = m.header.getRaw tag
  groups : ∀ t, m'.body.readGroups t = m.body.readGroups t
  hops : m'.header.readGroups hops = m.header.readGroups hops

/-- What is stashed for a message comes back as that message. -/
def Lossless (m : Message) (validateLengthChecksum : Bool) : Prop :=
  ∃ m', parse m.toBytes validateLengthChecksum = .ok m' ∧ SameAs m' m

/-- Of fields chosen by their tags, those with one of these are all there are. -/
lemma filter_tag {p : Tag → Bool} {tag} (own : p tag = true) (fs : List TagValue) :
    (fs.filter (p ·.tag)).filter (·.tag = tag) = fs.filter (·.tag = tag) := by
  rw [List.filter_filter]
  apply List.filter_congr
  intro f _
  by_cases here : f.tag = tag
  · simpa [here] using own
  · simp [here]

/-- The tags that are sorted. -/
def sorts (tag : Tag) : Bool := decide (tag ∉ [Tags.beginString, Tags.bodyLength, Tags.msgType])

/-- Sorting leaves the first value of a tag. -/
lemma getRaw_sortedHeader {m : Message} {tag} (other : sorts tag = true) :
    (FieldMap.mk m.sortedHeader).getRaw tag = m.header.getRaw tag := by
  have sorted : StablySorted (· ≤ ·) TagValue.tag (m.header.fields.filter (sorts ·.tag)) m.sortedHeader :=
    stablySorted_insertionSort (· ≤ ·) TagValue.tag _
  have first := sorted.find?_eq tag
  rw [← FieldMap.getRaw_filter other m.header.fields, FieldMap.getRaw, FieldMap.getRaw]
  exact congrArg _ first

/-- The leading fields apart, a header is read as it was written. -/
lemma getRaw_serialHeader {m : Message} (mt : Bytes) {tag} (other : sorts tag = true) :
    (FieldMap.mk (m.serialHeader mt)).getRaw tag = m.header.getRaw tag := by
  have apart : Tags.beginString ≠ tag ∧ Tags.bodyLength ≠ tag ∧ Tags.msgType ≠ tag := by
    have tags : tag ∉ [Tags.beginString, Tags.bodyLength, Tags.msgType] := of_decide_eq_true other
    simp only [List.mem_cons, List.not_mem_nil, or_false, not_or] at tags
    exact ⟨Ne.symm tags.1, Ne.symm tags.2.1, Ne.symm tags.2.2⟩
  rw [serialHeader, FieldMap.getRaw_cons, FieldMap.getRaw_cons, FieldMap.getRaw_cons, if_neg apart.1,
    if_neg apart.2.1, if_neg apart.2.2, getRaw_sortedHeader other]

/-- The sorted header has two pairs of tags, each with its fields in the order they arrived in. -/
structure HeaderSplit (m : Message) (i j k l : Tag) (before middle behind : List TagValue) : Prop where
  fields : m.sortedHeader = before ++ (paired i j m.header.fields ++
    (middle ++ (paired k l m.header.fields ++ behind)))
  before : ∀ f ∈ before, f ∈ m.sortedHeader ∧ f.tag < i
  middle : ∀ f ∈ middle, f ∈ m.sortedHeader ∧ j < f.tag ∧ f.tag < k
  behind : ∀ f ∈ behind, f ∈ m.sortedHeader ∧ l < f.tag

/-- So it has for pairs of header tags that follow one another. -/
lemma sortedHeader_split (h : m.Arrived) {i j k l : Tag} (lt : i < j ∧ j < k ∧ k < l)
    (others : ∀ t ∈ [i, j, k, l], sorts t = true)
    (between : ∀ t ∈ Tags.headerTags, (i ≤ t → t ≤ j → t = i ∨ t = j) ∧ (k ≤ t → t ≤ l → t = k ∨ t = l)) :
    ∃ before middle behind, m.HeaderSplit i j k l before middle behind := by
  have sorted : StablySorted (· ≤ ·) TagValue.tag (m.header.fields.filter (sorts ·.tag)) m.sortedHeader :=
    stablySorted_insertionSort (· ≤ ·) TagValue.tag _
  have class' (f) (mem : f ∈ m.sortedHeader) : f.tag ∈ Tags.headerTags :=
    of_decide_eq_true (h.header f (mem_sortedHeader.mp mem).1)
  have first := sorted.split_pair lt.1.le lt.1.ne fun f mem => (between f.tag (class' f mem)).1
  have second := (sorted.filter (fun t => ¬ t ≤ j)).split_pair lt.2.2.le lt.2.2.ne fun f mem =>
    (between f.tag (class' f (List.mem_filter.mp mem).1)).2
  have above {t} (behind : j < t) : decide (¬ t ≤ j) = true := decide_eq_true (not_le.mpr behind)
  rw [second, filter_tag (p := fun t => ¬ t ≤ j) (above lt.2.1),
    filter_tag (p := fun t => ¬ t ≤ j) (above (lt.2.1.trans lt.2.2)), filter_tag (others i (by simp)),
    filter_tag (others j (by simp)), filter_tag (others k (by simp)),
    filter_tag (others l (by simp))] at first
  refine ⟨m.sortedHeader.filter fun f => ¬ i ≤ f.tag,
    (m.sortedHeader.filter fun f => ¬ f.tag ≤ j).filter fun f => ¬ k ≤ f.tag,
    (m.sortedHeader.filter fun f => ¬ f.tag ≤ j).filter fun f => ¬ f.tag ≤ l, ?_, ?_, ?_, ?_⟩
  · simpa only [paired, List.append_assoc] using first
  · intro f mem
    simpa using mem
  · intro f mem
    simpa [and_left_comm, and_comm] using mem
  · intro f mem
    obtain ⟨own, above⟩ := List.mem_filter.mp mem
    exact ⟨(List.mem_filter.mp own).1, not_le.mp (of_decide_eq_true above)⟩

/-- The sorted trailer is its signature. -/
lemma sortedTrailer_eq (h : m.Arrived) : m.sortedTrailer =
    paired Tags.signatureLength Tags.signature m.trailer.fields := by
  have sorted := stablySorted_insertionSort (· ≥ ·) TagValue.tag
    (m.trailer.fields.filter (·.tag ≠ Tags.checkSum))
  change StablySorted (· ≥ ·) TagValue.tag _ m.sortedTrailer at sorted
  have tags : ∀ f ∈ m.sortedTrailer, f.tag = Tags.signatureLength ∨ f.tag = Tags.signature := by
    intro f mem
    obtain ⟨own, other⟩ := mem_sortedTrailer.mp mem
    have class' := of_decide_eq_true (h.trailer f own)
    simp only [List.mem_cons, List.not_mem_nil, or_false] at class'
    tauto
  have first := sorted.split_pair (i := Tags.signatureLength) (j := Tags.signature) (by decide) (by decide)
    fun f mem _ _ => tags f mem
  have none : (m.sortedTrailer.filter fun f => ¬ Tags.signatureLength ≥ f.tag) = [] ∧
      (m.sortedTrailer.filter fun f => ¬ f.tag ≥ Tags.signature) = [] := by
    constructor
    · refine List.filter_eq_nil_iff.mpr fun f mem => ?_
      rcases tags f mem with tag | tag <;> rw [tag] <;> decide
    · refine List.filter_eq_nil_iff.mpr fun f mem => ?_
      rcases tags f mem with tag | tag <;> rw [tag] <;> decide
  rw [none.1, none.2, filter_tag (p := fun t => t ≠ Tags.checkSum) (by decide),
    filter_tag (p := fun t => t ≠ Tags.checkSum) (by decide)] at first
  simpa [paired] using first

/-! ## The sorted header on the wire -/

/-- In the header two tags announce data. -/
lemma header_announces {t d} (own : Tags.isHeaderTag t = true)
    (table : Tags.dataTagForLengthTag t = some d) :
    t = Tags.secureDataLen ∧ d = Tags.secureData ∨ t = Tags.xmlDataLen ∧ d = Tags.xmlData := by
  have all : ∀ t ∈ Tags.headerTags, Tags.dataTagForLengthTag t = none ∨
      t = Tags.secureDataLen ∧ Tags.dataTagForLengthTag t = some Tags.secureData ∨
      t = Tags.xmlDataLen ∧ Tags.dataTagForLengthTag t = some Tags.xmlData := by decide
  rcases all t (of_decide_eq_true own) with none | ⟨here, data⟩ | ⟨here, data⟩
  · cases none.symm.trans table
  · exact .inl ⟨here, Option.some.inj (table.symm.trans data)⟩
  · exact .inr ⟨here, Option.some.inj (table.symm.trans data)⟩

/-- Data is in the section of its length. -/
lemma sectionOf_announced {t d} (table : Tags.dataTagForLengthTag t = some d) :
    sectionOf t = sectionOf d := by
  have all : ∀ p ∈ Tags.lengthDataTags, sectionOf p.1 = sectionOf p.2 := by decide
  obtain ⟨l, r, pairs, -⟩ := List.lookup_eq_some_iff.mp table
  exact all (t, d) (by rw [pairs]; simp)

/-- What goes into the header has a header tag. -/
lemma isHeaderTag_of_section {t} (h : sectionOf t = .header) : Tags.isHeaderTag t = true := by
  unfold sectionOf at h
  split at h
  case isTrue own => exact own
  case isFalse => split at h <;> cases h

namespace Arrived

/-- Header fields that are no data have no delimiters. -/
lemma plain (h : m.Arrived) {f} (mem : f ∈ m.header.fields)
    (other : f.tag ≠ Tags.secureData ∧ f.tag ≠ Tags.xmlData) : soh ∉ f.value := by
  have framed := (framed_append.mp h.framed).1
  refine framed.plain rfl (fun t table => ?_) f mem rfl
  have own : Tags.isHeaderTag t = true := isHeaderTag_of_section
    ((sectionOf_announced table).trans (sectionOf_header (h.header f mem)))
  rcases header_announces own table with ⟨-, data⟩ | ⟨-, data⟩
  · exact other.1 data
  · exact other.2 data

/-- The fields that are counted, with the type in front. -/
lemma innerFields_eq (h : m.Arrived) : ∃ f ∈ m.header.fields, f.tag = Tags.msgType ∧
    m.header.getRaw Tags.msgType = some f.value ∧
    m.innerFields = f :: (m.sortedHeader ++ (m.body.fields ++ m.sortedTrailer)) := by
  have present := h.msgType
  rw [FieldMap.contains, List.any_eq_true, ← List.find?_isSome] at present
  obtain ⟨f, found⟩ := Option.isSome_iff_exists.mp present
  have type : m.header.getRaw Tags.msgType = some f.value := by
    rw [FieldMap.getRaw, found]
    rfl
  have tag : f.tag = Tags.msgType := by simpa using List.find?_some found
  refine ⟨f, List.mem_of_find?_eq_some found, tag, type, ?_⟩
  obtain ⟨_, value⟩ := f
  cases tag
  simp [innerFields, type]

/-- The BeginString that is written. -/
lemma begins (h : m.Arrived) :
    m.header.getRaw Tags.beginString = some m.beginBytes ∧ soh ∉ m.beginBytes := by
  have present := h.beginString
  rw [FieldMap.contains, List.any_eq_true, ← List.find?_isSome] at present
  obtain ⟨f, found⟩ := Option.isSome_iff_exists.mp present
  have raw : m.header.getRaw Tags.beginString = some f.value := by
    rw [FieldMap.getRaw, found]
    rfl
  have bytes : m.beginBytes = f.value := by
    rw [beginBytes, raw]
    rfl
  have tag : f.tag = Tags.beginString := by simpa using List.find?_some found
  refine ⟨bytes ▸ raw, bytes ▸ h.plain (List.mem_of_find?_eq_some found) ?_⟩
  rw [tag]
  decide

end Arrived

/-- The first field of a tag in the sorted header is read where the one before it lets it end. -/
lemma read_first (h : m.Arrived) {v m'} (parsed : parse m.toBytes v = .ok m') {front d rest}
    (split : m.sortedHeader = front ++ d :: rest) (framed : Framed none front)
    (fresh : ∀ f ∈ front, f.tag ≠ d.tag) :
    ∃ value, m'.header.getRaw d.tag = some value ∧ Delimited (announcedAfter none front) d.tag value := by
  obtain ⟨type, mem, tag, -, inner⟩ := h.innerFields_eq
  have own (f) (mem : f ∈ m.sortedHeader) : Tags.isHeaderTag f.tag = true :=
    h.header f (mem_sortedHeader.mp mem).1
  have range (f) (mem : f ∈ m.sortedHeader) := range_of_class (.inl (own f mem))
  have inner' : d ∈ m.sortedHeader ∧ ∀ f ∈ front, f ∈ m.sortedHeader := by
    rw [split]
    exact ⟨by simp, fun f mem => List.mem_append_left _ mem⟩
  -- the fields in front stand in their places
  have silent : announcedData type.tag type.value = none := by
    rw [tag]
    rfl
  have plain : soh ∉ type.value := h.plain mem (by rw [tag]; decide)
  have lead : Fields 0 none ((⟨Tags.beginString, m.beginBytes⟩ ::
      ⟨Tags.bodyLength, dec m.inner.length⟩ :: type :: front : List TagValue).map written) := by
    refine ⟨fits_written (range_of_class (.inl rfl)) h.begins.2 rfl,
      fits_written (range_of_class (.inl rfl)) (soh_not_mem_dec _) rfl,
      fits_written (range_of_class (.inl (by rw [tag]; rfl))) plain (by rw [tag]; rfl), ?_⟩
    change Fields 3 (announcedData type.tag type.value) _
    rw [silent]
    exact fields_written (le_refl 3) (fun f mem => range f (inner'.2 f mem)) framed
  obtain ⟨fs, fields, same, rfl⟩ := fields_of_parse parsed
  rw [toBytes_wire, serialFields, inner, split] at same
  have tail : wire fs = wire ((⟨Tags.beginString, m.beginBytes⟩ ::
      ⟨Tags.bodyLength, dec m.inner.length⟩ :: type :: front : List TagValue).map written) ++
        wire ((d :: (rest ++ (m.body.fields ++ m.sortedTrailer) ++
          [⟨Tags.checkSum, padded 3 (checksum m.prefixBytes)⟩])).map written) := by
    rw [← same, ← wire_append, ← List.map_append]
    simp
  obtain ⟨ks, rfl, behind⟩ := fields_prefix lead fields tail
  cases ks with
  | nil =>
    rw [List.map_cons, wire_cons, wire_nil] at behind
    exact absurd behind (by simp [WireField.bytes])
  | cons k ks =>
    have fit := (fields_append.mp fields).2.1
    rw [pendingAfter_written] at fit
    have equals : k.tagBytes ++ 61 :: (k.value ++ soh :: wire ks) = itoa d.tag ++ 61 ::
        (d.value ++ soh :: wire ((rest ++ (m.body.fields ++ m.sortedTrailer) ++
          [(⟨Tags.checkSum, padded 3 (checksum m.prefixBytes)⟩ : TagValue)]).map written)) := by
      simpa [WireField.bytes, written] using behind
    obtain ⟨number, -⟩ := fit.until_equals (plain_itoa d.tag) equals
    have tag' : k.tag = d.tag := by
      have read := fit.number
      rw [number, parseSigned_itoa (range d inner'.1).1 (range d inner'.1).2] at read
      exact (Option.some.inj read).symm
    refine ⟨k.value, ?_, ?_⟩
    · have others := (mem_sortedHeader.mp inner'.1).2
      simp only [List.mem_cons, List.not_mem_nil, or_false, not_or] at others
      have before : (FieldMap.mk front).getRaw d.tag = none := by
        rw [FieldMap.getRaw, List.find?_eq_none.mpr fun f mem => by simp [fresh f mem]]
        rfl
      rw [(afterAll_message _).1, FieldMap.getRaw_filter (own d inner'.1), values, List.map_append,
        FieldMap.getRaw_append, ← values, values_written, FieldMap.getRaw_cons,
        if_neg (Ne.symm others.1), FieldMap.getRaw_cons, if_neg (Ne.symm others.2.1),
        FieldMap.getRaw_cons, if_neg (by rw [tag]; exact Ne.symm others.2.2), before, List.map_cons,
        FieldMap.getRaw_cons, if_pos tag']
      rfl
    · have delimited := fit.delimited
      rw [tag'] at delimited
      change Delimited (announcedAfter (announcedData type.tag type.value) front) _ _ at delimited
      rwa [silent] at delimited

/-! ## Lengths and data in the sorted header -/

/-- What is announced after fields after fields. -/
lemma announcedAfter_append (pending) (fs gs : List TagValue) :
    announcedAfter pending (fs ++ gs) = announcedAfter (announcedAfter pending fs) gs := by
  induction fs generalizing pending with
  | nil => rfl
  | cons f fs ih => exact ih _

/-- Fields that announce no data of a tag do not change where it ends. -/
lemma delimited_behind {front fs : List TagValue} {data value}
    (apart : ∀ f ∈ front, Tags.dataTagForLengthTag f.tag ≠ some data) :
    Delimited (announcedAfter none (front ++ fs)) data value ↔
      Delimited (announcedAfter none fs) data value := by
  rw [announcedAfter_append]
  cases fs with
  | nil =>
    show Delimited (announcedAfter none front) data value ↔ _
    rw [Delimited, announcedAfter_other apart rfl]
    rfl
  | cons f fs => exact Iff.rfl

/-- The pairs of the header. -/
def headerPairs : List (Tag × Tag) :=
  [(Tags.secureDataLen, Tags.secureData), (Tags.xmlDataLen, Tags.xmlData)]

namespace Arrived

/-- Header fields are cut anywhere but in front of data. -/
lemma header_join {fs gs : List TagValue} {k : Tag} (own : ∀ f ∈ fs, Tags.isHeaderTag f.tag = true)
    (lo : ∀ f ∈ fs, f.tag < k) (hi : ∀ g ∈ gs, k ≤ g.tag) (cut : k ≠ Tags.secureData ∧ k ≠ Tags.xmlData) :
    Framed none (fs ++ gs) ↔ Framed none fs ∧ Framed none gs := by
  apply framed_join
  intro f mem g mem' table
  have below : (f.tag : Int) < k := lo f mem
  have above : (k : Int) ≤ g.tag := hi g mem'
  rcases header_announces (own f mem) table with ⟨here, data⟩ | ⟨here, data⟩
  · rw [here] at below
    rw [data] at above
    exact cut.1 (le_antisymm above below)
  · rw [here] at below
    rw [data] at above
    exact cut.2 (le_antisymm above below)

/-- Header fields without data end in place. -/
lemma framed_others (h : m.Arrived) {fs : List TagValue} (own : ∀ f ∈ fs, f ∈ m.header.fields)
    (other : ∀ f ∈ fs, f.tag ≠ Tags.secureData ∧ f.tag ≠ Tags.xmlData) : Framed none fs := by
  refine framed_plain (fun f mem => h.plain (own f mem) (other f mem)) fun f mem g mem' table => ?_
  rcases header_announces (h.header f (own f mem)) table with ⟨-, data⟩ | ⟨-, data⟩
  · exact (other g mem').1 data
  · exact (other g mem').2 data

/-- The lengths of a pair have no data. -/
lemma framed_lengths (h : m.Arrived) {length data} (pair : (length, data) ∈ headerPairs) :
    Framed none (m.header.fields.filter (·.tag = length)) := by
  have table : ∀ p ∈ headerPairs, p.1 ≠ Tags.secureData ∧ p.1 ≠ Tags.xmlData := by decide
  refine h.framed_others (fun f mem => (List.mem_filter.mp mem).1) fun f mem => ?_
  rw [of_decide_eq_true (List.mem_filter.mp mem).2]
  exact table _ pair

/-- A pair ends in place when its first data does, if there is no other data with delimiters. -/
lemma framed_paired (h : m.Arrived) {length data} (pair : (length, data) ∈ headerPairs)
    (further : ∀ f ∈ (m.header.fields.filter (·.tag = data)).tail, soh ∉ f.value) :
    Framed none (paired length data m.header.fields) ↔
      ∀ f ∈ (m.header.fields.filter (·.tag = data)).head?,
        Delimited (announcedAfter none (m.header.fields.filter (·.tag = length))) data f.value := by
  have table : ∀ p ∈ headerPairs, Tags.dataTagForLengthTag p.2 = none := by decide
  have last : Tags.dataTagForLengthTag data = none := table _ pair
  have lengths := h.framed_lengths pair
  have tags (f) (mem : f ∈ m.header.fields.filter (·.tag = data)) : f.tag = data :=
    of_decide_eq_true (List.mem_filter.mp mem).2
  rw [paired, framed_append]
  cases found : m.header.fields.filter (·.tag = data) with
  | nil => simpa [Framed] using lengths
  | cons d ds =>
    rw [found] at further tags
    have tag : d.tag = data := tags d List.mem_cons_self
    have silent : announcedData d.tag d.value = none := by
      rw [tag, announcedData, last]
      rfl
    have rest : Framed (announcedData d.tag d.value) ds := by
      rw [silent]
      refine framed_plain further fun f mem g _ => ?_
      rw [tags f (List.mem_cons_of_mem _ mem), last]
      exact fun same => by cases same
    constructor
    · rintro ⟨-, here, -⟩ f mem
      obtain rfl : d = f := by simpa using mem
      rwa [tag] at here
    · intro first
      refine ⟨lengths, ?_, rest⟩
      rw [tag]
      exact first d rfl

/-- A message that came back has its pairs kept. -/
lemma pair_kept (h : m.Arrived) {v m'} (parsed : parse m.toBytes v = .ok m') (same : SameAs m' m)
    {length data} (pair : (length, data) ∈ headerPairs) {front rest}
    (split : m.sortedHeader = front ++ (paired length data m.header.fields ++ rest))
    (framed : Framed none front) (before : ∀ f ∈ front, f.tag < length)
    (further : ∀ f ∈ (m.header.fields.filter (·.tag = data)).tail, soh ∉ f.value) :
    Framed none (paired length data m.header.fields) := by
  have table : ∀ p ∈ headerPairs, Tags.isHeaderTag p.2 = true ∧ p.1 < p.2 ∧
      (p.1 ≠ Tags.secureData ∧ p.1 ≠ Tags.xmlData) ∧ ∀ q ∈ headerPairs, q.2 = p.2 → q.1 = p.1 := by
    decide
  obtain ⟨own, lt, cut, only⟩ := table _ pair
  dsimp only at own lt cut only
  have header (f) (mem : f ∈ front) : Tags.isHeaderTag f.tag = true := by
    have mem' : f ∈ m.sortedHeader := by
      rw [split]
      exact List.mem_append_left _ mem
    exact h.header f (mem_sortedHeader.mp mem').1
  rw [h.framed_paired pair further]
  intro d mem
  obtain ⟨ds, found⟩ := List.head?_eq_some_iff.mp mem
  have tag : d.tag = data := by
    have mem : d ∈ m.header.fields.filter (·.tag = data) := by simp [found]
    exact of_decide_eq_true (List.mem_filter.mp mem).2
  have split' : m.sortedHeader =
      (front ++ m.header.fields.filter (·.tag = length)) ++ d :: (ds ++ rest) := by
    rw [split, paired, found]
    simp
  have framed' : Framed none (front ++ m.header.fields.filter (·.tag = length)) := by
    refine (header_join header before (fun f mem => ?_) cut).mpr ⟨framed, h.framed_lengths pair⟩
    exact (of_decide_eq_true (List.mem_filter.mp mem).2).ge
  obtain ⟨value, read, delimited⟩ := read_first h parsed split' framed' (by
    intro f mem
    rw [tag]
    rcases List.mem_append.mp mem with mem | mem
    · exact ((before f mem).trans lt).ne
    · rw [of_decide_eq_true (List.mem_filter.mp mem).2]
      exact lt.ne)
  rw [tag, same.header data own, FieldMap.getRaw, ← List.head?_filter] at read
  have value' : value = d.value := by
    have first : (m.header.fields.filter (·.tag == data)).head? = some d := mem
    rw [first] at read
    exact (Option.some.inj read).symm
  rw [tag, value', delimited_behind] at delimited
  · exact delimited
  · intro f mem table
    have lo := before f mem
    rcases header_announces (header f mem) table with ⟨here, data⟩ | ⟨here, data⟩
    · have eq := only (Tags.secureDataLen, Tags.secureData) (by decide) data.symm
      exact (here.trans eq).not_lt lo
    · have eq := only (Tags.xmlDataLen, Tags.xmlData) (by decide) data.symm
      exact (here.trans eq).not_lt lo

end Arrived

/-- The data of the header is split off between its other fields. -/
lemma Arrived.split_data (h : m.Arrived) : ∃ before middle behind, m.HeaderSplit Tags.secureDataLen
    Tags.secureData Tags.xmlDataLen Tags.xmlData before middle behind :=
  sortedHeader_split h (by decide) (by decide) (by decide)

/-- So are the hops. -/
lemma Arrived.split_hops (h : m.Arrived) : ∃ before behind, m.sortedHeader =
    before ++ (m.hopsByTag ++ behind) ∧ (∀ f ∈ before, f.tag < Tags.noHops) ∧
      ∀ f ∈ behind, Tags.hopRefId < f.tag := by
  obtain ⟨before, middle, behind, split⟩ := sortedHeader_split h (i := Tags.noHops)
    (j := Tags.hopCompId) (k := Tags.hopSendingTime) (l := Tags.hopRefId) (by decide) (by decide)
    (by decide)
  have none : middle = [] := by
    refine List.eq_nil_iff_forall_not_mem.mpr fun f mem => ?_
    obtain ⟨-, lo, hi⟩ := split.middle f mem
    exact absurd (Int.add_one_le_of_lt lo) (not_le.mpr hi)
  have fields := split.fields
  rw [none, List.nil_append] at fields
  refine ⟨before, behind, ?_, fun f mem => (split.before f mem).2, fun f mem => (split.behind f mem).2⟩
  rw [fields, hopsByTag, List.append_assoc]

namespace HeaderSplit

variable {before middle behind : List TagValue}

/-- The parts of a header are its own. -/
lemma own (split : m.HeaderSplit Tags.secureDataLen Tags.secureData Tags.xmlDataLen Tags.xmlData
    before middle behind) :
    ∀ f ∈ before ++ (paired Tags.secureDataLen Tags.secureData m.header.fields ++ (middle ++
      (paired Tags.xmlDataLen Tags.xmlData m.header.fields ++ behind))), f ∈ m.header.fields := by
  intro f mem
  rw [← split.fields] at mem
  exact (mem_sortedHeader.mp mem).1

/-- A pair holds its two tags. -/
lemma tag_paired {length data : Tag} {fs : List TagValue} {f} (mem : f ∈ paired length data fs) :
    f.tag = length ∨ f.tag = data := by
  rcases List.mem_append.mp mem with mem | mem
  · exact .inl (of_decide_eq_true (List.mem_filter.mp mem).2)
  · exact .inr (of_decide_eq_true (List.mem_filter.mp mem).2)

/-- The fields before the SecureData are framed. -/
lemma framed_before (split : m.HeaderSplit Tags.secureDataLen Tags.secureData Tags.xmlDataLen
    Tags.xmlData before middle behind) (h : m.Arrived) : Framed none before := by
  refine h.framed_others (fun f mem => (mem_sortedHeader.mp (split.before f mem).1).1) fun f mem => ?_
  have lo := (split.before f mem).2
  exact ⟨(lo.trans (by decide)).ne, (lo.trans (by decide)).ne⟩

/-- The fields up to the XmlData are when the SecureData is. -/
lemma framed_front (split : m.HeaderSplit Tags.secureDataLen Tags.secureData Tags.xmlDataLen
    Tags.xmlData before middle behind) (h : m.Arrived)
    (kept : Framed none (paired Tags.secureDataLen Tags.secureData m.header.fields)) :
    Framed none (before ++ (paired Tags.secureDataLen Tags.secureData m.header.fields ++ middle)) := by
  have header (f) (mem : f ∈ m.sortedHeader) := (mem_sortedHeader.mp mem).1
  have class' (f) (mem : f ∈ m.sortedHeader) := h.header f (header f mem)
  have pair (f) (mem : f ∈ paired Tags.secureDataLen Tags.secureData m.header.fields) :
      f ∈ m.header.fields := split.own f (by simp [mem])
  have bounds (f) (mem : f ∈ paired Tags.secureDataLen Tags.secureData m.header.fields) :
      Tags.secureDataLen ≤ f.tag ∧ f.tag < Tags.secureData + 1 := by
    rcases tag_paired mem with tag | tag <;> rw [tag] <;> decide
  have between : Framed none middle := by
    refine h.framed_others (fun f mem => header f (split.middle f mem).1) fun f mem => ?_
    obtain ⟨-, lo, hi⟩ := split.middle f mem
    exact ⟨lo.ne', (hi.trans (by decide)).ne⟩
  refine (Arrived.header_join (k := Tags.secureDataLen) (fun f mem => class' f (split.before f mem).1)
    (fun f mem => (split.before f mem).2) (fun g mem => ?_) (by decide)).mpr
    ⟨split.framed_before h, ?_⟩
  · rcases List.mem_append.mp mem with mem | mem
    · exact (bounds g mem).1
    · exact (Int.lt_trans (by decide) (split.middle g mem).2.1).le
  · exact (Arrived.header_join (k := Tags.secureData + 1) (fun f mem => h.header f (pair f mem))
      (fun f mem => (bounds f mem).2) (fun g mem => Int.add_one_le_of_lt (split.middle g mem).2.1)
      (by decide)).mpr ⟨kept, between⟩

/-- They have smaller tags. -/
lemma front_lt (split : m.HeaderSplit Tags.secureDataLen Tags.secureData Tags.xmlDataLen
    Tags.xmlData before middle behind) : ∀ f ∈ before ++
      (paired Tags.secureDataLen Tags.secureData m.header.fields ++ middle), f.tag < Tags.xmlDataLen := by
  intro f mem
  simp only [List.mem_append] at mem
  rcases mem with mem | mem | mem
  · exact (split.before f mem).2.trans (by decide)
  · rcases tag_paired mem with tag | tag <;> rw [tag] <;> decide
  · exact (split.middle f mem).2.2

/-- The XmlData comes next. -/
lemma fields_xml (split : m.HeaderSplit Tags.secureDataLen Tags.secureData Tags.xmlDataLen
    Tags.xmlData before middle behind) : m.sortedHeader =
      (before ++ (paired Tags.secureDataLen Tags.secureData m.header.fields ++ middle)) ++
        (paired Tags.xmlDataLen Tags.xmlData m.header.fields ++ behind) := by
  rw [split.fields]
  simp only [List.append_assoc]

/-- The whole header is when the XmlData is as well. -/
lemma framed (split : m.HeaderSplit Tags.secureDataLen Tags.secureData Tags.xmlDataLen
    Tags.xmlData before middle behind) (h : m.Arrived) (kept : m.PairsKept) :
    Framed none m.sortedHeader := by
  have pair (f) (mem : f ∈ paired Tags.xmlDataLen Tags.xmlData m.header.fields) :
      f ∈ m.header.fields := split.own f (by simp [mem])
  have last : Framed none behind := by
    refine h.framed_others (fun f mem => (mem_sortedHeader.mp (split.behind f mem).1).1) fun f mem => ?_
    have hi := (split.behind f mem).2
    exact ⟨(Int.lt_trans (by decide) hi).ne', hi.ne'⟩
  rw [split.fields_xml]
  refine (Arrived.header_join (k := Tags.xmlDataLen) (fun f mem => ?_) split.front_lt
    (fun g mem => ?_) (by decide)).mpr ⟨split.framed_front h kept.1, ?_⟩
  · refine h.header f (split.own f ?_)
    simp only [List.mem_append] at mem ⊢
    tauto
  · rcases List.mem_append.mp mem with mem | mem
    · rcases tag_paired mem with tag | tag
      · exact tag.ge
      · rw [tag]
        decide
    · exact (Int.lt_trans (by decide) (split.behind g mem).2).le
  · refine (Arrived.header_join (k := Tags.xmlData + 1) (fun f mem => h.header f (pair f mem))
      (fun f mem => ?_) (fun g mem => Int.add_one_le_of_lt (split.behind g mem).2) (by decide)).mpr
      ⟨kept.2, last⟩
    rcases tag_paired mem with tag | tag <;> rw [tag] <;> decide

end HeaderSplit

namespace Arrived

/-- Fields of different sections announce none of each other. -/
lemma section_join {fs gs : List TagValue} (apart : ∀ f ∈ fs, ∀ g ∈ gs, sectionOf f.tag ≠ sectionOf g.tag) :
    Framed none (fs ++ gs) ↔ Framed none fs ∧ Framed none gs :=
  framed_join fun f mem g mem' table => apart f mem g mem' (sectionOf_announced table)

/-- A message whose pairs are kept can be sent. -/
lemma sendable (h : m.Arrived) (kept : m.PairsKept)
    (signature : Framed none (paired Tags.signatureLength Tags.signature m.trailer.fields)) :
    m.Sendable where
  msgType := h.msgType
  header := h.header
  body := h.body
  trailer := h.trailer
  range := h.range
  begins := h.begins.2
  framed := by
    obtain ⟨before, middle, behind, split⟩ := h.split_data
    obtain ⟨type, mem, tag, -, inner⟩ := h.innerFields_eq
    have header (f) (mem : f ∈ m.header.fields) := sectionOf_header (h.header f mem)
    have body (f) (mem : f ∈ m.body.fields) := sectionOf_body (h.body f mem)
    have trailer (f) (mem : f ∈ m.trailer.fields) := sectionOf_trailer (h.trailer f mem)
    have rest (f) (mem : f ∈ m.body.fields ++ m.trailer.fields) : sectionOf f.tag ≠ .header := by
      rcases List.mem_append.mp mem with mem | mem
      · rw [body f mem]
        decide
      · rw [trailer f mem]
        decide
    have bodies : Framed none m.body.fields := by
      have later := ((section_join fun f mem g mem' => by
        rw [header f mem]
        exact (rest g mem').symm).mp h.framed).2
      exact (framed_append.mp later).1
    have sorted (f) (mem : f ∈ m.sortedTrailer) := trailer f (mem_sortedTrailer.mp mem).1
    have silent : announcedData type.tag type.value = none := by
      rw [tag]
      rfl
    rw [inner]
    refine ⟨h.plain mem (by rw [tag]; decide), ?_⟩
    rw [silent]
    refine (section_join fun f mem g mem' => ?_).mpr ⟨split.framed h kept, ?_⟩
    · rw [header f (mem_sortedHeader.mp mem).1]
      rcases List.mem_append.mp mem' with mem' | mem'
      · exact (rest g (List.mem_append_left _ mem')).symm
      · rw [sorted g mem']
        decide
    · refine (section_join fun f mem g mem' => ?_).mpr ⟨bodies, ?_⟩
      · rw [body f mem, sorted g mem']
        decide
      · rw [sortedTrailer_eq h]
        exact signature

/-- Sorting does not change the length. -/
lemma length_inner (m : Message) : m.inner.length = (FieldMap.writeTo ⟨m.counted⟩).length := by
  have header := List.perm_insertionSort (fun f g : TagValue => f.tag ≤ g.tag)
    (m.header.fields.filter fun f => f.tag ∉ [Tags.beginString, Tags.bodyLength, Tags.msgType])
  have trailer := List.perm_insertionSort (fun f g : TagValue => f.tag ≥ g.tag)
    (m.trailer.fields.filter (·.tag ≠ Tags.checkSum))
  have perm : m.innerFields.Perm m.counted :=
    (((List.Perm.refl _).append header).append_right _).append trailer
  exact (perm.flatMap_right _).length_eq

/-- What comes back is the message where its BodyLength and its hops are kept. -/
lemma sameAs_received (h : m.Arrived) {mt} (type : m.header.getRaw Tags.msgType = some mt) :
    SameAs (m.received mt) m ↔ m.LengthSpelled ∧ m.HopsKept := by
  have hops : (m.received mt).header.readGroups hops = FieldMap.readGroups ⟨m.hopsByTag⟩ hops := by
    obtain ⟨before, behind, fields, lo, hi⟩ := h.split_hops
    have lead : (m.received mt).header = ⟨(⟨Tags.beginString, m.beginBytes⟩ ::
        ⟨Tags.bodyLength, dec m.inner.length⟩ :: ⟨Tags.msgType, mt⟩ :: before) ++
          (m.hopsByTag ++ behind)⟩ := by
      rw [received, serialHeader, fields]
      rfl
    rw [lead]
    apply FieldMap.readGroups_between
    · intro f mem
      simp only [List.mem_cons] at mem
      have apart : Tags.beginString ≠ Tags.noHops ∧ Tags.bodyLength ≠ Tags.noHops ∧
          Tags.msgType ≠ Tags.noHops := by decide
      rcases mem with rfl | rfl | rfl | mem
      · exact apart.1
      · exact apart.2.1
      · exact apart.2.2
      · exact (lo f mem).ne
    · intro f mem
      have above := hi f mem
      have apart {t : Tag} (le : t ≤ Tags.hopRefId) : f.tag ≠ t := (le.trans_lt above).ne'
      refine ⟨apart (by decide), ?_⟩
      rw [GroupTemplate.isMember, List.contains_eq_mem, decide_eq_false_iff_not]
      intro member
      simp only [Message.hops, List.mem_cons, List.not_mem_nil, or_false] at member
      rcases member with tag | tag | tag
      · exact apart (by decide) tag
      · exact apart (by decide) tag
      · exact apart (by decide) tag
  constructor
  · intro same
    constructor
    · have read := same.header Tags.bodyLength rfl
      rw [LengthSpelled, ← read, ← length_inner]
      rfl
    · exact hops.symm.trans same.hops
  · rintro ⟨spelled, kept⟩
    refine ⟨rfl, fun tag own => ?_, fun t => rfl, hops.trans kept⟩
    rw [LengthSpelled, ← length_inner] at spelled
    by_cases other : sorts tag = true
    · exact getRaw_serialHeader mt other
    · have lead : tag ∈ [Tags.beginString, Tags.bodyLength, Tags.msgType] := by
        rw [sorts, decide_eq_true_iff, not_not] at other
        exact other
      simp only [List.mem_cons, List.not_mem_nil, or_false] at lead
      rcases lead with rfl | rfl | rfl
      · exact h.begins.1.symm
      · exact spelled.symm
      · exact type.symm

end Arrived

/-- What is stashed parses where the data of the header comes after its Length fields as they are sorted and
the signature ends in place. -/
lemma stashed_parses (accepted : parse raw true = .ok m) (inOrder : m.structureError = none)
    (fits : m.toBytes.length < 2 ^ 63)
    (signature : Framed none (paired Tags.signatureLength Tags.signature m.trailer.fields)) (kept : m.PairsKept)
    (v) : ∃ mt, m.header.getRaw Tags.msgType = some mt ∧ parse m.toBytes v = .ok (m.received mt) := by
  have sendable := (arrived_of_parse accepted inOrder).sendable kept signature
  obtain ⟨mt, type, serial⟩ := sendable.serialFields_eq
  have parsed := sendable.parse_eq fits serial
  cases v with
  | true => exact ⟨mt, type, parsed⟩
  | false => exact ⟨mt, type, parse_unvalidated parsed⟩

/-- An accepted message with its fields in order comes back from the stash exactly where its data comes
after its Length fields as they are sorted, its BodyLength is spelled as it is written and its hops are
the same tag by tag; given that the signature ends in place, and that of several data fields with one
tag only the first has delimiters. -/
theorem stash_lossless (accepted : parse raw true = .ok m) (inOrder : m.structureError = none)
    (fits : m.toBytes.length < 2 ^ 63)
    (signature : Framed none (paired Tags.signatureLength Tags.signature m.trailer.fields))
    (further : ∀ p ∈ headerPairs, ∀ f ∈ (m.header.fields.filter (·.tag = p.2)).tail, soh ∉ f.value) (v) :
    m.Lossless v ↔ m.PairsKept ∧ m.LengthSpelled ∧ m.HopsKept := by
  have h := arrived_of_parse accepted inOrder
  have back (kept : m.PairsKept) := stashed_parses accepted inOrder fits signature kept v
  constructor
  · rintro ⟨m', parsed, same⟩
    obtain ⟨before, middle, behind, split⟩ := h.split_data
    have kept : m.PairsKept := by
      have first : Framed none (paired Tags.secureDataLen Tags.secureData m.header.fields) := by
        exact h.pair_kept parsed same (by decide) split.fields (split.framed_before h)
          (fun f mem => (split.before f mem).2)
          (further (Tags.secureDataLen, Tags.secureData) (by decide))
      refine ⟨first, ?_⟩
      exact h.pair_kept parsed same (by decide) split.fields_xml (split.framed_front h first)
        split.front_lt (further (Tags.xmlDataLen, Tags.xmlData) (by decide))
    obtain ⟨mt, type, parsed'⟩ := back kept
    cases parsed.symm.trans parsed'
    exact ⟨kept, (h.sameAs_received type).mp same⟩
  · rintro ⟨kept, spelled, hops⟩
    obtain ⟨mt, type, parsed⟩ := back kept
    exact ⟨_, parsed, (h.sameAs_received type).mpr ⟨spelled, hops⟩⟩

/-- The bytes a peer sends for fields, with BodyLength and CheckSum. -/
def sentBy (fs : List TagValue) : Bytes :=
  let inner := FieldMap.writeTo ⟨fs⟩
  let front := writeTagValue Tags.beginString (ascii "FIX.4.4") ++
    writeTagValue Tags.bodyLength (dec inner.length) ++ inner
  front ++ writeTagValue Tags.checkSum (padded 3 (checksum front))

/-- A Heartbeat with more header fields. -/
def beatWith (more : List TagValue) : Bytes :=
  sentBy ([⟨Tags.msgType, ascii "0"⟩, ⟨Tags.senderCompId, ascii "A"⟩, ⟨Tags.targetCompId, ascii "B"⟩,
    ⟨Tags.msgSeqNum, ascii "9"⟩] ++ more)

/-- A Heartbeat that took one hop. -/
def oneHop : Bytes := beatWith [⟨Tags.noHops, ascii "1"⟩, ⟨Tags.hopCompId, ascii "H"⟩,
  ⟨Tags.hopSendingTime, ascii "20240101-00:00:00"⟩]

/-- A Heartbeat that took two. -/
def twoHops : Bytes := beatWith [⟨Tags.noHops, ascii "2"⟩,
  ⟨Tags.hopCompId, ascii "H"⟩, ⟨Tags.hopSendingTime, ascii "20240101-00:00:00"⟩,
  ⟨Tags.hopCompId, ascii "I"⟩, ⟨Tags.hopSendingTime, ascii "20240101-00:00:01"⟩]

/-- Data that came before its length. -/
def dataFirst : Bytes := beatWith [⟨Tags.secureData, ascii "abc"⟩, ⟨Tags.secureDataLen, ascii "2"⟩]

/-- The message that arrives. -/
def arrival (raw : Bytes) : Message := (parse raw true).toOption.getD {}

/-- A frame that is accepted parses to its message. -/
lemma parse_arrival (accepted : (parse raw true).toOption.isSome = true) :
    parse raw true = .ok (arrival raw) := by
  unfold arrival
  cases parsed : parse raw true with
  | error e =>
    rw [parsed] at accepted
    cases accepted
  | ok m => rfl

example : (arrival twoHops).sortedHeader.map (·.tag) = [34, 49, 56, 627, 628, 628, 629, 629] := by
  decide +kernel

/-- The stash gives back the Heartbeat that took one hop. -/
theorem stash_lossless_oneHop : (arrival oneHop).Lossless false := by
  have unsigned : paired Tags.signatureLength Tags.signature (arrival oneHop).trailer.fields = [] := by
    decide +kernel
  have single : ∀ p ∈ headerPairs, ((arrival oneHop).header.fields.filter (·.tag = p.2)).tail = [] := by
    decide +kernel
  have kept : (arrival oneHop).PairsKept ∧ (arrival oneHop).LengthSpelled ∧ (arrival oneHop).HopsKept := by
    refine ⟨⟨?_, ?_⟩, ?_, ?_⟩
    · have none : paired Tags.secureDataLen Tags.secureData (arrival oneHop).header.fields = [] := by
        decide +kernel
      rw [none]
      trivial
    · have none : paired Tags.xmlDataLen Tags.xmlData (arrival oneHop).header.fields = [] := by
        decide +kernel
      rw [none]
      trivial
    · unfold LengthSpelled
      decide +kernel
    · unfold HopsKept
      decide +kernel
  refine (stash_lossless (parse_arrival (by decide +kernel)) (by decide +kernel) (by decide +kernel) ?_ ?_
    false).mpr kept
  · rw [unsigned]
    trivial
  · intro p mem
    rw [single p mem]
    simp

/-- A message of two hops comes back with their times in the last one, and one whose data came before
its length does not come back. -/
theorem stash_lossy :
    (parse twoHops true = .ok (arrival twoHops) ∧ (arrival twoHops).structureError = none ∧
      ¬ (arrival twoHops).Lossless false) ∧
    parse dataFirst true = .ok (arrival dataFirst) ∧ (arrival dataFirst).structureError = none ∧
      ∀ m, parse (arrival dataFirst).toBytes false ≠ .ok m := by
  refine ⟨⟨parse_arrival (by decide +kernel), by decide +kernel, ?_⟩, parse_arrival (by decide +kernel),
    by decide +kernel, ?_⟩
  · rintro ⟨m, parsed, same⟩
    have lost : (parse (arrival twoHops).toBytes false).toOption.bind
        (fun m => (m.header.readGroups hops).toOption) ≠
          ((arrival twoHops).header.readGroups hops).toOption := by decide +kernel
    rw [parsed] at lost
    change (m.header.readGroups hops).toOption ≠ _ at lost
    rw [same.hops] at lost
    exact lost rfl
  · intro m parsed
    have failed : (parse (arrival dataFirst).toBytes false).toOption = none := by decide +kernel
    rw [parsed] at failed
    cases failed

end QuickFix.Message
