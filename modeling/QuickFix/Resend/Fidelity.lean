import QuickFix.Resend.Tiling
import QuickFix.Steps.Run
import QuickFix.Wire.Stash

/-!
# Resends are faithful

A message that was stored when it was sent, and whose values end where the parser ends them, is read
from the store and sent again with the same body, trailer and header, but for PossDupFlag, SendingTime
and OrigSendingTime (`resent_faithfully`). The parser knows no schema, so no sort of the header may tear
data from its length: the three fields that are set stand between no Length field and its data.
-/

namespace QuickFix

set_option linter.unusedSectionVars false

open Session MessageStore

namespace Message

/-! ## Fields that stand apart from data -/

/-- A tag that is neither a Length tag nor a data tag, nor between the two of a pair. -/
def Loose (t : Tag) : Prop := ∀ p ∈ Tags.lengthDataTags, p.1 ≠ t ∧ p.2 ≠ t ∧ ¬ (p.1 < t ∧ t < p.2)

/-- The tags that are set when a message is sent again. -/
def retimedTags : List Tag := [Tags.possDupFlag, Tags.origSendingTime, Tags.sendingTime]

/-- The tags that a resend sets belong to no pair. -/
lemma loose_retimed : ∀ t ∈ retimedTags, Loose t := by
  unfold Loose
  decide

/-- The fields of a loose tag may be left out of sorted fields. -/
lemma framed_loose {fs : List TagValue} {t : Tag} (sorted : fs.Pairwise (·.tag ≤ ·.tag)) (loose : Loose t) :
    Framed none fs ↔ Framed none (fs.filter (·.tag ≠ t)) ∧ ∀ f ∈ fs, f.tag = t → soh ∉ f.value := by
  have split : fs = (fs.filter fun f => ¬ t ≤ f.tag) ++ ((fs.filter fun f => f.tag = t) ++
      fs.filter fun f => ¬ f.tag ≤ t) := ordered_split sorted t
  generalize below : (fs.filter fun f => ¬ t ≤ f.tag) = before at split
  generalize same : (fs.filter fun f => f.tag = t) = here at split
  generalize above : (fs.filter fun f => ¬ f.tag ≤ t) = behind at split
  have lt (f) (mem : f ∈ before) : f.tag < t := by
    rw [← below, List.mem_filter] at mem
    exact not_le.mp (of_decide_eq_true mem.2)
  have eq (f) (mem : f ∈ here) : f.tag = t := by
    rw [← same, List.mem_filter] at mem
    exact of_decide_eq_true mem.2
  have gt (f) (mem : f ∈ behind) : t < f.tag := by
    rw [← above, List.mem_filter] at mem
    exact not_le.mp (of_decide_eq_true mem.2)
  have join {gs hs : List TagValue} (low : ∀ g ∈ gs, g.tag ≤ t) (high : ∀ h ∈ hs, t ≤ h.tag) :
      Framed none (gs ++ hs) ↔ Framed none gs ∧ Framed none hs := by
    apply framed_join
    intro g mem h mem' table
    obtain ⟨length, data, between⟩ := loose _ (Tags.mem_lengthDataTags table)
    exact between ⟨lt_of_le_of_ne (low g mem) length, lt_of_le_of_ne (high h mem') (Ne.symm data)⟩
  have own : Framed none here ↔ ∀ f ∈ here, soh ∉ f.value := by
    constructor
    · intro framed f mem
      refine framed.plain rfl (fun _ table => ?_) f mem (eq f mem)
      exact (loose _ (Tags.mem_lengthDataTags table)).2.1 rfl
    · intro plain
      refine framed_plain plain fun f mem _ _ table => ?_
      exact (loose _ (Tags.mem_lengthDataTags table)).1 (eq f mem)
  have rest : fs.filter (·.tag ≠ t) = before ++ behind := by
    rw [split, List.filter_append, List.filter_append,
      List.filter_eq_self.mpr fun f mem => decide_eq_true (lt f mem).ne,
      List.filter_eq_nil_iff.mpr fun f mem => by simp [eq f mem],
      List.filter_eq_self.mpr fun f mem => decide_eq_true (gt f mem).ne', List.nil_append]
  have whole : Framed none fs ↔ Framed none before ∧ Framed none here ∧ Framed none behind := by
    rw [split, join (fun f mem => (lt f mem).le), join (fun f mem => (eq f mem).le)]
    · exact fun f mem => (gt f mem).le
    · intro f mem
      exact (List.mem_append.mp mem).elim (fun mem => (eq f mem).ge) fun mem => (gt f mem).le
  rw [whole, rest, join (fun f mem => (lt f mem).le) fun f mem => (gt f mem).le, own]
  constructor
  · intro ⟨first, plain, last⟩
    refine ⟨⟨first, last⟩, fun f mem tag => plain f ?_⟩
    rw [← same]
    exact List.mem_filter.mpr ⟨mem, decide_eq_true tag⟩
  · intro ⟨⟨first, last⟩, plain⟩
    refine ⟨first, fun f mem => ?_, last⟩
    rw [← same, List.mem_filter] at mem
    exact plain f mem.1 (of_decide_eq_true mem.2)

/-- So may those of several loose tags. -/
lemma framed_without {fs : List TagValue} {ts : List Tag} (sorted : fs.Pairwise (·.tag ≤ ·.tag))
    (loose : ∀ t ∈ ts, Loose t) : Framed none fs ↔
      Framed none (fs.filter (·.tag ∉ ts)) ∧ ∀ f ∈ fs, f.tag ∈ ts → soh ∉ f.value := by
  induction ts generalizing fs with
  | nil => simp
  | cons t ts ih =>
    obtain ⟨here, later⟩ := List.forall_mem_cons.mp loose
    have both : (fs.filter (·.tag ≠ t)).filter (·.tag ∉ ts) = fs.filter (·.tag ∉ t :: ts) := by
      rw [List.filter_filter]
      exact List.filter_congr fun f _ => by simp [Bool.and_comm]
    rw [framed_loose sorted here, ih (sorted.filter _) later, both, and_assoc]
    refine and_congr_right fun _ => ⟨fun ⟨others, own⟩ f mem tag => ?_, fun plain => ⟨?_, ?_⟩⟩
    · by_cases same : f.tag = t
      · exact own f mem same
      · refine others f (List.mem_filter.mpr ⟨mem, decide_eq_true same⟩) ?_
        exact (List.mem_cons.mp tag).resolve_left same
    · intro f mem tag
      exact plain f (List.mem_filter.mp mem).1 (List.mem_cons_of_mem t tag)
    · intro f mem same
      exact plain f mem (same ▸ List.mem_cons_self)

/-- The header ends in place where it does, and what comes after it. -/
lemma framed_header {fs gs : List TagValue} (header : ∀ f ∈ fs, Tags.isHeaderTag f.tag = true)
    (others : ∀ g ∈ gs, Tags.isHeaderTag g.tag = false) :
    Framed none (fs ++ gs) ↔ Framed none fs ∧ Framed none gs := by
  apply Arrived.section_join
  intro f mem g mem'
  rw [sectionOf_header (header f mem), sectionOf, others g mem', if_neg (by simp)]
  split <;> exact fun same => by cases same

/-- What BodyLength counts ends in place when its parts do. -/
lemma framed_inner {m : Message} {mt : Bytes} (type : m.header.getRaw Tags.msgType = some mt)
    (header : ∀ f ∈ m.header.fields, Tags.isHeaderTag f.tag = true)
    (others : ∀ f ∈ m.body.fields ++ m.sortedTrailer, Tags.isHeaderTag f.tag = false) :
    Framed none m.innerFields ↔
      soh ∉ mt ∧ Framed none m.sortedHeader ∧ Framed none (m.body.fields ++ m.sortedTrailer) := by
  have headers : ∀ f ∈ ⟨Tags.msgType, mt⟩ :: m.sortedHeader, Tags.isHeaderTag f.tag = true := by
    intro f mem
    rcases List.mem_cons.mp mem with rfl | mem
    · rfl
    · exact header f (mem_sortedHeader.mp mem).1
  have inner : m.innerFields = ⟨Tags.msgType, mt⟩ :: m.sortedHeader ++ (m.body.fields ++ m.sortedTrailer) := by
    simp [innerFields, type]
  rw [inner, framed_header headers others, ← and_assoc]
  exact Iff.rfl

/-! ## What is set in the header -/

variable {m : Message} {now : UtcTimestamp} {mt : Bytes} [Chrono]

/-- The fields that are set apart, the header stays. -/
lemma header_resent (m : Message) (now : UtcTimestamp) :
    (m.resent now).header.fields.filter (·.tag ∉ retimedTags) =
      m.header.fields.filter (·.tag ∉ retimedTags) := by
  have set {α} [FixEncode α] (m : Message) {tag : Tag} (v : α) (own : tag ∈ retimedTags) :
      (m.setHeader tag v).header.fields.filter (·.tag ∉ retimedTags) =
        m.header.fields.filter (·.tag ∉ retimedTags) :=
    FieldMap.filter_setFields (· ∉ retimedTags) (by simp [own]) _ _
  unfold resent
  dsimp only
  rw [stampSendingTime, set _ _ (by decide)]
  split
  · rw [set _ _ (by decide), set _ _ (by decide)]
  · rw [set _ _ (by decide)]

/-- What is set has the values of the flag, of the time now, and of what was set before. -/
lemma values_resent {P : Bytes → Prop} (flag : P (ascii "Y")) (time : P (encode now))
    (own : ∀ f ∈ m.header.fields, f.tag ∈ retimedTags → P f.value) :
    ∀ f ∈ (m.resent now).header.fields, f.tag ∈ retimedTags → P f.value := by
  have set {α} [FixEncode α] {m : Message} {t : Tag} {v : α} (value : P (encode v))
      (own : ∀ f ∈ m.header.fields, f.tag ∈ retimedTags → P f.value) :
      ∀ f ∈ (m.setHeader t v).header.fields, f.tag ∈ retimedTags → P f.value := by
    intro f mem tag
    rcases FieldMap.mem_setFields mem with rfl | mem
    · exact value
    · exact own f mem tag
  have flagged := set (t := Tags.possDupFlag) (v := true) flag own
  unfold resent
  dsimp only
  refine set time ?_
  cases orig : (m.setHeader Tags.possDupFlag true).header.getRaw Tags.sendingTime with
  | none => exact flagged
  | some orig' =>
    rw [FieldMap.getRaw, Option.map_eq_some_iff] at orig
    obtain ⟨g, found, rfl⟩ := orig
    have tag : g.tag = Tags.sendingTime := by simpa using List.find?_some found
    exact set (flagged g (List.mem_of_find?_eq_some found) (by rw [tag]; decide)) flagged

/-- The other fields are read as they were. -/
lemma getRaw_resent (m : Message) (now : UtcTimestamp) (tag : Tag) :
    (m.resent now).header.getRaw tag =
      if tag = Tags.sendingTime then some (encode now)
      else if tag = Tags.origSendingTime then
        (m.header.getRaw Tags.sendingTime).or (m.header.getRaw Tags.origSendingTime)
      else if tag = Tags.possDupFlag then some (ascii "Y")
      else m.header.getRaw tag := by
  have first : (m.setHeader Tags.possDupFlag true).header.getRaw Tags.sendingTime =
      m.header.getRaw Tags.sendingTime := by simp [setHeader, Tags.possDupFlag, Tags.sendingTime]
  have yes : encode true = ascii "Y" := rfl
  have same (v : Bytes) : encode v = v := rfl
  unfold resent
  dsimp only
  rw [first]
  cases orig : m.header.getRaw Tags.sendingTime with
  | none =>
    simp only [stampSendingTime, setHeader, FieldMap.getRaw_set, Option.none_or, yes]
    split_ifs <;> simp_all
  | some orig' =>
    simp only [stampSendingTime, setHeader, FieldMap.getRaw_set, Option.some_or, yes, same]

/-- A resend keeps the body. -/
lemma body_resent (m : Message) (now : UtcTimestamp) : (m.resent now).body = m.body := by
  unfold resent
  dsimp only
  split <;> rfl

/-- A resend keeps the trailer. -/
lemma trailer_resent (m : Message) (now : UtcTimestamp) : (m.resent now).trailer = m.trailer := by
  unfold resent
  dsimp only
  split <;> rfl

/-- The header fields of a message that came back and is sent again, as they are sorted. -/
lemma sortedHeader_resent (m : Message) (mt : Bytes) (now : UtcTimestamp) :
    ((m.received mt).resent now).sortedHeader.filter (·.tag ∉ retimedTags) =
      m.sortedHeader.filter (·.tag ∉ retimedTags) := by
  have sorted (m : Message) : StablySorted (· ≤ ·) TagValue.tag
      ((m.header.fields.filter (sorts ·.tag)).filter (·.tag ∉ retimedTags))
      (m.sortedHeader.filter (·.tag ∉ retimedTags)) :=
    (stablySorted_insertionSort (· ≤ ·) TagValue.tag _).filter (fun t => decide (t ∉ retimedTags))
  have swap (m : Message) : (m.header.fields.filter (sorts ·.tag)).filter (·.tag ∉ retimedTags) =
      (m.header.fields.filter (·.tag ∉ retimedTags)).filter (sorts ·.tag) := by
    rw [List.filter_filter, List.filter_filter]
    exact List.filter_congr fun f _ => Bool.and_comm _ _
  have resent := sorted ((m.received mt).resent now)
  rw [swap, header_resent, ← swap] at resent
  rw [← sortedHeader_received m mt]
  exact resent.unique (sorted (m.received mt))

/-- Of the fields before the times, all are read back as they were. -/
lemma getRaw_received (m : Message) (mt : Bytes) (now : UtcTimestamp) {t v}
    (lead : (FieldMap.mk (m.serialHeader mt)).getRaw t = some v) (other : t ∉ retimedTags) :
    ((m.received mt).resent now).header.getRaw t = some v := by
  simp only [retimedTags, List.mem_cons, List.not_mem_nil, or_false, not_or] at other
  rw [getRaw_resent, if_neg other.2.2, if_neg other.2.1, if_neg other.1]
  exact lead

/-- Without delimiters in what is set, a header that ends in place still does. -/
lemma framed_resent (framed : Framed none m.sortedHeader) (time : soh ∉ encode now) :
    Framed none ((m.received mt).resent now).sortedHeader := by
  have sorted (m : Message) : m.sortedHeader.Pairwise (·.tag ≤ ·.tag) :=
    (stablySorted_insertionSort (· ≤ ·) TagValue.tag _).ordered
  obtain ⟨others, plain⟩ := (framed_without (sorted m) loose_retimed).mp framed
  refine (framed_without (sorted _) loose_retimed).mpr ⟨sortedHeader_resent m mt now ▸ others, ?_⟩
  intro f mem tag
  refine values_resent (P := (soh ∉ ·)) (by decide) time ?_ f (mem_sortedHeader.mp mem).1 tag
  intro g mem tag
  have leads : ∀ t ∈ retimedTags, t ∉ [Tags.beginString, Tags.bodyLength, Tags.msgType] := by decide
  refine plain g ?_ tag
  rw [← sortedHeader_received m mt]
  exact mem_sortedHeader.mpr ⟨mem, leads g.tag tag⟩

/-- The header still has fields of its own only. -/
lemma Sendable.header_resent (h : m.Sendable) (mt : Bytes) (now : UtcTimestamp) :
    ∀ f ∈ ((m.received mt).resent now).header.fields, Tags.isHeaderTag f.tag = true := by
  intro f mem
  have headers : ∀ t ∈ retimedTags, Tags.isHeaderTag t = true := by decide
  by_cases tag : f.tag ∈ retimedTags
  · exact headers f.tag tag
  · have kept : f ∈ ((m.received mt).resent now).header.fields.filter (·.tag ∉ retimedTags) :=
      List.mem_filter.mpr ⟨mem, decide_eq_true tag⟩
    rw [Message.header_resent] at kept
    exact h.class_serialHeader mt f (List.mem_filter.mp kept).1

/-- A message that came back can be sent again. -/
lemma Sendable.resent (h : m.Sendable) (type : m.header.getRaw Tags.msgType = some mt)
    (time : soh ∉ encode now) : ((m.received mt).resent now).Sendable where
  msgType := by
    have raw := getRaw_received m mt now (t := Tags.msgType) rfl (by decide)
    rw [FieldMap.getRaw, Option.map_eq_some_iff] at raw
    obtain ⟨f, found, -⟩ := raw
    have tag : (f.tag == Tags.msgType) = true := by simpa using List.find?_some found
    exact List.any_eq_true.mpr ⟨f, List.mem_of_find?_eq_some found, tag⟩
  header := h.header_resent mt now
  body := by
    rw [body_resent]
    exact h.body
  trailer := by
    rw [trailer_resent]
    exact h.class_serialTrailer
  range := by
    rw [body_resent]
    exact h.range
  begins := by
    have raw := getRaw_received m mt now (t := Tags.beginString) rfl (by decide)
    rw [beginBytes, raw]
    exact h.begins
  framed := by
    have raw := getRaw_received m mt now (t := Tags.msgType) rfl (by decide)
    have trailer : ((m.received mt).resent now).sortedTrailer = m.sortedTrailer := by
      rw [sortedTrailer, trailer_resent]
      exact sortedTrailer_received m mt
    have others : ∀ f ∈ m.body.fields ++ m.sortedTrailer, Tags.isHeaderTag f.tag = false := by
      intro f mem
      rcases List.mem_append.mp mem with mem | mem
      · exact (Tags.of_isBodyTag (h.body f mem)).1
      · exact (Tags.of_isTrailerTag (h.trailer f (mem_sortedTrailer.mp mem).1)).1
    obtain ⟨plain, header, rest⟩ := (framed_inner type h.header others).mp h.framed
    refine (framed_inner raw (h.header_resent mt now) ?_).mpr ⟨plain, framed_resent header time, ?_⟩
    · rw [body_resent, trailer]
      exact others
    · rw [body_resent, trailer]
      exact rest

/-! ## What is sent again -/

/-- The tags whose header fields are made anew when a message is sent again. -/
def renewedTags : List Tag := [Tags.beginString, Tags.bodyLength, Tags.msgType] ++ retimedTags

/-- A message as it is sent again at some time: the same number, type, body and trailer, and the same
header fields in the order of the wire, but for PossDupFlag and the times. -/
structure SentAgain (now : UtcTimestamp) (m again : Message) : Prop where
  beginString : again.header.getRaw Tags.beginString = some m.beginBytes
  msgType : again.msgType = m.msgType
  seqNum : again.seqNum = m.seqNum
  body : again.body = m.body
  header : StablySorted (· ≤ ·) TagValue.tag (m.header.fields.filter (·.tag ∉ renewedTags))
    (again.header.fields.filter (·.tag ∉ renewedTags))
  trailer : StablySorted (· ≥ ·) TagValue.tag (m.trailer.fields.filter (·.tag ≠ Tags.checkSum))
    (again.trailer.fields.filter (·.tag ≠ Tags.checkSum))
  possDup : again.header.getRaw Tags.possDupFlag = some (ascii "Y")
  sendingTime : again.header.getRaw Tags.sendingTime = some (encode now)
  origSendingTime : again.header.getRaw Tags.origSendingTime =
    (m.header.getRaw Tags.sendingTime).or (m.header.getRaw Tags.origSendingTime)
  inOrder : again.structureError = none

/-- What comes back of a message that came back and was sent again. -/
lemma sentAgain_received (m : Message) (type : m.header.getRaw Tags.msgType = some mt) (now : UtcTimestamp) :
    SentAgain now m (((m.received mt).resent now).received mt) := by
  have read {tag} (other : sorts tag = true) :
      (((m.received mt).resent now).received mt).header.getRaw tag =
        ((m.received mt).resent now).header.getRaw tag := getRaw_serialHeader mt other
  have read' {tag} (other : sorts tag = true) :
      (m.received mt).header.getRaw tag = m.header.getRaw tag := getRaw_serialHeader mt other
  constructor
  case beginString =>
    have raw := getRaw_received m mt now (t := Tags.beginString) rfl (by decide)
    show some ((m.received mt).resent now).beginBytes = some m.beginBytes
    rw [beginBytes, raw]
    rfl
  case msgType =>
    rw [msgType, msgType, FieldMap.get, FieldMap.get, type]
    rfl
  case seqNum =>
    rw [seqNum, seqNum, FieldMap.get, FieldMap.get, read rfl, getRaw_resent, if_neg (by decide),
      if_neg (by decide), if_neg (by decide), read' rfl]
  case body =>
    show ((m.received mt).resent now).body = m.body
    rw [body_resent]
    rfl
  case header =>
    have both (fs : List TagValue) : fs.filter (·.tag ∉ renewedTags) =
        (fs.filter (sorts ·.tag)).filter (·.tag ∉ retimedTags) := by
      rw [List.filter_filter]
      apply List.filter_congr
      intro f _
      rw [sorts, ← Bool.decide_and]
      exact decide_eq_decide.mpr (by rw [renewedTags, List.mem_append, not_or, and_comm])
    have later (m : Message) : (m.serialHeader mt).filter (·.tag ∉ renewedTags) =
        m.sortedHeader.filter (·.tag ∉ retimedTags) := by
      have own : m.sortedHeader.filter (sorts ·.tag) = m.sortedHeader :=
        List.filter_eq_self.mpr fun f mem => decide_eq_true (mem_sortedHeader.mp mem).2
      rw [both]
      show (m.sortedHeader.filter (sorts ·.tag)).filter _ = _
      rw [own]
    show StablySorted _ _ _ ((((m.received mt).resent now).serialHeader mt).filter _)
    rw [later, sortedHeader_resent, both]
    exact (stablySorted_insertionSort (· ≤ ·) TagValue.tag _).filter (fun t => decide (t ∉ retimedTags))
  case trailer =>
    have trailer : ((m.received mt).resent now).sortedTrailer = m.sortedTrailer := by
      rw [sortedTrailer, trailer_resent]
      exact sortedTrailer_received m mt
    show StablySorted _ _ _ ((((m.received mt).resent now).serialTrailer).filter _)
    rw [filter_serialTrailer, trailer]
    exact stablySorted_insertionSort (· ≥ ·) TagValue.tag _
  case possDup => rw [read rfl, getRaw_resent, if_neg (by decide), if_neg (by decide), if_pos rfl]
  case sendingTime => rw [read rfl, getRaw_resent, if_pos rfl]
  case origSendingTime =>
    rw [read rfl, getRaw_resent, if_neg (by decide), if_pos rfl, read' rfl, read' rfl]
  case inOrder => rfl

end Message

/-! ## From the store to the wire -/

section Resend

variable {σ ω : Type} [Chrono]

open Message

/-- A stored application message may be sent again, as it comes back from its bytes. -/
lemma resendable_received {m : Message} {mt : Bytes} {stored : SeqMap Bytes} {seq : Nat} (h : m.Sendable)
    (fits : m.toBytes.length < 2 ^ 63) (type : m.header.getRaw Tags.msgType = some mt)
    (app : m.isAdmin = false) (kept : stored[seq]? = some m.toBytes) :
    resendable stored seq = some (m.received mt) := by
  obtain ⟨mt', type', serial⟩ := h.serialFields_eq
  obtain rfl : mt' = mt := Option.some.inj (type'.symm.trans type)
  have parsed := parse_unvalidated (h.parse_eq fits serial)
  have same : (m.received mt').isAdmin = m.isAdmin := by
    rw [isAdmin, isAdmin, type]
    rfl
  rw [resendable, kept]
  simp only [parsed, same, app]
  rfl

/-- The bytes under a number are read from the store with a range. -/
def Holds [MessageStore σ] (b e seq : Nat) (raw : Bytes) (st : σ) : Prop :=
  ∃ stored, (getMessages b e st).1 = .ok stored ∧ (.ofList stored : SeqMap Bytes)[seq]? = some raw

/-- Among the pieces of a tiling a message is sent again under its number, and no other piece covers the
number. What is parsed from its bytes is the message again. -/
structure SentUnder (seq : Nat) (now : UtcTimestamp) (m sent : Message) (pieces : List Piece) : Prop where
  mem : .app seq sent ∈ pieces
  alone : ∀ p ∈ pieces, p.first ≤ seq → seq < p.next → p = .app seq sent
  again : ∃ again, parse sent.toBytes true = .ok again ∧ SentAgain now m again

/-- What `retransmit` does for a message of the range, from one state to another: `to_app` is asked
about it as it comes back from its bytes, and if it is accepted unchanged it is sent again under its
number. -/
def SendsAgain [MessageStore σ] [Runtime ω] (b e seq : Nat) (m : Message) (s t : Sys σ ω) : Prop :=
  ∃ now pieces asked offer answer,
    Transmits now pieces asked s t ∧
    Tiles Piece.first Piece.next b pieces (e + 1) ∧
    now = s.session.timestamp (Runtime.utcNow s.world).1 ∧
    parse m.toBytes true = .ok offer ∧
    ((seq, offer), answer) ∈ asked ∧
    (answer = some (offer.resent now) → (offer.resent now).toBytes.length < 2 ^ 63 →
      SentUnder seq now m (offer.resent now) pieces)

variable [MessageStore σ] [Application ω] [Runtime ω]

/-- A message that can be read from the store is sent again. -/
lemma Answers.sendsAgain (format : ∀ t : UtcTimestamp, soh ∉ encode t) {b e seq : Nat} {m : Message}
    {s t : Sys σ ω} (answers : Answers b e s t) (h : m.Sendable) (fits : m.toBytes.length < 2 ^ 63)
    (app : m.isAdmin = false) (covers : b ≤ seq ∧ seq ≤ e)
    (held : Holds b e seq m.toBytes s.session.store) : SendsAgain b e seq m s t := by
  obtain ⟨stored, read, kept⟩ := held
  rw [Answers, read] at answers
  obtain ⟨pieces, asked, tiling, transmits⟩ := answers
  obtain ⟨mt, type, serial⟩ := h.serialFields_eq
  have offered : (seq, m.received mt) ∈ asked.map Prod.fst := by
    rw [tiling.offers]
    refine List.mem_filterMap.mpr ⟨seq, ?_, by rw [resendable_received h fits type app kept]; rfl⟩
    rw [seqRange, List.mem_range'_1]
    omega
  obtain ⟨⟨_, answer⟩, mem, rfl⟩ := List.mem_map.mp offered
  refine ⟨_, pieces, asked, m.received mt, answer, transmits, tiling.tiles, rfl, h.parse_eq fits serial,
    mem, ?_⟩
  intro accepted fits'
  have sent : Piece.app seq _ ∈ pieces := tiling.app_mem.mpr ⟨_, accepted ▸ mem⟩
  have sendable := h.resent type (format (s.session.timestamp (Runtime.utcNow s.world).1))
  obtain ⟨mt', type', serial'⟩ := sendable.serialFields_eq
  obtain rfl : mt' = mt := Option.some.inj (type'.symm.trans
    (getRaw_received m mt _ (t := Tags.msgType) rfl (by decide)))
  refine ⟨sent, fun p mem' first next => ?_, _, sendable.parse_eq fits' serial', sentAgain_received m type _⟩
  exact tiling.tiles.unique mem' sent ⟨first, next⟩ ⟨le_refl seq, Nat.lt_succ_self seq⟩

/-! ## Along a run -/

/-- Bytes are stored as they came out of their callback. -/
def Saves (c : Call σ) (earlier : List (Call σ)) : Prop :=
  ∀ n raw res, c.event = .save n raw res → Outgoing n raw c.session earlier

/-- Another call stores nothing. -/
lemma saves_cons {c : Call σ} {rest : List (Call σ)} (along : Along Saves rest)
    (other : ∀ n raw res, c.event ≠ .save n raw res) : Along Saves (c :: rest) :=
  ⟨fun n raw res ev => absurd ev (other n raw res), along⟩

/-- Giving up the connection stores nothing. -/
lemma GivenUp.saves {s t : Sys σ ω} (left : GivenUp s t) (h : Along Saves s.trace) :
    Along Saves t.trace := by
  have noted := saves_cons (c := ⟨s.session, .log .disconnecting⟩) h (by simp)
  refine left.elim (P := fun u => Along Saves u.trace) (fun cut => ?_) fun _ h => saves_cons h (by simp)
  cases cut with
  | kept => exact noted
  | reset => exact saves_cons noted (by simp)

/-- An act of the outbound half stores what its callback let through. -/
lemma SendAct.saves {fresh} {s t : Sys σ ω} (act : SendAct fresh s t) (h : Along Saves s.trace) :
    Along Saves t.trace := by
  cases act with
  | quiet | adopt | logon => exact h
  | cut _ _ left => exact left.saves h
  | announce => exact saves_cons (saves_cons h (by simp)) (by simp)
  | save isFresh out =>
    refine ⟨fun n raw res ev => ?_, h⟩
    cases ev
    exact out
  | _ => exact saves_cons h (by simp)

/-- An act of a handler stores nothing else. -/
lemma HandleAct.saves {resets} {s t : Sys σ ω} (act : HandleAct resets s t) (h : Along Saves s.trace) :
    Along Saves t.trace := by
  cases act with
  | send act => exact act.saves h
  | receivingReset | endingResets | logon | supersede => exact h
  | deliver => exact saves_cons (saves_cons h (by simp)) (by simp)
  | stashAndExpect => exact saves_cons (saves_cons (saves_cons h (by simp)) (by simp)) (by simp)
  | _ => exact saves_cons h (by simp)

/-- Every act keeps it. -/
lemma Act.saves {s t : Sys σ ω} (act : Act s t) (h : Along Saves s.trace) : Along Saves t.trace := by
  cases act with
  | handle act => exact act.saves h
  | send act => exact act.saves h
  | ask => exact h
  | cut _ left => exact left.saves h
  | endLogout now _ left => exact left.saves (saves_cons h (by simp))
  | _ => exact saves_cons h (by simp)

/-- A message that was stored when it was sent is sent again later: it came out of its callback with its
number, and from every state of a session whose store holds its bytes, a resend of a range with its
number sends it again. -/
def ResentLater (ω : Type) [Application ω] [Runtime ω] (c : Call σ) (earlier : List (Call σ)) : Prop :=
  ∀ seq raw, c.event = .save seq raw (.ok ()) →
    ∃ callback filled sent m, earlier.head? = some callback ∧
      (callback.event = .toAdmin filled sent ∨ callback.event = .toApp filled (some sent)) ∧
      m = c.session.canonicalized sent ∧ m.seqNum = .ok seq ∧ raw = m.toBytes ∧
      (m.isAdmin = false → m.Sendable → raw.length < 2 ^ 63 →
        ∀ (s : Sys σ ω) (b e : Nat), b ≤ seq → seq ≤ e → Holds b e seq raw s.session.store →
          SendsAgain b e seq m s ((Session.retransmit b e).run s).2)

/-- Along every run, an application message that is stored when it is sent, and whose fields end where
they should in the order they are serialized in, is sent again by every later resend of its number while
the store holds it, if the application accepts it unchanged: the same number, type, body and trailer,
the same header but for PossDupFlag and the times, a right BodyLength and CheckSum, and no gap fill in
its place. -/
theorem resent_faithfully (format : ∀ t : UtcTimestamp, soh ∉ encode t)
    (cfg : SessionConfig) (dictionary adminDictionary : Option DataDictionary) (store : σ) (now : Nat)
    (world : ω) (inputs : List Input) : Along (ResentLater ω)
      (Sys.ran cfg dictionary adminDictionary store now world inputs).trace := by
  have saves : Along Saves (Sys.ran cfg dictionary adminDictionary store now world inputs).trace :=
    ran_keeps Act.saves trivial
  refine saves.imp fun c earlier out seq raw ev => ?_
  obtain ⟨callback, filled, sent, head, called, -, number, rfl⟩ := out seq raw _ ev
  refine ⟨callback, filled, sent, _, head, called, rfl, number, rfl, ?_⟩
  intro app sendable fits s b e first last held
  exact (retransmit_answers (first.trans last) s rfl).sendsAgain format sendable fits app ⟨first, last⟩ held

end Resend

/-- Whether an event stores bytes under a number. -/
def Event.stores (n : Nat) (raw : Bytes) : Event → Bool
  | .save n' raw' (.ok ()) => n' = n ∧ raw' = raw
  | _ => false

/-- What stores bytes is a save that succeeded. -/
lemma Event.of_stores {n raw} {e : Event} (h : e.stores n raw = true) : e = .save n raw (.ok ()) := by
  unfold Event.stores at h
  split at h
  · obtain ⟨rfl, rfl⟩ := of_decide_eq_true h
    rfl
  · cases h

namespace Script

/-- The timestamps of a day have no delimiter. -/
lemma plain_formatDay (p : TimestampPrecision) (t : UtcTime) : soh ∉ formatDay p t := by
  have digits (width n) : soh ∉ padded width n := fun mem =>
    absurd (isDigit_of_mem_padded mem) (by decide)
  have date : soh ∉ ascii "19700101-" := by decide
  have colon : soh ∉ ascii ":" := by decide
  have point : soh ∉ ascii "." := by decide
  unfold formatDay
  cases p <;> simp only [List.mem_append, digits, date, colon, point, fractionOf, or_self, not_false_eq_true,
    if_true, List.not_mem_nil, reduceIte, OfNat.ofNat_ne_zero]

/-- A session that logs its peer on and sends a message of the application. -/
def sending (m : Message) : Sys MemoryStore Script :=
  play acceptor {} [.attach, .inbound (fromPeer MsgType.logon 1).toBytes, .send m]

/-- An order as the session fills it. -/
def filledOrder : Message :=
  let m := plainOrder.setHeader Tags.beginString localId.beginString
  let m := m.setHeader Tags.senderCompId localId.senderCompId
  let m := m.setHeader Tags.targetCompId localId.targetCompId
  let m := m.setHeader Tags.msgSeqNum 2
  m.setHeader Tags.sendingTime (ascii "19700101-00:00:00.000")

/-- It can be sent. -/
lemma sendable_filledOrder : filledOrder.Sendable where
  msgType := by decide
  header := by decide
  body := by decide
  trailer := by decide
  range := by decide
  begins := by decide
  framed := by
    have fields : filledOrder.innerFields = [⟨Tags.msgType, ascii "D"⟩, ⟨Tags.msgSeqNum, ascii "2"⟩,
      ⟨Tags.senderCompId, ascii "S"⟩, ⟨Tags.sendingTime, ascii "19700101-00:00:00.000"⟩,
      ⟨Tags.targetCompId, ascii "T"⟩, ⟨55, ascii "X"⟩] := by decide
    rw [fields]
    have plain (s : String) (h : soh ∉ ascii s := by decide) := h
    exact ⟨plain "D", plain "2", plain "S", plain "19700101-00:00:00.000", plain "T", plain "X", trivial⟩

/-- Whether the latest call stored the order, and the one before let it through as it is. -/
def savesOrder : List (Call MemoryStore) → Bool
  | c :: d :: _ =>
    c.event.stores 2 filledOrder.toBytes && decide (c.session.canonicalized filledOrder = filledOrder) &&
      match d.event with
      | .toApp _ (some sent) => decide (sent = filledOrder)
      | _ => false
  | _ => false

/-- What was stored of the order was let through as it is. -/
lemma savesOrder_cases {cs : List (Call MemoryStore)} (h : savesOrder cs = true) :
    ∃ c d rest filled, cs = c :: d :: rest ∧ c.event = .save 2 filledOrder.toBytes (.ok ()) ∧
      d.event = .toApp filled (some filledOrder) ∧
      c.session.canonicalized filledOrder = filledOrder := by
  unfold savesOrder at h
  split at h
  case h_1 c d rest =>
    simp only [Bool.and_eq_true, decide_eq_true_eq] at h
    obtain ⟨⟨stores, same⟩, through⟩ := h
    split at through
    case h_1 filled sent ev =>
      obtain rfl := of_decide_eq_true through
      exact ⟨c, d, rest, filled, rfl, Event.of_stores stores, ev, same⟩
    case h_2 => cases through
  case h_2 => cases h

/-- Where a history stored the order, and each message it stored is sent again later, a session that holds
its bytes sends the order again. -/
lemma savesOrder_again {cs : List (Call MemoryStore)} {s : Sys MemoryStore Script} {k : Nat} :
    letI := epochDay
    Along (ResentLater Script) cs → savesOrder (cs.drop k) = true →
      Holds 2 2 2 filledOrder.toBytes s.session.store →
        SendsAgain 2 2 2 filledOrder s ((Session.retransmit 2 2).run s).2 := by
  intro along saves holds
  obtain ⟨c, d, rest, filled, here, saved, through, same⟩ := savesOrder_cases saves
  have suf : c :: d :: rest <:+ cs := by
    rw [← here]
    exact List.drop_suffix k cs
  obtain ⟨callback, _, sent, m, head, called, rfl, -, -, again⟩ := along_iff.mp along c _ suf 2 _ saved
  obtain rfl : d = callback := by simpa using head
  obtain rfl : sent = filledOrder := by
    rcases called with ev | ev
    · cases through.symm.trans ev
    · cases through.symm.trans ev
      rfl
  rw [same] at again
  exact again (by decide) sendable_filledOrder (by decide +kernel) s 2 2 le_rfl le_rfl holds

/-- The order is sent again when it is asked for later. -/
theorem resent_faithfully_order :
    letI := epochDay
    SendsAgain 2 2 2 filledOrder (sending plainOrder)
      ((Session.retransmit 2 2).run (sending plainOrder)).2 := by
  have saves : savesOrder ((sending plainOrder).trace.drop 2) = true := by decide +kernel
  refine savesOrder_again ?_ saves ⟨[(2, filledOrder.toBytes)], by decide +kernel, by simp⟩
  exact @resent_faithfully MemoryStore Script epochDay _ _ _
    (fun t => plain_formatDay t.precision t.time) _ _ _ _ _ _ _

/-- A message with data in its header twice, each directly behind its length. -/
def twoSecrets : Message where
  header := ⟨[⟨Tags.msgType, ascii "D"⟩, ⟨Tags.secureDataLen, ascii "1"⟩, ⟨Tags.secureData, [soh]⟩,
    ⟨Tags.secureDataLen, ascii "1"⟩, ⟨Tags.secureData, [soh]⟩]⟩

/-- The session that sent it. -/
abbrev sentSecrets : Sys MemoryStore Script := sending twoSecrets

/-- Its bytes, as the session filled it. -/
def secretBytes : Bytes :=
  let m := twoSecrets.setHeader Tags.senderCompId localId.senderCompId
  let m := m.setHeader Tags.targetCompId localId.targetCompId
  let m := m.setHeader Tags.msgSeqNum 2
  (m.setHeader Tags.sendingTime (ascii "19700101-00:00:00.000")).toBytes

/-- The sort of the header tears the data from its lengths: the message is sent and stored under 2, and
a gap fill is sent in its place when it is asked for. -/
theorem not_resent_twoSecrets :
    letI := epochDay
    Message.Framed none twoSecrets.header.fields ∧
      (∀ f ∈ twoSecrets.header.fields, Tags.isHeaderTag f.tag = true) ∧
      twoSecrets.body.fields = [] ∧ twoSecrets.trailer.fields = [] ∧ twoSecrets.isAdmin = false ∧
      (∃ c ∈ sentSecrets.trace, c.event = .save 2 secretBytes (.ok ())) ∧
      Holds 2 2 2 secretBytes sentSecrets.session.store ∧
      ∃ fill, WritesGapFill 2 3 fill ∧
        observed Event.transmission ((Session.retransmit 2 2).run sentSecrets).2.trace =
          observed Event.transmission sentSecrets.trace ++ [fill.toBytes] := by
  have plain (s : String) (h : soh ∉ ascii s := by decide) := h
  refine ⟨⟨plain "D", plain "1", rfl, plain "1", rfl, trivial⟩, by decide, rfl, rfl, by decide, ?_, ?_, ?_⟩
  · have saved : sentSecrets.trace.any (·.event.stores 2 secretBytes) = true := by decide +kernel
    obtain ⟨c, mem, stores⟩ := List.any_eq_true.mp saved
    exact ⟨c, mem, Event.of_stores stores⟩
  · refine ⟨[(2, secretBytes)], by decide +kernel, by simp⟩
  · refine ⟨_, @writesGapFill_gapFillMessage MemoryStore epochDay _ sentSecrets.session 0 ⟨0, .millis⟩ 2 3, ?_⟩
    decide +kernel

end Script

end QuickFix
