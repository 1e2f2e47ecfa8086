import QuickFix.Wire.Accept
import QuickFix.Wire.GroupCheck
import QuickFix.Wire.RoundTrip

/-!
# The header of a dictionary

The parser counts tags to the header by a table of its own, validation takes what the parser made of the
message. For the dictionaries of `spec/`, which define OnBehalfOfSendingTime(370) in the header of two
versions, the two agree on a message exactly when it has no such field (`header_agrees`).
-/

namespace QuickFix

/-! ## The dictionaries of `spec/` -/

namespace Tags

abbrev onBehalfOfSendingTime : Tag := 370

end Tags

/-- The versions with a header. -/
inductive Spec where
  | fix40 | fix41 | fix42 | fix43 | fix44 | fixt11
  deriving DecidableEq

namespace Spec

/-- The header of FIX.4.0, which all others extend. -/
def commonHeader : List Tag :=
  [8, 9, 35, 49, 56, 115, 128, 90, 91, 34, 50, 57, 116, 129, 43, 97, 52, 122]

/-- The tags of the header, groups expanded. -/
def headerTags : Spec → List Tag
  | fix40 => commonHeader
  | fix41 => commonHeader ++ [142, 143, 144, 145]
  | fix42 => commonHeader ++ [142, 143, 144, 145, 212, 213, 347, 369, 370]
  | fix43 => commonHeader ++ [142, 143, 144, 145, 212, 213, 347, 369, 370, 627, 628, 629, 630]
  | fix44 => commonHeader ++ [142, 143, 144, 145, 212, 213, 347, 369, 627, 628, 629, 630]
  | fixt11 =>
    commonHeader ++ [142, 143, 144, 145, 212, 213, 347, 369, 627, 628, 629, 630, 1128, 1129]

/-- The tags of the trailer. -/
def trailerTags : List Tag := [93, 89, 10]

/-- One header tag is unknown to the parser. -/
lemma isHeaderTag_iff {s : Spec} {tag} (mem : tag ∈ s.headerTags) :
    Tags.isHeaderTag tag = true ↔ tag ≠ Tags.onBehalfOfSendingTime := by
  have all : ∀ t ∈ s.headerTags, Tags.isHeaderTag t = true ↔ t ≠ Tags.onBehalfOfSendingTime := by
    cases s <;> decide
  exact all tag mem

/-- The trailer tags of the specification are trailer tags. -/
lemma isTrailerTag_of_mem {tag} (mem : tag ∈ trailerTags) : Tags.isTrailerTag tag = true := by
  have all : ∀ t ∈ trailerTags, Tags.isTrailerTag t = true := by decide
  exact all tag mem

end Spec

namespace DataDictionary

/-- A dictionary with the header and the trailer of a version, none of whose messages defines a tag in
its body that the parser counts to header or trailer; so it is in `spec/`. -/
structure Ships (dd : DataDictionary) (s : Spec) : Prop where
  header : ∀ t ∈ dd.headerTags, t ∈ s.headerTags
  trailer : ∀ t ∈ dd.trailerTags, t ∈ Spec.trailerTags
  bodies : ∀ e ∈ dd.messages, ∀ t ∈ e.2.tags, Tags.isBodyTag t = true

/-- A message of a type of the dictionary: the fields 8, 9 and 35, header fields in any order, body
fields that its definition allows, and the trailer. -/
structure Shapes (dd : DataDictionary) (d : MessageDef) (begins length type : Message.WireField)
    (header body trailer : List Message.WireField) : Prop where
  fields : Message.Fields 0 none (begins :: length :: type :: (header ++ (body ++ trailer)))
  defined : dd.messages.lookup type.value = some d
  header : ∀ f ∈ header, f.tag ∈ dd.headerTags
  body : ∀ f ∈ body, f.tag ∈ d.tags
  trailer : ∀ f ∈ trailer, f.tag ∈ dd.trailerTags

/-- The parser puts the header into its section and records no error, and validation rejects no header
field as out of order or as not defined for the type. -/
def AgreesOn [Chrono] (dd : DataDictionary) (raw : Bytes) (header : List Message.WireField) : Prop :=
  ∀ v m, Message.parse raw v = .ok m →
    (∀ f ∈ header, f.toTagValue ∈ m.header.fields) ∧ m.structureError = none ∧
      ∀ settings r, dd.validate m settings = .error r → ∀ f ∈ header, r.refTag = some f.tag →
        r.reason ≠ .tagSpecifiedOutOfRequiredOrder ∧ r.reason ≠ .tagNotDefinedForThisMessageType

/-! ## What validation answers -/

/-- A reject for neither of the two reasons. -/
def Spares (r : RejectError) : Prop :=
  r.reason ≠ .tagSpecifiedOutOfRequiredOrder ∧ r.reason ≠ .tagNotDefinedForThisMessageType

/-- A Reject for another reason spares the sections. -/
lemma spares_of {reason : SessionRejectReason} {tag text} (apart : reason ≠
    .tagSpecifiedOutOfRequiredOrder ∧ reason ≠ .tagNotDefinedForThisMessageType) :
    Spares ⟨reason, tag, text⟩ := apart

variable {d : MessageDef} {body : FieldMap} {r : RejectError}

/-- The check of delimiters says nothing of the sections. -/
lemma checkDelimiters_spares {fs : List TagValue} (h : checkDelimiters d body fs = .error r) :
    Spares r := by
  induction fs with
  | nil => cases h
  | cons f fs ih =>
    rw [checkDelimiters] at h
    split at h
    case h_1 => exact ih h
    case h_2 g _ =>
      cases fs with
      | nil => cases h
      | cons first fs =>
        dsimp only at h
        split_ifs at h
        · cases h
          exact spares_of (by decide)
        · exact ih h

/-- Neither does the check of required fields. -/
lemma checkRequired_spares {required : List Tag} (h : checkRequired required body = .error r) :
    Spares r := by
  unfold checkRequired at h
  split at h
  case h_1 =>
    cases h
    exact spares_of (by decide)
  case h_2 => cases h

/-- Neither does the check of duplicates. -/
lemma checkDuplicates_spares {memberTags seen : List Tag} {fs : List TagValue}
    (h : checkDuplicates memberTags seen fs = .error r) : Spares r := by
  induction fs generalizing seen with
  | nil => cases h
  | cons f fs ih =>
    rw [checkDuplicates] at h
    split at h
    case isTrue => exact ih h
    case isFalse =>
      split at h
      case isTrue =>
        cases h
        exact spares_of (by decide)
      case isFalse => exact ih h

/-- Neither does the check of a counter. -/
lemma checkGroupCount_spares {g : GroupDef} (h : checkGroupCount body g = .error r) : Spares r := by
  unfold checkGroupCount at h
  split at h
  case h_1 => cases h
  case h_2 =>
    split at h
    case h_1 =>
      cases h
      exact spares_of (by decide)
    case h_2 =>
      split at h
      case isTrue =>
        cases h
        exact spares_of (by decide)
      case isFalse => cases h

/-- A field that the definition allows, or that is not of the body, is defined for the type. -/
lemma checkField_spares [Chrono] {dd : DataDictionary} {f : TagValue} {isBody settings}
    (allowed : isBody = true → f.tag ∈ d.tags) (h : dd.checkField f isBody d settings = .error r) :
    Spares r := by
  unfold checkField at h
  split at h
  case isTrue => cases h
  case isFalse =>
    split at h
    case isTrue =>
      cases h
      exact spares_of (by decide)
    case isFalse =>
      split at h
      case h_1 =>
        split at h
        case isTrue => cases h
        case isFalse =>
          cases h
          exact spares_of (by decide)
      case h_2 field _ =>
        split at h
        case isTrue undefined => exact absurd (allowed undefined.1) undefined.2.2.1
        case isFalse =>
          split at h
          case isTrue =>
            cases h
            exact spares_of (by decide)
          case isFalse =>
            split at h
            case isTrue =>
              cases h
              exact spares_of (by decide)
            case isFalse => cases h

/-- A check of a list fails at one of its elements. -/
lemma checkAll_spares {α : Type} {check : α → Except RejectError Unit} {xs : List α}
    (spares : ∀ x ∈ xs, ∀ r, check x = .error r → Spares r) (h : checkAll check xs = .error r) :
    Spares r := by
  induction xs with
  | nil => cases h
  | cons x xs ih =>
    obtain ⟨here, later⟩ := List.forall_mem_cons.mp spares
    rw [checkAll] at h
    cases first : check x with
    | error r' =>
      rw [first] at h
      cases h
      exact here r first
    | ok =>
      rw [first] at h
      exact ih later h

/-- Checks in turn fail at one of them. -/
lemma seq_spares {x y : Except RejectError Unit} (here : x = .error r → Spares r)
    (later : y = .error r → Spares r) (h : (do x; y) = .error r) : Spares r := by
  cases x with
  | error r' =>
    cases h
    exact here rfl
  | ok => exact later h

/-- Validation of a message in the order of its sections, with body fields that the definition of its
type allows. -/
lemma validate_spares [Chrono] {dd : DataDictionary} {m : Message} {settings}
    (ordered : m.structureError = none)
    (allowed : ∀ mt d, m.msgType = .ok mt → dd.messages.lookup mt = some d →
      ∀ f ∈ m.body.fields, f.tag ∈ d.tags)
    (h : dd.validate m settings = .error r) : Spares r := by
  unfold validate at h
  split at h
  case h_1 =>
    cases h
    exact spares_of (by decide)
  case h_2 mt type =>
    split at h
    case isTrue => cases h
    case isFalse =>
      split at h
      case h_1 =>
        split at h
        all_goals
          cases h
          exact spares_of (by decide)
      case h_2 d found =>
        rw [ordered] at h
        refine seq_spares checkDelimiters_spares (seq_spares checkRequired_spares
          (seq_spares checkRequired_spares (seq_spares checkRequired_spares
          (seq_spares checkDuplicates_spares (seq_spares ?_ (seq_spares ?_ (seq_spares ?_ ?_))))))) h
        · exact checkAll_spares fun g _ r => checkGroupCount_spares
        · exact checkAll_spares fun f _ r => checkField_spares (by simp)
        · exact checkAll_spares fun f mem r => checkField_spares fun _ => allowed mt d type found f mem
        · exact checkAll_spares fun f _ r => checkField_spares (by simp)

/-! ## What the parser makes of the fields -/

open Message in
/-- What is parsed holds the fields that were read. -/
lemma parse_fields {fs : List WireField} (fields : Fields 0 none fs) {v m}
    (parsed : Message.parse (wire fs) v = .ok m) : m = (({} : ParseState).afterAll 0 fs).msg := by
  obtain ⟨gs, fields', same, rfl⟩ := fields_of_parse parsed
  rw [wire_injective fields fields' same]

open Message in
/-- Fields are parsed without the checks of a frame. -/
lemma parse_unchecked {fs : List WireField} (fields : Fields 0 none fs) :
    Message.parse (wire fs) false = .ok (({} : ParseState).afterAll 0 fs).msg := by
  have all : parseFields (wire fs).length {} 0 (wire fs) = .ok (({} : ParseState).afterAll 0 fs) :=
    (parseFields_ok (le_refl _)).mpr ⟨fs, fields, rfl, rfl⟩
  simp only [Message.parse, all, bind, Except.bind, pure, Except.pure]
  rfl

section

open Message

variable {dd : DataDictionary} {s : Spec} {d : MessageDef} {begins length type : WireField}
variable {header body trailer : List WireField}

/-- The sections of the tags of a message of `spec/` without OnBehalfOfSendingTime. -/
lemma Shapes.classes (h : dd.Shapes d begins length type header body trailer) (ships : dd.Ships s)
    (known : ∀ f ∈ header, f.tag ≠ Tags.onBehalfOfSendingTime) :
    (∀ f ∈ begins :: length :: type :: header, Tags.isHeaderTag f.tag = true) ∧
      (∀ f ∈ body, Tags.isBodyTag f.tag = true) ∧ ∀ f ∈ trailer, Tags.isTrailerTag f.tag = true := by
  obtain ⟨tag, tag'⟩ := leading_tags h.fields
  have type' : type.tag = Tags.msgType := by
    by_contra other
    simpa [checkLeading, other] using h.fields.2.2.1.leading
  refine ⟨?_, ?_, ?_⟩
  · intro f mem
    rcases List.mem_cons.mp mem with rfl | mem
    · rw [tag]
      rfl
    rcases List.mem_cons.mp mem with rfl | mem
    · rw [tag']
      rfl
    rcases List.mem_cons.mp mem with rfl | mem
    · rw [type']
      rfl
    · exact (Spec.isHeaderTag_iff (ships.header _ (h.header f mem))).mpr (known f mem)
  · intro f mem
    obtain ⟨l, r, split, -⟩ := List.lookup_eq_some_iff.mp h.defined
    exact ships.bodies (type.value, d) (by rw [split]; simp) _ (h.body f mem)
  · intro f mem
    exact Spec.isTrailerTag_of_mem (ships.trailer _ (h.trailer f mem))

/-- Sections one after the other are in order. -/
lemma inOrder {hs bs ts : List WireField} (header : ∀ f ∈ hs, Tags.isHeaderTag f.tag = true)
    (body : ∀ f ∈ bs, Tags.isBodyTag f.tag = true) (trailer : ∀ f ∈ ts, Tags.isTrailerTag f.tag = true) :
    (hs ++ (bs ++ ts)).Pairwise fun f g => (sectionOf f.tag).rank ≤ (sectionOf g.tag).rank := by
  rw [List.pairwise_append, List.pairwise_append]
  have same {fs : List WireField} {part} (own : ∀ f ∈ fs, sectionOf f.tag = part) :
      fs.Pairwise fun f g => (sectionOf f.tag).rank ≤ (sectionOf g.tag).rank := by
    apply List.pairwise_of_forall_mem_list
    intro f mem g mem'
    rw [own f mem, own g mem']
  refine ⟨same fun f mem => sectionOf_header (header f mem),
    ⟨same fun f mem => sectionOf_body (body f mem), same fun f mem => sectionOf_trailer (trailer f mem),
      ?_⟩, ?_⟩
  · intro f mem g mem'
    rw [sectionOf_body (body f mem), sectionOf_trailer (trailer g mem')]
    decide
  · intro f mem g mem'
    rw [sectionOf_header (header f mem)]
    exact Nat.zero_le _

/-- The type is the value of its field. -/
lemma Shapes.type_eq (h : dd.Shapes d begins length type header body trailer) {m : Message} {mt}
    (headers : m.header = ⟨(values (begins :: length :: type :: (header ++ (body ++ trailer)))).filter
      (Tags.isHeaderTag ·.tag)⟩) (read : m.msgType = .ok mt) : mt = type.value := by
  obtain ⟨tag, tag'⟩ := leading_tags h.fields
  have type' : type.tag = Tags.msgType := by
    by_contra other
    simpa [checkLeading, other] using h.fields.2.2.1.leading
  have own : Tags.isHeaderTag Tags.msgType = true := rfl
  rw [msgType, FieldMap.get, headers, FieldMap.getRaw_filter own,
    show values (begins :: length :: type :: (header ++ (body ++ trailer))) =
      begins.toTagValue :: length.toTagValue :: type.toTagValue :: values (header ++ (body ++ trailer))
      from rfl, FieldMap.getRaw_cons, if_neg (by rw [tag]; decide), FieldMap.getRaw_cons,
    if_neg (by rw [tag']; decide), FieldMap.getRaw_cons, if_pos type'] at read
  change decodeString Tags.msgType type.value = .ok mt at read
  unfold decodeString at read
  split at read
  case isTrue => exact (Except.ok.inj read).symm
  case isFalse => cases read

/-- The parser's table and the header of a dictionary of `spec/` agree on a message exactly when it has no
OnBehalfOfSendingTime. -/
theorem header_agrees [Chrono] (ships : dd.Ships s)
    (h : dd.Shapes d begins length type header body trailer) :
    dd.AgreesOn (wire (begins :: length :: type :: (header ++ (body ++ trailer))))
        (begins :: length :: type :: header) ↔
      ∀ f ∈ header, f.tag ≠ Tags.onBehalfOfSendingTime := by
  obtain ⟨headers, bodies, -⟩ :=
    afterAll_message (begins :: length :: type :: (header ++ (body ++ trailer)))
  constructor
  · intro agrees f mem
    obtain ⟨own, -⟩ := agrees false _ (parse_unchecked h.fields)
    have here := own f (List.mem_cons_of_mem _ (List.mem_cons_of_mem _ (List.mem_cons_of_mem _ mem)))
    rw [headers] at here
    exact (Spec.isHeaderTag_iff (ships.header _ (h.header f mem))).mp (List.mem_filter.mp here).2
  · intro known v m parsed
    obtain rfl := parse_fields h.fields parsed
    obtain ⟨headerClass, bodyClass, trailerClass⟩ := h.classes ships known
    have split : begins :: length :: type :: (header ++ (body ++ trailer)) =
        (begins :: length :: type :: header) ++ (body ++ trailer) := rfl
    have ordered : (({} : ParseState).afterAll 0
        (begins :: length :: type :: (header ++ (body ++ trailer)))).msg.structureError = none := by
      exact afterAll_inOrder (inOrder headerClass bodyClass trailerClass) fun f _ => Nat.zero_le _
    refine ⟨?_, ordered, ?_⟩
    · intro f mem
      rw [headers]
      refine List.mem_filter.mpr ⟨List.mem_map_of_mem ?_, headerClass f mem⟩
      rw [split]
      exact List.mem_append_left _ mem
    · intro settings r rejected f mem cited
      refine validate_spares ordered ?_ rejected
      intro mt d' type' found g own
      rw [h.type_eq headers type', h.defined] at found
      obtain rfl := Option.some.inj found
      rw [bodies] at own
      obtain ⟨mem, bodyTag⟩ := List.mem_filter.mp own
      obtain ⟨f, place, rfl⟩ := List.mem_map.mp mem
      rw [split, List.mem_append, List.mem_append] at place
      rcases place with here | here | here
      · rw [(Tags.of_isHeaderTag (headerClass f here)).1] at bodyTag
        cases bodyTag
      · exact h.body f here
      · rw [(Tags.of_isTrailerTag (trailerClass f here)).2] at bodyTag
        cases bodyTag

end

end DataDictionary

/-! ## FIX.4.2 -/

/-- The header of FIX.4.2 as `spec/FIX42.xml` has it, with the numbers and the types of the fields. -/
def fix42Header : List (String × String × String × String) :=
  [("BeginString", "Y", "8", "STRING"), ("BodyLength", "Y", "9", "INT"),
    ("MsgType", "Y", "35", "STRING"), ("SenderCompID", "Y", "49", "STRING"),
    ("TargetCompID", "Y", "56", "STRING"), ("OnBehalfOfCompID", "N", "115", "STRING"),
    ("DeliverToCompID", "N", "128", "STRING"), ("SecureDataLen", "N", "90", "LENGTH"),
    ("SecureData", "N", "91", "DATA"), ("MsgSeqNum", "Y", "34", "INT"),
    ("SenderSubID", "N", "50", "STRING"), ("SenderLocationID", "N", "142", "STRING"),
    ("TargetSubID", "N", "57", "STRING"), ("TargetLocationID", "N", "143", "STRING"),
    ("OnBehalfOfSubID", "N", "116", "STRING"), ("OnBehalfOfLocationID", "N", "144", "STRING"),
    ("DeliverToSubID", "N", "129", "STRING"), ("DeliverToLocationID", "N", "145", "STRING"),
    ("PossDupFlag", "N", "43", "BOOLEAN"), ("PossResend", "N", "97", "BOOLEAN"),
    ("SendingTime", "Y", "52", "UTCTIMESTAMP"), ("OrigSendingTime", "N", "122", "UTCTIMESTAMP"),
    ("XmlDataLen", "N", "212", "LENGTH"), ("XmlData", "N", "213", "DATA"),
    ("MessageEncoding", "N", "347", "STRING"), ("LastMsgSeqNumProcessed", "N", "369", "INT"),
    ("OnBehalfOfSendingTime", "N", "370", "UTCTIMESTAMP")]

/-- The part of FIX.4.2 that a Heartbeat needs. -/
def fix42Document : Node :=
  element "fix" [("major", "4"), ("type", "FIX"), ("servicepack", "0"), ("minor", "2")] [
    element "header" [] (fix42Header.map fun f =>
      element "field" [("name", f.1), ("required", f.2.1)] []),
    element "messages" [] [
      element "message" [("name", "Heartbeat"), ("msgcat", "admin"), ("msgtype", "0")] [
        element "field" [("name", "TestReqID"), ("required", "N")] []]],
    element "trailer" [] [
      element "field" [("name", "SignatureLength"), ("required", "N")] [],
      element "field" [("name", "Signature"), ("required", "N")] [],
      element "field" [("name", "CheckSum"), ("required", "Y")] []],
    element "fields" [] ((fix42Header.map fun f =>
      element "field" [("number", f.2.2.1), ("name", f.1), ("type", f.2.2.2)] []) ++ [
      element "field" [("number", "10"), ("name", "CheckSum"), ("type", "STRING")] [],
      element "field" [("number", "89"), ("name", "Signature"), ("type", "DATA")] [],
      element "field" [("number", "93"), ("name", "SignatureLength"), ("type", "LENGTH")] [],
      element "field" [("number", "112"), ("name", "TestReqID"), ("type", "STRING")] []])]

/-- Its dictionary. -/
def fix42Dictionary : DataDictionary :=
  match (DataDictionary.parse 1 fix42Document).run with
  | some (.ok dd) => dd
  | _ => ⟨[], [], [], [], [], [], []⟩

/-- The tags of the dictionary, and that it is loaded. -/
lemma fix42_facts : isLoaded (DataDictionary.parse 1 fix42Document) = true ∧
    fix42Dictionary.headerTags = [8, 9, 35, 49, 56, 115, 128, 90, 91, 34, 50, 142, 57, 143, 116, 144,
      129, 145, 43, 97, 52, 122, 212, 213, 347, 369, 370] ∧
    fix42Dictionary.trailerTags = [93, 89, 10] ∧
    (fix42Dictionary.messages.map fun e => (e.1, e.2.tags)) = [(ascii "0", [112])] := by
  decide +kernel

/-- The dictionary is the one that ships for FIX.4.2. -/
lemma ships_fix42 : fix42Dictionary.Ships .fix42 where
  header := by
    rw [fix42_facts.2.1]
    decide
  trailer := by
    rw [fix42_facts.2.2.1]
    decide
  bodies e mem t own := by
    have entry : (e.1, e.2.tags) ∈ [(ascii "0", [112])] := by
      rw [← fix42_facts.2.2.2]
      exact List.mem_map_of_mem mem
    rw [(Prod.mk.inj (List.mem_singleton.mp entry)).2] at own
    rw [List.mem_singleton.mp own]
    rfl

open Message

/-- A field as it is written. -/
def fieldOf (tag : Tag) (value : String) : WireField := written ⟨tag, ascii value⟩

/-- The header fields of a Heartbeat behind its type, without and with OnBehalfOfSendingTime. -/
def beatHeader : List WireField := [fieldOf 49 "A", fieldOf 56 "B", fieldOf 34 "2"]

/-- The header of a Heartbeat that was relayed. -/
def relayedHeader : List WireField := fieldOf 370 "20240101-00:00:00" :: beatHeader

/-- The definition of a Heartbeat. -/
def beatDef : MessageDef := (fix42Dictionary.messages.lookup (ascii "0")).getD {}

/-- The dictionary has one message. -/
lemma messages_fix42 : ∃ d, fix42Dictionary.messages = [(ascii "0", d)] ∧ d.tags = [112] := by
  obtain ⟨e, entries, same⟩ := List.map_eq_singleton_iff.mp fix42_facts.2.2.2
  obtain ⟨mt, d⟩ := e
  obtain ⟨rfl, tags⟩ := Prod.mk.inj same
  exact ⟨d, entries, tags⟩

/-- The Heartbeat is found in it. -/
lemma lookup_beat : fix42Dictionary.messages.lookup (ascii "0") = some beatDef := by
  obtain ⟨d, entries, -⟩ := messages_fix42
  rw [beatDef, entries]
  rfl

/-- The one body tag of a Heartbeat. -/
lemma tags_beat : beatDef.tags = [112] := by
  obtain ⟨d, entries, tags⟩ := messages_fix42
  rw [beatDef, entries]
  exact tags

/-- The Heartbeat is of the shape. -/
lemma shapes_beat : fix42Dictionary.Shapes beatDef (fieldOf 8 "FIX.4.2") (fieldOf 9 "5")
    (fieldOf 35 "0") beatHeader [fieldOf 112 "x"] [fieldOf 10 "000"] where
  fields := by
    have plain (s : String) (h : soh ∉ ascii s := by decide) := h
    refine ⟨fits_written (by decide) (plain "FIX.4.2") rfl, fits_written (by decide) (plain "5") rfl,
      fits_written (by decide) (plain "0") rfl, ?_⟩
    have later : Fields 3 none (([⟨49, ascii "A"⟩, ⟨56, ascii "B"⟩, ⟨34, ascii "2"⟩,
        ⟨112, ascii "x"⟩, ⟨10, ascii "000"⟩] : List TagValue).map written) :=
      fields_written (le_refl 3) (by decide)
        ⟨plain "A", plain "B", plain "2", plain "x", plain "000", trivial⟩
    exact later
  defined := lookup_beat
  header := by
    rw [fix42_facts.2.1]
    decide
  body := by
    rw [tags_beat]
    decide
  trailer := by
    rw [fix42_facts.2.2.1]
    decide

/-- So is the one that was relayed. -/
lemma shapes_relayed : fix42Dictionary.Shapes beatDef (fieldOf 8 "FIX.4.2") (fieldOf 9 "5")
    (fieldOf 35 "0") relayedHeader [fieldOf 112 "x"] [fieldOf 10 "000"] where
  fields := by
    have plain (s : String) (h : soh ∉ ascii s := by decide) := h
    refine ⟨fits_written (by decide) (plain "FIX.4.2") rfl, fits_written (by decide) (plain "5") rfl,
      fits_written (by decide) (plain "0") rfl, ?_⟩
    have later : Fields 3 none (([⟨370, ascii "20240101-00:00:00"⟩, ⟨49, ascii "A"⟩, ⟨56, ascii "B"⟩,
        ⟨34, ascii "2"⟩, ⟨112, ascii "x"⟩, ⟨10, ascii "000"⟩] : List TagValue).map written) :=
      fields_written (le_refl 3) (by decide)
        ⟨plain "20240101-00:00:00", plain "A", plain "B", plain "2", plain "x", plain "000", trivial⟩
    exact later
  defined := lookup_beat
  header := by
    rw [fix42_facts.2.1]
    decide
  body := by
    rw [tags_beat]
    decide
  trailer := by
    rw [fix42_facts.2.2.1]
    decide

/-- A Heartbeat as it is sent. -/
theorem header_agrees_beat :
    letI := undated
    (fix42Dictionary.AgreesOn
        (wire (fieldOf 8 "FIX.4.2" :: fieldOf 9 "5" :: fieldOf 35 "0" :: (beatHeader ++
          ([fieldOf 112 "x"] ++ [fieldOf 10 "000"]))))
        (fieldOf 8 "FIX.4.2" :: fieldOf 9 "5" :: fieldOf 35 "0" :: beatHeader) ↔
      ∀ f ∈ beatHeader, f.tag ≠ Tags.onBehalfOfSendingTime) :=
  let := undated
  DataDictionary.header_agrees ships_fix42 shapes_beat

/-- A relayed Heartbeat has its header rejected. -/
theorem header_rejected :
    letI := undated
    let raw := wire (fieldOf 8 "FIX.4.2" :: fieldOf 9 "5" :: fieldOf 35 "0" :: (relayedHeader ++
      ([fieldOf 112 "x"] ++ [fieldOf 10 "000"])))
    fix42Dictionary.Ships .fix42 ∧
    fix42Dictionary.Shapes beatDef (fieldOf 8 "FIX.4.2") (fieldOf 9 "5") (fieldOf 35 "0")
      relayedHeader [fieldOf 112 "x"] [fieldOf 10 "000"] ∧
    (Message.parse raw false).toOption.bind (·.structureError) = some Tags.senderCompId ∧
    (Message.parse raw false).toOption.map (fix42Dictionary.validate · {}) =
      some (.error (.withTag .tagSpecifiedOutOfRequiredOrder Tags.senderCompId)) ∧
    ¬ fix42Dictionary.AgreesOn raw
      (fieldOf 8 "FIX.4.2" :: fieldOf 9 "5" :: fieldOf 35 "0" :: relayedHeader) := by
  let := undated
  refine ⟨ships_fix42, shapes_relayed, by decide +kernel, by decide +kernel, ?_⟩
  intro agrees
  have parsed := DataDictionary.parse_unchecked shapes_relayed.fields
  obtain ⟨-, ordered, -⟩ := agrees false _ parsed
  revert ordered
  decide +kernel

end QuickFix
