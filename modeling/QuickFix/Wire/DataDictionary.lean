import QuickFix.Wire.Reject

/-!
# Data dictionaries

Model of the use `src/datadictionary.rs` makes of a loaded dictionary: validation of parsed messages
and the canonical order of outgoing bodies. A hash map is the list of its entries in iteration order,
a hash set the list of its members.
-/

namespace QuickFix

/-- Tags from here on are user-defined. -/
def userDefinedTagMin : Tag := 5000

/-- The types of fields. -/
inductive FieldType where
  | int | length | seqNum | numInGroup | dayOfMonth | float | qty | price | priceOffset | amt
  | percentage | char | boolean | string | data | utcTimestamp | utcDateOnly | utcTimeOnly
  | localMktDate | monthYear | other
  deriving DecidableEq

/-- The definition of a field. -/
structure FieldDef where
  tag : Tag
  fieldType : FieldType
  /-- Allowed values; empty means unrestricted. -/
  values : List Bytes

/-- The definition of a repeating group. -/
structure GroupDef where
  counter : Tag
  delimiter : Tag
  /-- All member tags, including those of nested groups. -/
  tags : List Tag
  required : List Tag
  groups : List (Tag × GroupDef)
  /-- Direct members in spec order. -/
  memberOrder : List Tag

/-- The definition of a message type. -/
structure MessageDef where
  tags : List Tag := []
  required : List Tag := []
  groups : List (Tag × GroupDef) := []
  /-- Top-level fields in spec order. -/
  fieldOrder : List Tag := []

/-- A loaded dictionary. -/
structure DataDictionary where
  beginString : Bytes
  fieldsByTag : List (Tag × FieldDef)
  headerTags : List Tag
  headerRequired : List Tag
  trailerTags : List Tag
  trailerRequired : List Tag
  messages : List (Bytes × MessageDef)

/-- Validation toggles. -/
structure ValidationSettings where
  checkFieldsOutOfOrder : Bool := true
  checkFieldsHaveValues : Bool := true
  checkUserDefinedFields : Bool := true
  allowUnknownMessageFields : Bool := false

namespace DataDictionary

/-! ## Canonical order -/

/-- Cuts the body into top-level fields, each with the group block that follows its counter. -/
def segments (groups : List (Tag × GroupDef)) : Nat → List TagValue → List (Tag × List TagValue)
  | 0, _ => []
  | _, [] => []
  | fuel + 1, f :: fs =>
    match groups.lookup f.tag with
    | none => (f.tag, [f]) :: segments groups fuel fs
    | some g =>
      let members := fs.takeWhile fun x => decide (x.tag ∈ g.tags)
      (f.tag, f :: members) :: segments groups fuel (fs.drop members.length)

/-- Reorders a body: top-level fields ascending by tag, group blocks kept whole. -/
def canonicalizeBody (dd : DataDictionary) (m : Message) : Message :=
  match m.msgType with
  | .error _ => m
  | .ok mt =>
    match dd.messages.lookup mt with
    | none => m
    | some def' =>
      let segs := segments def'.groups m.body.fields.length m.body.fields
      { m with body := ⟨(segs.insertionSort (·.1 ≤ ·.1)).flatMap (·.2)⟩ }

/-- Canonicalization changes the body alone. -/
@[simp] lemma canonicalizeBody_header (dd : DataDictionary) (m) :
    (dd.canonicalizeBody m).header = m.header := by
  unfold canonicalizeBody
  split
  case h_1 => rfl
  case h_2 => split <;> rfl

/-! ## Validation -/

/-- The bytes of a float on the wire: digits with at most one point and a leading minus. -/
def isFloat (bs : Bytes) : Bool :=
  let ds := match bs with
    | 45 :: ds => ds
    | ds => ds
  match splitOnce 46 ds with
  | none => ds ≠ [] && ds.all isDigit
  | some (int, frac) => int ++ frac ≠ [] && (int ++ frac).all isDigit

/-- Whether decoding succeeded. -/
def isOk {ε α} : Except ε α → Bool
  | .ok _ => true
  | .error _ => false

/-- Whether the value has the format of the field's type. -/
def checkFormat [Chrono] (field : FieldDef) (value : Bytes) : Bool :=
  match field.fieldType with
  | .int => isOk (decodeI64 field.tag value)
  | .length | .seqNum | .numInGroup => isOk (decodeU64 field.tag value)
  | .dayOfMonth =>
    match decodeU64 field.tag value with
    | .ok d => 1 ≤ d && d ≤ 31
    | .error _ => false
  | .float | .qty | .price | .priceOffset | .amt | .percentage => isFloat value
  | .char => value.length = 1
  | .boolean => value = ascii "Y" || value = ascii "N"
  | .utcTimestamp => isOk (decodeTimestamp field.tag value)
  | .utcDateOnly | .localMktDate => utf8Valid value && Chrono.isDate value
  | .monthYear => 6 ≤ value.length && (value.take 6).all isDigit
  | .utcTimeOnly | .string | .data | .other => true

/-- The parts of a string between the bytes `b`. -/
def splitAll (b : UInt8) : Bytes → List Bytes
  | [] => [[]]
  | c :: cs =>
    match splitAll b cs with
    | [] => [[c]]
    | part :: parts => if c = b then [] :: part :: parts else (c :: part) :: parts

/-- The checks of a single field. -/
def checkField [Chrono] (dd : DataDictionary) (f : TagValue) (isBody : Bool) (def' : MessageDef)
    (settings : ValidationSettings) : Except RejectError Unit :=
  if userDefinedTagMin ≤ f.tag ∧ !settings.checkUserDefinedFields then .ok ()
  else if settings.checkFieldsHaveValues ∧ f.value = [] then
    .error (.withTag .tagSpecifiedWithoutAValue f.tag)
  else
    match dd.fieldsByTag.lookup f.tag with
    | none =>
      if settings.allowUnknownMessageFields then .ok ()
      else .error (.withTag .invalidTagNumber f.tag)
    | some field =>
      if isBody ∧ !settings.allowUnknownMessageFields ∧ f.tag ∉ def'.tags ∧
          f.tag < userDefinedTagMin then
        .error (.withTag .tagNotDefinedForThisMessageType f.tag)
      else if !checkFormat field f.value then
        .error (.withTag .incorrectDataFormatForValue f.tag)
      else if field.values ≠ [] ∧
          !(splitAll 32 (utf8Lossy f.value)).all field.values.contains then
        .error (.withTag .valueIsIncorrect f.tag)
      else .ok ()

/-- The reject for a group whose first entry does not start with its delimiter. -/
def badDelimiter (g : GroupDef) : RejectError :=
  .other (ascii "Group " ++ itoa g.counter ++
    ascii "'s first entry does not start with delimiter " ++ itoa g.delimiter) g.counter

/-- A repeating group's first entry must begin with its delimiter, in wire order. -/
def checkDelimiters (def' : MessageDef) (body : FieldMap) : List TagValue → Except RejectError Unit
  | [] => .ok ()
  | f :: fs =>
    match def'.groups.lookup f.tag with
    | none => checkDelimiters def' body fs
    | some g =>
      let declared := match body.getOpt decodeU64 g.counter with
        | .ok (some n) => n
        | _ => 0
      match fs with
      | first :: _ =>
        if declared ≠ 0 ∧ first.tag ∈ g.tags ∧ first.tag ≠ g.delimiter then .error (badDelimiter g)
        else checkDelimiters def' body fs
      | [] => .ok ()

/-- The first of the tags the section lacks is cited. -/
def checkRequired (required : List Tag) (section' : FieldMap) : Except RejectError Unit :=
  match required.find? fun tag => !section'.contains tag with
  | some tag => .error (.withTag .requiredTagMissing tag)
  | none => .ok ()

/-- Only repeating-group members may repeat. -/
def checkDuplicates (memberTags : List Tag) (seen : List Tag) :
    List TagValue → Except RejectError Unit
  | [] => .ok ()
  | f :: fs =>
    if f.tag ∈ memberTags then checkDuplicates memberTags seen fs
    else if f.tag ∈ seen then .error (.withTag .tagAppearsMoreThanOnce f.tag)
    else checkDuplicates memberTags (f.tag :: seen) fs

/-- The declared count of a group must be the number of its delimiters. -/
def checkGroupCount (body : FieldMap) (g : GroupDef) : Except RejectError Unit :=
  match body.getRaw g.counter with
  | none => .ok ()
  | some raw =>
    match parseUnsigned (2 ^ 64) raw with
    | none => .error (.withTag .incorrectDataFormatForValue g.counter)
    | some declared =>
      if declared ≠ body.fields.countP (·.tag = g.delimiter) then
        .error (.withTag .incorrectNumInGroupCountForRepeatingGroup g.counter)
      else .ok ()

/-- Runs a check over a list, up to its first failure. -/
def checkAll {α} (check : α → Except RejectError Unit) : List α → Except RejectError Unit
  | [] => .ok ()
  | x :: xs => do
    check x
    checkAll check xs

/-- Validate a parsed message: the error is the reject that should be sent. -/
def validate [Chrono] (dd : DataDictionary) (m : Message) (settings : ValidationSettings) :
    Except RejectError Unit :=
  match m.msgType with
  | .error _ => .error (.withTag .requiredTagMissing Tags.msgType)
  | .ok mt =>
    if mt = MsgType.xmlNonFix then .ok ()
    else
      match dd.messages.lookup mt with
      | none =>
        if dd.beginString = ascii "FIX.4.2" then .error (.withTag .invalidMsgType Tags.msgType)
        else .error (.new .invalidMsgType)
      | some def' =>
        match m.structureError, settings.checkFieldsOutOfOrder with
        | some tag, true => .error (.withTag .tagSpecifiedOutOfRequiredOrder tag)
        | _, _ => do
          checkDelimiters def' m.body m.body.fields
          checkRequired dd.headerRequired m.header
          checkRequired dd.trailerRequired m.trailer
          checkRequired def'.required m.body
          checkDuplicates (def'.groups.flatMap (·.2.tags)) [] m.body.fields
          checkAll (checkGroupCount m.body) (def'.groups.map (·.2))
          checkAll (dd.checkField · false def' settings) m.header.fields
          checkAll (dd.checkField · true def' settings) m.body.fields
          checkAll (dd.checkField · false def' settings) m.trailer.fields

end DataDictionary

end QuickFix
