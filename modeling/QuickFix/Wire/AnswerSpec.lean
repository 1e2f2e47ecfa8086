import QuickFix.Wire.HeaderTags

/-!
# Answers in the dictionaries

What the dictionaries of `spec/` say of the messages that answer one which is not accepted, Reject and
BusinessMessageReject, and which values pass in their fields: a string that is not empty, a number that
the version can write, a reason that it has (`ShipsAnswers.check_strings`, `.check_number`,
`.check_reason`).
-/

namespace QuickFix

/-! ## What validation asks for -/

namespace DataDictionary

/-- A check of all passes when each does. -/
lemma checkAll_ok_iff {α : Type} {check : α → Except RejectError Unit} {xs : List α} :
    checkAll check xs = .ok () ↔ ∀ x ∈ xs, check x = .ok () := by
  refine ⟨checkAll_ok, fun h => ?_⟩
  induction xs with
  | nil => rfl
  | cons x xs ih =>
    obtain ⟨here, later⟩ := List.forall_mem_cons.mp h
    rw [checkAll, here]
    exact ih later

/-- Two checks in a row pass when both do. -/
lemma seq_ok_iff {x y : Except RejectError Unit} : (do x; y) = .ok () ↔ x = .ok () ∧ y = .ok () := by
  refine ⟨of_seq, fun ⟨first, second⟩ => ?_⟩
  rw [first]
  exact second

/-- The check of required fields passes when they are there. -/
lemma checkRequired_ok_iff {required : List Tag} {fm : FieldMap} :
    checkRequired required fm = .ok () ↔ ∀ tag ∈ required, fm.contains tag = true := by
  rw [checkRequired]
  cases missing : required.find? fun tag => !fm.contains tag with
  | none => simpa using List.find?_eq_none.mp missing
  | some tag =>
    have lacks : (!fm.contains tag) = true := by simpa using List.find?_some missing
    refine iff_of_false (fun h => by cases h) fun all => ?_
    rw [all tag (List.mem_of_find?_eq_some missing)] at lacks
    cases lacks

/-- The check of duplicates passes when there are none. -/
lemma checkDuplicates_ok {seen : List Tag} {fs : List TagValue} (nodup : (fs.map (·.tag)).Nodup)
    (others : ∀ f ∈ fs, f.tag ∉ seen) : checkDuplicates [] seen fs = .ok () := by
  induction fs generalizing seen with
  | nil => rfl
  | cons f fs ih =>
    obtain ⟨first, rest⟩ := List.nodup_cons.mp nodup
    obtain ⟨here, later⟩ := List.forall_mem_cons.mp others
    rw [checkDuplicates, if_neg List.not_mem_nil, if_neg here]
    refine ih rest fun g mem => ?_
    rw [List.mem_cons, not_or]
    exact ⟨fun same => first (List.mem_map.mpr ⟨g, mem, same⟩), later g mem⟩

/-- A message without groups has no delimiters to check. -/
lemma checkDelimiters_flat {d : MessageDef} (flat : d.groups = []) (body : FieldMap) (fs : List TagValue) :
    checkDelimiters d body fs = .ok () := by
  induction fs with
  | nil => rfl
  | cons f fs ih =>
    rw [checkDelimiters, flat]
    exact ih

variable [Chrono] {dd : DataDictionary} {d : MessageDef} {m : Message} {mt : Bytes} {f : TagValue}

/-- What is checked of a message without groups. -/
lemma validate_flat (type : m.msgType = .ok mt) (notXml : mt ≠ MsgType.xmlNonFix)
    (found : dd.messages.lookup mt = some d) (flat : d.groups = []) (inOrder : m.structureError = none)
    (nodup : (m.body.fields.map (·.tag)).Nodup) : dd.validate m {} = .ok () ↔
      (∀ t ∈ dd.headerRequired, m.header.contains t = true) ∧
      (∀ t ∈ dd.trailerRequired, m.trailer.contains t = true) ∧
      (∀ t ∈ d.required, m.body.contains t = true) ∧
      (∀ f ∈ m.header.fields, dd.checkField f false d {} = .ok ()) ∧
      (∀ f ∈ m.body.fields, dd.checkField f true d {} = .ok ()) ∧
      ∀ f ∈ m.trailer.fields, dd.checkField f false d {} = .ok () := by
  have counts : checkAll (checkGroupCount m.body) (d.groups.map (·.2)) = .ok () := by
    rw [flat]
    rfl
  have duplicates : checkDuplicates (d.groups.flatMap (·.2.tags)) [] m.body.fields = .ok () := by
    rw [flat]
    exact checkDuplicates_ok nodup (by simp)
  rw [validate, type]
  simp only [if_neg notXml, found, inOrder, seq_ok_iff, checkDelimiters_flat flat, checkRequired_ok_iff,
    counts, duplicates, checkAll_ok_iff, true_and]

/-- A field passes its check when it has a value that its definition allows. -/
lemma checkField_ok_iff {isBody : Bool} (low : f.tag < userDefinedTagMin)
    (defined : isBody = true → f.tag ∈ d.tags) : dd.checkField f isBody d {} = .ok () ↔
      f.value ≠ [] ∧ ∃ field, dd.fieldsByTag.lookup f.tag = some field ∧
        checkFormat field f.value = true ∧
        (field.values = [] ∨ ∀ v ∈ splitAll 32 (utf8Lossy f.value), v ∈ field.values) := by
  have standard : ¬ (userDefinedTagMin ≤ f.tag ∧
      (!({} : ValidationSettings).checkUserDefinedFields) = true) :=
    fun h => absurd low (not_lt.mpr h.1)
  rw [checkField, if_neg standard]
  by_cases empty : f.value = []
  · rw [if_pos ⟨rfl, empty⟩]
    exact iff_of_false (fun h => by cases h) fun h => h.1 empty
  rw [if_neg fun h => empty h.2]
  cases found : dd.fieldsByTag.lookup f.tag with
  | none => simp [empty]
  | some field =>
    have known : ¬ (isBody = true ∧ (!({} : ValidationSettings).allowUnknownMessageFields) = true ∧
        f.tag ∉ d.tags ∧ f.tag < userDefinedTagMin) := fun h => h.2.2.1 (defined h.1)
    simp only [if_neg known]
    cases format : checkFormat field f.value with
    | false => simp [format]
    | true =>
      by_cases free : field.values = [] <;> simp [format, free, empty]

end DataDictionary

/-! ## The dictionaries of `spec/` -/

namespace Spec

/-- The BeginString of the sessions of a version. -/
def beginString : Spec → Bytes
  | fix40 => ascii "FIX.4.0"
  | fix41 => ascii "FIX.4.1"
  | fix42 => ascii "FIX.4.2"
  | fix43 => ascii "FIX.4.3"
  | fix44 => ascii "FIX.4.4"
  | fixt11 => ascii "FIXT.1.1"

/-- FIX.4.2 and later. -/
def modern : Spec → Bool
  | fix40 | fix41 => false
  | _ => true

/-- Sequence numbers are of type INT before FIX.4.3. -/
def intNumbers : Spec → Bool
  | fix40 | fix41 | fix42 => true
  | _ => false

/-- The type of a sequence number. -/
def numberType (s : Spec) : FieldType := if s.intNumbers then .int else .seqNum

/-- The types of the fields that answers are made of. -/
def typeOf (s : Spec) (t : Tag) : Option FieldType :=
  if t = Tags.msgSeqNum ∨ t = Tags.refSeqNum then some s.numberType
  else if t = Tags.bodyLength then some (if s.intNumbers then .int else .length)
  else if t = Tags.sendingTime then some .utcTimestamp
  else if t ∈ [Tags.senderLocationId, Tags.targetLocationId, Tags.onBehalfOfLocationId,
      Tags.deliverToLocationId] then if s = fix40 then none else some .string
  else if t = Tags.lastMsgSeqNumProcessed then if s.modern then some s.numberType else none
  else if t = Tags.refTagId ∨ t = Tags.sessionRejectReason then if s.modern then some .int else none
  else if t = Tags.refMsgType then if s.modern then some .string else none
  else some .string

/-- Whether SessionRejectReason has a value for a reason. -/
def knows (s : Spec) (r : SessionRejectReason) : Bool :=
  match s with
  | fix42 => r.code ≤ 11
  | fix43 => r ≠ .other
  | _ => true

/-- The tags of answers, but for BusinessRejectReason. -/
def answerTags : List Tag :=
  [Tags.beginString, Tags.bodyLength, Tags.checkSum, Tags.msgSeqNum, Tags.msgType, Tags.refSeqNum,
    Tags.senderCompId, Tags.senderSubId, Tags.sendingTime, Tags.targetCompId, Tags.targetSubId, Tags.text,
    Tags.onBehalfOfCompId, Tags.onBehalfOfSubId, Tags.deliverToCompId, Tags.deliverToSubId,
    Tags.senderLocationId, Tags.targetLocationId, Tags.onBehalfOfLocationId, Tags.deliverToLocationId,
    Tags.lastMsgSeqNumProcessed, Tags.refTagId, Tags.refMsgType, Tags.sessionRejectReason]

/-- Tags that are strings in every version. -/
def strings : List Tag :=
  [Tags.beginString, Tags.senderCompId, Tags.targetCompId, Tags.senderSubId, Tags.targetSubId,
    Tags.onBehalfOfCompId, Tags.onBehalfOfSubId, Tags.deliverToCompId, Tags.deliverToSubId, Tags.text,
    Tags.checkSum]

/-- The tags a Reject or a BusinessMessageReject requires. -/
def answerRequired (mt : Bytes) : List Tag :=
  if mt = MsgType.reject then [Tags.refSeqNum] else [Tags.refMsgType, Tags.businessRejectReason]

/-- The tags that an answer may have in its body. -/
def answerAllowed (s : Spec) (mt : Bytes) : List Tag :=
  if mt = MsgType.reject then
    if s.modern then
      [Tags.refSeqNum, Tags.refTagId, Tags.refMsgType, Tags.sessionRejectReason, Tags.text]
    else [Tags.refSeqNum, Tags.text]
  else [Tags.refSeqNum, Tags.refMsgType, Tags.businessRejectReason, Tags.text]

end Spec

/-- A dictionary says of the answers of a type what the one of the version in `spec/` says (for FIXT.1.1
with the application messages of a FIX.5.0 merged in). -/
structure DataDictionary.ShipsAnswers (dd : DataDictionary) (s : Spec) (mt : Bytes) : Prop where
  types : ∀ t ∈ Spec.answerTags, (dd.fieldsByTag.lookup t).map (·.fieldType) = s.typeOf t
  free : ∀ t ∈ Spec.answerTags, t ≠ Tags.msgType → t ≠ Tags.sessionRejectReason →
    ∀ f, dd.fieldsByTag.lookup t = some f → f.values = []
  kind : ∀ f, dd.fieldsByTag.lookup Tags.msgType = some f → mt ∈ f.values
  reasons : ∀ f, dd.fieldsByTag.lookup Tags.sessionRejectReason = some f →
    ∀ r : SessionRejectReason, dec r.code ∈ f.values ↔ s.knows r = true
  business : mt = MsgType.businessMessageReject → ∃ f,
    dd.fieldsByTag.lookup Tags.businessRejectReason = some f ∧ f.fieldType = .int ∧ ascii "3" ∈ f.values
  header : ∀ t, t ∈ dd.headerRequired ↔ t ∈ [Tags.beginString, Tags.bodyLength, Tags.msgType,
    Tags.senderCompId, Tags.targetCompId, Tags.msgSeqNum, Tags.sendingTime]
  trailer : ∀ t, t ∈ dd.trailerRequired ↔ t = Tags.checkSum
  message : ∃ d, dd.messages.lookup mt = some d ∧ d.groups = [] ∧
    (∀ t, t ∈ d.required ↔ t ∈ Spec.answerRequired mt) ∧ ∀ t ∈ s.answerAllowed mt, t ∈ d.tags

/-- Whether a version can write a number. -/
def Spec.writes (s : Spec) (n : Nat) : Prop := s.intNumbers = true ∨ n < 2 ^ 63

namespace DataDictionary.ShipsAnswers

/-- The tags of answers are not user-defined. -/
lemma low : ∀ t ∈ Tags.businessRejectReason :: Spec.answerTags, t < userDefinedTagMin := by decide

variable [Chrono] {dd : DataDictionary} {s : Spec} {mt : Bytes} {d : MessageDef} {isBody : Bool}
  {t : Tag} {v : Bytes}

/-- A field that has a type and no enumeration. -/
lemma check (ships : dd.ShipsAnswers s mt) (known : t ∈ Spec.answerTags)
    (free : t ≠ Tags.msgType ∧ t ≠ Tags.sessionRejectReason) (defined : isBody = true → t ∈ d.tags)
    {type : FieldType} (typed : s.typeOf t = some type) : ∃ field : FieldDef, field.fieldType = type ∧
      (dd.checkField ⟨t, v⟩ isBody d {} = .ok () ↔ v ≠ [] ∧ checkFormat field v = true) := by
  have shipped := ships.types t known
  rw [typed, Option.map_eq_some_iff] at shipped
  obtain ⟨field, found, same⟩ := shipped
  have values := ships.free t known free.1 free.2 field found
  refine ⟨field, same, ?_⟩
  rw [checkField_ok_iff (low t (List.mem_cons_of_mem _ known)) defined]
  simp [found, values]

/-- A string must not be empty. -/
lemma check_string (ships : dd.ShipsAnswers s mt) (known : t ∈ Spec.answerTags)
    (free : t ≠ Tags.msgType ∧ t ≠ Tags.sessionRejectReason) (defined : isBody = true → t ∈ d.tags)
    (typed : s.typeOf t = some .string) : dd.checkField ⟨t, v⟩ isBody d {} = .ok () ↔ v ≠ [] := by
  obtain ⟨field, type, checked⟩ := ships.check (v := v) known free defined typed
  rw [checked, checkFormat, type]
  simp

/-- So it is for the tags of strings. -/
lemma check_strings (ships : dd.ShipsAnswers s mt) (mem : t ∈ Spec.strings)
    (defined : isBody = true → t ∈ d.tags) : dd.checkField ⟨t, v⟩ isBody d {} = .ok () ↔ v ≠ [] := by
  have known : ∀ t ∈ Spec.strings,
      t ∈ Spec.answerTags ∧ t ≠ Tags.msgType ∧ t ≠ Tags.sessionRejectReason := by decide
  have typed : ∀ t ∈ Spec.strings, s.typeOf t = some .string := by cases s <;> decide
  exact ships.check_string (known t mem).1 (known t mem).2 defined (typed t mem)

/-- A number must be one that the version can write. -/
lemma check_number (ships : dd.ShipsAnswers s mt) (known : t ∈ Spec.answerTags)
    (free : t ≠ Tags.msgType ∧ t ≠ Tags.sessionRejectReason) (defined : isBody = true → t ∈ d.tags)
    (typed : s.typeOf t = some s.numberType) {n : Nat} (bound : n < 2 ^ 64) :
    dd.checkField ⟨t, encode n⟩ isBody d {} = .ok () ↔ s.writes n := by
  obtain ⟨field, type, checked⟩ := ships.check (v := encode n) known free defined typed
  have some : encode n ≠ [] := itoa_ne_nil _
  rw [checked, checkFormat, type, Spec.numberType, Spec.writes]
  cases s.intNumbers with
  | true => simp [decodeI64, parseSigned_encode, isOk, some]
  | false =>
    cases Nat.lt_or_ge n (2 ^ 63) with
    | inl low =>
      simp only [decodeU64_encode low]
      exact iff_of_true ⟨some, rfl⟩ (.inr low)
    | inr high =>
      obtain ⟨e, failed⟩ := @decodeU64_encode_neg field.tag n high bound
      simp only [failed]
      exact iff_of_false (fun h => by cases h.2) (by simpa using high)

/-- An integer of 64 bits passes. -/
lemma check_int (ships : dd.ShipsAnswers s mt) (known : t ∈ Spec.answerTags)
    (free : t ≠ Tags.msgType ∧ t ≠ Tags.sessionRejectReason) (defined : isBody = true → t ∈ d.tags)
    (typed : s.typeOf t = some .int) {i : Int} (range : -2 ^ 31 ≤ i ∧ i < 2 ^ 31) :
    dd.checkField ⟨t, itoa i⟩ isBody d {} = .ok () := by
  obtain ⟨field, type, checked⟩ := ships.check (v := itoa i) known free defined typed
  have read : parseSigned 64 (itoa i) = some i := parseSigned_itoa (by omega) (by omega)
  rw [checked, checkFormat, type]
  simp [decodeI64, read, isOk, itoa_ne_nil]

/-- A field that the version does not have is rejected. -/
lemma check_undefined (ships : dd.ShipsAnswers s mt) (known : t ∈ Spec.answerTags)
    (undefined : s.typeOf t = none) (defined : isBody = true → t ∈ d.tags) :
    dd.checkField ⟨t, v⟩ isBody d {} ≠ .ok () := by
  have shipped := ships.types t known
  rw [undefined, Option.map_eq_none_iff] at shipped
  rw [Ne, checkField_ok_iff (low t (List.mem_cons_of_mem _ known)) defined]
  simp [shipped]

/-- The type of an answer is known. -/
lemma check_type (ships : dd.ShipsAnswers s mt)
    (answer : mt = MsgType.reject ∨ mt = MsgType.businessMessageReject) (d : MessageDef) :
    dd.checkField ⟨Tags.msgType, mt⟩ false d {} = .ok () := by
  have shipped := ships.types Tags.msgType (by decide)
  rw [show s.typeOf Tags.msgType = some .string by cases s <;> rfl, Option.map_eq_some_iff] at shipped
  obtain ⟨field, found, type⟩ := shipped
  have short : mt ≠ [] ∧ splitAll 32 (utf8Lossy mt) = [mt] := by
    rcases answer with rfl | rfl
    · decide
    · decide
  rw [checkField_ok_iff (low Tags.msgType (by decide)) (by simp)]
  refine ⟨short.1, field, found, ?_, .inr ?_⟩
  · rw [checkFormat, type]
  · simpa [short.2] using ships.kind field found

/-- A reason must be one that the version has. -/
lemma check_reason (ships : dd.ShipsAnswers s mt) (modern : s.modern = true)
    (defined : Tags.sessionRejectReason ∈ d.tags) (r : SessionRejectReason) :
    dd.checkField ⟨Tags.sessionRejectReason, encode r.code⟩ true d {} = .ok () ↔ s.knows r = true := by
  have shipped := ships.types Tags.sessionRejectReason (by decide)
  have typed : s.typeOf Tags.sessionRejectReason = some .int := by
    cases s <;> first | rfl | cases modern
  rw [typed, Option.map_eq_some_iff] at shipped
  obtain ⟨field, found, type⟩ := shipped
  have values := ships.reasons field found
  have enumerated : field.values ≠ [] := by
    intro free
    have first := (values .invalidTagNumber).mpr (by cases s <;> rfl)
    rw [free] at first
    cases first
  have one : splitAll 32 (utf8Lossy (encode r.code)) = [dec r.code] := by cases r <;> decide
  have format : checkFormat field (encode r.code) = true := by
    rw [checkFormat, type]
    simp only [decodeI64, parseSigned_encode]
    rfl
  rw [checkField_ok_iff (low Tags.sessionRejectReason (by decide)) fun _ => defined, ← values r]
  simp [found, format, one, enumerated, show encode r.code ≠ [] from itoa_ne_nil _]

/-- The business reason is known. -/
lemma check_business (ships : dd.ShipsAnswers s MsgType.businessMessageReject)
    (defined : Tags.businessRejectReason ∈ d.tags) :
    dd.checkField ⟨Tags.businessRejectReason, encode (3 : Nat)⟩ true d {} = .ok () := by
  obtain ⟨field, found, type, value⟩ := ships.business rfl
  have one : splitAll 32 (utf8Lossy (encode (3 : Nat))) = [ascii "3"] := by decide
  have format : checkFormat field (encode (3 : Nat)) = true := by
    rw [checkFormat, type]
    simp only [decodeI64, parseSigned_encode]
    rfl
  rw [checkField_ok_iff (low Tags.businessRejectReason (by decide)) fun _ => defined]
  refine ⟨(itoa_ne_nil _ : encode (3 : Nat) ≠ []), field, found, format, .inr ?_⟩
  simpa [one] using value

end DataDictionary.ShipsAnswers

/-- What is written is accepted by validation once it is parsed. -/
def DataDictionary.Accepts [Chrono] (dd : DataDictionary) (m : Message) : Prop :=
  ∃ m', Message.parse m.toBytes true = .ok m' ∧ dd.validate m' {} = .ok ()

end QuickFix
