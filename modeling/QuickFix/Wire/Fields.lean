import QuickFix.Wire.Message

/-!
# Fields on the wire

The grammar of a message: fields one after another, each `tag=value<SOH>`. Where a Length field
came directly before its data field, the data is as long as that declared and may hold any byte;
any other value ends at its first delimiter. The parser accepts exactly these byte strings
(`parseFields_ok`).
-/

namespace QuickFix.Message

/-- A field as it stands on the wire: a tag may be spelled with a sign or with leading zeros. -/
structure WireField extends TagValue where
  tagBytes : Bytes

/-- Where a value ends, after a field that announced `pending`. -/
def Delimited (pending : Option (Tag × Nat)) (tag : Tag) (value : Bytes) : Prop :=
  match pending.filter (·.1 == tag) with
  | some (_, len) => value.length = len
  | none => soh ∉ value

/-- The bytes of a field. -/
def WireField.bytes (f : WireField) : Bytes := f.tagBytes ++ 61 :: (f.value ++ [soh])

/-- A field in its place: after `n` others, of which the last announced `pending`. -/
structure WireField.Fits (n : Nat) (pending : Option (Tag × Nat)) (f : WireField) : Prop where
  plain : 61 ∉ f.tagBytes
  number : parseSigned 32 f.tagBytes = some f.tag
  delimited : Delimited pending f.tag f.value
  leading : checkLeading n f.tag = .ok ()

/-- Fields one after another. -/
def Fields (n : Nat) (pending : Option (Tag × Nat)) : List WireField → Prop
  | [] => True
  | f :: fs => f.Fits n pending ∧ Fields (n + 1) (announcedData f.tag f.value) fs

/-- The bytes of fields. -/
def wire (fs : List WireField) : Bytes := fs.flatMap WireField.bytes

/-- What the last field announced. -/
def pendingAfter (pending : Option (Tag × Nat)) : List WireField → Option (Tag × Nat)
  | [] => pending
  | f :: fs => pendingAfter (announcedData f.tag f.value) fs

/-- The parser's state after a field. -/
def ParseState.after (st : ParseState) (pos : Nat) (f : WireField) : ParseState :=
  let st := routeField st pos f.toTagValue
  { st with fieldIndex := st.fieldIndex + 1, pendingData := announcedData f.tag f.value }

/-- The parser's state after fields. -/
def ParseState.afterAll (st : ParseState) (pos : Nat) : List WireField → ParseState
  | [] => st
  | f :: fs => (st.after pos f).afterAll (pos + f.bytes.length) fs

/-! ## One field -/

/-- A value is taken up to where it ends. -/
lemma takeValue_ok {pending tag bs value rest} :
    takeValue pending tag bs = .ok (value, rest) ↔
      bs = value ++ soh :: rest ∧ Delimited pending tag value := by
  unfold takeValue Delimited
  cases declared : pending.filter (·.1 == tag) with
  | some announced =>
    constructor
    · intro h
      simp only at h
      split at h
      case isTrue stop =>
        cases h
        obtain ⟨lt, at'⟩ := List.getElem?_eq_some_iff.mp stop
        refine ⟨?_, List.length_take_of_le lt.le⟩
        rw [← at', List.getElem_cons_drop, List.take_append_drop]
      case isFalse => cases h
    · rintro ⟨rfl, length⟩
      simp [← length]
  | none =>
    constructor
    · intro h
      simp only at h
      split at h
      case h_1 v r split =>
        cases h
        exact splitOnce_eq split
      case h_2 => cases h
    · rintro ⟨rfl, plain⟩
      simp only [splitOnce_append plain]

/-- The parser takes a field exactly where one stands. -/
lemma parseField_ok {st pos bs st' pos' rest} :
    parseField st pos bs = .ok (st', pos', rest) ↔
      ∃ f : WireField, f.Fits st.fieldIndex st.pendingData ∧ bs = f.bytes ++ rest ∧
        pos' = pos + f.bytes.length ∧ st' = st.after pos f := by
  constructor
  · intro h
    unfold parseField at h
    split at h
    case h_1 => cases h
    case h_2 tagBytes afterEq equals =>
      obtain ⟨rfl, plain⟩ := splitOnce_eq equals
      split at h
      case h_1 => cases h
      case h_2 tag number =>
        cases taken : takeValue st.pendingData tag afterEq with
        | error e => simp [taken, bind, Except.bind] at h
        | ok taken' =>
          obtain ⟨value, rest'⟩ := taken'
          cases leading : checkLeading st.fieldIndex tag with
          | error e => simp [taken, leading, bind, Except.bind] at h
          | ok u =>
            obtain ⟨rfl, delimited⟩ := takeValue_ok.mp taken
            simp only [taken, leading, bind, Except.bind, Except.ok.injEq, Prod.mk.injEq] at h
            obtain ⟨rfl, rfl, rfl⟩ := h
            refine ⟨⟨⟨tag, value⟩, tagBytes⟩, ⟨plain, number, delimited, leading⟩, ?_, ?_, rfl⟩
            · simp [WireField.bytes]
            · simp [WireField.bytes]
              omega
  · rintro ⟨⟨⟨tag, value⟩, tagBytes⟩, ⟨plain, number, delimited, leading⟩, rfl, rfl, rfl⟩
    have taken := takeValue_ok.mpr ⟨(rfl : value ++ soh :: rest = _), delimited⟩
    have equals : splitOnce 61 (WireField.bytes ⟨⟨tag, value⟩, tagBytes⟩ ++ rest) =
        some (tagBytes, value ++ soh :: rest) := by
      have here := splitOnce_append plain (value ++ soh :: rest)
      simpa [WireField.bytes] using here
    simp only [parseField, equals, number, taken, leading, bind, Except.bind]
    congr 2
    simp [WireField.bytes]
    omega

/-! ## All fields -/

/-- Routing a field does not count it. -/
@[simp] lemma routeField_fieldIndex (st pos tv) :
    (routeField st pos tv).fieldIndex = st.fieldIndex := by
  unfold routeField
  split_ifs <;> rfl

/-- One more field was read. -/
@[simp] lemma after_fieldIndex (st : ParseState) (pos f) :
    (st.after pos f).fieldIndex = st.fieldIndex + 1 :=
  congrArg (· + 1) (routeField_fieldIndex st pos f.toTagValue)

/-- What the latest field announces is pending. -/
@[simp] lemma after_pendingData (st : ParseState) (pos f) :
    (st.after pos f).pendingData = announcedData f.tag f.value := rfl

/-- A field has bytes. -/
lemma WireField.bytes_pos (f : WireField) : 2 ≤ f.bytes.length := by
  simp [WireField.bytes]
  omega

/-- No fields have no bytes. -/
@[simp] lemma wire_nil : wire [] = [] := rfl

/-- The bytes of one more field. -/
@[simp] lemma wire_cons (f fs) : wire (f :: fs) = f.bytes ++ wire fs := rfl

/-- The bytes of fields after fields. -/
@[simp] lemma wire_append (fs fs') : wire (fs ++ fs') = wire fs ++ wire fs' :=
  List.flatMap_append

/-- No bytes are no fields. -/
lemma eq_nil_of_wire {fs} (h : [] = wire fs) : fs = [] := by
  cases fs with
  | nil => rfl
  | cons f fs =>
    have pos := f.bytes_pos
    have size := congrArg List.length h
    simp only [List.length_nil, wire_cons, List.length_append] at size
    omega

/-- The parser stops where no bytes remain. -/
@[simp] lemma parseFields_nil (fuel st pos) : parseFields fuel st pos [] = .ok st := by
  cases fuel <;> rfl

/-- The parser goes on after a field. -/
lemma parseFields_succ {fuel st pos bs} (ne : bs ≠ []) :
    parseFields (fuel + 1) st pos bs =
      (parseField st pos bs).bind fun (st, pos, bs) => parseFields fuel st pos bs := by
  cases bs with
  | nil => contradiction
  | cons b bs => rfl

/-- No bytes are accepted as no fields. -/
lemma parseFields_nil_ok {fuel st pos st'} :
    parseFields fuel st pos [] = .ok st' ↔
      ∃ fs, Fields st.fieldIndex st.pendingData fs ∧ [] = wire fs ∧ st' = st.afterAll pos fs := by
  rw [parseFields_nil]
  constructor
  · intro h
    cases h
    exact ⟨[], trivial, rfl, rfl⟩
  · rintro ⟨fs, -, empty, rfl⟩
    obtain rfl := eq_nil_of_wire empty
    rfl

/-- The parser accepts exactly the bytes of fields in their places. -/
theorem parseFields_ok {fuel st pos bs st'} (enough : bs.length ≤ fuel) :
    parseFields fuel st pos bs = .ok st' ↔
      ∃ fs, Fields st.fieldIndex st.pendingData fs ∧ bs = wire fs ∧ st' = st.afterAll pos fs := by
  induction fuel generalizing st pos bs with
  | zero =>
    obtain rfl := List.eq_nil_of_length_eq_zero (Nat.le_zero.mp enough)
    exact parseFields_nil_ok
  | succ fuel ih =>
    by_cases ne : bs = []
    · subst ne
      exact parseFields_nil_ok
    rw [parseFields_succ ne]
    constructor
    · intro h
      cases first : parseField st pos bs with
      | error e => simp [first, Except.bind] at h
      | ok taken =>
        obtain ⟨st1, pos1, rest⟩ := taken
        obtain ⟨f, fits, rfl, rfl, rfl⟩ := parseField_ok.mp first
        have pos := f.bytes_pos
        rw [List.length_append] at enough
        rw [first] at h
        obtain ⟨fs, fields, rfl, rfl⟩ := (ih (by omega)).mp h
        refine ⟨f :: fs, ⟨fits, ?_⟩, rfl, rfl⟩
        simpa using fields
    · rintro ⟨fs, fields, rfl, rfl⟩
      cases fs with
      | nil => exact absurd rfl ne
      | cons f fs =>
        obtain ⟨fits, fields⟩ := fields
        have pos := f.bytes_pos
        rw [wire_cons, List.length_append] at enough
        rw [wire_cons, parseField_ok.mpr ⟨f, fits, rfl, rfl, rfl⟩]
        exact (ih (by omega)).mpr ⟨fs, by simpa using fields, rfl, rfl⟩

/-- A value after a Length field, or without one, ends in one place. -/
lemma Delimited.unique {pending tag v v' rest rest'} (h : Delimited pending tag v)
    (h' : Delimited pending tag v') (same : v ++ soh :: rest = v' ++ soh :: rest') : v = v' := by
  have taken := takeValue_ok.mpr ⟨same, h'⟩
  rw [takeValue_ok.mpr ⟨rfl, h⟩] at taken
  exact (Prod.mk.inj (Except.ok.inj taken)).1

/-- One field is read off the front of the bytes in one way. -/
lemma WireField.Fits.unique {f g : WireField} {n pending rest rest'} (fit : f.Fits n pending)
    (fit' : g.Fits n pending) (same : f.bytes ++ rest = g.bytes ++ rest') : f = g ∧ rest = rest' := by
  simp only [WireField.bytes, List.append_assoc, List.cons_append, List.nil_append] at same
  have split := splitOnce_append fit.plain (f.value ++ soh :: rest)
  rw [same, splitOnce_append fit'.plain] at split
  simp only [Option.some.injEq, Prod.mk.injEq] at split
  obtain ⟨tags, values⟩ := split
  have tag : f.tag = g.tag := by
    have number := fit.number
    rw [← tags, fit'.number] at number
    exact (Option.some.inj number).symm
  have value : f.value = g.value := fit.delimited.unique (tag ▸ fit'.delimited) values.symm
  obtain rfl : f = g := by
    obtain ⟨⟨_, _⟩, _⟩ := f
    obtain ⟨⟨_, _⟩, _⟩ := g
    simp_all
  exact ⟨rfl, by simpa using values.symm⟩

/-- Fields are read off the front of the bytes in one way, whatever comes behind them. -/
lemma fields_prefix {n pending fs gs rest} (fields : Fields n pending fs)
    (fields' : Fields n pending gs) (same : wire gs = wire fs ++ rest) :
    ∃ hs, gs = fs ++ hs ∧ wire hs = rest := by
  induction fs generalizing n pending gs with
  | nil => exact ⟨gs, rfl, same⟩
  | cons f fs ih =>
    rw [wire_cons, List.append_assoc] at same
    cases gs with
    | nil =>
      have size := congrArg List.length same
      have pos := f.bytes_pos
      simp only [wire_nil, List.length_nil, List.length_append] at size
      omega
    | cons g gs =>
      obtain ⟨rfl, later⟩ := fields.1.unique fields'.1 same.symm
      obtain ⟨hs, rfl, behind⟩ := ih fields.2 fields'.2 later.symm
      exact ⟨hs, rfl, behind⟩

/-- Bytes are fields in one way only. -/
lemma wire_injective {n pending fs gs} (fields : Fields n pending fs) (fields' : Fields n pending gs)
    (same : wire fs = wire gs) : fs = gs := by
  obtain ⟨hs, rfl, tail⟩ := fields_prefix fields fields' (by rw [List.append_nil, same])
  rw [eq_nil_of_wire tail.symm, List.append_nil]

/-! ## Where the fields go -/

/-- The fields as tags and values. -/
def values (fs : List WireField) : List TagValue := fs.map (·.toTagValue)

/-- The state after fields after fields. -/
lemma afterAll_append (st : ParseState) (pos fs gs) :
    st.afterAll pos (fs ++ gs) = (st.afterAll pos fs).afterAll (pos + (wire fs).length) gs := by
  induction fs generalizing st pos with
  | nil => rfl
  | cons f fs ih =>
    rw [List.cons_append, ParseState.afterAll, ih, wire_cons, List.length_append, Nat.add_assoc]
    rfl

/-- A field goes to the section of its tag. -/
lemma routeField_sections (st : ParseState) (pos tv) :
    (routeField st pos tv).msg.header.fields =
        st.msg.header.fields ++ [tv].filter (Tags.isHeaderTag ·.tag) ∧
      (routeField st pos tv).msg.body.fields =
        st.msg.body.fields ++ [tv].filter (Tags.isBodyTag ·.tag) ∧
      (routeField st pos tv).msg.trailer.fields =
        st.msg.trailer.fields ++ [tv].filter (Tags.isTrailerTag ·.tag) := by
  unfold routeField
  by_cases sum : tv.tag = Tags.checkSum
  · have classes : Tags.isHeaderTag Tags.checkSum = false ∧ Tags.isBodyTag Tags.checkSum = false ∧
        Tags.isTrailerTag Tags.checkSum = true := by decide
    simp [sum, classes, FieldMap.pushTagValue]
  cases header : Tags.isHeaderTag tv.tag with
  | true =>
    have apart : Tags.isTrailerTag tv.tag = false := Tags.not_isTrailerTag header
    simp [sum, header, apart, Tags.isBodyTag, FieldMap.pushTagValue]
  | false =>
    cases trailer : Tags.isTrailerTag tv.tag <;>
      simp [sum, header, trailer, Tags.isBodyTag, FieldMap.pushTagValue]

/-- Fields go to the sections of their tags. -/
lemma afterAll_sections (st : ParseState) (pos fs) :
    (st.afterAll pos fs).msg.header.fields =
        st.msg.header.fields ++ (values fs).filter (Tags.isHeaderTag ·.tag) ∧
      (st.afterAll pos fs).msg.body.fields =
        st.msg.body.fields ++ (values fs).filter (Tags.isBodyTag ·.tag) ∧
      (st.afterAll pos fs).msg.trailer.fields =
        st.msg.trailer.fields ++ (values fs).filter (Tags.isTrailerTag ·.tag) := by
  induction fs generalizing st pos with
  | nil => simp [ParseState.afterAll, values]
  | cons f fs ih =>
    obtain ⟨header, body, trailer⟩ := routeField_sections st pos f.toTagValue
    obtain ⟨headers, bodies, trailers⟩ := ih (st.after pos f) (pos + f.bytes.length)
    have first : values (f :: fs) = [f.toTagValue] ++ values fs := rfl
    rw [ParseState.afterAll, headers, bodies, trailers, first]
    simp only [ParseState.after, header, body, trailer, List.filter_append, List.append_assoc,
      and_self]

/-- The sections of a parsed message. -/
lemma afterAll_message (fs : List WireField) :
    (({} : ParseState).afterAll 0 fs).msg.header = ⟨(values fs).filter (Tags.isHeaderTag ·.tag)⟩ ∧
      (({} : ParseState).afterAll 0 fs).msg.body = ⟨(values fs).filter (Tags.isBodyTag ·.tag)⟩ ∧
      (({} : ParseState).afterAll 0 fs).msg.trailer =
        ⟨(values fs).filter (Tags.isTrailerTag ·.tag)⟩ := by
  obtain ⟨header, body, trailer⟩ := afterAll_sections {} 0 fs
  exact ⟨congrArg FieldMap.mk header, congrArg FieldMap.mk body, congrArg FieldMap.mk trailer⟩

/-- Where a CheckSum field was last seen. -/
lemma afterAll_checksum_none {st : ParseState} {pos fs}
    (none : ∀ f ∈ fs, f.tag ≠ Tags.checkSum) :
    (st.afterAll pos fs).checksumFieldStart = st.checksumFieldStart := by
  induction fs generalizing st pos with
  | nil => rfl
  | cons f fs ih =>
    obtain ⟨other, others⟩ := List.forall_mem_cons.mp none
    rw [ParseState.afterAll, ih others]
    unfold ParseState.after routeField
    rw [if_neg other]
    split_ifs <;> rfl

/-- The last CheckSum field is the one that counts. -/
lemma afterAll_checksum {st : ParseState} {pos fs gs} {f : WireField} (sum : f.tag = Tags.checkSum)
    (last : ∀ g ∈ gs, g.tag ≠ Tags.checkSum) :
    (st.afterAll pos (fs ++ f :: gs)).checksumFieldStart = some (pos + (wire fs).length) := by
  rw [afterAll_append, ParseState.afterAll, afterAll_checksum_none last]
  unfold ParseState.after routeField
  rw [if_pos sum]

/-- Fields have no CheckSum field, or a last one. -/
lemma exists_last_checksum (fs : List WireField) :
    (∀ f ∈ fs, f.tag ≠ Tags.checkSum) ∨
      ∃ gs f hs, fs = gs ++ f :: hs ∧ f.tag = Tags.checkSum ∧ ∀ h ∈ hs, h.tag ≠ Tags.checkSum := by
  induction fs with
  | nil => exact .inl (by simp)
  | cons f fs ih =>
    rcases ih with none | ⟨gs, g, hs, rfl, sum, last⟩
    · by_cases sum : f.tag = Tags.checkSum
      · exact .inr ⟨[], f, fs, rfl, sum, none⟩
      · exact .inl (List.forall_mem_cons.mpr ⟨sum, none⟩)
    · exact .inr ⟨f :: gs, g, hs, rfl, sum, last⟩

/-- There is one last CheckSum field. -/
lemma last_checksum_unique {gs gs' hs hs' : List WireField} {f f' : WireField}
    (same : gs ++ f :: hs = gs' ++ f' :: hs') (sum : f.tag = Tags.checkSum)
    (sum' : f'.tag = Tags.checkSum) (last : ∀ h ∈ hs, h.tag ≠ Tags.checkSum)
    (last' : ∀ h ∈ hs', h.tag ≠ Tags.checkSum) : gs = gs' ∧ f = f' ∧ hs = hs' := by
  have behind {ks ks' : List WireField} {g} (more : List WireField) (ne : ks' = more ++ g :: ks)
      (last : ∀ h ∈ ks', h.tag ≠ Tags.checkSum) : g.tag ≠ Tags.checkSum := last g (by simp [ne])
  rcases List.append_eq_append_iff.mp same with ⟨as, rfl, split⟩ | ⟨as, rfl, split⟩
  · cases as with
    | nil => simp_all
    | cons a as => exact absurd sum' (behind as (List.cons.inj split).2 last)
  · cases as with
    | nil => simp_all
    | cons a as => exact absurd sum (behind as (List.cons.inj split).2 last')

/-! ## Where fields end -/

/-- A tag has no delimiter. -/
lemma soh_not_mem_tag {bits bs tag} (h : parseSigned bits bs = some tag) : soh ∉ bs := by
  have digits {ds : Bytes} {n} (h : undec ds = some n) : soh ∉ ds := by
    intro mem
    unfold undec at h
    split at h
    case isTrue all => exact absurd (List.all_eq_true.mp all.2 soh mem) (by decide)
    case isFalse => cases h
  unfold parseSigned at h
  split at h
  case h_1 ds =>
    cases value : undec ds with
    | none => simp [value] at h
    | some n => simpa [show soh ≠ 43 by decide] using digits value
  case h_2 ds =>
    cases value : undec ds with
    | none => simp [value] at h
    | some n => simpa [show soh ≠ 45 by decide] using digits value
  case h_3 =>
    cases value : undec bs with
    | none => simp [value] at h
    | some n => exact digits value

/-- A delimiter ends a field. -/
lemma fieldEndOf_soh (bs n) :
    fieldEndOf (soh :: bs) (n + 1) = (fieldEndOf bs n).map (· + 1) := rfl

/-- Any other byte does not. -/
lemma fieldEndOf_other {b : UInt8} (other : b ≠ soh) (bs n) :
    fieldEndOf (b :: bs) n = (fieldEndOf bs n).map (· + 1) := by
  have away : decide (b = soh) = false := by simpa using other
  rw [fieldEndOf.eq_def]
  simp only [away]

/-- A delimiter further on. -/
lemma fieldEndOf_append {bs : Bytes} (plain : soh ∉ bs) (rest n) :
    fieldEndOf (bs ++ soh :: rest) n =
      match n with
      | 0 => some (bs.length + 1)
      | n + 1 => (fieldEndOf rest n).map (· + (bs.length + 1)) := by
  induction bs with
  | nil => cases n <;> rfl
  | cons b bs ih =>
    simp only [List.mem_cons, not_or] at plain
    rw [List.cons_append, fieldEndOf_other (Ne.symm plain.1), ih plain.2]
    cases n <;> simp [Function.comp_def, Nat.add_assoc]

/-- A field after which no data is pending has its delimiter at its end. -/
lemma WireField.Fits.plain_bytes {f : WireField} {n} (fits : f.Fits n none) :
    ∃ bs, f.bytes = bs ++ [soh] ∧ soh ∉ bs := by
  refine ⟨f.tagBytes ++ 61 :: f.value, by simp [WireField.bytes], ?_⟩
  have value : soh ∉ f.value := fits.delimited
  have tag := soh_not_mem_tag fits.number
  simp [tag, value, show soh ≠ 61 by decide]

/-- The second field ends where its bytes do. -/
lemma fieldEndOf_wire {f g : WireField} {fs} (fields : Fields 0 none (f :: g :: fs)) :
    fieldEndOf (wire (f :: g :: fs)) 1 = some (f.bytes ++ g.bytes).length := by
  obtain ⟨first, second, -⟩ := fields
  have begin : f.tag = Tags.beginString := by
    by_contra other
    simpa [checkLeading, other] using first.leading
  have none : announcedData f.tag f.value = none := by
    rw [begin]
    rfl
  rw [none] at second
  obtain ⟨bs, ends, plain⟩ := first.plain_bytes
  obtain ⟨cs, ends', plain'⟩ := second.plain_bytes
  rw [wire_cons, wire_cons, ends, ends', List.append_assoc, List.append_assoc]
  simp only [List.singleton_append]
  simp only [fieldEndOf_append plain, fieldEndOf_append plain', Option.map_some]
  congr 1
  simp
  omega

end QuickFix.Message
