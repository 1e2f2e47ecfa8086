import QuickFix.Wire.Accept
import QuickFix.Wire.GroupCheck
import QuickFix.Wire.RoundTrip

/-!
# Data fields of a dictionary

A dictionary says which fields are data and which are lengths; the parser knows a table of its own. A
body with a Length field and the data of that length comes back from its bytes exactly where the table
has the two, or the data has no delimiter (`data_carried`).
-/

namespace QuickFix

/-! ## The tags of a dictionary -/

namespace DataDictionary

/-- The type of a tag. -/
def typeOf (dd : DataDictionary) (tag : Tag) : Option FieldType :=
  (dd.fieldsByTag.lookup tag).map (·.fieldType)

/-- The tag of a field definition has 32 bits. -/
lemma fieldDef_range {charIsString : Bool} {f : Node} {d : FieldDef}
    (h : (fieldDef charIsString f).run = some (.ok d)) : -2 ^ 31 ≤ d.tag ∧ d.tag < 2 ^ 31 := by
  unfold fieldDef at h
  split at h
  case h_1 => cases h
  case h_2 tag number =>
    cases h
    obtain ⟨text, -, number⟩ := Option.bind_eq_some_iff.mp number
    exact Message.parseSigned_range number

/-- The tags of a loaded dictionary are `i32`. -/
lemma parse_range {fuel fix dd} (loaded : (DataDictionary.parse fuel fix).run = some (.ok dd)) {tag type}
    (typed : dd.typeOf tag = some type) : -2 ^ 31 ≤ tag ∧ tag < 2 ^ 31 := by
  simp only [DataDictionary.parse] at loaded
  obtain ⟨fields, made, loaded⟩ := Loading.of_bind loaded
  obtain ⟨header, -, loaded⟩ := Loading.of_bind loaded
  obtain ⟨trailer, -, loaded⟩ := Loading.of_bind loaded
  obtain ⟨messages, -, loaded⟩ := Loading.of_bind loaded
  cases loaded
  obtain ⟨d, found, -⟩ := Option.map_eq_some_iff.mp typed
  obtain ⟨l, r, entries, -⟩ := List.lookup_eq_some_iff.mp found
  dsimp only at entries
  have mem : (tag, d) ∈
      (fields.map fun f => (f.2.tag, f.2)).foldl (fun m d => insertEntry d.1 d.2 m) [] := by
    rw [List.foldl_map, entries]
    simp
  obtain ⟨f, own, same⟩ := List.mem_map.mp ((mem_foldl_insertEntry mem).resolve_right List.not_mem_nil)
  cases same
  obtain ⟨node, -, entry⟩ := Loading.mem_of_mapM made own
  obtain ⟨d', defined, kept⟩ := Loading.of_bind entry
  cases kept
  exact fieldDef_range defined

end DataDictionary

/-! ## A message with data -/

namespace Message

/-- The fields before the body, as BodyLength counts them. -/
def innerHeader (m : Message) : List TagValue :=
  ((m.header.getRaw Tags.msgType).map (TagValue.mk Tags.msgType)).toList ++ m.sortedHeader

/-- A message that is well formed but for a Length field in its body, set to the length of the bytes of
the data field that directly follows it. -/
structure Carries (m : Message) (before : List TagValue) (lenTag dataTag : Tag) (v : Bytes)
    (after : List TagValue) : Prop where
  msgType : m.header.contains Tags.msgType = true
  header : ∀ f ∈ m.header.fields, Tags.isHeaderTag f.tag = true
  trailer : ∀ f ∈ m.trailer.fields, Tags.isTrailerTag f.tag = true
  begins : soh ∉ m.beginBytes
  fields : m.body.fields = before ++ ⟨lenTag, dec v.length⟩ :: ⟨dataTag, v⟩ :: after
  body : ∀ f ∈ before ++ after, Tags.isBodyTag f.tag = true
  range : ∀ f ∈ before ++ after, -2 ^ 31 ≤ f.tag ∧ f.tag < 2 ^ 31
  framed : Framed none (m.innerHeader ++ before ++ [⟨lenTag, dec v.length⟩])
  framedAfter : Framed (announcedData dataTag v) (after ++ m.sortedTrailer)

variable {m : Message} {before after : List TagValue} {lenTag dataTag : Tag} {v : Bytes}

/-- The data ends where it should exactly where the table has the pair or it has no delimiter. -/
lemma delimited_data (short : v.length < 2 ^ 64) :
    Delimited (announcedData lenTag (dec v.length)) dataTag v ↔
      Tags.dataTagForLengthTag lenTag = some dataTag ∨ soh ∉ v := by
  unfold announcedData
  cases table : Tags.dataTagForLengthTag lenTag with
  | none => simp [Delimited]
  | some t =>
    simp only [parseUnsigned_dec short, Option.bind_eq_bind, Option.bind_some, Option.pure_def]
    by_cases same : t = dataTag
    · simp [Delimited, Option.filter, same]
    · simp [Delimited, Option.filter, same]

namespace Carries

/-- With the pair in the table, or data without delimiters, the message is well formed. -/
lemma sendable (h : m.Carries before lenTag dataTag v after) (short : v.length < 2 ^ 64)
    (classes : Tags.isBodyTag lenTag = true ∧ Tags.isBodyTag dataTag = true)
    (ranges : (-2 ^ 31 ≤ lenTag ∧ lenTag < 2 ^ 31) ∧ -2 ^ 31 ≤ dataTag ∧ dataTag < 2 ^ 31)
    (ends : Tags.dataTagForLengthTag lenTag = some dataTag ∨ soh ∉ v) : m.Sendable where
  msgType := h.msgType
  header := h.header
  trailer := h.trailer
  begins := h.begins
  body f mem := by
    rw [h.fields] at mem
    simp only [List.mem_append, List.mem_cons] at mem
    rcases mem with mem | rfl | rfl | mem
    · exact h.body f (List.mem_append_left _ mem)
    · exact classes.1
    · exact classes.2
    · exact h.body f (List.mem_append_right _ mem)
  range f mem := by
    rw [h.fields] at mem
    simp only [List.mem_append, List.mem_cons] at mem
    rcases mem with mem | rfl | rfl | mem
    · exact h.range f (List.mem_append_left _ mem)
    · exact ranges.1
    · exact ranges.2
    · exact h.range f (List.mem_append_right _ mem)
  framed := by
    have split : m.innerFields = (m.innerHeader ++ before ++ [⟨lenTag, dec v.length⟩]) ++
        (⟨dataTag, v⟩ :: (after ++ m.sortedTrailer)) := by
      rw [innerFields, innerHeader, h.fields]
      simp
    rw [split, framed_append, announcedAfter_snoc]
    exact ⟨h.framed, (delimited_data short).mpr ends, h.framedAfter⟩

/-- The fields of the bytes up to the data. -/
def front (m : Message) (before : List TagValue) (lenTag : Tag) (v : Bytes) : List TagValue :=
  ⟨Tags.beginString, m.beginBytes⟩ :: ⟨Tags.bodyLength, dec m.inner.length⟩ ::
    (m.innerHeader ++ before ++ [⟨lenTag, dec v.length⟩])

/-- What comes before the data is read field by field. -/
lemma fields_front (h : m.Carries before lenTag dataTag v after)
    (range : -2 ^ 31 ≤ lenTag ∧ lenTag < 2 ^ 31) :
    Fields 0 none ((front m before lenTag v).map written) := by
  have present := h.msgType
  rw [FieldMap.contains, List.any_eq_true, ← List.find?_isSome] at present
  obtain ⟨f, found⟩ := Option.isSome_iff_exists.mp present
  have type : m.header.getRaw Tags.msgType = some f.value := by rw [FieldMap.getRaw, found]; rfl
  have header : m.innerHeader = ⟨Tags.msgType, f.value⟩ :: m.sortedHeader := by
    simp [innerHeader, type]
  have framed := h.framed
  rw [header] at framed
  have later : Framed _ (m.sortedHeader ++ before ++ [⟨lenTag, dec v.length⟩]) := framed.2
  rw [front, header]
  refine ⟨fits_written (range_of_class (.inl rfl)) h.begins rfl,
    fits_written (range_of_class (.inl rfl)) (soh_not_mem_dec _) rfl,
    fits_written (range_of_class (.inl rfl)) framed.1 rfl, ?_⟩
  apply fields_written (le_refl 3) _ later
  intro g mem
  simp only [List.mem_append, List.mem_singleton] at mem
  rcases mem with (mem | mem) | rfl
  · exact range_of_class (.inl (h.header g (mem_sortedHeader.mp mem).1))
  · exact h.range g (List.mem_append_left _ mem)
  · exact range

/-- The header holds no body tags. -/
lemma class_innerHeader (h : m.Carries before lenTag dataTag v after) :
    ∀ f ∈ m.innerHeader, Tags.isBodyTag f.tag = false := by
  intro f mem
  rcases List.mem_append.mp mem with type | mem
  · obtain ⟨mt, -, rfl⟩ := Option.map_eq_some_iff.mp (Option.mem_toList.mp type)
    rfl
  · exact (Tags.of_isHeaderTag (h.header f (mem_sortedHeader.mp mem).1)).1

/-- What comes before the data in the body. -/
lemma filter_front (h : m.Carries before lenTag dataTag v after)
    (own : Tags.isBodyTag lenTag = true) :
    (front m before lenTag v).filter (Tags.isBodyTag ·.tag) = before ++ [⟨lenTag, dec v.length⟩] := by
  have body : before.filter (Tags.isBodyTag ·.tag) = before :=
    filter_all fun f mem => h.body f (List.mem_append_left _ mem)
  let lead : List TagValue := [⟨Tags.beginString, m.beginBytes⟩, ⟨Tags.bodyLength, dec m.inner.length⟩]
  have none : lead.filter (Tags.isBodyTag ·.tag) = [] := rfl
  have split : front m before lenTag v =
      lead ++ (m.innerHeader ++ before ++ [⟨lenTag, dec v.length⟩]) := rfl
  rw [split, List.filter_append, none, List.filter_append, List.filter_append,
    filter_none h.class_innerHeader, body, filter_all (by simpa using own)]
  rfl

/-- The data follows on what comes before it. -/
lemma toBytes_front (h : m.Carries before lenTag dataTag v after) :
    ∃ rest, m.toBytes = wire ((front m before lenTag v).map written) ++
      (itoa dataTag ++ 61 :: (v ++ soh :: rest)) := by
  refine ⟨wire ((after ++ m.sortedTrailer ++
    [⟨Tags.checkSum, padded 3 (checksum m.prefixBytes)⟩] : List TagValue).map written), ?_⟩
  have split : m.serialFields = front m before lenTag v ++ ⟨dataTag, v⟩ ::
      (after ++ m.sortedTrailer ++ [⟨Tags.checkSum, padded 3 (checksum m.prefixBytes)⟩]) := by
    rw [serialFields, innerFields, front, innerHeader, h.fields]
    simp
  rw [toBytes_wire, split, List.map_append, List.map_cons, wire_append, wire_cons]
  simp [WireField.bytes, written]

end Carries

/-- A body with a Length field and the data of that length comes back from its bytes exactly where both
belong to the body, and the parser knows the two as a pair or the data has no delimiter. -/
theorem data_carried {fuel fix dd} (loaded : (DataDictionary.parse fuel fix).run = some (.ok dd))
    (length : dd.typeOf lenTag = some .length) (data : dd.typeOf dataTag = some .data)
    (h : m.Carries before lenTag dataTag v after) (fits : m.toBytes.length < 2 ^ 63) :
    (∃ m', parse m.toBytes true = .ok m' ∧ m'.body = m.body) ↔
      (Tags.isBodyTag lenTag = true ∧ Tags.isBodyTag dataTag = true) ∧
        (Tags.dataTagForLengthTag lenTag = some dataTag ∨ soh ∉ v) := by
  have range := DataDictionary.parse_range loaded length
  have range' := DataDictionary.parse_range loaded data
  obtain ⟨rest, bytes⟩ := h.toBytes_front
  have short : v.length < 2 ^ 64 := by
    rw [bytes] at fits
    simp only [List.length_append, List.length_cons] at fits
    omega
  constructor
  · rintro ⟨m', parsed, same⟩
    obtain ⟨gs, c, hs, summed, raw, rfl⟩ := parse_true_ok.mp parsed
    obtain ⟨-, body, -⟩ := afterAll_message (gs ++ c :: hs)
    rw [body] at same
    have fields := summed.fields
    generalize gs ++ c :: hs = fs at *
    -- every field that is read into the body belongs to it
    have own : ∀ f ∈ m.body.fields, Tags.isBodyTag f.tag = true := by
      intro f mem
      rw [← same] at mem
      exact (List.mem_filter.mp mem).2
    rw [h.fields] at own
    have classes : Tags.isBodyTag lenTag = true ∧ Tags.isBodyTag dataTag = true :=
      ⟨own ⟨lenTag, dec v.length⟩ (by simp), own ⟨dataTag, v⟩ (by simp)⟩
    refine ⟨classes, ?_⟩
    by_contra broken
    obtain ⟨hs, rfl, behind⟩ := fields_prefix (h.fields_front range) fields (raw.symm.trans bytes)
    cases hs with
    | nil => simp at behind
    | cons g hs =>
      obtain ⟨-, fit, -⟩ := fields_append.mp fields
      have first : g.tagBytes ++ 61 :: (g.value ++ soh :: wire hs) =
          itoa dataTag ++ 61 :: (v ++ soh :: rest) := by
        rw [← behind]
        simp [WireField.bytes]
      have split := splitOnce_append fit.plain (g.value ++ soh :: wire hs)
      rw [first, splitOnce_append (plain_itoa dataTag)] at split
      simp only [Option.some.injEq, Prod.mk.injEq] at split
      obtain ⟨tagBytes, values'⟩ := split
      have tag : g.tag = dataTag := by
        have number := fit.number
        rw [← tagBytes, parseSigned_itoa range'.1 range'.2] at number
        exact (Option.some.inj number).symm
      -- the parser ends the data at its first delimiter
      have shorter : g.value ≠ v := by
        rintro same
        have delimited := fit.delimited
        have pending : pendingAfter none ((Carries.front m before lenTag v).map written) =
            announcedData lenTag (dec v.length) := by
          rw [pendingAfter_written]
          exact announcedAfter_snoc _ (m.innerHeader ++ before) _
        rw [pending, tag, same] at delimited
        exact broken ((delimited_data short).mp delimited)
      have front := h.filter_front classes.1
      have fieldsSame := congrArg FieldMap.fields same
      rw [values, List.map_append, List.filter_append, ← values, values_written, front, h.fields,
        List.map_cons, List.filter_cons_of_pos (by rw [tag]; exact classes.2)] at fieldsSame
      simp only [List.append_assoc, List.singleton_append, List.append_cancel_left_eq,
        List.cons.injEq, true_and] at fieldsSame
      exact shorter (congrArg TagValue.value fieldsSame.1)
  · rintro ⟨classes, ends⟩
    have sendable := h.sendable short classes ⟨range, range'⟩ ends
    obtain ⟨mt, -, serial⟩ := sendable.serialFields_eq
    exact ⟨_, sendable.parse_eq fits serial, rfl⟩

end Message

/-! ## Data that is not in the table -/

/-- Two data fields with their lengths; the first two stand in the table. -/
def symbolDocument : Node :=
  element "fix" [("major", "5"), ("minor", "0")] [
    element "fields" [] [
      element "field" [("number", "95"), ("name", "RawDataLength"), ("type", "LENGTH")] [],
      element "field" [("number", "96"), ("name", "RawData"), ("type", "DATA")] [],
      element "field" [("number", "1359"), ("name", "EncodedSymbolLen"), ("type", "LENGTH")] [],
      element "field" [("number", "1360"), ("name", "EncodedSymbol"), ("type", "DATA")] []]]

/-- The dictionary of the document. -/
def symbolDictionary : DataDictionary :=
  match (DataDictionary.parse 1 symbolDocument).run with
  | some (.ok dd) => dd
  | _ => ⟨[], [], [], [], [], [], []⟩

/-- The dictionary of the document. -/
lemma loaded_symbol : (DataDictionary.parse 1 symbolDocument).run = some (.ok symbolDictionary) := by
  have loaded : isLoaded (DataDictionary.parse 1 symbolDocument) = true := by decide +kernel
  obtain ⟨dd, run⟩ := isLoaded_iff.mp loaded
  unfold symbolDictionary
  simp only [run]

/-- A message whose body is data with a delimiter and what looks like a field. -/
def carrying (lenTag dataTag : Tag) : Message where
  header := ⟨[⟨Tags.msgType, ascii "d"⟩]⟩
  body := ⟨[⟨lenTag, ascii "6"⟩, ⟨dataTag, ascii "a" ++ soh :: ascii "58=x"⟩]⟩

/-- The message carries a separator in its data. -/
lemma carries_carrying (lenTag dataTag : Tag) :
    (carrying lenTag dataTag).Carries [] lenTag dataTag (ascii "a" ++ soh :: ascii "58=x") [] where
  msgType := rfl
  header f mem := by
    obtain rfl := List.mem_singleton.mp mem
    rfl
  trailer := by simp [carrying]
  begins := by
    show soh ∉ ascii "FIX.4.4"
    decide
  fields := rfl
  body := by simp
  range := by simp
  framed := by
    have free (s : String) (h : soh ∉ ascii s := by decide) := h
    exact ⟨free "d", free "6", trivial⟩
  framedAfter := trivial

/-- Raw data is carried whole. -/
theorem data_carried_rawData :
    ((∃ m', Message.parse (carrying 95 96).toBytes true = .ok m' ∧ m'.body = (carrying 95 96).body) ↔
      (Tags.isBodyTag 95 = true ∧ Tags.isBodyTag 96 = true) ∧
        (Tags.dataTagForLengthTag 95 = some 96 ∨ soh ∉ ascii "a" ++ soh :: ascii "58=x")) :=
  Message.data_carried loaded_symbol (by decide +kernel) (by decide +kernel) (carries_carrying 95 96)
    (by decide)

/-- An encoded symbol is cut at its delimiter, and what follows is read as a field of its own. -/
theorem data_injected :
    (DataDictionary.parse 1 symbolDocument).run = some (.ok symbolDictionary) ∧
    symbolDictionary.typeOf 1359 = some .length ∧ symbolDictionary.typeOf 1360 = some .data ∧
    (carrying 1359 1360).Carries [] 1359 1360 (ascii "a" ++ soh :: ascii "58=x") [] ∧
    (Message.parse (carrying 1359 1360).toBytes true).toOption.map (·.body) =
      some ⟨[⟨1359, ascii "6"⟩, ⟨1360, ascii "a"⟩, ⟨Tags.text, ascii "x"⟩]⟩ :=
  ⟨loaded_symbol, by decide +kernel, by decide +kernel, carries_carrying 1359 1360, by decide +kernel⟩

end QuickFix
