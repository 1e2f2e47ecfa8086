import QuickFix.Wire.Value

/-!
# Field maps

Model of `src/field_map.rs`: an ordered multi-map of FIX fields in wire order. `set` replaces the
first occurrence of a tag in place or appends; readers see the first occurrence.
-/

namespace QuickFix

/-- A field: its tag and the raw bytes of its value. -/
structure TagValue where
  tag : Tag
  value : Bytes
  deriving DecidableEq

/-- Ordered multi-map of FIX fields. -/
structure FieldMap where
  fields : List TagValue := []
  deriving DecidableEq

/-- `tag=value<SOH>`. -/
def writeTagValue (tag : Tag) (value : Bytes) : Bytes := itoa tag ++ 61 :: value ++ [soh]

namespace FieldMap

/-- Whether some field has the tag. -/
def contains (fm : FieldMap) (tag : Tag) : Bool := fm.fields.any (·.tag == tag)

/-- Raw bytes of the first occurrence of the tag. -/
def getRaw (fm : FieldMap) (tag : Tag) : Option Bytes :=
  (fm.fields.find? (·.tag == tag)).map (·.value)

/-- Decode the first occurrence of the tag. -/
def get {α} (decode : Tag → Bytes → Except ConversionError α) (fm : FieldMap) (tag : Tag) :
    Except ConversionError α :=
  match fm.getRaw tag with
  | none => .error (.fieldNotFound tag)
  | some raw => decode tag raw

/-- Decode the first occurrence of the tag, or `none` when absent. -/
def getOpt {α} (decode : Tag → Bytes → Except ConversionError α) (fm : FieldMap) (tag : Tag) :
    Except ConversionError (Option α) :=
  match fm.getRaw tag with
  | none => .ok none
  | some raw => (decode tag raw).map some

/-- Replaces the value of the first field with the tag, or appends the field. -/
def setFields (tag : Tag) (value : Bytes) : List TagValue → List TagValue
  | [] => [⟨tag, value⟩]
  | f :: fs => if f.tag = tag then ⟨tag, value⟩ :: fs else f :: setFields tag value fs

/-- Replace the first occurrence of the tag, keeping its position, or append. -/
def setRaw (fm : FieldMap) (tag : Tag) (value : Bytes) : FieldMap := ⟨setFields tag value fm.fields⟩

/-- `setRaw` of an encoded value. -/
def set {α} [FixEncode α] (fm : FieldMap) (tag : Tag) (value : α) : FieldMap :=
  fm.setRaw tag (encode value)

/-- Remove all occurrences of the tag. -/
def remove (fm : FieldMap) (tag : Tag) : FieldMap := ⟨fm.fields.filter (·.tag ≠ tag)⟩

/-- Append a field. -/
def pushTagValue (fm : FieldMap) (tv : TagValue) : FieldMap := ⟨fm.fields ++ [tv]⟩

/-- Serialize fields in stored order. -/
def writeTo (fm : FieldMap) : Bytes := fm.fields.flatMap fun f => writeTagValue f.tag f.value

/-! ## Reading what was written -/

/-- The first value of a tag in a list of fields. -/
lemma getRaw_cons (f : TagValue) (fs : List TagValue) (tag : Tag) :
    (FieldMap.mk (f :: fs)).getRaw tag =
      if f.tag = tag then some f.value else (FieldMap.mk fs).getRaw tag := by
  by_cases h : f.tag = tag <;> simp [getRaw, h]

/-- The first field with a tag is found. -/
lemma getRaw_append (fs gs : List TagValue) (tag : Tag) :
    (FieldMap.mk (fs ++ gs)).getRaw tag =
      ((FieldMap.mk fs).getRaw tag).or ((FieldMap.mk gs).getRaw tag) := by
  rw [getRaw, getRaw, getRaw, List.find?_append]
  cases fs.find? (·.tag == tag) <;> rfl

/-- A tag is read from the fields of its class as from all. -/
lemma getRaw_filter {q : Tag → Bool} {tag} (own : q tag = true) (fs : List TagValue) :
    (FieldMap.mk (fs.filter (q ·.tag))).getRaw tag = (FieldMap.mk fs).getRaw tag := by
  induction fs with
  | nil => rfl
  | cons f fs ih =>
    by_cases here : f.tag = tag
    · rw [List.filter_cons_of_pos (by rw [here, own]), getRaw_cons, getRaw_cons, if_pos here,
        if_pos here]
    · rw [getRaw_cons, if_neg here, ← ih, List.filter_cons]
      split
      · rw [getRaw_cons, if_neg here]
      · rfl

/-- Setting a field leaves the others where they are. -/
lemma filter_setFields (p : Tag → Bool) {tag : Tag} (other : p tag = false) (v : Bytes)
    (fs : List TagValue) : (setFields tag v fs).filter (p ·.tag) = fs.filter (p ·.tag) := by
  induction fs with
  | nil => simp [setFields, other]
  | cons f fs ih =>
    rw [setFields]
    split
    case isTrue here => simp [here, other]
    case isFalse => rw [List.filter_cons, ih, List.filter_cons]

example : setFields 55 (ascii "B") [⟨55, ascii "A"⟩, ⟨54, ascii "1"⟩] = [⟨55, ascii "B"⟩, ⟨54, ascii "1"⟩] := by
  decide +kernel

/-- What is in the fields after one was set. -/
lemma mem_setFields {tag : Tag} {v fs f} (mem : f ∈ setFields tag v fs) : f = ⟨tag, v⟩ ∨ f ∈ fs := by
  induction fs with
  | nil => exact .inl (List.mem_singleton.mp mem)
  | cons g fs ih =>
    unfold setFields at mem
    split at mem
    · exact (List.mem_cons.mp mem).imp_right (List.mem_cons_of_mem g)
    · rcases List.mem_cons.mp mem with here | mem
      · exact .inr (here ▸ List.mem_cons_self)
      · exact (ih mem).imp_right (List.mem_cons_of_mem g)

/-- A new tag is appended. -/
lemma setFields_new {tag : Tag} {v fs} (new : ∀ f ∈ fs, TagValue.tag f ≠ tag) :
    setFields tag v fs = fs ++ [⟨tag, v⟩] := by
  induction fs with
  | nil => rfl
  | cons f fs ih =>
    obtain ⟨here, later⟩ := List.forall_mem_cons.mp new
    rw [setFields, if_neg here, ih later, List.cons_append]

/-- A tag that was set is read back. -/
@[simp] lemma getRaw_setRaw_same (fm : FieldMap) (tag : Tag) (v) :
    (fm.setRaw tag v).getRaw tag = some v := by
  obtain ⟨fs⟩ := fm
  induction fs with
  | nil => simp [setRaw, setFields, getRaw]
  | cons f fs ih =>
    simp only [setRaw, setFields] at ih ⊢
    split
    case isTrue h => simp [getRaw]
    case isFalse h => rw [getRaw_cons, if_neg h, ih]

/-- Setting a tag leaves the others as they are. -/
lemma getRaw_setRaw_of_ne {fm : FieldMap} {t tag : Tag} {v} (ne : t ≠ tag) :
    (fm.setRaw tag v).getRaw t = fm.getRaw t := by
  obtain ⟨fs⟩ := fm
  induction fs with
  | nil => simp [setRaw, setFields, getRaw, Ne.symm ne]
  | cons f fs ih =>
    simp only [setRaw, setFields] at ih ⊢
    split
    case isTrue h => simp [getRaw_cons, h, Ne.symm ne]
    case isFalse h => rw [getRaw_cons, getRaw_cons, ih]

/-- Reading after a write, by cases on the tag. -/
@[simp] lemma getRaw_set {α} [FixEncode α] (fm : FieldMap) (tag t : Tag) (v : α) :
    (fm.set tag v).getRaw t = if t = tag then some (encode v) else fm.getRaw t := by
  split
  case isTrue h => rw [h, set, getRaw_setRaw_same]
  case isFalse h => rw [set, getRaw_setRaw_of_ne h]

/-- A removed tag is not read. -/
@[simp] lemma getRaw_remove (fm : FieldMap) (tag t : Tag) :
    (fm.remove tag).getRaw t = if t = tag then none else fm.getRaw t := by
  obtain ⟨fs⟩ := fm
  induction fs with
  | nil => simp [remove, getRaw]
  | cons f fs ih =>
    simp only [remove, List.filter_cons] at ih ⊢
    by_cases h : f.tag = tag
    · simp only [h, ne_eq, not_true, decide_false, Bool.false_eq_true, if_false, ih, getRaw_cons]
      by_cases e : t = tag
      · simp [e]
      · simp [e, Ne.symm e]
    · simp only [ne_eq, h, not_false_eq_true, decide_true, if_true, getRaw_cons, ih]
      by_cases e : f.tag = t
      · have ne : t ≠ tag := e ▸ h
        simp [e, ne]
      · simp [e]

end FieldMap

end QuickFix
