import Mathlib.Data.List.TakeWhile
import QuickFix.Wire.FieldMap

/-!
# Repeating groups

Model of `FieldMap::read_groups`: the instances of a repeating group are cut from the members that
directly follow its counter, each at the delimiter it starts with (`readGroups_ok`).
-/

namespace QuickFix

/-- A repeating group: its counter and its member tags, the first of which is the delimiter. -/
structure GroupTemplate where
  numTag : Tag
  memberTags : List Tag
  nonempty : memberTags ≠ []

namespace GroupTemplate

/-- The tag an instance starts with. -/
def delimiter (t : GroupTemplate) : Tag := t.memberTags.head t.nonempty

/-- Whether a tag may be in an instance. -/
def isMember (t : GroupTemplate) (tag : Tag) : Bool := t.memberTags.contains tag

/-- The delimiter is a member. -/
lemma isMember_delimiter (t : GroupTemplate) : t.isMember t.delimiter = true :=
  List.contains_iff_mem.mpr (List.head_mem t.nonempty)

/-- The members at the start of some fields. -/
def leading (t : GroupTemplate) (fs : List TagValue) : List TagValue := fs.takeWhile (t.isMember ·.tag)

/-- The members that directly follow the counter. -/
def run (t : GroupTemplate) (fs : List TagValue) : List TagValue :=
  t.leading (fs.dropWhile (·.tag ≠ t.numTag)).tail

/-- How many fields are delimiters. -/
def delimiters (t : GroupTemplate) (fs : List TagValue) : Nat := fs.countP (·.tag = t.delimiter)

/-- No fields lead nothing. -/
@[simp] lemma leading_nil (t : GroupTemplate) : t.leading [] = [] := rfl
@[simp] lemma delimiters_nil (t : GroupTemplate) : t.delimiters [] = 0 := rfl

/-- The leading members of one more field. -/
lemma leading_cons (t : GroupTemplate) (f : TagValue) (fs : List TagValue) :
    t.leading (f :: fs) = if t.isMember f.tag then f :: t.leading fs else [] := by
  rw [leading, List.takeWhile_cons]
  rfl

/-- The delimiters of one more field. -/
lemma delimiters_cons (t : GroupTemplate) (f : TagValue) (fs : List TagValue) :
    t.delimiters (f :: fs) = if f.tag = t.delimiter then t.delimiters fs + 1 else t.delimiters fs := by
  rw [delimiters, List.countP_cons]
  split <;> simp_all [delimiters]

/-- An instance starts with its only delimiter; the rest are members. -/
def Instance (t : GroupTemplate) (fm : FieldMap) : Prop :=
  ∃ first rest, fm.fields = first :: rest ∧ first.tag = t.delimiter ∧
    ∀ f ∈ rest, f.tag ≠ t.delimiter ∧ t.isMember f.tag = true

end GroupTemplate

namespace FieldMap

/-- The loop of `read_groups` over the fields after the counter. -/
def readInstances (t : GroupTemplate) (groups : List FieldMap) :
    List TagValue → Except ConversionError (List FieldMap)
  | [] => .ok groups
  | f :: fs =>
    if f.tag = t.delimiter then readInstances t (groups ++ [⟨[f]⟩]) fs
    else if groups = [] ∨ !t.isMember f.tag then .ok groups
    else
      match groups.getLast? with
      | some g => readInstances t (groups.dropLast ++ [g.pushTagValue f]) fs
      | none => .error (invalid f.tag f.value)

/-- Read the repeating group counted by the template's counter. -/
def readGroups (fm : FieldMap) (t : GroupTemplate) : Except ConversionError (List FieldMap) :=
  match fm.fields.dropWhile (·.tag ≠ t.numTag) with
  | [] => .ok []
  | _ :: fs => do
    let declared ← fm.get decodeU64 t.numTag
    let groups ← readInstances t [] fs
    if groups.length ≠ declared then throw (.invalidValue t.numTag (dec declared)) else return groups

variable {t : GroupTemplate} {fm : FieldMap}

/-- From an instance on, the members that follow are cut at their delimiters. -/
lemma readInstances_members (t : GroupTemplate) (gs : List FieldMap) (g : FieldMap)
    (fs : List TagValue) (good : ∀ g' ∈ gs ++ [g], t.Instance g') :
    ∃ gs', readInstances t (gs ++ [g]) fs = .ok gs' ∧ (∀ g' ∈ gs', t.Instance g') ∧
      gs'.length = gs.length + 1 + t.delimiters (t.leading fs) ∧
      gs'.flatMap fields = (gs ++ [g]).flatMap fields ++ t.leading fs := by
  induction fs generalizing gs g with
  | nil => exact ⟨gs ++ [g], rfl, good, by simp, by simp⟩
  | cons f fs ih =>
    rw [readInstances]
    by_cases start : f.tag = t.delimiter
    · have member : t.isMember f.tag = true := start ▸ t.isMember_delimiter
      have good' : ∀ g' ∈ gs ++ [g] ++ [⟨[f]⟩], t.Instance g' := by
        intro g' mem
        rcases List.mem_append.mp mem with mem | mem
        · exact good g' mem
        · cases List.mem_singleton.mp mem
          exact ⟨f, [], rfl, start, by simp⟩
      obtain ⟨gs', run, all, length, flat⟩ := ih (gs ++ [g]) ⟨[f]⟩ good'
      rw [if_pos start, t.leading_cons, if_pos member]
      refine ⟨gs', run, all, ?_, ?_⟩
      · rw [length, List.length_append, List.length_singleton, t.delimiters_cons, if_pos start]
        omega
      · rw [flat]
        simp
    · rw [if_neg start]
      by_cases member : t.isMember f.tag = true
      · have good' : ∀ g' ∈ gs ++ [g.pushTagValue f], t.Instance g' := by
          intro g' mem
          rcases List.mem_append.mp mem with mem | mem
          · exact good g' (List.mem_append_left _ mem)
          · cases List.mem_singleton.mp mem
            obtain ⟨first, rest, fields, delimiter, others⟩ := good g (by simp)
            refine ⟨first, rest ++ [f], by simp [pushTagValue, fields], delimiter, ?_⟩
            intro f' mem'
            rcases List.mem_append.mp mem' with mem' | mem'
            · exact others f' mem'
            · cases List.mem_singleton.mp mem'
              exact ⟨start, member⟩
        obtain ⟨gs', run, all, length, flat⟩ := ih gs (g.pushTagValue f) good'
        rw [if_neg (by simp [member]), List.getLast?_concat, List.dropLast_concat,
          t.leading_cons, if_pos member]
        refine ⟨gs', run, all, ?_, ?_⟩
        · rw [length, t.delimiters_cons, if_neg start]
        · rw [flat]
          simp [pushTagValue]
      · rw [if_pos (.inr (by simpa using member)), t.leading_cons, if_neg member]
        exact ⟨gs ++ [g], rfl, good, by simp, by simp⟩

/-- Reading stops before a field that is no member. -/
lemma readInstances_append {t : GroupTemplate} {acc : List FieldMap} {fs rest : List TagValue}
    (stop : ∀ f ∈ rest.head?, t.isMember f.tag = false) :
    readInstances t acc (fs ++ rest) = readInstances t acc fs := by
  induction fs generalizing acc with
  | nil =>
    cases rest with
    | nil => rfl
    | cons f rest =>
      have outside := stop f rfl
      have other : f.tag ≠ t.delimiter := by
        intro start
        rw [start, t.isMember_delimiter] at outside
        cases outside
      rw [List.nil_append, readInstances, readInstances, if_neg other, if_pos (by simp [outside])]
  | cons f fs ih =>
    rw [List.cons_append, readInstances, readInstances, ih]
    cases acc.getLast? with
    | none => rfl
    | some g => simp only [ih]

/-- A group is read from its counter up to what is no member. -/
lemma readGroups_block {t : GroupTemplate} {before fs behind : List TagValue} {f : TagValue}
    (first : ∀ x ∈ before, x.tag ≠ t.numTag) (counter : f.tag = t.numTag)
    (stop : ∀ x ∈ behind.head?, t.isMember x.tag = false) :
    readGroups ⟨before ++ f :: (fs ++ behind)⟩ t = readGroups ⟨f :: fs⟩ t := by
  have ahead : before.find? (·.tag == t.numTag) = none :=
    List.find?_eq_none.mpr fun x mem => by simp [first x mem]
  have raw : (FieldMap.mk (before ++ f :: (fs ++ behind))).getRaw t.numTag =
      (FieldMap.mk (f :: fs)).getRaw t.numTag := by
    rw [getRaw, List.find?_append, ahead, Option.none_or, ← getRaw, getRaw_cons, getRaw_cons,
      if_pos counter, if_pos counter]
  have skip : (before ++ f :: (fs ++ behind)).dropWhile (·.tag ≠ t.numTag) = f :: (fs ++ behind) := by
    rw [List.dropWhile_append_of_pos fun x mem => by simp [first x mem],
      List.dropWhile_cons_of_neg (by simp [counter])]
  have here : (f :: fs).dropWhile (·.tag ≠ t.numTag) = f :: fs :=
    List.dropWhile_cons_of_neg (by simp [counter])
  rw [readGroups, readGroups, skip, here]
  simp only [get, raw, readInstances_append stop]

/-- Fields before the first counter, and no members behind, make no difference. -/
lemma readGroups_between {t : GroupTemplate} {before fs behind : List TagValue}
    (first : ∀ f ∈ before, f.tag ≠ t.numTag)
    (last : ∀ f ∈ behind, f.tag ≠ t.numTag ∧ t.isMember f.tag = false) :
    readGroups ⟨before ++ (fs ++ behind)⟩ t = readGroups ⟨fs⟩ t := by
  have ahead : before.find? (·.tag == t.numTag) = none :=
    List.find?_eq_none.mpr fun f mem => by simp [first f mem]
  have after : behind.find? (·.tag == t.numTag) = none :=
    List.find?_eq_none.mpr fun f mem => by simp [(last f mem).1]
  have raw : (FieldMap.mk (before ++ (fs ++ behind))).getRaw t.numTag =
      (FieldMap.mk fs).getRaw t.numTag := by
    rw [getRaw, getRaw, List.find?_append, List.find?_append, ahead, after, Option.none_or,
      Option.or_none]
  have skip : (before ++ (fs ++ behind)).dropWhile (·.tag ≠ t.numTag) =
      (fs ++ behind).dropWhile (·.tag ≠ t.numTag) :=
    List.dropWhile_append_of_pos fun f mem => by simp [first f mem]
  have none : behind.dropWhile (·.tag ≠ t.numTag) = [] :=
    List.dropWhile_eq_nil_iff.mpr fun f mem => by simp [(last f mem).1]
  have stop : ∀ f ∈ behind.head?, t.isMember f.tag = false := fun f mem =>
    (last f (List.mem_of_mem_head? mem)).2
  rw [readGroups, readGroups, skip, List.dropWhile_append, none]
  cases found : fs.dropWhile (·.tag ≠ t.numTag) with
  | nil => rfl
  | cons f fs => simp only [List.isEmpty_cons, Bool.false_eq_true, if_false, List.cons_append, get, raw,
      readInstances_append stop]

/-- The instances after the counter: none unless the first field is a delimiter. -/
lemma readInstances_nil (t : GroupTemplate) (fs : List TagValue) :
    ∃ gs, readInstances t [] fs = .ok gs ∧ (∀ g ∈ gs, t.Instance g) ∧
      if (fs.head?.map (·.tag)) = some t.delimiter then
        gs.length = t.delimiters (t.leading fs) ∧
          gs.flatMap fields = t.leading fs
      else gs = [] := by
  cases fs with
  | nil => exact ⟨[], rfl, by simp, by simp⟩
  | cons f fs =>
    rw [readInstances]
    by_cases start : f.tag = t.delimiter
    · have member : t.isMember f.tag = true := start ▸ t.isMember_delimiter
      obtain ⟨gs, run, all, length, flat⟩ := readInstances_members t [] ⟨[f]⟩ fs (by
        intro g mem
        cases List.mem_singleton.mp mem
        exact ⟨f, [], rfl, start, by simp⟩)
      rw [if_pos start]
      refine ⟨gs, run, all, ?_⟩
      rw [if_pos (by simp [start]), t.leading_cons, if_pos member]
      refine ⟨?_, by rw [flat]; simp⟩
      rw [length, t.delimiters_cons, if_pos start, List.length_nil]
      omega
    · rw [if_neg start, if_pos (.inl rfl)]
      exact ⟨[], rfl, by simp, by simp [start]⟩

/-- A value that is read is there. -/
lemma getOpt_of_get {α : Type} {decode : Tag → Bytes → Except ConversionError α} {tag : Tag} {a}
    (h : fm.get decode tag = .ok a) : fm.getOpt decode tag = .ok (some a) := by
  rw [get] at h
  rw [getOpt]
  cases found : fm.getRaw tag with
  | none =>
    rw [found] at h
    cases h
  | some raw =>
    rw [found] at h
    simp only [h]
    rfl

/-- A counter that is there has a value. -/
lemma dropWhile_of_get {tag : Tag} {n} (counted : fm.get decodeU64 tag = .ok n) :
    ∃ f fs, fm.fields.dropWhile (·.tag ≠ tag) = f :: fs := by
  cases found : fm.fields.dropWhile (·.tag ≠ tag) with
  | cons f fs => exact ⟨f, fs, rfl⟩
  | nil =>
    have none : fm.getRaw tag = none := by
      rw [List.dropWhile_eq_nil_iff] at found
      rw [getRaw, List.find?_eq_none.mpr, Option.map_none]
      intro f mem same
      have other := found f mem
      simp only [ne_eq, decide_not, Bool.not_eq_true', decide_eq_false_iff_not] at other
      exact other (by simpa using same)
    rw [get, none] at counted
    cases counted

/-- The instances that are read are as many as declared; they are the members that directly follow the
counter. -/
lemma readGroups_run {n} (counted : fm.get decodeU64 t.numTag = .ok n) {gs}
    (read : fm.readGroups t = .ok gs) : gs.length = n ∧ (∀ g ∈ gs, t.Instance g) ∧
      (gs = [] ∨ gs.flatMap fields = t.run fm.fields) := by
  obtain ⟨f, fs, found⟩ := dropWhile_of_get counted
  obtain ⟨gs', run, all, shape⟩ := readInstances_nil t fs
  simp only [readGroups, found, counted, run, bind, Except.bind] at read
  split at read
  case isTrue => cases read
  case isFalse length =>
    cases read
    refine ⟨not_not.mp length, all, ?_⟩
    rw [GroupTemplate.run, found, List.tail_cons]
    split at shape
    · exact .inr shape.2
    · exact .inl shape

/-- As many instances are read as declared when so many delimiters directly follow the counter among
members, the first of them at once. -/
lemma readGroups_ok {n} (counted : fm.get decodeU64 t.numTag = .ok n)
    (starts : n ≠ 0 → ∀ f fs, (fm.fields.dropWhile (·.tag ≠ t.numTag)).tail = f :: fs →
      t.isMember f.tag = true → f.tag = t.delimiter)
    (total : t.delimiters fm.fields = n) :
    (∃ gs, fm.readGroups t = .ok gs) ↔ t.delimiters (t.run fm.fields) = n := by
  obtain ⟨f, fs, found⟩ := dropWhile_of_get counted
  obtain ⟨gs, run, all, shape⟩ := readInstances_nil t fs
  have after : (fm.fields.dropWhile (·.tag ≠ t.numTag)).tail = fs := by rw [found, List.tail_cons]
  have ok : (∃ gs, fm.readGroups t = .ok gs) ↔ gs.length = n := by
    simp only [readGroups, found, counted, run, bind, Except.bind]
    split
    case isTrue other => exact iff_of_false (fun ⟨gs, read⟩ => by cases read) other
    case isFalse same => exact iff_of_true ⟨gs, rfl⟩ (not_not.mp same)
  rw [ok, GroupTemplate.run, after]
  split at shape
  case isTrue => rw [shape.1]
  case isFalse other =>
    rw [shape, List.length_nil]
    have le : t.delimiters (t.leading fs) ≤ n := by
      have sub : (t.leading fs).Sublist fm.fields := by
        refine (List.takeWhile_sublist _).trans ?_
        rw [← after]
        exact (List.tail_sublist _).trans (List.dropWhile_sublist _)
      exact total ▸ sub.countP_le
    constructor
    · intro zero
      omega
    · intro same
      by_contra some
      cases fs with
      | nil => exact some same
      | cons f' fs =>
        rw [t.leading_cons] at same
        split at same
        case isTrue member =>
          have start := starts (fun zero => some zero.symm) f' fs after member
          exact other (by simp [start])
        case isFalse => exact some same

end FieldMap

end QuickFix
