import QuickFix.Wire.Groups

/-!
# Writing repeating groups

Model of `FieldMap::write_groups`: the counter is set where it stands and the instances are appended, so
they are read back exactly when nothing comes between, or what does stand after the counter reads the
same (`writeGroups_readable`).
-/

namespace QuickFix

namespace FieldMap

/-- Append repeating-group instances, setting the count field. -/
def writeGroups (fm : FieldMap) (t : GroupTemplate) (groups : List FieldMap) : FieldMap :=
  groups.foldl (fun fm g => ⟨fm.fields ++ g.fields⟩) (fm.set t.numTag groups.length)

/-- The fields after the first counter. -/
def afterCounter (fm : FieldMap) (t : GroupTemplate) : List TagValue :=
  (fm.fields.dropWhile (·.tag ≠ t.numTag)).tail

/-- Whether instances can be written so that they are read back: nothing stands after the counter; or
there are none to write, and none stand there; or those stand there, and then a field that is no member. -/
def Writable (fm : FieldMap) (t : GroupTemplate) (groups : List FieldMap) : Prop :=
  fm.afterCounter t = [] ∨
    if (fm.afterCounter t).head?.map (·.tag) = some t.delimiter then
      t.leading (fm.afterCounter t) = groups.flatMap fields ∧
        t.leading (fm.afterCounter t) ≠ fm.afterCounter t
    else groups = []

variable {t : GroupTemplate} {fm : FieldMap} {gs : List FieldMap}

/-! ## Cutting instances -/

/-- The rest of an instance goes to it. -/
lemma readInstances_rest {acc : List FieldMap} {g : FieldMap} {rest fs : List TagValue}
    (members : ∀ f ∈ rest, f.tag ≠ t.delimiter ∧ t.isMember f.tag = true) :
    readInstances t (acc ++ [g]) (rest ++ fs) =
      readInstances t (acc ++ [⟨g.fields ++ rest⟩]) fs := by
  induction rest generalizing g with
  | nil => simp
  | cons f rest ih =>
    obtain ⟨⟨other, member⟩, members⟩ := List.forall_mem_cons.mp members
    have more := ih (g := g.pushTagValue f) members
    rw [List.cons_append, readInstances, if_neg other, if_neg (by simp [member]),
      List.getLast?_concat, List.dropLast_concat]
    simp only
    rw [more]
    simp [pushTagValue]

/-- Instances in a row are cut where they begin. -/
lemma readInstances_flat (good : ∀ g ∈ gs, t.Instance g) (acc : List FieldMap) :
    readInstances t acc (gs.flatMap fields) = .ok (acc ++ gs) := by
  induction gs generalizing acc with
  | nil => simp [readInstances]
  | cons g gs ih =>
    obtain ⟨⟨first, rest, shape, start, members⟩, good⟩ := List.forall_mem_cons.mp good
    have whole : (⟨[first] ++ rest⟩ : FieldMap) = g := by rw [List.singleton_append, ← shape]
    rw [List.flatMap_cons, shape, List.cons_append, readInstances, if_pos start,
      readInstances_rest members, whole, ih good, List.append_assoc, List.singleton_append]

/-- Instances are told by their fields in a row. -/
lemma flat_inj {gs' : List FieldMap} (good : ∀ g ∈ gs, t.Instance g) (good' : ∀ g ∈ gs', t.Instance g)
    (same : gs.flatMap fields = gs'.flatMap fields) : gs = gs' := by
  have cut := readInstances_flat good []
  rw [same, readInstances_flat good' []] at cut
  simpa using cut.symm

/-- Instances in a row are members. -/
lemma leading_flat (good : ∀ g ∈ gs, t.Instance g) : t.leading (gs.flatMap fields) = gs.flatMap fields := by
  rw [GroupTemplate.leading, List.takeWhile_eq_self_iff]
  intro f mem
  obtain ⟨g, here, mem⟩ := List.mem_flatMap.mp mem
  obtain ⟨first, rest, shape, start, members⟩ := good g here
  rw [shape] at mem
  rcases List.mem_cons.mp mem with rfl | mem
  · rw [start]
    exact t.isMember_delimiter
  · exact (members f mem).2

/-- The members at the start of fields in two parts. -/
lemma leading_append (t : GroupTemplate) (fs fs' : List TagValue) :
    t.leading (fs ++ fs') = if t.leading fs = fs then fs ++ t.leading fs' else t.leading fs := by
  have whole : (t.leading fs).length = fs.length ↔ t.leading fs = fs :=
    ⟨(List.takeWhile_sublist _).eq_of_length, congrArg List.length⟩
  rw [GroupTemplate.leading, List.takeWhile_append]
  exact if_congr whole rfl rfl

/-- Instances in a row begin with a delimiter, if there are any. -/
lemma head_flat (good : ∀ g ∈ gs, t.Instance g) (some : gs ≠ []) :
    (gs.flatMap fields).head?.map (·.tag) = Option.some t.delimiter := by
  cases gs with
  | nil => exact absurd rfl some
  | cons g gs =>
    obtain ⟨first, rest, shape, start, -⟩ := good g List.mem_cons_self
    rw [List.flatMap_cons, shape, List.cons_append, List.head?_cons, Option.map_some, start]

/-! ## Setting the counter -/

/-- The fields that are written. -/
lemma writeGroups_fields (fm : FieldMap) (t : GroupTemplate) (gs : List FieldMap) :
    (fm.writeGroups t gs).fields = (fm.set t.numTag gs.length).fields ++ gs.flatMap fields := by
  rw [writeGroups]
  generalize fm.set t.numTag gs.length = fm'
  induction gs generalizing fm' with
  | nil => simp
  | cons g gs ih =>
    rw [List.foldl_cons, ih, List.flatMap_cons, List.append_assoc]

/-- Setting the counter leaves what comes after it. -/
lemma dropWhile_setFields (tag : Tag) (v : Bytes) (fs : List TagValue) :
    (setFields tag v fs).dropWhile (·.tag ≠ tag) = ⟨tag, v⟩ :: (fs.dropWhile (·.tag ≠ tag)).tail := by
  induction fs with
  | nil => simp [setFields]
  | cons f fs ih =>
    rw [setFields]
    split
    case isTrue here => simp [here]
    case isFalse other =>
      rw [List.dropWhile_cons_of_pos (by simpa using other), ih,
        List.dropWhile_cons_of_pos (by simpa using other)]

/-- What comes after the counter when groups were written. -/
lemma dropWhile_writeGroups (fm : FieldMap) (t : GroupTemplate) (gs : List FieldMap) :
    (fm.writeGroups t gs).fields.dropWhile (·.tag ≠ t.numTag) =
      ⟨t.numTag, encode gs.length⟩ :: (fm.afterCounter t ++ gs.flatMap fields) := by
  have here := dropWhile_setFields t.numTag (encode gs.length) fm.fields
  rw [writeGroups_fields, List.dropWhile_append]
  show (if ((setFields t.numTag (encode gs.length) fm.fields).dropWhile _).isEmpty then _ else
    (setFields t.numTag (encode gs.length) fm.fields).dropWhile _ ++ _) = _
  rw [here]
  rfl

/-- The counter says how many were written. -/
lemma get_writeGroups (short : gs.length < 2 ^ 63) :
    (fm.writeGroups t gs).get decodeU64 t.numTag = .ok gs.length := by
  have set : (fm.set t.numTag gs.length).getRaw t.numTag = some (encode gs.length) := by simp
  rw [getRaw, Option.map_eq_some_iff] at set
  obtain ⟨f, found, value⟩ := set
  have raw : (fm.writeGroups t gs).getRaw t.numTag = some (encode gs.length) := by
    rw [getRaw, writeGroups_fields, List.find?_append, found, Option.some_or, Option.map_some, value]
  rw [get, raw]
  exact decodeU64_encode short

/-- What is read are the instances in the run after the counter. -/
lemma readGroups_writeGroups (good : ∀ g ∈ gs, t.Instance g) (short : gs.length < 2 ^ 63) :
    (fm.writeGroups t gs).readGroups t = .ok gs ↔
      if (fm.afterCounter t ++ gs.flatMap fields).head?.map (·.tag) = some t.delimiter then
        t.leading (fm.afterCounter t ++ gs.flatMap fields) = gs.flatMap fields
      else gs = [] := by
  obtain ⟨gs', run, all, shape⟩ := readInstances_nil t (fm.afterCounter t ++ gs.flatMap fields)
  have read : (fm.writeGroups t gs).readGroups t = .ok gs ↔ gs' = gs := by
    simp only [readGroups, dropWhile_writeGroups, get_writeGroups short, run, bind, Except.bind]
    split
    case isTrue other =>
      refine iff_of_false (fun read => by cases read) fun same => other (congrArg _ same)
    case isFalse => exact ⟨fun read => by cases read; rfl, fun same => by rw [same]; rfl⟩
  rw [read]
  split at shape
  case isTrue start =>
    rw [if_pos start, ← shape.2]
    exact ⟨fun same => by rw [same], flat_inj all good⟩
  case isFalse other =>
    rw [if_neg other, shape]
    exact eq_comm

/-- Instances that are written are read back, and the other fields stay, exactly when they can be
written so. -/
theorem writeGroups_readable (good : ∀ g ∈ gs, t.Instance g) (short : gs.length < 2 ^ 63) :
    (fm.writeGroups t gs).readGroups t = .ok gs ∧
        (fm.fields.filter (·.tag ≠ t.numTag)).Sublist (fm.writeGroups t gs).fields ↔
      fm.Writable t gs := by
  have kept : (fm.fields.filter (·.tag ≠ t.numTag)).Sublist (fm.writeGroups t gs).fields := by
    have same : (setFields t.numTag (encode gs.length) fm.fields).filter (·.tag ≠ t.numTag) =
        fm.fields.filter (·.tag ≠ t.numTag) := filter_setFields (· ≠ t.numTag) (by simp) _ _
    rw [writeGroups_fields, ← same]
    exact List.filter_sublist.trans (List.sublist_append_left _ _)
  rw [and_iff_left kept, readGroups_writeGroups good short, Writable]
  cases after : fm.afterCounter t with
  | nil =>
    refine iff_of_true ?_ (.inl rfl)
    rw [List.nil_append, leading_flat good]
    split
    case isTrue => rfl
    case isFalse bare =>
      by_contra some
      exact bare (head_flat good some)
  | cons f fs =>
    rw [or_iff_right (List.cons_ne_nil f fs), List.cons_append, List.head?_cons, List.head?_cons]
    split
    case isFalse => rfl
    case isTrue start =>
      rw [← List.cons_append, leading_append]
      by_cases whole : t.leading (f :: fs) = f :: fs
      · rw [if_pos whole]
        refine iff_of_false ?_ fun ⟨_, stops⟩ => stops whole
        rw [leading_flat good]
        intro same
        have longer := congrArg List.length same
        simp only [List.length_append, List.length_cons] at longer
        omega
      · rw [if_neg whole, and_iff_left whole]

end FieldMap

/-- Parties, with their source and role. -/
def partyTemplate : GroupTemplate := ⟨453, [448, 447, 452], by decide⟩

/-- One party. -/
def oneParty (id : String) : FieldMap := ⟨[⟨448, ascii id⟩]⟩

/-- An instance of the group of parties. -/
lemma instance_oneParty (id) : partyTemplate.Instance (oneParty id) := ⟨_, [], rfl, rfl, by simp⟩

/-- Parties are written where they stand already behind an earlier counter. -/
theorem writeGroups_readable_end :
    let fm : FieldMap := ⟨[⟨453, ascii "7"⟩, ⟨448, ascii "A"⟩, ⟨448, ascii "B"⟩, ⟨55, ascii "X"⟩]⟩
    (fm.writeGroups partyTemplate [oneParty "A", oneParty "B"]).readGroups partyTemplate =
        .ok [oneParty "A", oneParty "B"] ∧
      (fm.fields.filter (·.tag ≠ partyTemplate.numTag)).Sublist
        (fm.writeGroups partyTemplate [oneParty "A", oneParty "B"]).fields := by
  apply (FieldMap.writeGroups_readable (by simp [instance_oneParty]) (by decide)).mpr
  exact .inr ⟨by decide, by decide⟩

/-- Parties that are written after a party are not read back. -/
theorem writeGroups_unreadable :
    let fm : FieldMap := ⟨[⟨453, ascii "1"⟩, ⟨448, ascii "A"⟩]⟩
    (fm.writeGroups partyTemplate [oneParty "B"]).readGroups partyTemplate =
      .error (.invalidValue 453 (ascii "1")) := by
  decide +kernel

end QuickFix
