import QuickFix.Wire.Groups
import QuickFix.Wire.Loader

/-!
# What validation says of groups

Validation looks at the fields of a body one by one: it counts the delimiters of each group and looks at
what comes directly after its counter. For a dictionary that was loaded, the instances of a group can
then be read exactly when all its delimiters directly follow the counter among members
(`validate_groups`).
-/

namespace QuickFix

/-! ## Loaded groups -/

namespace Loading

variable {α β : Type}

/-- What comes before a step that succeeded did so too. -/
lemma of_bind {x : Loading α} {y : α → Loading β} {b} (h : (x >>= y).run = some (.ok b)) :
    ∃ a, x.run = some (.ok a) ∧ (y a).run = some (.ok b) := by
  change (ExceptT.bind x y).run = _ at h
  simp only [ExceptT.bind, ExceptT.mk, ExceptT.run, bind] at h
  cases result : x.run with
  | none =>
    rw [show (x : Option (Except Bytes α)) = none from result] at h
    cases h
  | some r =>
    rw [show (x : Option (Except Bytes α)) = some r from result] at h
    cases r with
    | error e => cases h
    | ok a => exact ⟨a, rfl, h⟩

/-- A loop that succeeded keeps what each of its steps keeps. -/
lemma foldlM_keeps {P : β → Prop} {step : β → α → Loading β}
    (keeps : ∀ b a b', (step b a).run = some (.ok b') → P b → P b') {xs : List α} {b b'}
    (h : (xs.foldlM step b).run = some (.ok b')) (start : P b) : P b' := by
  induction xs generalizing b with
  | nil =>
    cases h
    exact start
  | cons x xs ih =>
    rw [List.foldlM_cons] at h
    obtain ⟨c, here, later⟩ := of_bind h
    exact ih later (keeps b x c here start)

/-- What a map made that succeeded was made of some element. -/
lemma mem_of_mapM {f : α → Loading β} {xs : List α} {ys y} (h : (xs.mapM f).run = some (.ok ys))
    (mem : y ∈ ys) : ∃ x ∈ xs, (f x).run = some (.ok y) := by
  induction xs generalizing ys with
  | nil =>
    cases h
    cases mem
  | cons x xs ih =>
    rw [List.mapM_cons] at h
    obtain ⟨y', here, h⟩ := of_bind h
    obtain ⟨ys', later, h⟩ := of_bind h
    cases h
    rcases List.mem_cons.mp mem with rfl | mem
    · exact ⟨x, List.mem_cons_self, here⟩
    · obtain ⟨x', mem', made⟩ := ih later mem
      exact ⟨x', List.mem_cons_of_mem x mem', made⟩

end Loading

/-- A map entry is an old one or the one that was inserted. -/
lemma mem_insertEntry {α β : Type} [DecidableEq α] {k : α} {v : β} {es : List (α × β)} {e}
    (mem : e ∈ insertEntry k v es) : e = (k, v) ∨ e ∈ es := by
  induction es with
  | nil => exact .inl (List.mem_singleton.mp mem)
  | cons e' es ih =>
    rw [insertEntry] at mem
    split at mem
    · rcases List.mem_cons.mp mem with here | there
      · exact .inl here
      · exact .inr (List.mem_cons_of_mem _ there)
    · rcases List.mem_cons.mp mem with rfl | there
      · exact .inr List.mem_cons_self
      · exact (ih there).imp_right (List.mem_cons_of_mem _)

/-- What is in a map was inserted, or was there. -/
lemma mem_foldl_insertEntry {α β : Type} [DecidableEq α] {xs es : List (α × β)} {e}
    (mem : e ∈ xs.foldl (fun m d => insertEntry d.1 d.2 m) es) : e ∈ xs ∨ e ∈ es := by
  induction xs generalizing es with
  | nil => exact .inr mem
  | cons x xs ih =>
    rcases ih mem with later | here
    · exact .inl (List.mem_cons_of_mem _ later)
    · rcases mem_insertEntry here with rfl | old
      · exact .inl List.mem_cons_self
      · exact .inr old

/-- Each group is kept under its counter. -/
def Keyed (groups : List (Tag × GroupDef)) : Prop := ∀ e ∈ groups, e.2.counter = e.1

/-- A group is found under its counter. -/
lemma Keyed.lookup {groups} (h : Keyed groups) {c g} (found : groups.lookup c = some g) :
    g.counter = c := by
  obtain ⟨l, r, rfl, -⟩ := List.lookup_eq_some_iff.mp found
  exact h (c, g) (by simp)

section

variable {tagsByName : List (Bytes × Tag)} {components : List (Bytes × Node)}

/-- Collecting the members of a group leaves its counter. -/
lemma collectGroup_counter {fuel children group group'}
    (h : (collectGroup tagsByName components fuel children group).run = some (.ok group')) :
    group'.1.counter = group.1.counter := by
  induction fuel generalizing children group group' with
  | zero => cases h
  | succ fuel ih =>
    rw [collectGroup] at h
    refine Loading.foldlM_keeps (P := fun g => g.1.counter = group.1.counter) ?_ h rfl
    rintro ⟨g, order⟩ c g' step same
    dsimp only at step
    split at step
    case isTrue =>
      obtain ⟨tag, -, step⟩ := Loading.of_bind step
      cases step
      exact same
    case isFalse =>
      split at step
      case isTrue =>
        obtain ⟨component, -, step⟩ := Loading.of_bind step
        exact (ih step).trans same
      case isFalse =>
        split at step
        case isTrue =>
          obtain ⟨counter, -, step⟩ := Loading.of_bind step
          obtain ⟨⟨nested, nestedOrder⟩, -, step⟩ := Loading.of_bind step
          obtain ⟨nested', -, step⟩ := Loading.of_bind step
          cases step
          exact same
        case isFalse =>
          cases step
          exact same

/-- Delimiting a group leaves its counter. -/
lemma delimited_counter {c : Node} {g g' : GroupDef} {order}
    (h : (delimited c g order).run = some (.ok g')) : g'.counter = g.counter := by
  cases order with
  | nil => cases h
  | cons delimiter rest =>
    cases h
    rfl

/-- The members of a group are among its tags. -/
lemma mem_insertTag {tags : List Tag} {t u} : t ∈ insertTag tags u ↔ t ∈ tags ∨ t = u := by
  unfold insertTag
  split
  case isTrue old =>
    constructor
    · exact .inl
    · rintro (mem | rfl)
      · exact mem
      · exact old
  case isFalse => rw [List.mem_append, List.mem_singleton]

/-- Adding tags loses none. -/
lemma mem_extendTags {tags more : List Tag} {t} (mem : t ∈ tags) : t ∈ extendTags tags more := by
  induction more generalizing tags with
  | nil => exact mem
  | cons u more ih => exact ih (mem_insertTag.mpr (.inl mem))

/-- Collecting a group keeps the members among its tags. -/
lemma collectGroup_members {fuel children group group'}
    (h : (collectGroup tagsByName components fuel children group).run = some (.ok group'))
    (members : ∀ t ∈ group.2, t ∈ group.1.tags) : ∀ t ∈ group'.2, t ∈ group'.1.tags := by
  induction fuel generalizing children group group' with
  | zero => cases h
  | succ fuel ih =>
    rw [collectGroup] at h
    refine Loading.foldlM_keeps (P := fun g => ∀ t ∈ g.2, t ∈ g.1.tags) ?_ h members
    rintro ⟨g, order⟩ c g' step members
    dsimp only at step members
    have added {tags : List Tag} {tag} (own : ∀ t ∈ g.tags, t ∈ tags) (new : tag ∈ tags) :
        ∀ t ∈ order ++ [tag], t ∈ tags := by
      intro t mem
      rcases List.mem_append.mp mem with mem | mem
      · exact own t (members t mem)
      · exact List.mem_singleton.mp mem ▸ new
    split at step
    case isTrue =>
      obtain ⟨tag, -, step⟩ := Loading.of_bind step
      cases step
      exact added (fun t mem => mem_insertTag.mpr (.inl mem)) (mem_insertTag.mpr (.inr rfl))
    case isFalse =>
      split at step
      case isTrue =>
        obtain ⟨component, -, step⟩ := Loading.of_bind step
        exact ih step members
      case isFalse =>
        split at step
        case isTrue =>
          obtain ⟨counter, -, step⟩ := Loading.of_bind step
          obtain ⟨⟨nested, nestedOrder⟩, -, step⟩ := Loading.of_bind step
          obtain ⟨nested', -, step⟩ := Loading.of_bind step
          cases step
          exact added (fun t mem => mem_extendTags (mem_insertTag.mpr (.inl mem)))
            (mem_extendTags (mem_insertTag.mpr (.inr rfl)))
        case isFalse =>
          cases step
          exact members

/-- The delimiter of a group is a member. -/
lemma delimiter_mem {fuel children counter} {c : Node} {g g' order}
    (collected : (collectGroup tagsByName components fuel children (.start counter, [])).run =
      some (.ok (g, order))) (h : (delimited c g order).run = some (.ok g')) : g'.delimiter ∈ g'.tags := by
  cases order with
  | nil => cases h
  | cons delimiter rest =>
    cases h
    exact collectGroup_members collected (fun t mem => by cases mem) delimiter List.mem_cons_self

/-- What holds of every group when its members are collected holds of the groups of a message. -/
lemma collect_groups {P : Tag → GroupDef → Prop}
    (made : ∀ {fuel children counter} {c : Node} {g order g'},
      (collectGroup tagsByName components fuel children (.start counter, [])).run = some (.ok (g, order)) →
      (delimited c g order).run = some (.ok g') → P counter g') {fuel children d d'}
    (h : (collect tagsByName components fuel children d).run = some (.ok d'))
    (old : ∀ e ∈ d.groups, P e.1 e.2) : ∀ e ∈ d'.groups, P e.1 e.2 := by
  induction fuel generalizing children d d' with
  | zero => cases h
  | succ fuel ih =>
    rw [collect] at h
    refine Loading.foldlM_keeps (P := fun d => ∀ e ∈ d.groups, P e.1 e.2) ?_ h old
    intro d c d' step keyed
    split at step
    case isTrue =>
      obtain ⟨tag, -, step⟩ := Loading.of_bind step
      cases step
      exact keyed
    case isFalse =>
      split at step
      case isTrue =>
        obtain ⟨component, -, step⟩ := Loading.of_bind step
        obtain ⟨e, collected, step⟩ := Loading.of_bind step
        cases step
        have kept : ∀ e' ∈ e.groups, P e'.1 e'.2 := ih collected keyed
        exact kept
      case isFalse =>
        split at step
        case isTrue =>
          obtain ⟨counter, -, step⟩ := Loading.of_bind step
          obtain ⟨⟨g, order⟩, members, step⟩ := Loading.of_bind step
          obtain ⟨g', delimiter, step⟩ := Loading.of_bind step
          cases step
          intro e mem
          rcases mem_insertEntry mem with rfl | old
          · exact made members delimiter
          · exact keyed e old
        case isFalse =>
          cases step
          exact keyed

end

/-- It holds of the groups of every message of a loaded dictionary. -/
lemma DataDictionary.parse_groups {P : Tag → GroupDef → Prop}
    (holds : ∀ {tagsByName components fuel children counter} {c : Node} {g order g'},
      (collectGroup tagsByName components fuel children (.start counter, [])).run = some (.ok (g, order)) →
      (delimited c g order).run = some (.ok g') → P counter g') {fuel fix dd}
    (loaded : (DataDictionary.parse fuel fix).run = some (.ok dd)) :
    ∀ e ∈ dd.messages, ∀ g ∈ e.2.groups, P g.1 g.2 := by
  simp only [DataDictionary.parse] at loaded
  obtain ⟨fields, -, loaded⟩ := Loading.of_bind loaded
  obtain ⟨header, -, loaded⟩ := Loading.of_bind loaded
  obtain ⟨trailer, -, loaded⟩ := Loading.of_bind loaded
  obtain ⟨messages, collected, loaded⟩ := Loading.of_bind loaded
  cases loaded
  intro e mem
  have made := mem_foldl_insertEntry mem
  obtain ⟨m, -, made⟩ := Loading.mem_of_mapM collected (made.resolve_right (List.not_mem_nil))
  rw [DataDictionary.messageDef] at made
  split at made
  case h_1 => cases made
  case h_2 =>
    obtain ⟨d, collected, made⟩ := Loading.of_bind made
    cases made
    exact collect_groups holds collected fun e mem => by cases mem

/-- The groups of every message of a loaded dictionary are kept under their counters. -/
lemma DataDictionary.parse_keyed {fuel fix dd}
    (loaded : (DataDictionary.parse fuel fix).run = some (.ok dd)) :
    ∀ e ∈ dd.messages, Keyed e.2.groups :=
  parse_groups (P := fun c g => g.counter = c) (fun collected delimiter =>
    (delimited_counter delimiter).trans (collectGroup_counter collected)) loaded

/-- Their delimiters are among their members. -/
lemma DataDictionary.parse_delimiters {fuel fix dd}
    (loaded : (DataDictionary.parse fuel fix).run = some (.ok dd)) :
    ∀ e ∈ dd.messages, ∀ g ∈ e.2.groups, g.2.delimiter ∈ g.2.tags :=
  parse_groups (P := fun _ g => g.delimiter ∈ g.tags) delimiter_mem loaded

/-! ## Checks -/

namespace DataDictionary

/-- A ready-made template for reading a top-level repeating group of a message type. -/
def groupTemplate (dd : DataDictionary) (msgType : Bytes) (counter : Tag) : Option GroupTemplate :=
  match dd.messages.lookup msgType with
  | none => none
  | some d =>
    match d.groups.lookup counter with
    | none => none
    | some g => some {
        numTag := counter
        memberTags := g.delimiter :: g.tags.filter (· ≠ g.delimiter)
        nonempty := by simp }

/-- A check of a list that succeeds succeeds at each element. -/
lemma checkAll_ok {α : Type} {check : α → Except RejectError Unit} {xs : List α}
    (h : checkAll check xs = .ok ()) : ∀ x ∈ xs, check x = .ok () := by
  induction xs with
  | nil => simp
  | cons x xs ih =>
    rw [checkAll] at h
    cases here : check x with
    | error e =>
      rw [here] at h
      cases h
    | ok =>
      rw [here] at h
      exact List.forall_mem_cons.mpr ⟨here, ih h⟩

/-- Checks in turn. -/
lemma of_seq {x y : Except RejectError Unit} (h : (do x; y) = .ok ()) : x = .ok () ∧ y = .ok () := by
  cases x with
  | error e => cases h
  | ok => exact ⟨rfl, h⟩

/-- A guard that let through. -/
lemma of_ite_error {c : Prop} [Decidable c] {e : RejectError} {x : Except RejectError Unit}
    (h : (if c then .error e else x) = .ok ()) : x = .ok () := by
  split at h
  case isTrue => cases h
  case isFalse => exact h

/-- After each counter of a group that is not empty comes its delimiter, or no member. -/
lemma checkDelimiters_ok {d : MessageDef} {body : FieldMap} {fs : List TagValue}
    (h : checkDelimiters d body fs = .ok ()) {f first : TagValue} {before after : List TagValue}
    (split : fs = before ++ f :: first :: after) {g n} (found : d.groups.lookup f.tag = some g)
    (declared : body.getOpt decodeU64 g.counter = .ok (some n)) (some : n ≠ 0)
    (member : first.tag ∈ g.tags) : first.tag = g.delimiter := by
  induction before generalizing fs with
  | nil =>
    cases split
    rw [List.nil_append, checkDelimiters.eq_def] at h
    simp only [found, declared] at h
    split at h
    case isTrue => cases h
    case isFalse fine =>
      by_contra other
      exact fine ⟨some, member, other⟩
  | cons f' before ih =>
    cases split
    rw [List.cons_append, checkDelimiters.eq_def] at h
    have later : checkDelimiters d body (before ++ f :: first :: after) = .ok () := by
      cases found' : d.groups.lookup f'.tag with
      | none =>
        simp only [found'] at h
        exact h
      | some g' =>
        simp only [found'] at h
        split at h
        case h_1 => exact of_ite_error h
        case h_2 none => simp at none
    exact ih later rfl

/-- A counter that is there counts the delimiters of the body. -/
lemma checkGroupCount_ok {body : FieldMap} {g : GroupDef} (h : checkGroupCount body g = .ok ())
    (present : body.contains g.counter = true) :
    body.get decodeU64 g.counter = .ok (body.fields.countP (·.tag = g.delimiter)) := by
  rw [checkGroupCount] at h
  split at h
  case h_1 none =>
    rw [FieldMap.getRaw, Option.map_eq_none_iff, List.find?_eq_none] at none
    obtain ⟨f, mem, same⟩ := List.any_eq_true.mp present
    exact absurd same (none f mem)
  case h_2 raw found =>
    rw [FieldMap.get, found]
    simp only [decodeU64]
    split at h
    case h_1 => cases h
    case h_2 declared parsed =>
      split at h
      case isTrue => cases h
      case isFalse same => rw [parsed, not_not.mp same]

variable [Chrono]

/-- A field of the body that passes its check is defined for the message, or user-defined. -/
lemma checkField_ok {dd : DataDictionary} {f : TagValue} {d : MessageDef}
    (h : dd.checkField f true d {} = .ok ()) : f.tag ∈ d.tags ∨ userDefinedTagMin ≤ f.tag := by
  by_contra neither
  rw [not_or] at neither
  obtain ⟨undefined, low⟩ := neither
  have standard : f.tag < userDefinedTagMin := not_le.mp low
  rw [checkField] at h
  simp only [Bool.not_true, Bool.false_eq_true, and_false, if_false, true_and, Bool.not_false,
    undefined, not_false_eq_true, standard, and_self, if_true] at h
  split at h
  · cases h
  · split at h
    · cases h
    · cases h

/-- The checks that a message passed. -/
structure Checked (dd : DataDictionary) (m : Message) (d : MessageDef) : Prop where
  delimiters : checkDelimiters d m.body m.body.fields = .ok ()
  counts : ∀ e ∈ d.groups, checkGroupCount m.body e.2 = .ok ()
  fields : ∀ f ∈ m.body.fields, dd.checkField f true d {} = .ok ()

/-- A message of a known type that is valid passed them. -/
lemma validate_ok {dd : DataDictionary} {m : Message} {mt} (type : m.msgType = .ok mt)
    (notXml : mt ≠ MsgType.xmlNonFix) (valid : dd.validate m {} = .ok ()) :
    ∃ d, dd.messages.lookup mt = some d ∧ dd.Checked m d := by
  rw [validate, type] at valid
  simp only [if_neg notXml] at valid
  cases known : dd.messages.lookup mt with
  | none =>
    rw [known] at valid
    simp only at valid
    split at valid <;> cases valid
  | some d =>
    rw [known] at valid
    simp only at valid
    split at valid
    case h_1 => cases valid
    case h_2 =>
      obtain ⟨delimiters, valid⟩ := of_seq valid
      obtain ⟨-, valid⟩ := of_seq valid
      obtain ⟨-, valid⟩ := of_seq valid
      obtain ⟨-, valid⟩ := of_seq valid
      obtain ⟨-, valid⟩ := of_seq valid
      obtain ⟨counts, valid⟩ := of_seq valid
      obtain ⟨-, valid⟩ := of_seq valid
      obtain ⟨fields, -⟩ := of_seq valid
      refine ⟨d, rfl, delimiters, ?_, checkAll_ok fields⟩
      intro e mem
      exact checkAll_ok counts e.2 (List.mem_map_of_mem mem)

/-- What is true of a group of a valid message. The counter counts the delimiters of the body; as many
instances can be read exactly when all of them directly follow the counter among members. -/
structure GroupValid (m : Message) (t : GroupTemplate) (n : Nat) : Prop where
  declared : m.body.get decodeU64 t.numTag = .ok n
  delimiters : t.delimiters m.body.fields = n
  readable : (∃ gs, m.body.readGroups t = .ok gs) ↔ t.delimiters (t.run m.body.fields) = n
  instances : ∀ gs, m.body.readGroups t = .ok gs → gs.length = n ∧ (∀ g ∈ gs, t.Instance g) ∧
    (gs = [] ∨ gs.flatMap FieldMap.fields = t.run m.body.fields)

/-- So it is when the group was checked. -/
lemma groupValid_of_checked {dd : DataDictionary} {m : Message} {d : MessageDef} (checked : dd.Checked m d)
    {g c} (found : d.groups.lookup c = some g) (counter : g.counter = c)
    (present : m.body.contains c = true) {t : GroupTemplate} (num : t.numTag = c)
    (tags : t.memberTags = g.delimiter :: g.tags.filter (· ≠ g.delimiter)) :
    ∃ n, GroupValid m t n := by
  have delimiter : t.delimiter = g.delimiter := by simp only [GroupTemplate.delimiter, tags, List.head_cons]
  have declared : m.body.get decodeU64 t.numTag = .ok (t.delimiters m.body.fields) := by
    have mem : (c, g) ∈ d.groups := by
      obtain ⟨l, r, entries, -⟩ := List.lookup_eq_some_iff.mp found
      rw [entries]
      simp
    have counted := checkGroupCount_ok (checked.counts (c, g) mem) (by rw [counter]; exact present)
    rw [counter, ← num] at counted
    rw [counted, GroupTemplate.delimiters, delimiter]
  have starts : t.delimiters m.body.fields ≠ 0 → ∀ f fs,
      (m.body.fields.dropWhile (·.tag ≠ t.numTag)).tail = f :: fs → t.isMember f.tag = true →
        f.tag = t.delimiter := by
    intro many first fs after member
    obtain ⟨f, rest, here⟩ := FieldMap.dropWhile_of_get declared
    rw [here, List.tail_cons] at after
    have tag : f.tag = c := by
      have last := List.head?_dropWhile_not (fun f : TagValue => decide (f.tag ≠ t.numTag)) m.body.fields
      rw [here] at last
      rw [← num]
      simpa using last
    have split : m.body.fields =
        m.body.fields.takeWhile (·.tag ≠ t.numTag) ++ f :: first :: fs := by
      rw [← after, ← here, List.takeWhile_append_dropWhile]
    have counted : m.body.getOpt decodeU64 g.counter = .ok (some (t.delimiters m.body.fields)) := by
      rw [counter, ← num]
      exact FieldMap.getOpt_of_get declared
    rw [delimiter]
    rw [GroupTemplate.isMember, tags, List.contains_iff_mem, List.mem_cons, List.mem_filter] at member
    rcases member with same | ⟨inTags, -⟩
    · exact same
    · exact checkDelimiters_ok checked.delimiters split (tag ▸ found) counted many inTags
  refine ⟨t.delimiters m.body.fields, declared, rfl, FieldMap.readGroups_ok declared starts rfl, ?_⟩
  exact fun gs read => FieldMap.readGroups_run declared read

/-- The groups of a valid message. -/
theorem validate_groups {fuel fix} {dd : DataDictionary} {m : Message} {mt}
    (loaded : (parse fuel fix).run = some (.ok dd)) (type : m.msgType = .ok mt)
    (notXml : mt ≠ MsgType.xmlNonFix) (valid : dd.validate m {} = .ok ()) :
    (∀ c t, m.body.contains c = true → dd.groupTemplate mt c = some t → ∃ n, GroupValid m t n) ∧
      ∃ d, dd.messages.lookup mt = some d ∧
        ∀ f ∈ m.body.fields, f.tag ∈ d.tags ∨ userDefinedTagMin ≤ f.tag := by
  obtain ⟨d, known, checked⟩ := validate_ok type notXml valid
  refine ⟨?_, d, known, fun f mem => checkField_ok (checked.fields f mem)⟩
  intro c t present template
  rw [groupTemplate, known] at template
  simp only at template
  cases found : d.groups.lookup c with
  | none =>
    rw [found] at template
    cases template
  | some g =>
    rw [found] at template
    cases template
    obtain ⟨l, r, entries, -⟩ := List.lookup_eq_some_iff.mp known
    have keyed : Keyed d.groups := parse_keyed loaded (mt, d) (by rw [entries]; simp)
    exact groupValid_of_checked checked found (keyed.lookup found) present rfl rfl

end DataDictionary

/-! ## A document -/

/-- An element with text attributes. -/
def element (name : String) (attrs : List (String × String)) (children : List Node) : Node :=
  .mk (ascii name) (attrs.map fun a => (ascii a.1, ascii a.2)) children

/-- A message with parties, each with an identifier, its source and further identifiers. -/
def partiesDocument : Node :=
  element "fix" [("major", "4"), ("minor", "4")] [
    element "fields" [] [
      element "field" [("number", "35"), ("name", "MsgType"), ("type", "STRING")] [],
      element "field" [("number", "55"), ("name", "Symbol"), ("type", "STRING")] [],
      element "field" [("number", "453"), ("name", "NoPartyIDs"), ("type", "NUMINGROUP")] [],
      element "field" [("number", "448"), ("name", "PartyID"), ("type", "STRING")] [],
      element "field" [("number", "447"), ("name", "PartyIDSource"), ("type", "CHAR")] [],
      element "field" [("number", "802"), ("name", "NoPartySubIDs"), ("type", "NUMINGROUP")] [],
      element "field" [("number", "523"), ("name", "PartySubID"), ("type", "STRING")] []],
    element "components" [] [
      element "component" [("name", "Parties")] [
        element "group" [("name", "NoPartyIDs"), ("required", "N")] [
          element "field" [("name", "PartyID"), ("required", "N")] [],
          element "field" [("name", "PartyIDSource"), ("required", "Y")] [],
          element "group" [("name", "NoPartySubIDs"), ("required", "N")] [
            element "field" [("name", "PartySubID"), ("required", "N")] []]]]],
    element "messages" [] [
      element "message" [("name", "NewOrderSingle"), ("msgtype", "D")] [
        element "field" [("name", "Symbol"), ("required", "N")] [],
        element "component" [("name", "Parties"), ("required", "N")] []]]]

/-- The dictionary of the document. -/
def partiesDictionary : DataDictionary :=
  match (DataDictionary.parse 5 partiesDocument).run with
  | some (.ok dd) => dd
  | _ => ⟨[], [], [], [], [], [], []⟩

example : partiesDictionary.messages.map (·.2.groups.map (·.1)) = [[453]] := by decide +kernel

/-- An order with a body. -/
def orderOf (body : List (Tag × String)) : Message where
  header := ⟨[⟨35, ascii "D"⟩]⟩
  body := ⟨body.map fun f => ⟨f.1, ascii f.2⟩⟩

/-- No dates are read. -/
@[reducible] def undated : Chrono where
  parseFromStr _ _ := none
  format _ _ := []
  isDate _ := false
  localOffset _ := 0

/-- The parties and their further identifiers. -/
def partiesTemplate : GroupTemplate := ⟨453, [448, 447, 802, 523], by decide⟩

/-- The group of party sub-identifiers. -/
def subIdsTemplate : GroupTemplate := ⟨802, [523], by decide⟩

/-- Whether loading came to a dictionary. -/
def isLoaded (l : Loading DataDictionary) : Bool :=
  match l.run with
  | some (.ok _) => true
  | _ => false

/-- When a dictionary was loaded. -/
lemma isLoaded_iff {l : Loading DataDictionary} : isLoaded l = true ↔ ∃ dd, l.run = some (.ok dd) := by
  unfold isLoaded
  split
  case h_1 dd run => simp [run]
  case h_2 other => simpa using other

/-- The document is loaded. -/
lemma loaded_parties : (DataDictionary.parse 5 partiesDocument).run = some (.ok partiesDictionary) := by
  have loaded : isLoaded (DataDictionary.parse 5 partiesDocument) = true := by decide +kernel
  obtain ⟨dd, run⟩ := isLoaded_iff.mp loaded
  unfold partiesDictionary
  simp only [run]

/-- The groups of an order with one party. -/
theorem validate_groups_parties :
    letI := undated
    let m := orderOf [(453, "1"), (448, "A"), (447, "D"), (55, "X")]
    (∀ c t, m.body.contains c = true → partiesDictionary.groupTemplate (ascii "D") c = some t →
        ∃ n, DataDictionary.GroupValid m t n) ∧
      ∃ d, partiesDictionary.messages.lookup (ascii "D") = some d ∧
        ∀ f ∈ m.body.fields, f.tag ∈ d.tags ∨ userDefinedTagMin ≤ f.tag :=
  let := undated
  have valid : partiesDictionary.validate (orderOf [(453, "1"), (448, "A"), (447, "D"), (55, "X")]) {} =
      .ok () := by decide +kernel
  DataDictionary.validate_groups loaded_parties rfl (by decide) valid

/-- Valid orders whose groups are not well formed: the instance does not follow the counter; it lacks a
required member; a member lies outside of it; the group in it has not as many instances as declared. -/
theorem valid_malformed :
    letI := undated
    let valid (m : Message) := partiesDictionary.validate m {}
    let scattered := orderOf [(453, "1"), (55, "X"), (448, "A")]
    let incomplete := orderOf [(453, "1"), (448, "A")]
    let stray := orderOf [(453, "1"), (448, "A"), (447, "D"), (55, "X"), (447, "E")]
    let nested := orderOf [(453, "1"), (448, "A"), (447, "D"), (802, "2"), (523, "S")]
    ((DataDictionary.parse 5 partiesDocument).run = some (.ok partiesDictionary) ∧
      (partiesDictionary.groupTemplate (ascii "D") 453).map (·.memberTags) =
        some partiesTemplate.memberTags) ∧
      (valid scattered = .ok () ∧
        scattered.body.readGroups partiesTemplate = .error (.invalidValue 453 (ascii "1"))) ∧
      (valid incomplete = .ok () ∧
        incomplete.body.readGroups partiesTemplate = .ok [⟨[⟨448, ascii "A"⟩]⟩]) ∧
      (valid stray = .ok () ∧
        stray.body.readGroups partiesTemplate = .ok [⟨[⟨448, ascii "A"⟩, ⟨447, ascii "D"⟩]⟩]) ∧
      valid nested = .ok () ∧
        ∃ g, nested.body.readGroups partiesTemplate = .ok [g] ∧
          g.readGroups subIdsTemplate = .error (.invalidValue 802 (ascii "2")) := by
  let := undated
  refine ⟨⟨loaded_parties, by decide +kernel⟩, ⟨by decide +kernel, by decide +kernel⟩,
    ⟨by decide +kernel, by decide +kernel⟩, ⟨by decide +kernel, by decide +kernel⟩, by decide +kernel,
    ⟨[⟨448, ascii "A"⟩, ⟨447, ascii "D"⟩, ⟨802, ascii "2"⟩, ⟨523, ascii "S"⟩]⟩, by decide +kernel,
    by decide +kernel⟩

end QuickFix
