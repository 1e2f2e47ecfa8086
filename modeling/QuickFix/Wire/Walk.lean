import QuickFix.Wire.GroupCheck

/-!
# Walks through a dictionary document

Collecting the fields of a message or a group walks through a list of children, one after another. What
one child adds when that succeeds is given by `GroupChild` and `MessageChild`, with one case for each
kind of child.
-/

namespace QuickFix

/-! ## Parts of a document -/

namespace Node

/-- The name a child refers to. -/
def reference (c : Node) : Bytes := (c.attr "name").getD []

/-- The children with one name of the part with another. -/
def definitions (fix : Node) (name child : String) : List Node :=
  match fix.child name with
  | some n => n.childrenNamed child
  | none => []

/-- The tags the document gives to names. -/
def tagsByName (fix : Node) : List (Bytes × Tag) :=
  (fix.definitions "fields" "field").foldl
    (fun m f => match (f.attr "number").bind (parseSigned 32) with
      | some tag => insertEntry f.reference tag m
      | none => m) []

/-- The components of the document. -/
def components (fix : Node) : List (Bytes × Node) :=
  (fix.definitions "components" "component").foldl
    (fun m c => match c.attr "name" with
      | some name => insertEntry name c m
      | none => m) []

end Node

/-- A name that is resolved is known. -/
lemma resolve_ok {α : Type} {kind : String} {names : List (Bytes × α)} {c : Node} {a : α}
    (h : (resolve kind names c).run = some (.ok a)) : names.lookup c.reference = some a := by
  dsimp only [resolve] at h
  rw [Node.reference]
  split at h
  case h_1 found =>
    cases h
    exact found
  case h_2 => cases h

section

variable (tagsByName : List (Bytes × Tag)) (components : List (Bytes × Node))

/-- What one child adds to a group. -/
inductive GroupChild (fuel : Nat) (s : GroupDef × List Tag) (c : Node) : GroupDef × List Tag → Prop
  | field {tag} : c.name = ascii "field" → tagsByName.lookup c.reference = some tag →
      GroupChild fuel s c ({ s.1 with
        tags := insertTag s.1.tags tag
        required := if c.isRequired then s.1.required ++ [tag] else s.1.required }, s.2 ++ [tag])
  | component {d s'} : c.name = ascii "component" → components.lookup c.reference = some d →
      (collectGroup tagsByName components fuel d.children s).run = some (.ok s') →
      GroupChild fuel s c s'
  | group {counter g delimiter rest} : c.name = ascii "group" →
      tagsByName.lookup c.reference = some counter →
      (collectGroup tagsByName components fuel c.children (.start counter, [])).run =
        some (.ok (g, delimiter :: rest)) →
      GroupChild fuel s c ({ s.1 with
        tags := extendTags (insertTag s.1.tags counter) g.tags
        required := if c.isRequired then s.1.required ++ [counter] else s.1.required
        groups := insertEntry counter
          { g with delimiter := delimiter, memberOrder := delimiter :: rest } s.1.groups },
        s.2 ++ [counter])
  | other : c.name ≠ ascii "field" → c.name ≠ ascii "component" → c.name ≠ ascii "group" →
      GroupChild fuel s c s

/-- What one child adds to a message. -/
inductive MessageChild (fuel : Nat) (d : MessageDef) (c : Node) : MessageDef → Prop
  | field {tag} : c.name = ascii "field" → tagsByName.lookup c.reference = some tag →
      MessageChild fuel d c (addField d tag c.isRequired)
  | component {n e} : c.name = ascii "component" → components.lookup c.reference = some n →
      (collect tagsByName components fuel n.children { d with required := [] }).run = some (.ok e) →
      MessageChild fuel d c
        { e with required := if c.isRequired then d.required ++ e.required else d.required }
  | group {counter g delimiter rest} : c.name = ascii "group" →
      tagsByName.lookup c.reference = some counter →
      (collectGroup tagsByName components fuel c.children (.start counter, [])).run =
        some (.ok (g, delimiter :: rest)) →
      MessageChild fuel d c { addField d counter c.isRequired with
        tags := extendTags (addField d counter c.isRequired).tags g.tags
        groups := insertEntry counter
          { g with delimiter := delimiter, memberOrder := delimiter :: rest }
          (addField d counter c.isRequired).groups }
  | other : MessageChild fuel d c d

variable {tagsByName components} {fuel : Nat} {c : Node} {cs : List Node}

/-- One child after another. -/
lemma collectGroup_cons {s} : collectGroup tagsByName components (fuel + 1) (c :: cs) s = (do
    let s ← collectGroup tagsByName components (fuel + 1) [c] s
    collectGroup tagsByName components (fuel + 1) cs s) := by
  simp only [collectGroup, List.foldlM_cons, List.foldlM_nil, bind_pure]

/-- The first child is collected first. -/
lemma collect_cons {d} : collect tagsByName components (fuel + 1) (c :: cs) d = (do
    let d ← collect tagsByName components (fuel + 1) [c] d
    collect tagsByName components (fuel + 1) cs d) := by
  simp only [collect, List.foldlM_cons, List.foldlM_nil, bind_pure]

/-- A group that is delimited has a member. -/
lemma delimited_ok {g g' : GroupDef} {order} (h : (delimited c g order).run = some (.ok g')) :
    ∃ delimiter rest, order = delimiter :: rest ∧
      g' = { g with delimiter := delimiter, memberOrder := delimiter :: rest } := by
  cases order with
  | nil => cases h
  | cons delimiter rest =>
    cases h
    exact ⟨delimiter, rest, rfl, rfl⟩

/-- What a child adds to a group. -/
lemma collectGroup_child {s s'}
    (h : (collectGroup tagsByName components (fuel + 1) [c] s).run = some (.ok s')) :
    GroupChild tagsByName components fuel s c s' := by
  simp only [collectGroup, List.foldlM_cons, List.foldlM_nil, bind_pure] at h
  split at h
  case isTrue name =>
    obtain ⟨tag, known, h⟩ := Loading.of_bind h
    cases h
    exact .field name (resolve_ok known)
  case isFalse noField =>
    split at h
    case isTrue name =>
      obtain ⟨d, known, h⟩ := Loading.of_bind h
      exact .component name (resolve_ok known) h
    case isFalse noComponent =>
      split at h
      case isTrue name =>
        obtain ⟨counter, known, h⟩ := Loading.of_bind h
        obtain ⟨⟨g, order⟩, walk, h⟩ := Loading.of_bind h
        obtain ⟨g', first, h⟩ := Loading.of_bind h
        obtain ⟨delimiter, rest, rfl, rfl⟩ := delimited_ok first
        cases h
        exact .group (g := g) name (resolve_ok known) walk
      case isFalse noGroup =>
        cases h
        exact .other noField noComponent noGroup

/-- What a child adds to a message. -/
lemma collect_child {d d'}
    (h : (collect tagsByName components (fuel + 1) [c] d).run = some (.ok d')) :
    MessageChild tagsByName components fuel d c d' := by
  simp only [collect, List.foldlM_cons, List.foldlM_nil, bind_pure] at h
  split at h
  case isTrue name =>
    obtain ⟨tag, known, h⟩ := Loading.of_bind h
    cases h
    exact .field name (resolve_ok known)
  case isFalse =>
    split at h
    case isTrue name =>
      obtain ⟨n, known, h⟩ := Loading.of_bind h
      obtain ⟨e, walk, h⟩ := Loading.of_bind h
      cases h
      exact .component name (resolve_ok known) walk
    case isFalse =>
      split at h
      case isTrue name =>
        obtain ⟨counter, known, h⟩ := Loading.of_bind h
        obtain ⟨⟨g, order⟩, walk, h⟩ := Loading.of_bind h
        obtain ⟨g', first, h⟩ := Loading.of_bind h
        obtain ⟨delimiter, rest, rfl, rfl⟩ := delimited_ok first
        cases h
        exact .group (g := g) name (resolve_ok known) walk
      case isFalse =>
        cases h
        exact .other

/-- What every child of a group keeps, the whole walk keeps. -/
lemma collectGroup_keeps {P : GroupDef × List Tag → Prop} (keeps : ∀ {fuel s c s'},
    GroupChild tagsByName components fuel s c s' → (∀ {ns s s'}, (collectGroup tagsByName components
      fuel ns s).run = some (.ok s') → P s → P s') → P s → P s') {fuel ns s s'}
    (h : (collectGroup tagsByName components fuel ns s).run = some (.ok s')) (start : P s) : P s' := by
  induction fuel generalizing ns s s' with
  | zero => cases h
  | succ fuel ih =>
    induction ns generalizing s with
    | nil =>
      cases h
      exact start
    | cons c cs later =>
      rw [collectGroup_cons] at h
      obtain ⟨s1, first, h⟩ := Loading.of_bind h
      exact later h (keeps (collectGroup_child first) ih start)

end

/-! ## Dictionaries -/

namespace DataDictionary

/-- The names of the fields that were read are those of the document. -/
lemma tagsByName_eq {charIsString : Bool} {ns : List Node} {fields : List (Bytes × FieldDef)}
    (read : (ns.mapM (m := Loading) fun f => do
      return ((f.attr "name").getD [], ← fieldDef charIsString f)).run = some (.ok fields))
    (m : List (Bytes × Tag)) : fields.foldl (fun m f => insertEntry f.1 f.2.tag m) m =
      ns.foldl (fun m f => match (f.attr "number").bind (parseSigned 32) with
        | some tag => insertEntry f.reference tag m
        | none => m) m := by
  induction ns generalizing fields m with
  | nil =>
    cases read
    rfl
  | cons n ns ih =>
    rw [List.mapM_cons] at read
    obtain ⟨f, here, read⟩ := Loading.of_bind read
    obtain ⟨fs, later, read⟩ := Loading.of_bind read
    cases read
    obtain ⟨d, defined, kept⟩ := Loading.of_bind here
    cases kept
    rw [List.foldl_cons, List.foldl_cons, ih later]
    unfold fieldDef at defined
    split at defined
    case h_1 => cases defined
    case h_2 tag number =>
      cases defined
      rw [number]
      rfl

/-- A message of a loaded dictionary was collected from one of the document. -/
lemma parse_message {fuel fix dd} (loaded : (DataDictionary.parse fuel fix).run = some (.ok dd)) {e}
    (mem : e ∈ dd.messages) : ∃ m ∈ fix.definitions "messages" "message",
      m.attr "msgtype" = some e.1 ∧
        (collect fix.tagsByName fix.components fuel m.children {}).run = some (.ok e.2) := by
  simp only [DataDictionary.parse] at loaded
  obtain ⟨fields, read, loaded⟩ := Loading.of_bind loaded
  obtain ⟨header, -, loaded⟩ := Loading.of_bind loaded
  obtain ⟨trailer, -, loaded⟩ := Loading.of_bind loaded
  obtain ⟨messages, collected, loaded⟩ := Loading.of_bind loaded
  cases loaded
  have made := mem_foldl_insertEntry mem
  obtain ⟨m, here, made⟩ := Loading.mem_of_mapM collected (made.resolve_right (List.not_mem_nil))
  rw [DataDictionary.messageDef] at made
  split at made
  case h_1 => cases made
  case h_2 msgType type =>
    obtain ⟨d, run, made⟩ := Loading.of_bind made
    cases made
    rw [tagsByName_eq read] at run
    exact ⟨m, here, type, run⟩

end DataDictionary

end QuickFix
