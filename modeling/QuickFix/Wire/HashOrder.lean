import QuickFix.Wire.GroupCheck

/-!
# Validation and the order of a hash map

The groups of a message are met in the order of a hash map, which is another in every run. All but one of
the checks look groups up or look at all of them; the counts are checked one after another, and the first
that is wrong is reported. The answer depends on the order exactly when the counts of two groups are wrong
(`validate_orderless`).
-/

namespace QuickFix

namespace DataDictionary

/-- The dictionary with a definition for a message type. -/
def defining (dd : DataDictionary) (mt : Bytes) (d : MessageDef) : DataDictionary :=
  { dd with messages := (mt, d) :: dd.messages }

/-- The checks of a message before the counts of its groups. -/
def checksBefore (dd : DataDictionary) (d : MessageDef) (m : Message) : Except RejectError Unit := do
  checkDelimiters d m.body m.body.fields
  checkRequired dd.headerRequired m.header
  checkRequired dd.trailerRequired m.trailer
  checkRequired d.required m.body
  checkDuplicates (d.groups.flatMap (·.2.tags)) [] m.body.fields

/-- A counter that is there is no number, or not that of the delimiters. -/
def Miscounted (body : FieldMap) (g : GroupDef) : Prop :=
  ∃ raw, body.getRaw g.counter = some raw ∧
    parseUnsigned (2 ^ 64) raw ≠ some (body.fields.countP (·.tag = g.delimiter))

/-! ## Checks of a list -/

section

variable {α : Type} {check : α → Except RejectError Unit} {xs ys : List α}

/-- The first error of a list of checks is that of an element. -/
lemma checkAll_error {r} (h : checkAll check xs = .error r) : ∃ x ∈ xs, check x = .error r := by
  induction xs with
  | nil => cases h
  | cons x xs ih =>
    rw [checkAll] at h
    cases here : check x with
    | error e =>
      rw [here] at h
      cases h
      exact ⟨x, List.mem_cons_self, here⟩
    | ok =>
      rw [here] at h
      obtain ⟨x', mem, error⟩ := ih h
      exact ⟨x', List.mem_cons_of_mem _ mem, error⟩

/-- Checks that can fail in one way only may be made in any order. -/
lemma checkAll_perm (perm : xs.Perm ys) (one : ∀ x ∈ xs, ∀ y ∈ xs, ∀ r r', check x = .error r →
    check y = .error r' → r = r') : checkAll check xs = checkAll check ys := by
  cases left : checkAll check xs with
  | ok =>
    cases right : checkAll check ys with
    | ok => rfl
    | error r =>
      obtain ⟨y, mem, error⟩ := checkAll_error right
      have ok := checkAll_ok left y (perm.mem_iff.mpr mem)
      rw [error] at ok
      cases ok
  | error r =>
    obtain ⟨x, mem, error⟩ := checkAll_error left
    cases right : checkAll check ys with
    | ok =>
      have ok := checkAll_ok right x (perm.mem_iff.mp mem)
      rw [error] at ok
      cases ok
    | error r' =>
      obtain ⟨y, mem', error'⟩ := checkAll_error right
      rw [one x mem y (perm.mem_iff.mpr mem') r r' error error']

end

/-! ## Lookups in any order -/

/-- What a map holds does not depend on its order. -/
lemma lookup_perm {gs gs' : List (Tag × GroupDef)} (perm : gs.Perm gs') (keys : (gs.map (·.1)).Nodup)
    (tag : Tag) : gs.lookup tag = gs'.lookup tag := by
  induction perm with
  | nil => rfl
  | cons e _ ih =>
    obtain ⟨key, g⟩ := e
    rw [List.lookup_cons, List.lookup_cons, ih (List.nodup_cons.mp keys).2]
  | swap e e' gs =>
    obtain ⟨key, g⟩ := e
    obtain ⟨key', g'⟩ := e'
    have other : key' ≠ key := by
      intro same
      simp [same] at keys
    by_cases first : tag = key'
    · have not : (tag == key) = false := beq_false_of_ne (first ▸ other)
      simp [List.lookup_cons, first, first ▸ not]
    · have not : (tag == key') = false := beq_false_of_ne first
      simp [List.lookup_cons, not]
  | trans perm _ ih ih' => exact (ih keys).trans (ih' ((perm.map _).nodup_iff.mp keys))

/-- Groups that are looked up the same give the same answer on delimiters. -/
lemma checkDelimiters_congr {d : MessageDef} {gs : List (Tag × GroupDef)}
    (same : ∀ tag, gs.lookup tag = d.groups.lookup tag) (body : FieldMap) (fs : List TagValue) :
    checkDelimiters { d with groups := gs } body fs = checkDelimiters d body fs := by
  induction fs with
  | nil => rfl
  | cons f fs ih =>
    rw [checkDelimiters.eq_def, checkDelimiters.eq_def]
    simp only [same, ih]

/-- Members that are the same give the same answer on duplicates. -/
lemma checkDuplicates_congr {tags tags' : List Tag} (same : ∀ tag, tag ∈ tags ↔ tag ∈ tags')
    (seen : List Tag) (fs : List TagValue) :
    checkDuplicates tags seen fs = checkDuplicates tags' seen fs := by
  induction fs generalizing seen with
  | nil => rfl
  | cons f fs ih =>
    simp only [checkDuplicates, same, ih]

/-- The checks before the counts do not depend on the order of the groups. -/
lemma checksBefore_perm (dd : DataDictionary) {d : MessageDef} {gs : List (Tag × GroupDef)}
    (perm : gs.Perm d.groups) (keys : (d.groups.map (·.1)).Nodup) (m : Message) :
    dd.checksBefore { d with groups := gs } m = dd.checksBefore d m := by
  have looked (tag) : gs.lookup tag = d.groups.lookup tag := (lookup_perm perm.symm keys tag).symm
  have members (tag) : tag ∈ gs.flatMap (·.2.tags) ↔ tag ∈ d.groups.flatMap (·.2.tags) :=
    (perm.flatMap_right _).mem_iff
  simp only [checksBefore, checkDelimiters_congr looked, checkDuplicates_congr members]

/-! ## Counts -/

/-- A group that is miscounted is reported with its counter. -/
lemma checkGroupCount_error {body : FieldMap} {g : GroupDef} (h : Miscounted body g) :
    ∃ reason, checkGroupCount body g = .error (.withTag reason g.counter) := by
  obtain ⟨raw, found, wrong⟩ := h
  rw [checkGroupCount, found]
  simp only
  cases parsed : parseUnsigned (2 ^ 64) raw with
  | none => exact ⟨_, rfl⟩
  | some declared =>
    have other : declared ≠ body.fields.countP (·.tag = g.delimiter) := by
      rintro rfl
      exact wrong parsed
    exact ⟨_, if_pos other⟩

/-- Only those are reported. -/
lemma miscounted_of_error {body : FieldMap} {g : GroupDef} {r} (h : checkGroupCount body g = .error r) :
    Miscounted body g := by
  rw [checkGroupCount] at h
  split at h
  case h_1 => cases h
  case h_2 raw found =>
    refine ⟨raw, found, fun parsed => ?_⟩
    rw [parsed] at h
    simp at h

/-- Groups with one counter are reported alike. -/
lemma checkGroupCount_congr {body : FieldMap} {g g' : GroupDef} {r r'} (same : g.counter = g'.counter)
    (h : checkGroupCount body g = .error r) (h' : checkGroupCount body g' = .error r') : r = r' := by
  rw [checkGroupCount, same] at h
  rw [checkGroupCount] at h'
  cases found : body.getRaw g'.counter with
  | none =>
    rw [found] at h
    cases h
  | some raw =>
    rw [found] at h h'
    simp only at h h'
    cases parsed : parseUnsigned (2 ^ 64) raw with
    | none =>
      rw [parsed] at h h'
      cases h
      cases h'
      rfl
    | some declared =>
      rw [parsed] at h h'
      simp only at h h'
      split at h
      case isFalse => cases h
      case isTrue =>
        split at h'
        case isFalse => cases h'
        case isTrue =>
          cases h
          cases h'
          rfl

/-! ## Two orders -/

variable [Chrono]

/-- The checks of the single fields. -/
def checksAfter (dd : DataDictionary) (d : MessageDef) (m : Message) (settings : ValidationSettings) :
    Except RejectError Unit := do
  checkAll (dd.checkField · false d settings) m.header.fields
  checkAll (dd.checkField · true d settings) m.body.fields
  checkAll (dd.checkField · false d settings) m.trailer.fields

/-- Validation as three parts. -/
lemma validate_defining {dd : DataDictionary} {mt} {d : MessageDef} {m : Message} {settings}
    (type : m.msgType = .ok mt) (notXml : mt ≠ MsgType.xmlNonFix)
    (ordered : ¬ (m.structureError.isSome ∧ settings.checkFieldsOutOfOrder = true)) :
    (dd.defining mt d).validate m settings = (do
      dd.checksBefore d m
      checkAll (checkGroupCount m.body) (d.groups.map (·.2))
      dd.checksAfter d m settings) := by
  have found : (dd.defining mt d).messages.lookup mt = some d := by simp [defining]
  rw [validate, type]
  simp only [if_neg notXml, found]
  split
  case h_1 tag error check => exact absurd ⟨by simp [error], check⟩ ordered
  case h_2 =>
    simp only [checksBefore, checksAfter, bind_assoc]
    rfl

/-- When the answer does not depend on the order: the message is not checked so far, or only groups of
one counter are miscounted. -/
def Orderless (dd : DataDictionary) (mt : Bytes) (d : MessageDef) (m : Message)
    (settings : ValidationSettings) : Prop :=
  mt = MsgType.xmlNonFix ∨ (m.structureError.isSome ∧ settings.checkFieldsOutOfOrder = true) ∨
    dd.checksBefore d m ≠ .ok () ∨
    ∀ e ∈ d.groups, ∀ e' ∈ d.groups, Miscounted m.body e.2 → Miscounted m.body e'.2 →
      e.2.counter = e'.2.counter

/-- A message that is refused for its structure is so whatever the definition. -/
lemma validate_disordered {dd : DataDictionary} {mt} {d : MessageDef} {m : Message}
    {settings : ValidationSettings} (type : m.msgType = .ok mt) (notXml : mt ≠ MsgType.xmlNonFix) {tag}
    (error : m.structureError = some tag) (check : settings.checkFieldsOutOfOrder = true) :
    (dd.defining mt d).validate m settings = .error (.withTag .tagSpecifiedOutOfRequiredOrder tag) := by
  have found : (dd.defining mt d).messages.lookup mt = some d := by simp [defining]
  rw [validate, type]
  simp only [if_neg notXml, found, error, check]

omit [Chrono] in
/-- With a miscounted group met first, it is reported. -/
lemma counts_first {body : FieldMap} {e : Tag × GroupDef} (gs) (wrong : Miscounted body e.2) :
    ∃ reason, checkAll (checkGroupCount body) ((e :: gs).map (·.2)) =
      .error (.withTag reason e.2.counter) := by
  obtain ⟨reason, error⟩ := checkGroupCount_error wrong
  refine ⟨reason, ?_⟩
  rw [List.map_cons, checkAll, error]
  rfl

/-- Validation gives one answer for every two orders of the groups exactly when it does not depend on the
order. -/
theorem validate_orderless {dd : DataDictionary} {mt} {d : MessageDef} {m : Message} {settings}
    (type : m.msgType = .ok mt) (keys : (d.groups.map (·.1)).Nodup) :
    (∀ gs gs', gs.Perm d.groups → gs'.Perm d.groups →
        (dd.defining mt { d with groups := gs }).validate m settings =
          (dd.defining mt { d with groups := gs' }).validate m settings) ↔
      dd.Orderless mt d m settings := by
  by_cases notXml : mt = MsgType.xmlNonFix
  · refine iff_of_true (fun gs gs' _ _ => ?_) (.inl notXml)
    rw [validate, validate, type]
    simp only [if_pos notXml]
  by_cases ordered : m.structureError.isSome ∧ settings.checkFieldsOutOfOrder = true
  · refine iff_of_true (fun gs gs' _ _ => ?_) (.inr (.inl ordered))
    obtain ⟨tag, error⟩ := Option.isSome_iff_exists.mp ordered.1
    rw [validate_disordered type notXml error ordered.2, validate_disordered type notXml error ordered.2]
  have parts (gs : List (Tag × GroupDef)) (perm : gs.Perm d.groups) :
      (dd.defining mt { d with groups := gs }).validate m settings = (do
        dd.checksBefore d m
        checkAll (checkGroupCount m.body) (gs.map (·.2))
        dd.checksAfter d m settings) := by
    rw [validate_defining type notXml ordered, checksBefore_perm dd perm keys]
    rfl
  rw [Orderless, or_iff_right notXml, or_iff_right ordered]
  cases before : dd.checksBefore d m with
  | error r =>
    refine iff_of_true (fun gs gs' perm perm' => ?_) (.inl fun ok => by cases ok)
    rw [parts gs perm, parts gs' perm', before]
    rfl
  | ok =>
    rw [or_iff_right (not_not.mpr rfl)]
    constructor
    case mp =>
      intro same e mem e' mem' wrong wrong'
      obtain ⟨l, r, split⟩ := List.append_of_mem mem
      obtain ⟨l', r', split'⟩ := List.append_of_mem mem'
      have perm : (e :: (l ++ r)).Perm d.groups := split ▸ List.perm_middle.symm
      have perm' : (e' :: (l' ++ r')).Perm d.groups := split' ▸ List.perm_middle.symm
      obtain ⟨reason, first⟩ := counts_first (l ++ r) wrong
      obtain ⟨reason', first'⟩ := counts_first (l' ++ r') wrong'
      have answers := same _ _ perm perm'
      rw [parts _ perm, parts _ perm', before, first, first'] at answers
      have rejects := Except.error.inj answers
      exact Option.some.inj (congrArg RejectError.refTag rejects)
    case mpr =>
      intro one gs gs' perm perm'
      have counts : checkAll (checkGroupCount m.body) (gs.map (·.2)) =
          checkAll (checkGroupCount m.body) (gs'.map (·.2)) := by
        refine checkAll_perm ((perm.trans perm'.symm).map _) ?_
        intro g mem g' mem' r r' error error'
        obtain ⟨e, here, rfl⟩ := List.mem_map.mp mem
        obtain ⟨e', here', rfl⟩ := List.mem_map.mp mem'
        have counter := one e (perm.mem_iff.mp here) e' (perm.mem_iff.mp here')
          (miscounted_of_error error) (miscounted_of_error error')
        exact checkGroupCount_congr counter error error'
      rw [parts gs perm, parts gs' perm', counts]

end DataDictionary

/-- A group of parties and a group of legs. -/
def partiesGroup : GroupDef := { GroupDef.start 453 with delimiter := 448, tags := [448] }

/-- The group of legs. -/
def legsGroup : GroupDef := { GroupDef.start 555 with delimiter := 600, tags := [600] }

/-- An order with both. -/
def legsOrder : MessageDef where
  tags := [453, 448, 555, 600]
  groups := [(453, partiesGroup), (555, legsGroup)]

/-- A dictionary of strings. -/
def plainDictionary : DataDictionary where
  beginString := ascii "FIX.4.4"
  fieldsByTag := [35, 453, 448, 555, 600].map fun tag => (tag, ⟨tag, .string, []⟩)
  headerTags := []
  headerRequired := []
  trailerTags := []
  trailerRequired := []
  messages := []

/-- With one wrong count the answer is the same in both orders. -/
theorem validate_orderless_parties :
    letI := undated
    (∀ gs gs', gs.Perm legsOrder.groups → gs'.Perm legsOrder.groups →
        (plainDictionary.defining (ascii "D") { legsOrder with groups := gs }).validate
            (orderOf [(453, "2"), (448, "A"), (555, "1"), (600, "B")]) {} =
          (plainDictionary.defining (ascii "D") { legsOrder with groups := gs' }).validate
            (orderOf [(453, "2"), (448, "A"), (555, "1"), (600, "B")]) {}) ↔
      plainDictionary.Orderless (ascii "D") legsOrder
        (orderOf [(453, "2"), (448, "A"), (555, "1"), (600, "B")]) {} :=
  let := undated
  DataDictionary.validate_orderless rfl (by decide)

/-- With two wrong counts the group that is met first is reported. -/
theorem validate_ordered :
    letI := undated
    let m := orderOf [(453, "2"), (448, "A"), (555, "3"), (600, "B")]
    (plainDictionary.defining (ascii "D") { legsOrder with
        groups := [(453, partiesGroup), (555, legsGroup)] }).validate m {} =
        .error (.withTag .incorrectNumInGroupCountForRepeatingGroup 453) ∧
      (plainDictionary.defining (ascii "D") { legsOrder with
        groups := [(555, legsGroup), (453, partiesGroup)] }).validate m {} =
        .error (.withTag .incorrectNumInGroupCountForRepeatingGroup 555) := by
  let := undated
  exact ⟨by decide +kernel, by decide +kernel⟩

end QuickFix
