import QuickFix.Wire.Walk

/-!
# Loaded definitions are closed

The tags of a message cover its order, what it requires and its groups; those of a group cover its
members, what it requires and the groups in it, at every depth. And a message requires only what its
document demands of it: fields and groups marked as required, and those of required components.
-/

namespace QuickFix

/-- A group whose tags cover its members and the groups in it, at every depth. -/
inductive GroupDef.Closed : GroupDef → Prop
  | intro {g} (delimiter : g.memberOrder.head? = some g.delimiter) (members : g.memberOrder ⊆ g.tags)
      (required : g.required ⊆ g.tags) (keyed : ∀ e ∈ g.groups, e.2.counter = e.1)
      (counters : ∀ e ∈ g.groups, e.2.counter ∈ g.tags) (tags : ∀ e ∈ g.groups, e.2.tags ⊆ g.tags)
      (groups : ∀ e ∈ g.groups, Closed e.2) : Closed g

/-- A message whose tags cover its order, what it requires and its groups. -/
structure MessageDef.Closed (d : MessageDef) : Prop where
  distinct : d.fieldOrder.Nodup
  order : d.fieldOrder ⊆ d.tags
  required : d.required ⊆ d.tags
  keyed : ∀ e ∈ d.groups, e.2.counter = e.1
  counters : ∀ e ∈ d.groups, e.1 ∈ d.tags
  tags : ∀ e ∈ d.groups, e.2.tags ⊆ d.tags
  groups : ∀ e ∈ d.groups, e.2.Closed

/-- What the children of a message demand: a field or a group that is marked as required, there or in a
component that is. -/
inductive Demands (tagsByName : List (Bytes × Tag)) (components : List (Bytes × Node)) :
    List Node → Tag → Prop
  | member {ns c tag} : c ∈ ns → c.name = ascii "field" ∨ c.name = ascii "group" →
      c.isRequired = true → tagsByName.lookup c.reference = some tag →
      Demands tagsByName components ns tag
  | component {ns c d tag} : c ∈ ns → c.name = ascii "component" → c.isRequired = true →
      components.lookup c.reference = some d → Demands tagsByName components d.children tag →
      Demands tagsByName components ns tag

/-! ## Groups -/

/-- A group and its members so far. -/
structure Collected (s : GroupDef × List Tag) : Prop where
  members : s.2 ⊆ s.1.tags
  required : s.1.required ⊆ s.1.tags
  keyed : ∀ e ∈ s.1.groups, e.2.counter = e.1
  counters : ∀ e ∈ s.1.groups, e.2.counter ∈ s.1.tags
  tags : ∀ e ∈ s.1.groups, e.2.tags ⊆ s.1.tags
  groups : ∀ e ∈ s.1.groups, e.2.Closed

/-- Nothing was collected at the start. -/
lemma Collected.start (counter : Tag) : Collected (.start counter, []) where
  members := by simp
  required := by simp [GroupDef.start]
  keyed := by simp [GroupDef.start]
  counters := by simp [GroupDef.start]
  tags := by simp [GroupDef.start]
  groups := by simp [GroupDef.start]

/-- A group whose members were collected is closed. -/
lemma Collected.closed {g : GroupDef} {delimiter rest} (h : Collected (g, delimiter :: rest)) :
    GroupDef.Closed { g with delimiter := delimiter, memberOrder := delimiter :: rest } :=
  .intro rfl h.members h.required h.keyed h.counters h.tags h.groups

/-- Inserting a tag loses none. -/
lemma subset_insertTag (tags : List Tag) (t : Tag) : tags ⊆ insertTag tags t :=
  fun _ mem => mem_insertTag.mpr (.inl mem)

/-- Adding tags loses none. -/
lemma subset_extendTags (tags more : List Tag) : tags ⊆ extendTags tags more :=
  fun _ mem => mem_extendTags mem

/-- The tags that are added are there. -/
lemma more_subset_extendTags (tags more : List Tag) : more ⊆ extendTags tags more := by
  induction more generalizing tags with
  | nil => simp
  | cons t more ih =>
    intro u mem
    cases mem with
    | head =>
      have new : t ∈ insertTag tags t := mem_insertTag.mpr (.inr rfl)
      have kept : t ∈ extendTags (insertTag tags t) more := mem_extendTags new
      exact kept
    | tail _ mem => exact ih (insertTag tags t) mem

/-- What is required, with one more. -/
lemma required_subset {required tags tags' : List Tag} {t : Tag} {flag : Bool} (h : required ⊆ tags)
    (sub : tags ⊆ tags') (mem : t ∈ tags') : (if flag then required ++ [t] else required) ⊆ tags' := by
  split
  · exact List.append_subset.mpr ⟨List.Subset.trans h sub, by simpa using mem⟩
  · exact List.Subset.trans h sub

variable {tagsByName : List (Bytes × Tag)} {components : List (Bytes × Node)}

/-- A child keeps what is known of the group. -/
lemma GroupChild.collected {fuel s c s'} (child : GroupChild tagsByName components fuel s c s')
    (walk : ∀ {ns s s'}, (collectGroup tagsByName components fuel ns s).run = some (.ok s') →
      Collected s → Collected s') (h : Collected s) : Collected s' := by
  cases child with
  | @field tag =>
    have sub := subset_insertTag s.1.tags tag
    have new : tag ∈ insertTag s.1.tags tag := mem_insertTag.mpr (.inr rfl)
    exact {
      members := List.append_subset.mpr ⟨List.Subset.trans h.members sub, by simpa using new⟩
      required := required_subset h.required sub new
      keyed := h.keyed
      counters := fun e mem => sub (h.counters e mem)
      tags := fun e mem => List.Subset.trans (h.tags e mem) sub
      groups := h.groups }
  | component _ _ run => exact walk run h
  | @group counter g delimiter rest _ _ run =>
    have nested := walk run (Collected.start counter)
    have own : g.counter = counter := collectGroup_counter run
    have sub : s.1.tags ⊆ extendTags (insertTag s.1.tags counter) g.tags :=
      List.Subset.trans (subset_insertTag _ _) (subset_extendTags _ _)
    have new : counter ∈ extendTags (insertTag s.1.tags counter) g.tags :=
      subset_extendTags _ _ (mem_insertTag.mpr (.inr rfl))
    refine ⟨List.append_subset.mpr ⟨List.Subset.trans h.members sub, by simpa using new⟩,
      required_subset h.required sub new, ?_, ?_, ?_, ?_⟩
    · intro e mem
      cases mem_insertEntry mem with
      | inl same => exact same ▸ own
      | inr old => exact h.keyed e old
    · intro e mem
      cases mem_insertEntry mem with
      | inl same =>
        rw [same]
        exact own.symm ▸ new
      | inr old => exact sub (h.counters e old)
    · intro e mem
      cases mem_insertEntry mem with
      | inl same =>
        rw [same]
        exact more_subset_extendTags _ _
      | inr old => exact List.Subset.trans (h.tags e old) sub
    · intro e mem
      cases mem_insertEntry mem with
      | inl same => exact same ▸ nested.closed
      | inr old => exact h.groups e old
  | other => exact h

/-- The groups that are collected are closed. -/
lemma collectGroup_collected {fuel ns s s'}
    (h : (collectGroup tagsByName components fuel ns s).run = some (.ok s')) (start : Collected s) :
    Collected s' :=
  collectGroup_keeps (fun child walk => child.collected walk) h start

/-! ## Messages -/

/-- A walk through children of a message. -/
structure Walked (tagsByName : List (Bytes × Tag)) (components : List (Bytes × Node)) (ns : List Node)
    (d d' : MessageDef) : Prop where
  tags : d.tags ⊆ d'.tags
  closed : d.Closed → d'.Closed
  demanded : ∀ t ∈ d'.required, t ∈ d.required ∨ Demands tagsByName components ns t

/-- More children demand no less. -/
lemma Demands.mono {ns ns' t} (h : Demands tagsByName components ns t) (sub : ns ⊆ ns') :
    Demands tagsByName components ns' t := by
  cases h with
  | member mem name flag known => exact .member (sub mem) name flag known
  | component mem name flag known inner => exact .component (sub mem) name flag known inner

/-- Nothing is demanded by no children. -/
lemma Walked.nil (d : MessageDef) : Walked tagsByName components [] d d :=
  ⟨List.Subset.refl _, id, fun _ => .inl⟩

/-- One child after another. -/
lemma Walked.cons {c cs d d1 d'} (h : Walked tagsByName components [c] d d1)
    (h' : Walked tagsByName components cs d1 d') : Walked tagsByName components (c :: cs) d d' where
  tags := List.Subset.trans h.tags h'.tags
  closed := fun closed => h'.closed (h.closed closed)
  demanded := fun t mem => by
    cases h'.demanded t mem with
    | inl earlier =>
      refine (h.demanded t earlier).imp_right fun demanded => demanded.mono ?_
      exact List.cons_subset_cons c (List.nil_subset cs)
    | inr demanded => exact .inr (demanded.mono (List.subset_cons_self c cs))

/-- A field that is added. -/
lemma walked_addField {c tag} (d : MessageDef) (name : c.name = ascii "field" ∨ c.name = ascii "group")
    (known : tagsByName.lookup c.reference = some tag) :
    Walked tagsByName components [c] d (addField d tag c.isRequired) where
  tags := subset_insertTag d.tags tag
  closed := fun h => by
    have sub := subset_insertTag d.tags tag
    have new : tag ∈ insertTag d.tags tag := mem_insertTag.mpr (.inr rfl)
    refine ⟨?_, ?_, required_subset h.required sub new, h.keyed, fun e mem => sub (h.counters e mem),
      fun e mem => List.Subset.trans (h.tags e mem) sub, h.groups⟩
    · show (if tag ∈ d.tags then d.fieldOrder else d.fieldOrder ++ [tag]).Nodup
      split
      case isTrue => exact h.distinct
      case isFalse fresh =>
        refine List.nodup_append.mpr ⟨h.distinct, List.nodup_singleton tag, ?_⟩
        intro t mem u mem' same
        rw [List.mem_singleton.mp mem'] at same
        exact fresh (same ▸ h.order mem)
    · show (if tag ∈ d.tags then d.fieldOrder else d.fieldOrder ++ [tag]) ⊆ insertTag d.tags tag
      split
      case isTrue => exact List.Subset.trans h.order sub
      case isFalse =>
        exact List.append_subset.mpr ⟨List.Subset.trans h.order sub, by simpa using new⟩
  demanded := fun t mem => by
    have mem : t ∈ if c.isRequired then d.required ++ [tag] else d.required := mem
    split at mem
    case isFalse => exact .inl mem
    case isTrue flag =>
      refine (List.mem_append.mp mem).imp_right fun mem => ?_
      rw [List.mem_singleton.mp mem]
      exact .member List.mem_cons_self name flag known

/-- What one child does to a message. -/
lemma MessageChild.walked {fuel d c d'} (child : MessageChild tagsByName components fuel d c d')
    (walk : ∀ {ns d d'}, (collect tagsByName components fuel ns d).run = some (.ok d') →
      Walked tagsByName components ns d d') : Walked tagsByName components [c] d d' := by
  cases child with
  | field name known => exact walked_addField d (.inl name) known
  | @component n e name known run =>
    have inner := walk run
    refine ⟨inner.tags, fun h => ?_, fun t mem => ?_⟩
    · have bare : MessageDef.Closed { d with required := [] } :=
        ⟨h.distinct, h.order, List.nil_subset _, h.keyed, h.counters, h.tags, h.groups⟩
      have closed := inner.closed bare
      refine ⟨closed.distinct, closed.order, ?_, closed.keyed, closed.counters, closed.tags,
        closed.groups⟩
      have outer : d.required ⊆ e.tags := List.Subset.trans h.required inner.tags
      show (if c.isRequired then d.required ++ e.required else d.required) ⊆ e.tags
      split
      · exact List.append_subset.mpr ⟨outer, closed.required⟩
      · exact outer
    · have mem : t ∈ if c.isRequired then d.required ++ e.required else d.required := mem
      split at mem
      case isFalse => exact .inl mem
      case isTrue flag =>
        refine (List.mem_append.mp mem).imp_right fun mem => ?_
        refine .component List.mem_cons_self name flag known ?_
        exact (inner.demanded t mem).resolve_left (List.not_mem_nil)
  | @group counter g delimiter rest name known run =>
    have added : Walked tagsByName components [c] d (addField d counter c.isRequired) :=
      walked_addField d (.inr name) known
    have members := collectGroup_collected run (Collected.start counter)
    have own : g.counter = counter := collectGroup_counter run
    have sub := subset_extendTags (addField d counter c.isRequired).tags g.tags
    refine ⟨List.Subset.trans added.tags sub, fun h => ?_, added.demanded⟩
    have closed := added.closed h
    have new : counter ∈ extendTags (addField d counter c.isRequired).tags g.tags :=
      sub (mem_insertTag.mpr (.inr rfl))
    refine ⟨closed.distinct, List.Subset.trans closed.order sub,
      List.Subset.trans closed.required sub, ?_, ?_, ?_, ?_⟩
    · intro e mem
      cases mem_insertEntry mem with
      | inl same => exact same ▸ own
      | inr old => exact closed.keyed e old
    · intro e mem
      cases mem_insertEntry mem with
      | inl same => exact same ▸ new
      | inr old => exact sub (closed.counters e old)
    · intro e mem
      cases mem_insertEntry mem with
      | inl same =>
        rw [same]
        exact more_subset_extendTags _ _
      | inr old => exact List.Subset.trans (closed.tags e old) sub
    · intro e mem
      cases mem_insertEntry mem with
      | inl same => exact same ▸ members.closed
      | inr old => exact closed.groups e old
  | other => exact ⟨List.Subset.refl _, id, fun _ => .inl⟩

/-- What a walk does to a message. -/
lemma collect_walked {fuel ns d d'}
    (h : (collect tagsByName components fuel ns d).run = some (.ok d')) :
    Walked tagsByName components ns d d' := by
  induction fuel generalizing ns d d' with
  | zero => cases h
  | succ fuel ih =>
    induction ns generalizing d with
    | nil =>
      cases h
      exact .nil _
    | cons c cs later =>
      rw [collect_cons] at h
      obtain ⟨d1, first, h⟩ := Loading.of_bind h
      exact .cons ((collect_child first).walked ih) (later h)

/-! ## Dictionaries -/

namespace DataDictionary

/-- Every message of a loaded dictionary is closed, and requires what its document demands and nothing
else. -/
theorem loaded_closed {fuel : Nat} {fix : Node} {dd : DataDictionary}
    (loaded : (DataDictionary.parse fuel fix).run = some (.ok dd)) :
    ∀ e ∈ dd.messages, e.2.Closed ∧
      ∃ m ∈ fix.definitions "messages" "message", m.attr "msgtype" = some e.1 ∧
        ∀ t ∈ e.2.required, Demands fix.tagsByName fix.components m.children t := by
  intro e mem
  obtain ⟨m, here, type, run⟩ := parse_message loaded mem
  have walked := collect_walked run
  refine ⟨walked.closed ⟨List.nodup_nil, by simp, by simp, by simp, by simp, by simp, by simp⟩, m, here,
    type, fun t mem => ?_⟩
  exact (walked.demanded t mem).resolve_left List.not_mem_nil

/-- The order of the Parties block, which requires what its document demands. -/
theorem loaded_closed_parties :
    ∃ d, partiesDictionary.messages.lookup (ascii "D") = some d ∧ d.Closed ∧
      ∃ m ∈ partiesDocument.definitions "messages" "message", m.attr "msgtype" = some (ascii "D") ∧
        ∀ t ∈ d.required, Demands partiesDocument.tagsByName partiesDocument.components m.children t := by
  have known : (partiesDictionary.messages.lookup (ascii "D")).isSome = true := by decide +kernel
  obtain ⟨d, found⟩ := Option.isSome_iff_exists.mp known
  obtain ⟨before, after, split, -⟩ := List.lookup_eq_some_iff.mp found
  have mem : (ascii "D", d) ∈ partiesDictionary.messages := by
    rw [split]
    exact List.mem_append_right before List.mem_cons_self
  exact ⟨d, found, loaded_closed loaded_parties _ mem⟩

end DataDictionary

end QuickFix
