import Mathlib.Data.Fintype.Card
import Mathlib.Data.Set.Finite.Basic
import QuickFix.Wire.Walk
import QuickFix.Lib.Fuel

/-!
# Whether loading ends

Components are expanded where they are referred to, and nothing keeps a component from referring to
itself. The loader enters the children of a component or a group when what stands before it loads
(`Enters`); it ends exactly when no list of children it comes to starts an endless chain of these
(`parse_ends_iff`).
-/

namespace QuickFix

open Fueled

/-! ## What is entered -/

section

variable (tagsByName : List (Bytes × Tag)) (components : List (Bytes × Node))

/-- Some field or group is among the children, or in a component they refer to. -/
inductive HasMember : List Node → Prop
  | member {ns c} : c ∈ ns → c.name = ascii "field" ∨ c.name = ascii "group" → HasMember ns
  | component {ns c d} : c ∈ ns → c.name = ascii "component" → components.lookup c.reference = some d →
      HasMember d.children → HasMember ns

/-- Children whose references are all known, and whose groups have members. -/
inductive Loads : List Node → Prop
  | nil : Loads []
  | field {c cs tag} : c.name = ascii "field" → tagsByName.lookup c.reference = some tag → Loads cs →
      Loads (c :: cs)
  | component {c cs d} : c.name = ascii "component" → components.lookup c.reference = some d →
      Loads d.children → Loads cs → Loads (c :: cs)
  | group {c cs counter} : c.name = ascii "group" → tagsByName.lookup c.reference = some counter →
      Loads c.children → HasMember components c.children → Loads cs → Loads (c :: cs)
  | other {c cs} : c.name ≠ ascii "field" → c.name ≠ ascii "component" → c.name ≠ ascii "group" →
      Loads cs → Loads (c :: cs)

/-- From some children the loader enters those of a component or of a group: what stands before it
loads. -/
inductive Enters (ns : List Node) : List Node → Prop
  | component {before c after d} : ns = before ++ c :: after → Loads tagsByName components before →
      c.name = ascii "component" → components.lookup c.reference = some d → Enters ns d.children
  | group {before c after counter} : ns = before ++ c :: after → Loads tagsByName components before →
      c.name = ascii "group" → tagsByName.lookup c.reference = some counter → Enters ns c.children

/-- No endless chain starts from the children. -/
def Grounded (ns : List Node) : Prop := Acc (fun ms ns => Enters tagsByName components ns ms) ns

end

variable {tagsByName : List (Bytes × Tag)} {components : List (Bytes × Node)}

/-- More children that load. -/
lemma Loads.append {ns ms} (h : Loads tagsByName components ns) (h' : Loads tagsByName components ms) :
    Loads tagsByName components (ns ++ ms) := by
  induction h with
  | nil => exact h'
  | field name known _ ih => exact .field name known ih
  | component name known inner _ _ ih => exact .component name known inner ih
  | group name known inner some _ _ ih => exact .group name known inner some ih
  | other field component group _ ih => exact .other field component group ih

/-- A member among more children. -/
lemma HasMember.mono {ns ms} (h : HasMember components ns) (sub : ns ⊆ ms) : HasMember components ms := by
  cases h with
  | member mem name => exact .member (sub mem) name
  | component mem name known inner => exact .component (sub mem) name known inner

/-- A member among the first child and the others. -/
lemma HasMember.cons_iff {c ns} : HasMember components (c :: ns) ↔
    HasMember components [c] ∨ HasMember components ns := by
  constructor
  · intro h
    cases h with
    | member mem name =>
      cases mem with
      | head => exact .inl (.member List.mem_cons_self name)
      | tail _ mem => exact .inr (.member mem name)
    | component mem name known inner =>
      cases mem with
      | head => exact .inl (.component List.mem_cons_self name known inner)
      | tail _ mem => exact .inr (.component mem name known inner)
  · rintro (h | h)
    · exact h.mono (by simp)
    · exact h.mono (List.subset_cons_self c ns)

/-! ## Single children -/

section

variable {fuel : Nat} {c d : Node} {s : GroupDef × List Tag}

/-- A name that is known is resolved. -/
lemma resolve_known {α : Type} {kind : String} {names : List (Bytes × α)} {a : α}
    (known : names.lookup c.reference = some a) : resolve kind names c = pure a := by
  rw [Node.reference] at known
  simp only [resolve, known]

/-- A name that is not known is an error. -/
lemma resolve_unknown {α : Type} {kind : String} {names : List (Bytes × α)}
    (unknown : names.lookup c.reference = none) :
    (resolve kind names c).run = some (.error (ascii "unknown " ++ ascii kind ++ 32 :: c.reference)) := by
  rw [Node.reference] at unknown
  simp only [resolve, unknown]
  rfl

/-- A field becomes a member. -/
lemma collectGroup_field {tag} (name : c.name = ascii "field")
    (known : tagsByName.lookup c.reference = some tag) :
    collectGroup tagsByName components (fuel + 1) [c] s = pure ({ s.1 with
      tags := insertTag s.1.tags tag
      required := if c.isRequired then s.1.required ++ [tag] else s.1.required }, s.2 ++ [tag]) := by
  simp only [collectGroup, List.foldlM_cons, List.foldlM_nil, bind_pure, if_pos name,
    resolve_known known, pure_bind]

/-- Other children are passed over. -/
lemma collectGroup_other (field : c.name ≠ ascii "field") (component : c.name ≠ ascii "component")
    (group : c.name ≠ ascii "group") : collectGroup tagsByName components (fuel + 1) [c] s = pure s := by
  simp only [collectGroup, List.foldlM_cons, List.foldlM_nil, bind_pure, if_neg field, if_neg component,
    if_neg group]

/-- A component is walked through where it stands. -/
lemma collectGroup_component (name : c.name = ascii "component")
    (known : components.lookup c.reference = some d) :
    collectGroup tagsByName components (fuel + 1) [c] s =
      collectGroup tagsByName components fuel d.children s := by
  have other : c.name ≠ ascii "field" := by
    rw [name]
    decide
  simp only [collectGroup, List.foldlM_cons, List.foldlM_nil, bind_pure, if_neg other, if_pos name,
    resolve_known known, pure_bind]

/-- A group is walked through from a start of its own. -/
lemma collectGroup_group {counter} (name : c.name = ascii "group")
    (known : tagsByName.lookup c.reference = some counter) :
    collectGroup tagsByName components (fuel + 1) [c] s = (do
      let (nested, nestedOrder) ←
        collectGroup tagsByName components fuel c.children (.start counter, [])
      let nested ← delimited c nested nestedOrder
      return ({ s.1 with
        tags := extendTags (insertTag s.1.tags counter) nested.tags
        required := if c.isRequired then s.1.required ++ [counter] else s.1.required
        groups := insertEntry counter nested s.1.groups }, s.2 ++ [counter])) := by
  have noField : c.name ≠ ascii "field" := by
    rw [name]
    decide
  have noComponent : c.name ≠ ascii "component" := by
    rw [name]
    decide
  simp only [collectGroup, List.foldlM_cons, List.foldlM_nil, bind_pure, if_neg noField,
    if_neg noComponent, if_pos name, resolve_known known, pure_bind]

/-- Nothing follows a name that is unknown. -/
lemma ends_unknown {α β : Type} {kind : String} {names : List (Bytes × α)} {next : α → Loading β}
    (unknown : names.lookup c.reference = none) : Ends (resolve kind names c >>= next) := by
  rw [Ends, run_bind, resolve_unknown unknown]
  exact Option.some_ne_none _

/-- A component that is not known ends the walk. -/
lemma collectGroup_ends_unknown_component (name : c.name = ascii "component")
    (unknown : components.lookup c.reference = none) :
    Ends (collectGroup tagsByName components (fuel + 1) [c] s) := by
  have noField : c.name ≠ ascii "field" := by
    rw [name]
    decide
  simp only [collectGroup, List.foldlM_cons, List.foldlM_nil, bind_pure, if_neg noField, if_pos name]
  exact ends_unknown unknown

/-- So does a group that is not known. -/
lemma collectGroup_ends_unknown_group (name : c.name = ascii "group")
    (unknown : tagsByName.lookup c.reference = none) :
    Ends (collectGroup tagsByName components (fuel + 1) [c] s) := by
  have noField : c.name ≠ ascii "field" := by
    rw [name]
    decide
  have noComponent : c.name ≠ ascii "component" := by
    rw [name]
    decide
  simp only [collectGroup, List.foldlM_cons, List.foldlM_nil, bind_pure, if_neg noField,
    if_neg noComponent, if_pos name]
  exact ends_unknown unknown

/-- A child that is neither a component nor a group ends. -/
lemma collectGroup_ends_alone (noComponent : c.name ≠ ascii "component")
    (noGroup : c.name ≠ ascii "group") : Ends (collectGroup tagsByName components (fuel + 1) [c] s) := by
  by_cases name : c.name = ascii "field"
  · cases known : tagsByName.lookup c.reference with
    | some tag =>
      rw [collectGroup_field name known]
      exact Option.some_ne_none _
    | none =>
      simp only [collectGroup, List.foldlM_cons, List.foldlM_nil, bind_pure, if_pos name]
      exact ends_unknown known
  · rw [collectGroup_other name noComponent noGroup]
    exact Option.some_ne_none _

/-- The members of a component are those of its children. -/
lemma HasMember.component_iff (name : c.name = ascii "component")
    (known : components.lookup c.reference = some d) :
    HasMember components [c] ↔ HasMember components d.children := by
  refine ⟨fun h => ?_, .component List.mem_cons_self name known⟩
  cases h with
  | member mem other =>
    rw [List.mem_singleton.mp mem, name] at other
    exact absurd other (by decide)
  | component mem _ known' inner =>
    rw [List.mem_singleton.mp mem, known] at known'
    cases known'
    exact inner

/-- Other children are no members. -/
lemma HasMember.not_other (field : c.name ≠ ascii "field") (component : c.name ≠ ascii "component")
    (group : c.name ≠ ascii "group") : ¬ HasMember components [c] := by
  intro h
  cases h with
  | member mem name =>
    rw [List.mem_singleton.mp mem] at name
    exact name.elim field group
  | component mem name =>
    rw [List.mem_singleton.mp mem] at name
    exact component name

end

/-! ## Loading and ending -/

/-- With more fuel. -/
lemma collectGroup_approximates (fuel : Nat) (ns : List Node) (s) :
    Approximates (collectGroup tagsByName components fuel ns s)
      (collectGroup tagsByName components (fuel + 1) ns s) := by
  induction fuel generalizing ns s with
  | zero =>
    intro r run
    cases run
  | succ fuel ih =>
    rw [collectGroup, collectGroup]
    apply Approximates.foldlM
    rintro ⟨g, order⟩ c
    dsimp only
    split
    · exact .refl _
    split
    · exact (Approximates.refl _).bind fun d => ih _ _
    split
    · refine (Approximates.refl _).bind fun counter => (ih _ _).bind fun nested => .refl _
    · exact .refl _

/-- What loads, and what has members. -/
lemma collectGroup_loads {fuel ns s s'}
    (h : (collectGroup tagsByName components fuel ns s).run = some (.ok s')) :
    Loads tagsByName components ns ∧ (s'.2 ≠ [] ↔ s.2 ≠ [] ∨ HasMember components ns) := by
  induction fuel generalizing ns s s' with
  | zero => cases h
  | succ fuel ih =>
    induction ns generalizing s with
    | nil =>
      cases h
      refine ⟨.nil, .inl, fun h => h.resolve_right ?_⟩
      rintro (_ | _) <;> simp_all
    | cons c cs later =>
      rw [collectGroup_cons] at h
      obtain ⟨s1, first, h⟩ := Loading.of_bind h
      obtain ⟨loads, some⟩ := later h
      rw [some, HasMember.cons_iff, ← or_assoc]
      cases collectGroup_child first with
      | field name known =>
        refine ⟨.field name known loads, ?_⟩
        have member : HasMember components [c] := .member List.mem_cons_self (.inl name)
        simp [member]
      | component name known run =>
        obtain ⟨inner, some'⟩ := ih run
        refine ⟨.component name known inner loads, ?_⟩
        rw [some', HasMember.component_iff name known]
      | group name known run =>
        obtain ⟨inner, some'⟩ := ih run
        have member : HasMember components [c] := .member List.mem_cons_self (.inr name)
        refine ⟨.group name known inner (by simpa using some') loads, ?_⟩
        simp [member]
      | other field component group =>
        refine ⟨.other field component group loads, ?_⟩
        have none : ¬ HasMember components [c] := HasMember.not_other field component group
        simp [none]

/-- One child after another leaves a result. -/
lemma run_cons {fuel c cs s} (ends : Ends (collectGroup tagsByName components fuel (c :: cs) s))
    (here : ∀ fuel, Ends (collectGroup tagsByName components (fuel + 1) [c] s) →
      ∃ s', (collectGroup tagsByName components (fuel + 1) [c] s).run = some (.ok s'))
    (later : ∀ {fuel s}, Ends (collectGroup tagsByName components fuel cs s) →
      ∃ s', (collectGroup tagsByName components fuel cs s).run = some (.ok s')) :
    ∃ s', (collectGroup tagsByName components fuel (c :: cs) s).run = some (.ok s') := by
  cases fuel with
  | zero => exact absurd rfl ends
  | succ fuel =>
    rw [collectGroup_cons] at ends ⊢
    obtain ⟨s1, first⟩ := here fuel ends.first
    rw [Ends, run_bind, first] at ends
    rw [run_bind, first]
    exact later ends

/-- What loads leaves a result when it ends. -/
lemma Loads.run {fuel ns s} (h : Loads tagsByName components ns)
    (ends : Ends (collectGroup tagsByName components fuel ns s)) :
    ∃ s', (collectGroup tagsByName components fuel ns s).run = some (.ok s') := by
  induction h generalizing fuel s with
  | nil =>
    cases fuel with
    | zero => exact absurd rfl ends
    | succ fuel => exact ⟨s, rfl⟩
  | @field c cs tag name known _ later =>
    refine run_cons ends (fun fuel first => ?_) later
    rw [collectGroup_field name known]
    exact ⟨_, rfl⟩
  | @component c cs d name known inner _ within later =>
    refine run_cons ends (fun fuel first => ?_) later
    rw [collectGroup_component name known] at first ⊢
    exact within first
  | @group c cs counter name known inner some _ within later =>
    refine run_cons ends (fun fuel first => ?_) later
    rw [collectGroup_group name known] at first ⊢
    obtain ⟨⟨g, order⟩, walk⟩ := within first.first
    have members : order ≠ [] := by simpa using (collectGroup_loads walk).2.mpr (.inr some)
    obtain ⟨delimiter, rest, rfl⟩ := List.exists_cons_of_ne_nil members
    rw [run_bind, walk]
    exact ⟨_, rfl⟩
  | @other c cs field component group _ later =>
    refine run_cons ends (fun fuel first => ?_) later
    rw [collectGroup_other field component group]
    exact ⟨_, rfl⟩

/-! ## Chains of what is entered -/

/-- A walk takes one child after another. -/
lemma collectGroup_foldlM {fuel ns s} : collectGroup tagsByName components (fuel + 1) ns s =
    ns.foldlM (fun s c => collectGroup tagsByName components (fuel + 1) [c] s) s := by
  induction ns generalizing s with
  | nil => rfl
  | cons c cs ih => rw [collectGroup_cons, List.foldlM_cons, funext fun _ => ih]

/-- Each child of those that load does. -/
lemma Loads.single {ns c} (h : Loads tagsByName components ns) (mem : c ∈ ns) :
    Loads tagsByName components [c] := by
  induction h with
  | nil => cases mem
  | field name known _ ih =>
    cases mem with
    | head => exact .field name known .nil
    | tail _ mem => exact ih mem
  | component name known inner _ _ ih =>
    cases mem with
    | head => exact .component name known inner .nil
    | tail _ mem => exact ih mem
  | group name known inner some _ _ ih =>
    cases mem with
    | head => exact .group name known inner some .nil
    | tail _ mem => exact ih mem
  | other field component group _ ih =>
    cases mem with
    | head => exact .other field component group .nil
    | tail _ mem => exact ih mem

/-- Children each of which loads. -/
lemma Loads.of_single {ns} (h : ∀ c ∈ ns, Loads tagsByName components [c]) :
    Loads tagsByName components ns := by
  induction ns with
  | nil => exact .nil
  | cons c cs ih =>
    have here := h c List.mem_cons_self
    exact here.append (ih fun d mem => h d (List.mem_cons_of_mem c mem))

/-- Where a walk ends no endless chain starts. -/
lemma grounded_of_ends {fuel ns s} (h : Ends (collectGroup tagsByName components fuel ns s)) :
    Grounded tagsByName components ns := by
  induction fuel generalizing ns s with
  | zero => exact absurd rfl h
  | succ fuel ih =>
    constructor
    intro ms enters
    rw [collectGroup_foldlM] at h
    have reached : ∀ {before c after}, ns = before ++ c :: after → Loads tagsByName components before →
        ∃ s, Ends (collectGroup tagsByName components (fuel + 1) [c] s) :=
      fun split loads => h.foldlM_at (f := fun fuel s c =>
        collectGroup tagsByName components (fuel + 1) [c] s) split fun x mem s => (loads.single mem).run
    cases enters with
    | component split loads name known =>
      obtain ⟨s', ends⟩ := reached split loads
      rw [collectGroup_component name known] at ends
      exact ih ends
    | group split loads name known =>
      obtain ⟨s', ends⟩ := reached split loads
      rw [collectGroup_group name known] at ends
      exact ih ends.first

/-- A walk ends when no endless chain starts. -/
lemma Grounded.ends {ns} (h : Grounded tagsByName components ns) (s : GroupDef × List Tag) :
    ∃ fuel, Ends (collectGroup tagsByName components fuel ns s) := by
  induction h generalizing s with
  | intro ns _ ih =>
    have walk : ∃ fuel, Ends (ns.foldlM (fun s c =>
        collectGroup tagsByName components (fuel + 1) [c] s) s) := by
      apply exists_ends_foldlM (f := fun fuel s c =>
        collectGroup tagsByName components (fuel + 1) [c] s) (P := fun c => Loads tagsByName components [c])
      · exact fun fuel s c => collectGroup_approximates (fuel + 1) [c] s
      · exact fun fuel s c s' run => (collectGroup_loads run).1
      · intro before c after split good s
        have loads := Loads.of_single good
        by_cases name : c.name = ascii "component"
        · cases known : components.lookup c.reference with
          | none => exact ⟨0, collectGroup_ends_unknown_component name known⟩
          | some d =>
            obtain ⟨fuel, ends⟩ := ih d.children (.component split loads name known) s
            refine ⟨fuel, ?_⟩
            rw [collectGroup_component name known]
            exact ends
        by_cases name' : c.name = ascii "group"
        · cases known : tagsByName.lookup c.reference with
          | none => exact ⟨0, collectGroup_ends_unknown_group name' known⟩
          | some counter =>
            obtain ⟨fuel, ends⟩ := ih c.children (.group split loads name' known) (.start counter, [])
            refine ⟨fuel, ?_⟩
            rw [collectGroup_group name' known]
            refine ends.bind fun nested _ => Ends.bind ?_ fun _ _ => nofun
            cases nested.2 <;> exact nofun
        · exact ⟨0, collectGroup_ends_alone name name'⟩
    obtain ⟨fuel, ends⟩ := walk
    refine ⟨fuel + 1, ?_⟩
    rw [collectGroup_foldlM]
    exact ends

/-! ## Components without a cycle -/

/-- The children, or those of a group among them, refer to the component. -/
inductive Mentions (components : List (Bytes × Node)) : List Node → Node → Prop
  | component {ns c d} : c ∈ ns → c.name = ascii "component" → components.lookup c.reference = some d →
      Mentions components ns d
  | group {ns c d} : c ∈ ns → c.name = ascii "group" → Mentions components c.children d →
      Mentions components ns d

/-- A component refers to another one. -/
def RefersTo (components : List (Bytes × Node)) (d e : Node) : Prop := Mentions components d.children e

/-- What is referred to is one of the components. -/
lemma Mentions.mem {ns d} (h : Mentions components ns d) : d ∈ components.map Prod.snd := by
  induction h with
  | component _ _ known =>
    obtain ⟨before, after, split, -⟩ := List.lookup_eq_some_iff.mp known
    rw [split]
    simp
  | group _ _ _ ih => exact ih

/-- Children are smaller than what they are the children of. -/
lemma sizeOf_children {c : Node} {ns : List Node} (mem : c ∈ ns) : sizeOf c.children < sizeOf ns := by
  have inner : sizeOf c.children < sizeOf c := by
    cases c
    simp only [Node.children, Node.mk.sizeOf_spec]
    omega
  exact inner.trans (List.sizeOf_lt_of_mem mem)

/-- No endless chain starts from children when none does from the components they refer to. -/
lemma grounded_of_mentioned (ns : List Node)
    (inner : ∀ d, Mentions components ns d → Grounded tagsByName components d.children) :
    Grounded tagsByName components ns := by
  constructor
  intro ms entered
  cases entered with
  | @component before c after d split _ name known =>
    exact inner d (.component (by simp [split]) name known)
  | @group before c after counter split _ name _ =>
    have mem : c ∈ ns := by simp [split]
    have smaller := sizeOf_children mem
    exact grounded_of_mentioned c.children fun d mentioned => inner d (.group mem name mentioned)
termination_by sizeOf ns

/-- No endless chain starts anywhere when no component refers to itself. -/
lemma grounded_of_acyclic (acyclic : ∀ d, ¬ Relation.TransGen (RefersTo components) d d) (ns : List Node) :
    Grounded tagsByName components ns := by
  have finite : Finite {d // d ∈ components.map Prod.snd} := List.finite_toSet _
  let below (e d : {d // d ∈ components.map Prod.snd}) : Prop :=
    Relation.TransGen (RefersTo components) d.1 e.1
  have trans : IsTrans _ below := ⟨fun _ _ _ first second => second.trans first⟩
  have irrefl : Std.Irrefl below := ⟨fun d => acyclic d.1⟩
  have founded := Finite.wellFounded_of_trans_of_irrefl below
  have grounded (d : {d // d ∈ components.map Prod.snd}) : Grounded tagsByName components d.1.children := by
    induction d using founded.induction with
    | _ d ih =>
      apply grounded_of_mentioned
      intro e mentioned
      exact ih ⟨e, mentioned.mem⟩ (.single mentioned)
  exact grounded_of_mentioned ns fun d mentioned => grounded ⟨d, mentioned.mem⟩

/-! ## Documents -/

/-- A message is walked through as a group is. -/
lemma collect_outcome (fuel : Nat) (ns : List Node) (d : MessageDef) (s : GroupDef × List Tag) :
    outcome (collect tagsByName components fuel ns d) =
      outcome (collectGroup tagsByName components fuel ns s) := by
  induction fuel generalizing ns d s with
  | zero => rfl
  | succ fuel ih =>
    rw [collect, collectGroup]
    apply outcome_foldlM_congr
    rintro d ⟨g, order⟩ c
    dsimp only
    split
    · rw [outcome_bind_pure, outcome_bind_pure]
    split
    · refine outcome_bind_same fun component => ?_
      rw [outcome_bind_pure]
      exact ih _ _ _
    split
    · refine outcome_bind_same fun counter => outcome_bind_same fun nested => ?_
      rw [outcome_bind_pure, outcome_bind_pure]
    · rfl

/-- The lists of children that are walked through: those of the header, of the trailer and of each
message. A message without a type ends the loading. -/
def Node.walks (fix : Node) : List (Option (List Node)) :=
  (fix.child "header").toList.map (fun n => some n.children) ++
    ((fix.child "trailer").toList.map (fun n => some n.children) ++
      (fix.definitions "messages" "message").map fun m => (m.attr "msgtype").map fun _ => m.children)

/-- Every field has a number. -/
def Node.Numbered (fix : Node) : Prop :=
  ((fix.definitions "fields" "field").all fun f => ((f.attr "number").bind (parseSigned 32)).isSome) = true

/-- The loader comes to some children: every field has a number, and all before them loads. -/
def Node.Reaches (fix : Node) (ns : List Node) : Prop :=
  fix.Numbered ∧
    ∃ before after, fix.walks = before ++ some ns :: after ∧
      ∀ w ∈ before, ∃ ms, w = some ms ∧ Loads fix.tagsByName fix.components ms

/-- One walk of a document. -/
def walk (tagsByName : List (Bytes × Tag)) (components : List (Bytes × Node)) (fuel : Nat)
    (s : GroupDef × List Tag) : Option (List Node) → Loading (GroupDef × List Tag)
  | none => throw (ascii "message without msgtype")
  | some ns => collectGroup tagsByName components fuel ns s

/-- A section ends as the walk over its children does. -/
lemma section_outcome (fuel : Nat) (n : Option Node) (s : GroupDef × List Tag) :
    outcome (match n with
      | some n => collect tagsByName components fuel n.children {}
      | none => (return {} : Loading MessageDef)) =
    outcome ((n.toList.map fun n => some n.children).foldlM (walk tagsByName components fuel) s) := by
  cases n with
  | none => rfl
  | some n =>
    rw [Option.toList_some, List.map_singleton, List.foldlM_cons]
    simp only [List.foldlM_nil, bind_pure]
    exact collect_outcome _ _ _ _

/-- The messages end as the walk over their children does. -/
lemma messages_outcome (fuel : Nat) (ms : List Node) (s : GroupDef × List Tag) :
    outcome (ms.mapM (DataDictionary.messageDef tagsByName components fuel)) =
      outcome ((ms.map fun m => (m.attr "msgtype").map fun _ => m.children).foldlM
        (walk tagsByName components fuel) s) := by
  induction ms generalizing s with
  | nil => rfl
  | cons m ms ih =>
    rw [List.mapM_cons, List.map_cons, List.foldlM_cons]
    refine outcome_bind_congr ?_ fun d s' _ _ => ?_
    · rw [DataDictionary.messageDef]
      cases m.attr "msgtype" with
      | none => rfl
      | some msgType =>
        dsimp only
        rw [outcome_bind_pure]
        exact collect_outcome _ _ _ _
    · rw [outcome_bind_pure]
      exact ih s'

/-- The fields of the document are read when they have numbers. -/
lemma fields_outcome (charIsString : Bool) (fs : List Node) :
    outcome (fs.mapM (m := Loading) fun f => do
      return ((f.attr "name").getD [], ← DataDictionary.fieldDef charIsString f)) =
    some (fs.all fun f => ((f.attr "number").bind (parseSigned 32)).isSome) := by
  induction fs with
  | nil => rfl
  | cons f fs ih =>
    rw [List.mapM_cons, List.all_cons, DataDictionary.fieldDef]
    cases (f.attr "number").bind (parseSigned 32) with
    | none => rfl
    | some tag =>
      simp only [pure_bind, outcome_bind_pure, ih, Option.isSome_some, Bool.true_and]

namespace DataDictionary

/-- Loading goes through the walks of the document. -/
lemma parse_outcome {fix : Node} (numbered : fix.Numbered) (fuel : Nat) (s : GroupDef × List Tag) :
    outcome (parse fuel fix) =
      outcome (fix.walks.foldlM (walk fix.tagsByName fix.components fuel) s) := by
  simp only [parse]
  refine outcome_bind_true ((fields_outcome _ _).trans (congrArg some numbered)) fun fields read => ?_
  rw [tagsByName_eq read, Node.walks, List.foldlM_append]
  refine outcome_bind_congr (section_outcome fuel _ s) fun header s _ _ => ?_
  rw [List.foldlM_append]
  refine outcome_bind_congr (section_outcome fuel _ s) fun trailer s _ _ => ?_
  rw [outcome_bind_pure]
  exact messages_outcome fuel _ s

/-- Loading ends when no endless chain starts where the loader comes to. -/
lemma parse_ends {fix : Node}
    (grounded : ∀ ns, fix.Reaches ns → Grounded fix.tagsByName fix.components ns) :
    ∃ fuel, Ends (parse fuel fix) := by
  by_cases numbered : fix.Numbered
  case neg =>
    have error : outcome (parse 0 fix) = some false := by
      simp only [parse]
      exact outcome_bind_false
        ((fields_outcome _ _).trans (congrArg some (Bool.eq_false_of_not_eq_true numbered)))
    refine ⟨0, ?_⟩
    rw [ends_iff, error]
    exact Option.some_ne_none _
  case pos =>
    suffices walks : ∃ fuel, Ends (fix.walks.foldlM (walk fix.tagsByName fix.components fuel)
        (.start 0, [])) by
      obtain ⟨fuel, ends⟩ := walks
      refine ⟨fuel, ?_⟩
      rw [ends_iff, parse_outcome numbered fuel (.start 0, []), ← ends_iff]
      exact ends
    apply exists_ends_foldlM (f := walk fix.tagsByName fix.components)
      (P := fun w => ∃ ms, w = some ms ∧ Loads fix.tagsByName fix.components ms)
    · rintro fuel s (_ | ns)
      · exact .refl _
      · exact collectGroup_approximates fuel ns s
    · rintro fuel s (_ | ns) s' run
      · cases run
      · exact ⟨ns, rfl, (collectGroup_loads run).1⟩
    · rintro before (_ | ns) after split loads s
      · exact ⟨0, Option.some_ne_none _⟩
      · exact (grounded ns ⟨numbered, before, after, split, loads⟩).ends s

/-- Loading ends exactly when no endless chain starts where the loader comes to. -/
theorem parse_ends_iff {fix : Node} : (∃ fuel, Ends (parse fuel fix)) ↔
    ∀ ns, fix.Reaches ns → Grounded fix.tagsByName fix.components ns := by
  constructor
  · rintro ⟨fuel, ends⟩ ns ⟨numbered, before, after, split, loads⟩
    rw [ends_iff, parse_outcome numbered fuel (.start 0, []), ← ends_iff] at ends
    have along (w) (mem : w ∈ before) (s : GroupDef × List Tag)
        (ends : Ends (walk fix.tagsByName fix.components fuel s w)) :
        ∃ s', (walk fix.tagsByName fix.components fuel s w).run = some (.ok s') := by
      obtain ⟨ms, rfl, loads⟩ := loads w mem
      exact loads.run ends
    obtain ⟨s, here⟩ := ends.foldlM_at (f := walk fix.tagsByName fix.components) split along
    exact grounded_of_ends here
  · exact parse_ends

/-- When no component refers to itself, directly, through others or through groups, loading ends. -/
theorem parse_ends_of_acyclic {fix : Node}
    (acyclic : ∀ d, ¬ Relation.TransGen (RefersTo fix.components) d d) :
    ∃ fuel, Ends (parse fuel fix) :=
  parse_ends fun ns _ => grounded_of_acyclic acyclic ns

/-! A document whose header refers to a component that refers to itself. -/

/-- A reference to the component. -/
def selfReference : Node := .mk (ascii "component") [(ascii "name", ascii "A")] []

/-- A document whose component refers to itself. -/
def selfReferring : Node := .mk (ascii "fix") []
  [.mk (ascii "components") [] [.mk (ascii "component") [(ascii "name", ascii "A")] [selfReference]],
    .mk (ascii "header") [] [selfReference]]

/-- No fuel is enough to walk it. -/
lemma selfReferring_walk (fuel : Nat) (s : GroupDef × List Tag) :
    (collectGroup [] selfReferring.components fuel [selfReference] s).run = none := by
  induction fuel with
  | zero => rfl
  | succ fuel ih =>
    rw [collectGroup_component rfl
      (d := .mk (ascii "component") [(ascii "name", ascii "A")] [selfReference]) (by rfl)]
    exact ih

/-- So not every document loads to an end. -/
theorem parse_selfReferring : ¬ ∀ fix, ∃ fuel, Ends (parse fuel fix) := by
  intro ends
  obtain ⟨fuel, ends⟩ := ends selfReferring
  have numbered : selfReferring.Numbered := by
    rw [Node.Numbered]
    rfl
  have never : outcome (parse fuel selfReferring) = none := by
    rw [parse_outcome numbered fuel (.start 0, [])]
    show outcome (collectGroup [] selfReferring.components fuel [selfReference] (.start 0, []) >>= pure) = _
    rw [bind_pure, outcome, selfReferring_walk]
    rfl
  exact ends_iff.mp ends never

end DataDictionary

end QuickFix
