import QuickFix.Lib.StableSort
import QuickFix.Wire.GroupCheck
import QuickFix.Wire.WriteGroups

/-!
# Canonical bodies

`canonicalize_body` cuts a body into blocks, a field each or a counter with the members that follow it,
and sorts the blocks by the tags they start with. Cutting is related to a grammar of blocks (`Cut`);
where no counter is a member of another group the sorted blocks are cut into runs of themselves, so that
sorting again changes nothing, and groups that have their members are read as before
(`canonicalizeBody_preserves`).
-/

namespace QuickFix.DataDictionary

/-- A block: the tag it is sorted by, and its fields. -/
abbrev Block := Tag × List TagValue

/-- The fields of blocks in a row. -/
def fieldsOf (blocks : List Block) : List TagValue := blocks.flatMap (·.2)

variable {groups : List (Tag × GroupDef)} {fs : List TagValue} {bs cs : List Block}

/-- No blocks hold no fields. -/
@[simp] lemma fieldsOf_nil : fieldsOf [] = [] := rfl

/-- The fields of one more block. -/
@[simp] lemma fieldsOf_cons (b bs) : fieldsOf (b :: bs) = b.2 ++ fieldsOf bs := rfl

/-- The fields of blocks after blocks. -/
@[simp] lemma fieldsOf_append (bs cs) : fieldsOf (bs ++ cs) = fieldsOf bs ++ fieldsOf cs :=
  List.flatMap_append

/-! ## Cutting -/

/-- A field of its own, or a counter with members of its group. -/
inductive IsBlock (groups : List (Tag × GroupDef)) : Block → Prop where
  | field {f : TagValue} :
    groups.lookup f.tag = none →
    IsBlock groups (f.tag, [f])
  | group {f : TagValue} {g members} :
    groups.lookup f.tag = some g →
    (∀ x ∈ members, x.tag ∈ g.tags) →
    IsBlock groups (f.tag, f :: members)

/-- Fields cut into blocks, each as long as its members go. -/
inductive Cut (groups : List (Tag × GroupDef)) : List TagValue → List Block → Prop where
  | nil : Cut groups [] []
  | field {f fs bs} :
    groups.lookup f.tag = none →
    Cut groups fs bs →
    Cut groups (f :: fs) ((f.tag, [f]) :: bs)
  | group {f g members rest bs} :
    groups.lookup f.tag = some g →
    (∀ x ∈ members, x.tag ∈ g.tags) →
    (∀ x ∈ rest.head?, x.tag ∉ g.tags) →
    Cut groups rest bs →
    Cut groups (f :: (members ++ rest)) ((f.tag, f :: members) :: bs)

/-- What comes after the members. -/
lemma dropWhile_members (g : GroupDef) (fs : List TagValue) :
    ∀ x ∈ (fs.dropWhile fun x => decide (x.tag ∈ g.tags)).head?, x.tag ∉ g.tags := by
  intro x mem
  have behind := List.head?_dropWhile_not (fun x : TagValue => decide (x.tag ∈ g.tags)) fs
  rw [mem] at behind
  exact of_decide_eq_false behind

/-- What follows on the members of a group. -/
lemma drop_members (g : GroupDef) (fs : List TagValue) :
    fs.drop (fs.takeWhile fun x => decide (x.tag ∈ g.tags)).length =
      fs.dropWhile fun x => decide (x.tag ∈ g.tags) := by
  have whole : fs.takeWhile (fun x => decide (x.tag ∈ g.tags)) ++
      fs.dropWhile (fun x => decide (x.tag ∈ g.tags)) = fs := List.takeWhile_append_dropWhile
  conv_lhs => arg 2; rw [← whole]
  exact List.drop_left

/-- The source cuts fields so. -/
lemma cut_segments {n} (enough : fs.length ≤ n) : Cut groups fs (segments groups n fs) := by
  induction n generalizing fs with
  | zero =>
    obtain rfl := List.eq_nil_of_length_eq_zero (Nat.le_zero.mp enough)
    exact .nil
  | succ n ih =>
    cases fs with
    | nil => exact .nil
    | cons f fs =>
      rw [List.length_cons] at enough
      cases found : groups.lookup f.tag with
      | none =>
        simp only [segments, found]
        exact .field found (ih (by omega))
      | some g =>
        have short : (fs.dropWhile fun x => decide (x.tag ∈ g.tags)).length ≤ fs.length :=
          (List.dropWhile_sublist _).length_le
        have inside : ∀ x ∈ fs.takeWhile fun x => decide (x.tag ∈ g.tags), x.tag ∈ g.tags := fun x mem =>
          of_decide_eq_true (List.all_eq_true.mp List.all_takeWhile x mem)
        have cut := Cut.group found inside (dropWhile_members g fs) (ih (by omega))
        rw [List.takeWhile_append_dropWhile] at cut
        simp only [segments, found, drop_members]
        exact cut

/-- And in no other way. -/
lemma Cut.segments {n} (cut : Cut groups fs bs) (enough : fs.length ≤ n) :
    DataDictionary.segments groups n fs = bs := by
  induction cut generalizing n with
  | nil => cases n <;> rfl
  | @field f fs bs none _ ih =>
    cases n with
    | zero => cases enough
    | succ n =>
      rw [List.length_cons] at enough
      simp only [DataDictionary.segments, none, ih (n := n) (by omega)]
  | @group f g members rest bs found inside behind _ ih =>
    cases n with
    | zero => cases enough
    | succ n =>
      rw [List.length_cons, List.length_append] at enough
      have none : rest.takeWhile (fun x => decide (x.tag ∈ g.tags)) = [] := by
        cases rest with
        | nil => rfl
        | cons x rest => simp [behind x rfl]
      have whole : (members ++ rest).takeWhile (fun x => decide (x.tag ∈ g.tags)) = members := by
        rw [List.takeWhile_append_of_pos fun x mem => decide_eq_true (inside x mem), none,
          List.append_nil]
      simp only [DataDictionary.segments, found, whole, List.drop_left, ih (n := n) (by omega)]

/-- Cutting loses no fields. -/
lemma Cut.fields (cut : Cut groups fs bs) : fieldsOf bs = fs := by
  induction cut with
  | nil => rfl
  | field _ _ ih => rw [fieldsOf_cons, ih]; rfl
  | group _ _ _ _ ih => rw [fieldsOf_cons, ih]; rfl

/-- Cutting leaves blocks. -/
lemma Cut.blocks (cut : Cut groups fs bs) : ∀ b ∈ bs, IsBlock groups b := by
  induction cut with
  | nil => simp
  | field none _ ih => exact List.forall_mem_cons.mpr ⟨.field none, ih⟩
  | group found inside _ _ ih => exact List.forall_mem_cons.mpr ⟨.group found inside, ih⟩

/-- Behind a counter and its members comes a field that is none. -/
lemma Cut.behind {b : Block} {g} (cut : Cut groups fs (bs ++ b :: cs)) (counter : groups.lookup b.1 = some g) :
    ∀ x ∈ (fieldsOf cs).head?, x.tag ∉ g.tags := by
  induction bs generalizing fs with
  | nil =>
    rw [List.nil_append] at cut
    cases cut with
    | field none => cases none.symm.trans counter
    | group found _ behind later =>
      cases found.symm.trans counter
      rw [later.fields]
      exact behind
  | cons a bs ih =>
    rw [List.cons_append] at cut
    cases cut with
    | field _ later => exact ih later
    | group _ _ _ later => exact ih later

/-- No counter is a member of another group. -/
def CountersApart (groups : List (Tag × GroupDef)) : Prop :=
  ∀ c g c' g', groups.lookup c = some g → groups.lookup c' = some g' → c ∈ g'.tags → c = c'

/-! ## Cutting sorted blocks -/

/-- The tag of a block is that of its first field. -/
lemma IsBlock.head {b} (h : IsBlock groups b) : ∃ f members, b = (f.tag, f :: members) := by
  cases h with
  | field => exact ⟨_, [], rfl⟩
  | group => exact ⟨_, _, rfl⟩

/-- A block that starts with a member of a group has members of it alone. -/
lemma IsBlock.inside {b c g} (h : IsBlock groups b) (apart : CountersApart groups)
    (counter : groups.lookup c = some g) (member : b.1 ∈ g.tags) : ∀ x ∈ b.2, x.tag ∈ g.tags := by
  cases h with
  | field => simpa using member
  | @group f g' members found inside =>
    obtain rfl := apart _ _ _ _ found counter member
    cases found.symm.trans counter
    exact List.forall_mem_cons.mpr ⟨member, inside⟩

/-- Blocks in a row are cut into blocks that start where some of them do. -/
lemma exists_cut (apart : CountersApart groups) (blocks : ∀ b ∈ bs, IsBlock groups b) :
    ∃ cs, Cut groups (fieldsOf bs) cs ∧ (cs.map (·.1)).Sublist (bs.map (·.1)) := by
  induction len : bs.length using Nat.strongRecOn generalizing bs with
  | ind n ih =>
    cases bs with
    | nil => exact ⟨[], .nil, List.Sublist.refl _⟩
    | cons b bs =>
      obtain ⟨here, later⟩ := List.forall_mem_cons.mp blocks
      cases here with
      | @field f none =>
        obtain ⟨cs, cut, sub⟩ := ih bs.length (by simp [← len]) later rfl
        exact ⟨_, .field none cut, sub.cons_cons _⟩
      | @group f g members found inside =>
        -- blocks that start with members are taken in
        have whole : bs.takeWhile (fun b => decide (b.1 ∈ g.tags)) ++
            bs.dropWhile (fun b => decide (b.1 ∈ g.tags)) = bs := List.takeWhile_append_dropWhile
        have sub := List.dropWhile_sublist (fun b : Block => decide (b.1 ∈ g.tags)) (l := bs)
        obtain ⟨cs, cut, keys⟩ := ih (bs.dropWhile fun b => decide (b.1 ∈ g.tags)).length
          (by have short := sub.length_le; rw [List.length_cons] at len; omega)
          (fun b mem => later b (sub.subset mem)) rfl
        have taken : ∀ x ∈ members ++ fieldsOf (bs.takeWhile fun b => decide (b.1 ∈ g.tags)),
            x.tag ∈ g.tags := by
          intro x mem
          rcases List.mem_append.mp mem with mem | mem
          · exact inside x mem
          · obtain ⟨b, own, mem⟩ := List.mem_flatMap.mp mem
            have member := of_decide_eq_true (List.all_eq_true.mp List.all_takeWhile b own)
            exact (later b (List.takeWhile_subset _ own)).inside apart found member x mem
        have stop : ∀ x ∈ (fieldsOf (bs.dropWhile fun b => decide (b.1 ∈ g.tags))).head?,
            x.tag ∉ g.tags := by
          intro x mem
          have behind := List.head?_dropWhile_not (fun b : Block => decide (b.1 ∈ g.tags)) bs
          cases rest : bs.dropWhile fun b => decide (b.1 ∈ g.tags) with
          | nil =>
            rw [rest] at mem
            cases mem
          | cons b rest' =>
            rw [rest] at mem behind
            obtain ⟨f', members', rfl⟩ := (later b (sub.subset (by rw [rest]; simp))).head
            cases mem
            exact of_decide_eq_false behind
        have cut' := Cut.group found taken stop cut
        rw [List.append_assoc, ← fieldsOf_append, whole] at cut'
        exact ⟨_, cut', (keys.trans (sub.map _)).cons_cons _⟩

/-- Sorted blocks stay as they are. -/
lemma canonical_sorted (apart : CountersApart groups) (blocks : ∀ b ∈ bs, IsBlock groups b)
    (sorted : bs.Pairwise (·.1 ≤ ·.1)) {n} (enough : (fieldsOf bs).length ≤ n) :
    fieldsOf ((segments groups n (fieldsOf bs)).insertionSort (·.1 ≤ ·.1)) = fieldsOf bs := by
  obtain ⟨cs, cut, sub⟩ := exists_cut apart blocks
  have ordered : cs.Pairwise (·.1 ≤ ·.1) :=
    List.pairwise_map.mp ((List.pairwise_map.mpr sorted).sublist sub)
  rw [cut.segments enough, ordered.insertionSort_eq, cut.fields]

/-! ## Fields that stay together -/

/-- The canonical order of the fields of a body. -/
def canonical (groups : List (Tag × GroupDef)) (fs : List TagValue) : List TagValue :=
  fieldsOf ((segments groups fs.length fs).insertionSort (·.1 ≤ ·.1))

/-- The segments are sorted by their tag, in place where it is the same. -/
lemma sorted_segments (groups : List (Tag × GroupDef)) (fs : List TagValue) :
    StablySorted (· ≤ ·) Prod.fst (segments groups fs.length fs)
      ((segments groups fs.length fs).insertionSort (·.1 ≤ ·.1)) :=
  stablySorted_insertionSort (· ≤ ·) Prod.fst _

/-- Sorting loses no segments. -/
lemma perm_segments (groups : List (Tag × GroupDef)) (fs : List TagValue) :
    ((segments groups fs.length fs).insertionSort (·.1 ≤ ·.1)).Perm (segments groups fs.length fs) :=
  List.perm_insertionSort _ _

/-- Canonicalization moves fields. -/
lemma perm_canonical (groups : List (Tag × GroupDef)) (fs : List TagValue) : (canonical groups fs).Perm fs := by
  have cut : Cut groups fs (segments groups fs.length fs) := cut_segments (le_refl fs.length)
  conv_rhs => rw [← cut.fields]
  exact (perm_segments groups fs).flatMap_right _

/-- A field is cut off in one place when no other has its tag. -/
lemma split_once {t : Tag} {x y : TagValue} {ls rs ls' rs' : List TagValue}
    (same : ls ++ x :: rs = ls' ++ y :: rs') (once : (ls ++ x :: rs).countP (·.tag = t) = 1)
    (tag : x.tag = t) (tag' : y.tag = t) : ls = ls' ∧ x = y ∧ rs = rs' := by
  have before {ks vs : List TagValue} {z : TagValue} (tag : z.tag = t)
      (once : (ks ++ z :: vs).countP (·.tag = t) = 1) :
      (ks ++ z :: vs).takeWhile (fun f => decide (f.tag ≠ t)) = ks := by
    rw [List.countP_append, List.countP_cons_of_pos (by simp [tag])] at once
    have none : ks.countP (·.tag = t) = 0 := by omega
    rw [List.takeWhile_append_of_pos, List.takeWhile_cons_of_neg (by simp [tag]), List.append_nil]
    intro f mem
    simpa using List.countP_eq_zero.mp none f mem
  have front : ls = ls' := by
    rw [← before tag once, same, before tag' (same ▸ once)]
  subst front
  have rest := List.append_cancel_left same
  exact ⟨rfl, List.cons.inj rest⟩

/-- Of a pair in one block, or of two blocks that nothing sorts between, the one stays next to the
other. -/
lemma canonical_adjacent {t : Tag} {x y : TagValue} {pre post : List TagValue}
    (split : fs = pre ++ x :: y :: post) (tag : x.tag = t) (tag' : y.tag = t + 1)
    (once : fs.countP (·.tag = t) = 1) (once' : fs.countP (·.tag = t + 1) = 1)
    (place : (∃ b ∈ segments groups fs.length fs, x ∈ b.2 ∧ y ∈ b.2) ∨
      (t, [x]) ∈ segments groups fs.length fs ∧ (t + 1, [y]) ∈ segments groups fs.length fs) :
    ∃ pre' post', canonical groups fs = pre' ++ x :: y :: post' := by
  have cut : Cut groups fs (segments groups fs.length fs) := cut_segments (le_refl _)
  have next := Int.lt_succ t
  have apart : x.tag ≠ t + 1 ∧ y.tag ≠ t := by
    rw [tag, tag']
    exact ⟨next.ne, next.ne'⟩
  rcases place with ⟨b, mem, left, right⟩ | ⟨left, right⟩
  · obtain ⟨ls, rs, blocks⟩ := List.append_of_mem mem
    obtain ⟨ks, vs, fields⟩ := List.append_of_mem left
    have whole : fs = (fieldsOf ls ++ ks) ++ x :: (vs ++ fieldsOf rs) := by
      rw [← cut.fields, blocks, fieldsOf_append, fieldsOf_cons, fields]
      simp
    obtain ⟨-, -, rest⟩ := split_once (whole.symm.trans split) (whole ▸ once) tag tag
    have second : ∃ vs', vs = y :: vs' := by
      cases vs with
      | cons v vs => exact ⟨vs, by rw [(List.cons.inj rest).1]⟩
      | nil =>
        -- the other would be in the block and behind it
        exfalso
        rw [fields] at right
        have own : y ∈ ks := by
          simp only [List.mem_append, List.mem_singleton] at right
          rcases right with own | same
          · exact own
          · exact absurd (same ▸ tag) apart.2
        rw [split, List.countP_append, List.countP_cons_of_neg (by simpa using apart.1),
          List.countP_cons_of_pos (by simpa using tag')] at once'
        have front : pre = fieldsOf ls ++ ks := (split_once (split.symm.trans whole) (split ▸ once) tag tag).1
        have none : pre.countP (·.tag = t + 1) = 0 := by omega
        exact absurd tag' (by simpa using List.countP_eq_zero.mp none y (by simp [front, own]))
    obtain ⟨vs', rfl⟩ := second
    obtain ⟨ls', rs', sorted⟩ := List.append_of_mem ((perm_segments groups fs).mem_iff.mpr mem)
    refine ⟨fieldsOf ls' ++ ks, vs' ++ fieldsOf rs', ?_⟩
    rw [canonical, sorted, fieldsOf_append, fieldsOf_cons, fields]
    simp
  · have only {z : TagValue} {k : Tag} (mem : (k, [z]) ∈ segments groups fs.length fs) (tag : z.tag = k)
        (once : fs.countP (·.tag = k) = 1) :
        (segments groups fs.length fs).filter (·.1 = k) = [(k, [z])] := by
      obtain ⟨ls, rs, blocks⟩ := List.append_of_mem mem
      have whole : fs = fieldsOf ls ++ z :: fieldsOf rs := by
        conv_lhs => rw [← cut.fields, blocks, fieldsOf_append, fieldsOf_cons]
        rfl
      rw [whole, List.countP_append, List.countP_cons_of_pos (by simpa using tag)] at once
      have none {ks : List Block} (zero : (fieldsOf ks).countP (·.tag = k) = 0)
          (own : ∀ b ∈ ks, IsBlock groups b) : ks.filter (·.1 = k) = [] := by
        refine List.filter_eq_nil_iff.mpr fun b mem key => ?_
        obtain ⟨f, members, rfl⟩ := (own b mem).head
        have here := List.countP_eq_zero.mp zero f (List.mem_flatMap.mpr ⟨_, mem, List.mem_cons_self⟩)
        exact here key
      have own := cut.blocks
      rw [blocks] at own
      rw [blocks, List.filter_append, List.filter_cons_of_pos (by simp), none (by omega)
        fun b mem => own b (List.mem_append_left _ mem), none (by omega) fun b mem =>
          own b (List.mem_append_right _ (List.mem_cons_of_mem _ mem))]
      rfl
    have sorted := (sorted_segments groups fs).split_pair next.le next.ne fun b _ lo hi =>
      (eq_or_lt_of_le lo).imp Eq.symm fun above => le_antisymm hi (Int.add_one_le_of_lt above)
    rw [only left tag once, only right tag' once'] at sorted
    have fields := congrArg fieldsOf sorted
    rw [fieldsOf_append] at fields
    exact ⟨_, _, fields⟩

/-! ## Groups that are read -/

/-- The members of the groups of a message stand in the runs that directly follow their counters. -/
def InRuns (groups : List (Tag × GroupDef)) (fs : List TagValue) : Prop :=
  ∀ before f after, fs = before ++ f :: after →
    (∃ c g, groups.lookup c = some g ∧ f.tag ∈ g.tags) →
    ∃ c g start x run, groups.lookup c = some g ∧ f.tag ∈ g.tags ∧
      before = start ++ x :: run ∧ x.tag = c ∧ ∀ r ∈ run, r.tag ∈ g.tags

/-- A field of blocks in a row is in one of them. -/
lemma fieldsOf_split {x : TagValue} {start run : List TagValue} (split : fieldsOf bs = start ++ x :: run) :
    ∃ ls b rs ks vs, bs = ls ++ b :: rs ∧ b.2 = ks ++ x :: vs ∧ run = vs ++ fieldsOf rs := by
  induction bs generalizing start with
  | nil => simp at split
  | cons b bs ih =>
    rw [fieldsOf_cons] at split
    rcases List.append_eq_append_iff.mp split with ⟨as, rfl, rest⟩ | ⟨as, here, rest⟩
    · obtain ⟨ls, b', rs, ks, vs, rfl, fields, run⟩ := ih rest
      exact ⟨b :: ls, b', rs, ks, vs, rfl, fields, run⟩
    · cases as with
      | nil =>
        have here : fieldsOf bs = [] ++ x :: run := by simpa using rest.symm
        obtain ⟨ls, b', rs, ks, vs, rfl, fields, run⟩ := ih here
        exact ⟨b :: ls, b', rs, ks, vs, rfl, fields, run⟩
      | cons a as =>
        obtain ⟨rfl, tail⟩ := List.cons.inj rest
        exact ⟨[], b, bs, start, as, rfl, here, tail⟩

/-- With members in their runs no block starts with one. -/
lemma head_of_inRuns (apart : CountersApart groups) (cut : Cut groups fs bs) (runs : InRuns groups fs)
    {c g} (counter : groups.lookup c = some g) : ∀ b ∈ bs, b.1 ∉ g.tags := by
  intro b mem member
  obtain ⟨ls, rs, rfl⟩ := List.append_of_mem mem
  obtain ⟨f, members, rfl⟩ := (cut.blocks b mem).head
  have whole : fs = fieldsOf ls ++ f :: (members ++ fieldsOf rs) := by
    rw [← cut.fields, fieldsOf_append, fieldsOf_cons, List.cons_append]
  obtain ⟨c', g', start, x, run, counter', own, front, tag, inside⟩ :=
    runs _ _ _ whole ⟨c, g, counter, member⟩
  obtain ⟨ls', b', rs', ks, vs, rfl, fields, rfl⟩ := fieldsOf_split front
  -- the block of the counter goes on up to the field
  have key : b'.1 = c' := by
    have block := cut.blocks b' (by simp)
    cases block with
    | @field f' =>
      rw [← tag]
      cases ks with
      | nil => rw [(List.cons.inj fields).1]
      | cons k ks => simp at fields
    | @group f' g'' members' found inside' =>
      cases ks with
      | nil =>
        rw [← tag]
        rw [(List.cons.inj fields).1]
      | cons k ks =>
        have mem' : x ∈ members' := by
          rw [(List.cons.inj fields).2]
          simp
        exact (apart _ _ _ _ counter' found (tag ▸ inside' x mem')).symm
  have split : ls' ++ b' :: rs' ++ (f.tag, f :: members) :: rs =
      ls' ++ b' :: (rs' ++ (f.tag, f :: members) :: rs) := by simp
  rw [split] at cut
  have stop := cut.behind (key ▸ counter')
  rw [fieldsOf_append, fieldsOf_cons] at stop
  cases next : fieldsOf rs' with
  | nil =>
    rw [next] at stop
    exact stop f rfl own
  | cons r rs'' =>
    rw [next] at stop inside
    exact stop r rfl (inside r (by simp))

variable {c : Tag} {g : GroupDef}

/-- A block without the counter at its head is without it, unless it is a member of its own group. -/
lemma counter_not_mem {b} (block : IsBlock groups b) (apart : CountersApart groups)
    (counter : groups.lookup c = some g) (other : b.1 ≠ c) : ∀ x ∈ b.2, x.tag ≠ c := by
  intro x mem tag
  cases block with
  | field => exact other (List.mem_singleton.mp mem ▸ tag)
  | group found inside =>
    rcases List.mem_cons.mp mem with rfl | mem
    · exact other tag
    · exact other (apart _ _ _ _ counter found (tag ▸ inside x mem)).symm

/-- A group is read from the first block of its counter. -/
lemma readGroups_fieldsOf {t : GroupTemplate} (apart : CountersApart groups)
    (blocks : ∀ b ∈ bs, IsBlock groups b) (counter : groups.lookup c = some g) (num : t.numTag = c)
    (members : ∀ tag, t.isMember tag = true → tag ∈ g.tags) (heads : ∀ b ∈ bs, b.1 ∉ g.tags) :
    FieldMap.readGroups ⟨fieldsOf bs⟩ t =
      match bs.find? (·.1 = c) with
      | none => .ok []
      | some b => FieldMap.readGroups ⟨b.2⟩ t := by
  cases found : bs.find? (·.1 = c) with
  | none =>
    have others := List.find?_eq_none.mp found
    have empty : (fieldsOf bs).dropWhile (·.tag ≠ t.numTag) = [] := by
      refine List.dropWhile_eq_nil_iff.mpr fun x mem => ?_
      obtain ⟨b, own, mem⟩ := List.mem_flatMap.mp mem
      rw [num]
      exact decide_eq_true
        (counter_not_mem (blocks b own) apart counter (by simpa using others b own) x mem)
    rw [FieldMap.readGroups, empty]
  | some b =>
    obtain ⟨key, ls, rs, rfl, others⟩ := List.find?_eq_some_iff_append.mp found
    obtain ⟨f, fs, rfl⟩ := (blocks b (by simp)).head
    have tag : f.tag = c := of_decide_eq_true key
    rw [fieldsOf_append, fieldsOf_cons]
    apply FieldMap.readGroups_block
    · intro x mem
      obtain ⟨b, own, mem⟩ := List.mem_flatMap.mp mem
      rw [num]
      refine counter_not_mem (blocks b (by simp [own])) apart counter ?_ x mem
      simpa using others b own
    · rw [tag, num]
    · intro x mem
      cases rs with
      | nil => cases mem
      | cons b rs =>
        obtain ⟨f', fs', rfl⟩ := (blocks b (by simp)).head
        cases mem
        cases member : t.isMember x.tag with
        | false => rfl
        | true => exact absurd (members x.tag member) (heads (x.tag, x :: fs') (by simp))

/-! ## Canonical messages -/

/-- What canonicalization keeps of a message of the type `mt`, which `d` defines: the fields, its own
result, the order of blocks that start with one tag and of fields that are in no group, neighbours, and
the groups whose members are in their runs. -/
structure Canonicalized (dd : DataDictionary) (mt : Bytes) (d : MessageDef) (m m' : Message) : Prop where
  perm : m'.body.fields.Perm m.body.fields
  again : dd.canonicalizeBody m' = m'
  ordered : ∃ blocks, m'.body.fields = fieldsOf blocks ∧
    StablySorted (· ≤ ·) Prod.fst (segments d.groups m.body.fields.length m.body.fields) blocks
  outside : ∀ t, (∀ c g, d.groups.lookup c = some g → t ∉ g.tags) →
    m'.body.fields.filter (·.tag = t) = m.body.fields.filter (·.tag = t)
  adjacent : ∀ t x y pre post, m.body.fields = pre ++ x :: y :: post → x.tag = t → y.tag = t + 1 →
    m.body.fields.countP (·.tag = t) = 1 → m.body.fields.countP (·.tag = t + 1) = 1 →
    ((∃ b ∈ segments d.groups m.body.fields.length m.body.fields, x ∈ b.2 ∧ y ∈ b.2) ∨
      (t, [x]) ∈ segments d.groups m.body.fields.length m.body.fields ∧
        (t + 1, [y]) ∈ segments d.groups m.body.fields.length m.body.fields) →
    ∃ pre' post', m'.body.fields = pre' ++ x :: y :: post'
  groups : InRuns d.groups m.body.fields → ∀ c t, dd.groupTemplate mt c = some t →
    m'.body.readGroups t = m.body.readGroups t

variable {dd : DataDictionary} {m : Message} {mt : Bytes} {d : MessageDef}

/-- What `canonicalize_body` makes of a message that is defined. -/
lemma canonicalizeBody_eq (type : m.msgType = .ok mt) (found : dd.messages.lookup mt = some d) :
    dd.canonicalizeBody m = { m with body := ⟨canonical d.groups m.body.fields⟩ } := by
  simp only [canonicalizeBody, type, found]
  rfl

/-- The template of a group has its members. -/
lemma of_groupTemplate {t} (found : dd.messages.lookup mt = some d)
    (delimiters : ∀ e ∈ d.groups, e.2.delimiter ∈ e.2.tags) (template : dd.groupTemplate mt c = some t) :
    ∃ g, d.groups.lookup c = some g ∧ t.numTag = c ∧ ∀ tag, t.isMember tag = true → tag ∈ g.tags := by
  rw [groupTemplate, found] at template
  simp only at template
  split at template
  case h_1 => cases template
  case h_2 g counter =>
    cases template
    refine ⟨g, counter, rfl, fun tag member => ?_⟩
    obtain ⟨ls, rs, entries, -⟩ := List.lookup_eq_some_iff.mp counter
    rcases List.mem_cons.mp (List.contains_iff_mem.mp member) with rfl | mem
    · exact delimiters (c, g) (by simp [entries])
    · exact (List.mem_filter.mp mem).1

/-- Blocks have the fields that are in no group at their heads. -/
lemma filter_fieldsOf {t : Tag} (blocks : ∀ b ∈ bs, IsBlock groups b)
    (outside : ∀ c g, groups.lookup c = some g → t ∉ g.tags) :
    (fieldsOf bs).filter (·.tag = t) = (bs.filter (·.1 = t)).filterMap (·.2.head?) := by
  induction bs with
  | nil => rfl
  | cons b bs ih =>
    obtain ⟨here, later⟩ := List.forall_mem_cons.mp blocks
    obtain ⟨f, members, rfl, others⟩ : ∃ f members, b = (f.tag, f :: members) ∧
        members.filter (·.tag = t) = [] := by
      cases here with
      | field => exact ⟨_, [], rfl, rfl⟩
      | group found inside =>
        refine ⟨_, _, rfl, List.filter_eq_nil_iff.mpr fun x mem own => ?_⟩
        exact outside _ _ found (of_decide_eq_true own ▸ inside x mem)
    rw [fieldsOf_cons, List.filter_append, ih later, List.filter_cons, List.filter_cons, others]
    by_cases own : f.tag = t
    · simp [own]
    · simp [own]

/-- Canonicalization keeps a body whose group counters are no members of other groups. -/
theorem canonicalizeBody_preserves (type : m.msgType = .ok mt) (found : dd.messages.lookup mt = some d)
    (apart : CountersApart d.groups) (delimiters : ∀ e ∈ d.groups, e.2.delimiter ∈ e.2.tags) :
    dd.Canonicalized mt d m (dd.canonicalizeBody m) := by
  have cut : Cut d.groups m.body.fields (segments d.groups _ m.body.fields) :=
    cut_segments (le_refl m.body.fields.length)
  have sorted := sorted_segments d.groups m.body.fields
  have perm := perm_segments d.groups m.body.fields
  have blocks : ∀ b ∈ (segments d.groups m.body.fields.length m.body.fields).insertionSort
      (·.1 ≤ ·.1), IsBlock d.groups b := fun b mem => cut.blocks b (perm.mem_iff.mp mem)
  rw [canonicalizeBody_eq type found]
  constructor
  case perm => exact perm_canonical d.groups m.body.fields
  case again =>
    have type' : Message.msgType { m with body := ⟨canonical d.groups m.body.fields⟩ } = .ok mt := type
    rw [canonicalizeBody_eq type' found]
    have same := canonical_sorted apart blocks sorted.ordered (le_refl _)
    rw [← canonical, ← canonical] at same
    simp only [same]
  case ordered => exact ⟨_, rfl, sorted⟩
  case outside =>
    intro t none
    show (fieldsOf _).filter _ = _
    conv_rhs => rw [← cut.fields]
    rw [filter_fieldsOf blocks none, filter_fieldsOf cut.blocks none, sorted.stable t]
  case adjacent =>
    intro t x y pre post split tag tag' once once' place
    exact canonical_adjacent split tag tag' once once' place
  case groups =>
    intro runs c t template
    obtain ⟨g, counter, num, members⟩ := of_groupTemplate found delimiters template
    have heads := head_of_inRuns apart cut runs counter
    have whole : m.body = ⟨fieldsOf (segments d.groups m.body.fields.length m.body.fields)⟩ := by
      rw [cut.fields]
    conv_rhs => rw [whole]
    show FieldMap.readGroups ⟨fieldsOf _⟩ t = _
    rw [readGroups_fieldsOf apart blocks counter num members fun b mem => heads b (perm.mem_iff.mp mem),
      readGroups_fieldsOf apart cut.blocks counter num members heads, sorted.find?_eq c]

/-- The order of a party, with a field in front of its symbol that comes after it. -/
theorem canonicalizeBody_preserves_parties :
    let order := orderOf [(58, "t"), (55, "X"), (453, "1"), (448, "A"), (447, "D")]
    ∃ d, partiesDictionary.Canonicalized (ascii "D") d order
      (partiesDictionary.canonicalizeBody order) := by
  have defined : (partiesDictionary.messages.lookup (ascii "D")).map (fun d =>
      d.groups.map (·.1)) = some [453] := by decide +kernel
  obtain ⟨d, found, keys⟩ := Option.map_eq_some_iff.mp defined
  have key {c g} (counter : d.groups.lookup c = some g) : c = 453 := by
    obtain ⟨ls, rs, entries, -⟩ := List.lookup_eq_some_iff.mp counter
    have mem : c ∈ d.groups.map (·.1) := by simp [entries]
    rw [keys] at mem
    exact List.mem_singleton.mp mem
  obtain ⟨ls, rs, entries, -⟩ := List.lookup_eq_some_iff.mp found
  refine ⟨d, canonicalizeBody_preserves rfl found (fun c g c' g' counter counter' _ => ?_) ?_⟩
  · rw [key counter, key counter']
  · exact parse_delimiters loaded_parties (ascii "D", d) (by simp [entries])

end QuickFix.DataDictionary
