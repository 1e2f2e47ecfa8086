import QuickFix.Wire.Stash
import Mathlib.Order.Lattice

/-!
# Tokens

What the parser makes of accepted bytes, token by token: the bytes are the tokens one after another,
each section of the message has the tokens of its tags in their order, and `structureError` is the tag
of the first token that stands behind one of a later section (`parse_tokens`).
-/

namespace QuickFix.Message

variable {fs before : List WireField} {f : WireField}

/-- A token that comes too late: one of the header behind one that is not, or one of the body behind
one of the trailer. -/
inductive Late (before : List WireField) (f : WireField) : Prop
  | header {g} : Tags.isHeaderTag f.tag = true → g ∈ before → Tags.isHeaderTag g.tag = false →
      Late before f
  | body {g} : Tags.isBodyTag f.tag = true → g ∈ before → Tags.isTrailerTag g.tag = true →
      Late before f

/-- None of the tokens comes too late. -/
def InOrder (fs : List WireField) : Prop := ∀ before f after, fs = before ++ f :: after → ¬ Late before f

/-- The first token that comes too late has the tag. -/
def FirstLate (fs : List WireField) (t : Tag) : Prop :=
  ∃ before f after, fs = before ++ f :: after ∧ InOrder before ∧ Late before f ∧ f.tag = t

/-- Header fields, then body fields, then trailer fields. -/
def Sectioned (fs : List WireField) : Prop :=
  ∃ hs bs ts, fs = hs ++ (bs ++ ts) ∧ (∀ f ∈ hs, Tags.isHeaderTag f.tag = true) ∧
    (∀ f ∈ bs, Tags.isBodyTag f.tag = true) ∧ ∀ f ∈ ts, Tags.isTrailerTag f.tag = true

/-- The tokens of a message: they are its bytes and its fields, in the sections of their tags. -/
structure Tokens (raw : Bytes) (m : Message) (fs : List WireField) : Prop where
  bytes : raw = fs.flatMap fun f => f.tagBytes ++ 61 :: (f.value ++ [soh])
  spelled : ∀ f ∈ fs, 61 ∉ f.tagBytes ∧ parseSigned 32 f.tagBytes = some f.tag
  header : m.header.fields = (values fs).filter (Tags.isHeaderTag ·.tag)
  body : m.body.fields = (values fs).filter (Tags.isBodyTag ·.tag)
  trailer : m.trailer.fields = (values fs).filter (Tags.isTrailerTag ·.tag)
  own : ∀ f ∈ fs, [Tags.isHeaderTag f.tag, Tags.isBodyTag f.tag, Tags.isTrailerTag f.tag].count
    true = 1
  first : ∀ f, fs[0]? = some f → f.tag = Tags.beginString
  second : ∀ f, fs[1]? = some f → f.tag = Tags.bodyLength
  third : ∀ f, fs[2]? = some f → f.tag = Tags.msgType
  ordered : m.structureError = none ↔ Sectioned fs
  late : ∀ t, m.structureError = some t ↔ FirstLate fs t

/-! ## Late tokens -/

/-- A token is late when one of a later section stands before it. -/
lemma late_iff : Late before f ↔ ∃ g ∈ before, (sectionOf f.tag).rank < (sectionOf g.tag).rank := by
  constructor
  · intro late
    cases late with
    | @header g own mem other =>
      refine ⟨g, mem, ?_⟩
      rw [sectionOf_header own]
      unfold sectionOf
      rw [other]
      cases Tags.isTrailerTag g.tag <;> decide
    | @body g own mem other =>
      refine ⟨g, mem, ?_⟩
      rw [sectionOf_body own, sectionOf_trailer other]
      decide
  · rintro ⟨g, mem, lt⟩
    cases header : Tags.isHeaderTag f.tag with
    | true =>
      refine .header header mem ?_
      cases header' : Tags.isHeaderTag g.tag with
      | true =>
        rw [sectionOf_header header, sectionOf_header header'] at lt
        exact absurd lt (lt_irrefl _)
      | false => rfl
    | false =>
      cases trailer : Tags.isTrailerTag f.tag with
      | true =>
        rw [sectionOf_trailer trailer] at lt
        cases part : sectionOf g.tag <;> rw [part] at lt <;> exact absurd lt (by decide)
      | false =>
        have body : Tags.isBodyTag f.tag = true := by simp [Tags.isBodyTag, header, trailer]
        refine .body body mem ?_
        rw [sectionOf_body body] at lt
        cases trailer' : Tags.isTrailerTag g.tag with
        | true => rfl
        | false =>
          unfold sectionOf at lt
          rw [trailer'] at lt
          cases header' : Tags.isHeaderTag g.tag <;> rw [header'] at lt <;> exact absurd lt (by decide)

/-- One more token. -/
lemma inOrder_snoc : InOrder (fs ++ [f]) ↔ InOrder fs ∧ ¬ Late fs f := by
  constructor
  · intro h
    refine ⟨fun before g after split => h before g (after ++ [f]) ?_, h fs f [] rfl⟩
    rw [split, List.append_assoc]
    rfl
  · rintro ⟨inOrder, last⟩ before g after split
    cases after using List.reverseRecOn with
    | nil =>
      obtain ⟨rfl, same⟩ := List.append_inj' split rfl
      cases same
      exact last
    | append_singleton after d =>
      rw [← List.cons_append, ← List.append_assoc] at split
      obtain ⟨same, -⟩ := List.append_inj' split rfl
      exact inOrder before g after same

/-- One more token comes first too late. -/
lemma firstLate_snoc {t} : FirstLate (fs ++ [f]) t ↔
    FirstLate fs t ∨ InOrder fs ∧ Late fs f ∧ f.tag = t := by
  constructor
  · rintro ⟨before, g, after, split, inOrder, late, tag⟩
    cases after using List.reverseRecOn with
    | nil =>
      obtain ⟨rfl, same⟩ := List.append_inj' split rfl
      cases same
      exact .inr ⟨inOrder, late, tag⟩
    | append_singleton after d =>
      rw [← List.cons_append, ← List.append_assoc] at split
      obtain ⟨same, -⟩ := List.append_inj' split rfl
      exact .inl ⟨before, g, after, same, inOrder, late, tag⟩
  · rintro (⟨before, g, after, rfl, rest⟩ | rest)
    · exact ⟨before, g, after ++ [f], by simp, rest⟩
    · exact ⟨fs, f, [], rfl, rest⟩

/-! ## The parser's bookkeeping -/

/-- The parser goes on to later sections only. -/
lemma routeField_part (st : ParseState) (pos tv) :
    (routeField st pos tv).part.rank = max st.part.rank (sectionOf tv.tag).rank := by
  unfold routeField sectionOf
  by_cases sum : tv.tag = Tags.checkSum
  · have classes : Tags.isHeaderTag Tags.checkSum = false ∧ Tags.isTrailerTag Tags.checkSum = true := by
      decide
    cases st.part <;> simp [sum, classes, Section.rank]
  rw [if_neg sum]
  cases Tags.isHeaderTag tv.tag with
  | true => cases st.part <;> rfl
  | false => cases Tags.isTrailerTag tv.tag <;> cases st.part <;> rfl

/-- It records the first field of a section it has passed. -/
lemma routeField_error (st : ParseState) (pos tv) :
    (routeField st pos tv).msg.structureError = (st.msg.structureError <|>
      if (sectionOf tv.tag).rank < st.part.rank then some tv.tag else none) := by
  unfold routeField sectionOf
  by_cases sum : tv.tag = Tags.checkSum
  · have classes : Tags.isHeaderTag Tags.checkSum = false ∧ Tags.isTrailerTag Tags.checkSum = true := by
      decide
    cases st.part <;> simp [sum, classes, Section.rank]
  rw [if_neg sum]
  cases Tags.isHeaderTag tv.tag with
  | true => cases st.part <;> simp [Section.rank]
  | false => cases Tags.isTrailerTag tv.tag <;> cases st.part <;> simp [Section.rank]

/-- Behind some fields the parser is in the last of their sections. -/
lemma part_lt {pos} : (sectionOf f.tag).rank < ((({} : ParseState).afterAll pos fs).part).rank ↔
    Late fs f := by
  rw [late_iff]
  induction fs using List.reverseRecOn with
  | nil => simp [ParseState.afterAll, Section.rank]
  | append_singleton fs g ih =>
    have step : ((({} : ParseState).afterAll pos (fs ++ [g])).part).rank =
        max (({} : ParseState).afterAll pos fs).part.rank (sectionOf g.tag).rank := by
      rw [afterAll_append]
      exact routeField_part _ _ _
    rw [step, lt_sup_iff, ih]
    simp [or_and_right, exists_or]

/-- What the parser has recorded. -/
lemma structureError_eq {pos} :
    ((({} : ParseState).afterAll pos fs).msg.structureError = none ↔ InOrder fs) ∧
      ∀ t, (({} : ParseState).afterAll pos fs).msg.structureError = some t ↔ FirstLate fs t := by
  induction fs using List.reverseRecOn with
  | nil => simp [ParseState.afterAll, InOrder, FirstLate]
  | append_singleton fs f ih =>
    obtain ⟨none, some⟩ := ih
    have step : (({} : ParseState).afterAll pos (fs ++ [f])).msg.structureError =
        ((({} : ParseState).afterAll pos fs).msg.structureError <|>
          if (sectionOf f.tag).rank < (({} : ParseState).afterAll pos fs).part.rank then Option.some f.tag
          else Option.none) := by
      rw [afterAll_append]
      exact routeField_error _ _ _
    rw [step, inOrder_snoc]
    simp only [firstLate_snoc]
    cases error : (({} : ParseState).afterAll pos fs).msg.structureError with
    | none =>
      have inOrder := none.mp error
      have early (t) : ¬ FirstLate fs t := by
        intro first
        rw [(some t).mpr first] at error
        cases error
      by_cases late : Late fs f
      · rw [if_pos (part_lt.mpr late)]
        simp [inOrder, early, late]
      · rw [if_neg fun lt => late (part_lt.mp lt)]
        simp [inOrder, early, late]
    | some u =>
      have wrong : ¬ InOrder fs := by
        intro inOrder
        rw [none.mpr inOrder] at error
        cases error
      have first (t) : FirstLate fs t ↔ u = t := by
        rw [← some t, error, Option.some.injEq]
      simp [wrong, first]

/-- Tokens that are in order are those of the header, those of the body and those of the trailer. -/
lemma inOrder_iff : InOrder fs ↔ Sectioned fs := by
  constructor
  · intro h
    induction fs using List.reverseRecOn with
    | nil => exact ⟨[], [], [], rfl, by simp, by simp, by simp⟩
    | append_singleton fs f ih =>
      obtain ⟨inOrder, last⟩ := inOrder_snoc.mp h
      obtain ⟨hs, bs, ts, rfl, header, body, trailer⟩ := ih inOrder
      cases isHeader : Tags.isHeaderTag f.tag with
      | true =>
        -- nothing but header fields stands before it
        have none {g} (mem : g ∈ bs ++ ts) : False := by
          apply last
          refine .header isHeader (List.mem_append_right hs mem) ?_
          cases List.mem_append.mp mem with
          | inl mem => exact (Tags.of_isBodyTag (body g mem)).1
          | inr mem => exact (Tags.of_isTrailerTag (trailer g mem)).1
        have empty := List.eq_nil_iff_forall_not_mem.mpr fun g => none (g := g)
        refine ⟨hs ++ [f], [], [], by simp [empty], ?_, by simp, by simp⟩
        intro g mem
        cases List.mem_append.mp mem with
        | inl mem => exact header g mem
        | inr mem => exact List.mem_singleton.mp mem ▸ isHeader
      | false =>
        cases isTrailer : Tags.isTrailerTag f.tag with
        | true =>
          refine ⟨hs, bs, ts ++ [f], by simp, header, body, ?_⟩
          intro g mem
          cases List.mem_append.mp mem with
          | inl mem => exact trailer g mem
          | inr mem => exact List.mem_singleton.mp mem ▸ isTrailer
        | false =>
          have isBody : Tags.isBodyTag f.tag = true := by simp [Tags.isBodyTag, isHeader, isTrailer]
          have empty : ts = [] := by
            apply List.eq_nil_iff_forall_not_mem.mpr
            intro g mem
            exact last (.body isBody (by simp [mem]) (trailer g mem))
          refine ⟨hs, bs ++ [f], [], by simp [empty], header, ?_, by simp⟩
          intro g mem
          cases List.mem_append.mp mem with
          | inl mem => exact body g mem
          | inr mem => exact List.mem_singleton.mp mem ▸ isBody
  · rintro ⟨hs, bs, ts, rfl, header, body, trailer⟩ before f after split late
    obtain ⟨g, mem, lt⟩ := late_iff.mp late
    have pairs : (values (hs ++ (bs ++ ts))).Pairwise
        fun x y : TagValue => (sectionOf x.tag).rank ≤ (sectionOf y.tag).rank := by
      rw [values, List.map_append, List.map_append]
      refine pairwise_sections (p := .header) ?_ (fun g _ => Nat.zero_le _) ?_
      · exact List.forall_mem_map.mpr fun f mem => sectionOf_header (header f mem)
      refine pairwise_sections (p := .body) ?_ ?_ (pairwise_section (p := .trailer) ?_)
      · exact List.forall_mem_map.mpr fun f mem => sectionOf_body (body f mem)
      · refine List.forall_mem_map.mpr fun f mem => ?_
        rw [sectionOf_trailer (trailer f mem)]
        decide
      · exact List.forall_mem_map.mpr fun f mem => sectionOf_trailer (trailer f mem)
    rw [split, values, List.pairwise_map, List.pairwise_append] at pairs
    exact absurd (pairs.2.2 g mem f List.mem_cons_self) (not_le.mpr lt)

/-! ## What is parsed -/

/-- A token in its place. -/
lemma fits_at {n pending i} (fields : Fields n pending fs) (here : fs[i]? = some f) :
    ∃ pending, f.Fits (n + i) pending := by
  induction fs generalizing n pending i with
  | nil => cases here
  | cons g fs ih =>
    cases i with
    | zero =>
      cases here
      exact ⟨pending, fields.1⟩
    | succ i =>
      obtain ⟨pending, fits⟩ := ih fields.2 here
      exact ⟨pending, by rwa [Nat.add_right_comm, Nat.add_assoc] at fits⟩

/-- Accepted bytes are the tokens of the message, one after another. -/
theorem parse_tokens {raw : Bytes} {m : Message} (accepted : parse raw false = .ok m) :
    ∃ fs, Tokens raw m fs := by
  obtain ⟨fs, fields, rfl, rfl⟩ := fields_of_parse accepted
  obtain ⟨header, body, trailer⟩ := afterAll_message fs
  obtain ⟨none, some⟩ := @structureError_eq fs 0
  have leading {i} {f : WireField} (here : fs[i]? = Option.some f) : checkLeading i f.tag = .ok () := by
    obtain ⟨pending, fits⟩ := fits_at fields here
    exact Nat.zero_add i ▸ fits.leading
  refine ⟨fs, {
    bytes := rfl
    spelled := fun f mem => ?_
    header := congrArg FieldMap.fields header
    body := congrArg FieldMap.fields body
    trailer := congrArg FieldMap.fields trailer
    own := fun f _ => ?_
    first := fun f here => (checkLeading_ok (leading here)).1 rfl
    second := fun f here => (checkLeading_ok (leading here)).2.1 rfl
    third := fun f here => (checkLeading_ok (leading here)).2.2 rfl
    ordered := none.trans inOrder_iff
    late := some }⟩
  · obtain ⟨k, pending, fits⟩ := fits_of_mem fields mem
    exact ⟨fits.plain, fits.number⟩
  · cases isHeader : Tags.isHeaderTag f.tag with
    | true =>
      obtain ⟨body, trailer⟩ := Tags.of_isHeaderTag isHeader
      rw [body, trailer]
      rfl
    | false =>
      cases isTrailer : Tags.isTrailerTag f.tag <;> simp [Tags.isBodyTag, isHeader, isTrailer]

/-- A message with a header field behind its body. -/
def lateSender : List WireField :=
  [⟨⟨8, ascii "FIX.4.2"⟩, ascii "8"⟩, ⟨⟨9, ascii "5"⟩, ascii "9"⟩, ⟨⟨35, ascii "D"⟩, ascii "035"⟩,
    ⟨⟨55, ascii "TSLA"⟩, ascii "55"⟩, ⟨⟨49, ascii "LATE"⟩, ascii "49"⟩]

/-- Its tokens. -/
theorem parse_tokens_lateSender : ∃ m fs, m.structureError = some 49 ∧ Tokens (wire lateSender) m fs := by
  have accepted : parse (wire lateSender) false = .ok (({} : ParseState).afterAll 0 lateSender).msg := by
    decide +kernel
  obtain ⟨fs, tokens⟩ := parse_tokens accepted
  exact ⟨_, fs, by decide +kernel, tokens⟩

end QuickFix.Message
