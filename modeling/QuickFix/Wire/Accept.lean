import QuickFix.Wire.Bounds
import QuickFix.Wire.RoundTrip

/-!
# What the checks accept

The parser with the checks of BodyLength(9) and CheckSum(10), on the grammar of `Wire.Fields`: it
accepts fields with a last CheckSum field where BodyLength ends, whose first CheckSum field has the sum
of the bytes before the last one (`parse_true_ok`).
-/

namespace QuickFix.Message

variable {n : Nat} {pending : Option (Tag × Nat)} {fs gs hs : List WireField} {f c : WireField}

/-! ## Fields after fields -/

/-- Fields after fields. -/
lemma fields_append : Fields n pending (fs ++ gs) ↔
    Fields n pending fs ∧ Fields (n + fs.length) (pendingAfter pending fs) gs := by
  induction fs generalizing n pending with
  | nil => simp [Fields, pendingAfter]
  | cons f fs ih =>
    rw [List.cons_append, Fields, ih, Fields, and_assoc, List.length_cons, Nat.add_assoc,
      Nat.add_comm 1]
    rfl

/-- What is pending after fields after fields. -/
lemma pendingAfter_append (fs gs : List WireField) (pending) :
    pendingAfter pending (fs ++ gs) = pendingAfter (pendingAfter pending fs) gs := by
  induction fs generalizing pending with
  | nil => rfl
  | cons f fs ih => exact ih _

/-- Each field fits somewhere. -/
lemma fits_of_mem (fields : Fields n pending fs) (mem : f ∈ fs) : ∃ k p, f.Fits k p := by
  induction fs generalizing n pending with
  | nil => cases mem
  | cons g fs ih =>
    cases mem with
    | head => exact ⟨n, pending, fields.1⟩
    | tail _ mem => exact ih fields.2 mem

/-- A signed number of 32 bits is within its range. -/
lemma parseSigned_range {bs : Bytes} {v : Int} (h : parseSigned 32 bs = some v) :
    -2 ^ 31 ≤ v ∧ v < 2 ^ 31 := by
  have bound {p : Nat → Bool} {ds : Bytes} {n} (read : (undec ds).filter p = some n) : p n = true :=
    (Option.filter_eq_some_iff.mp read).2
  unfold parseSigned at h
  split at h
  case h_2 =>
    obtain ⟨n, read, rfl⟩ := Option.map_eq_some_iff.mp h
    have small := of_decide_eq_true (bound read)
    omega
  all_goals
    simp only [Option.map_eq_map, bind_pure_comp, Option.map_map, Option.map_eq_some_iff] at h
    obtain ⟨n, read, rfl⟩ := h
    have small := of_decide_eq_true (bound read)
    simp only [Function.comp_apply]
    omega

/-- A tag ends at the first equals sign. -/
lemma WireField.Fits.until_equals {f : WireField} {n pending} {rest bs tail : Bytes}
    (fit : f.Fits n pending) (plain : 61 ∉ bs) (same : f.tagBytes ++ 61 :: rest = bs ++ 61 :: tail) :
    f.tagBytes = bs ∧ rest = tail := by
  have split := splitOnce_append fit.plain rest
  rw [same, splitOnce_append plain] at split
  cases split
  exact ⟨rfl, rfl⟩

/-- What the last of some fields announces. -/
def announcedAfter (pending : Option (Tag × Nat)) : List TagValue → Option (Tag × Nat)
  | [] => pending
  | f :: fs => announcedAfter (announcedData f.tag f.value) fs

/-- The last field announces what is next. -/
lemma announcedAfter_snoc (pending) (fs : List TagValue) (f : TagValue) :
    announcedAfter pending (fs ++ [f]) = announcedData f.tag f.value := by
  induction fs generalizing pending with
  | nil => rfl
  | cons g fs ih => exact ih _

/-- What is pending after fields that were written is what they announce. -/
lemma pendingAfter_written (pending) (fs : List TagValue) :
    pendingAfter pending (fs.map written) = announcedAfter pending fs := by
  induction fs generalizing pending with
  | nil => rfl
  | cons g fs ih => exact ih _

/-- Framed fields after framed fields. -/
lemma framed_append {pending} {fs gs : List TagValue} :
    Framed pending (fs ++ gs) ↔ Framed pending fs ∧ Framed (announcedAfter pending fs) gs := by
  induction fs generalizing pending with
  | nil => simp [Framed, announcedAfter]
  | cons f fs ih =>
    rw [List.cons_append, Framed, ih, Framed, and_assoc]
    rfl

/-- Fields start with 8, 9 and 35. -/
lemma leading_tags {a b : WireField} (fields : Fields 0 none (a :: b :: fs)) :
    a.tag = Tags.beginString ∧ b.tag = Tags.bodyLength := by
  constructor
  · by_contra other
    simpa [checkLeading, other] using fields.1.leading
  · by_contra other
    simpa [checkLeading, other] using fields.2.1.leading

/-- What stands in front. -/
lemma checkLeading_ok {n tag} (h : checkLeading n tag = .ok ()) :
    (n = 0 → tag = Tags.beginString) ∧ (n = 1 → tag = Tags.bodyLength) ∧ (n = 2 → tag = Tags.msgType) := by
  unfold checkLeading at h
  split_ifs at h
  simp_all

/-! ## The checks -/

/-- Fields that pass the checks: `c` is the last CheckSum field, `gs` come before it. -/
structure Summed (gs : List WireField) (c : WireField) (hs : List WireField) : Prop where
  fields : Fields 0 none (gs ++ c :: hs)
  sum : c.tag = Tags.checkSum
  last : ∀ h ∈ hs, h.tag ≠ Tags.checkSum
  length : FieldMap.get decodeU64 ⟨values (gs ++ c :: hs)⟩ Tags.bodyLength =
    .ok ((wire gs).length - (wire (gs.take 2)).length)
  agrees : FieldMap.get decodeU32 ⟨values (gs ++ c :: hs)⟩ Tags.checkSum = .ok (checksum (wire gs))

/-- The checks pass for such fields and no others. -/
lemma checkLengthChecksum_ok (fields : Fields 0 none fs) :
    checkLengthChecksum (wire fs) (({} : ParseState).afterAll 0 fs) = .ok () ↔
      ∃ gs c hs, fs = gs ++ c :: hs ∧ Summed gs c hs := by
  obtain ⟨lengths, sums⟩ := afterAll_get decodeU64 fs
  obtain ⟨-, sums⟩ := afterAll_get decodeU32 fs
  rcases exists_last_checksum fs with none | ⟨gs, c, hs, rfl, sum, last⟩
  · rw [checkLengthChecksum, afterAll_checksum_none none]
    constructor
    · intro h
      cases h
    · rintro ⟨gs, c, hs, rfl, summed⟩
      exact absurd summed.sum (none c (by simp))
  · obtain ⟨a, b, gs, rfl⟩ := two_le_of_checksum fields sum
    have start : (({} : ParseState).afterAll 0 (a :: b :: gs ++ c :: hs)).checksumFieldStart =
      some (0 + (wire (a :: b :: gs)).length) := afterAll_checksum sum last
    have two : (wire ((a :: b :: gs).take 2)).length = (a.bytes ++ b.bytes).length := by simp
    have front : (wire (a :: b :: gs ++ c :: hs)).take (0 + (wire (a :: b :: gs)).length) =
        wire (a :: b :: gs) := by
      rw [Nat.zero_add, wire_append, List.take_left]
    rw [checkLengthChecksum, start]
    simp only [lengths, sums, front]
    rw [show a :: b :: gs ++ c :: hs = a :: b :: (gs ++ c :: hs) from rfl] at fields ⊢
    rw [fieldEndOf_wire fields]
    constructor
    · intro h
      refine ⟨a :: b :: gs, c, hs, rfl, fields, sum, last, ?_, ?_⟩
      · split at h
        case h_1 => cases h
        case h_2 n length =>
          simp only at h
          split at h
          case isTrue => cases h
          case isFalse same =>
            rw [two, ← Nat.zero_add (wire (a :: b :: gs)).length, ← not_not.mp same]
            exact length
      · split at h
        case h_1 => cases h
        case h_2 =>
          simp only at h
          split at h
          case isTrue => cases h
          case isFalse =>
            split at h
            case h_1 => cases h
            case h_2 s agrees =>
              split at h
              case isTrue => cases h
              case isFalse same => exact agrees.trans (congrArg _ (not_not.mp same))
    · rintro ⟨gs', c', hs', same, summed⟩
      obtain ⟨rfl, rfl, rfl⟩ : a :: b :: gs = gs' ∧ c = c' ∧ hs = hs' :=
        last_checksum_unique same sum summed.sum last summed.last
      have length := summed.length
      have agrees := summed.agrees
      rw [two] at length
      simp only [List.cons_append] at length agrees
      simp [length, agrees]

/-- What is accepted. -/
theorem parse_true_ok {raw m} : parse raw true = .ok m ↔
    ∃ gs c hs, Summed gs c hs ∧ raw = wire (gs ++ c :: hs) ∧
      m = (({} : ParseState).afterAll 0 (gs ++ c :: hs)).msg := by
  cases parsed : parseFields raw.length {} 0 raw with
  | error e =>
    constructor
    · intro h
      simp [parse, parsed, bind, Except.bind] at h
    · rintro ⟨gs, c, hs, summed, rfl, -⟩
      have ok : parseFields (wire (gs ++ c :: hs)).length {} 0 (wire (gs ++ c :: hs)) = .ok _ :=
        (parseFields_ok (le_refl _)).mpr ⟨gs ++ c :: hs, summed.fields, rfl, rfl⟩
      cases parsed.symm.trans ok
  | ok st =>
    obtain ⟨fs, fields, rfl, rfl⟩ := (parseFields_ok (le_refl _)).mp parsed
    have checks := checkLengthChecksum_ok fields
    constructor
    · intro h
      cases checked : checkLengthChecksum (wire fs) (({} : ParseState).afterAll 0 fs) with
      | error e => simp [parse, parsed, checked, bind, Except.bind] at h
      | ok =>
        obtain ⟨gs, c, hs, rfl, summed⟩ := checks.mp checked
        simp only [parse, parsed, checked, bind, Except.bind, if_true, pure, Except.pure,
          Except.ok.injEq] at h
        exact ⟨gs, c, hs, summed, rfl, h.symm⟩
    · rintro ⟨gs, c, hs, summed, same, rfl⟩
      obtain rfl := wire_injective fields summed.fields same
      have checked := checks.mpr ⟨gs, c, hs, rfl, summed⟩
      simp only [parse, parsed, checked, bind, Except.bind, if_true, pure, Except.pure]

/-- What is accepted is fields. -/
lemma fields_of_parse {raw v m} (h : parse raw v = .ok m) :
    ∃ fs, Fields 0 none fs ∧ raw = wire fs ∧ m = (({} : ParseState).afterAll 0 fs).msg := by
  cases v with
  | true =>
    obtain ⟨gs, c, hs, summed, same, rfl⟩ := parse_true_ok.mp h
    exact ⟨_, summed.fields, same, rfl⟩
  | false =>
    cases parsed : parseFields raw.length {} 0 raw with
    | error e => simp [parse, parsed, bind, Except.bind] at h
    | ok st =>
      obtain ⟨fs, fields, same, rfl⟩ := (parseFields_ok (le_refl _)).mp parsed
      simp only [parse, parsed, bind, Except.bind, pure, Except.pure] at h
      exact ⟨fs, fields, same, (Except.ok.inj h).symm⟩

/-- What is accepted with the checks is accepted without them. -/
lemma parse_unvalidated {raw m} (h : parse raw true = .ok m) : parse raw false = .ok m := by
  cases parsed : parseFields raw.length {} 0 raw with
  | error e => simp [parse, parsed, bind, Except.bind] at h
  | ok st =>
    cases checked : checkLengthChecksum raw st with
    | error e => simp [parse, parsed, checked, bind, Except.bind] at h
    | ok =>
      simp only [parse, parsed, checked, bind, Except.bind, if_true, pure, Except.pure] at h ⊢
      exact h

end QuickFix.Message
