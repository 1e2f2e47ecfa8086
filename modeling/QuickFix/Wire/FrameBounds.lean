import QuickFix.Lib.Ranged
import QuickFix.Wire.Framing

/-!
# Bounds of the framer

`extract_frame` of `src/parser.rs` with its arithmetic on `usize` and its slices checked. It faults
in one place only, where the declared BodyLength is added to an offset of the buffer
(`extractFrameAt_shape`). Everywhere else it agrees with the model without checks, and the frames it
takes off have the shape of a message whose body is at least as long as it declares.
-/

namespace QuickFix

open Ranged (add sub slice fail)

/-! ## Checked extraction -/

/-- Drops bytes from the front of the buffer. -/
def advance {ε} (n : Nat) (buf : Bytes) : Ranged ε Bytes := slice buf n buf.length

/-- `resync` with checked arithmetic. -/
def resyncAt (buf : Bytes) : Ranged Bytes Bytes :=
  match find (ascii "8=") buf with
  | some start => advance start buf
  | none => do
    let keep := if buf.getLast? = some 56 then 1 else 0
    let drop ← sub buf.length keep
    let rest ← advance drop buf
    fail rest

/-- `frameHead` with checked arithmetic. -/
def frameHeadAt (buf : Bytes) : Ranged Empty Head :=
  match find [soh] buf with
  | none => .ok .incomplete
  | some soh1 => do
    let afterBegin ← add (2 ^ 64) soh1 1
    let lenStart ← add (2 ^ 64) afterBegin 2
    if buf.length < lenStart then .ok .incomplete
    else do
      let tag ← slice buf afterBegin lenStart
      if tag ≠ ascii "9=" then .ok .garbled
      else do
        let after ← slice buf lenStart buf.length
        match find [soh] after with
        | none => .ok .incomplete
        | some relSoh2 => do
          let lenEnd ← add (2 ^ 64) lenStart relSoh2
          let digits ← slice buf lenStart lenEnd
          match parseUnsigned (2 ^ 64) digits with
          | none => .ok .garbled
          | some bodyLen => do
            let bodyStart ← add (2 ^ 64) lenEnd 1
            let bodyEnd ← add (2 ^ 64) bodyStart bodyLen
            let searchFrom := bodyEnd - 1
            if buf.length ≤ searchFrom then .ok .incomplete
            else do
              let body ← slice buf searchFrom buf.length
              match find (soh :: ascii "10=") body with
              | none => .ok .incomplete
              | some relCs => do
                let sumStart ← add (2 ^ 64) searchFrom relCs
                let afterCsTag ← add (2 ^ 64) sumStart 4
                let value ← slice buf afterCsTag buf.length
                match find [soh] value with
                | none => .ok .incomplete
                | some relEnd => do
                  let sumEnd ← add (2 ^ 64) afterCsTag relEnd
                  let stop ← add (2 ^ 64) sumEnd 1
                  .ok (.message stop)

/-- A head that is skipped: no BodyLength follows its first field, or the BodyLength is no number. -/
inductive Garbled : Bytes → Prop
  | tag {begin rest} :
    soh ∉ begin →
    2 ≤ rest.length →
    ¬ ascii "9=" <+: rest →
    Garbled (begin ++ soh :: rest)
  | length {begin digits rest} :
    soh ∉ begin →
    soh ∉ digits →
    parseUnsigned (2 ^ 64) digits = none →
    Garbled (begin ++ soh :: (ascii "9=" ++ (digits ++ soh :: rest)))

/-- A head declares the BodyLength `n` for a body that starts at an offset. -/
inductive Declares : Bytes → Nat → Nat → Prop
  | intro {begin digits rest n} :
    soh ∉ begin →
    soh ∉ digits →
    parseUnsigned (2 ^ 64) digits = some n →
    Declares (begin ++ soh :: (ascii "9=" ++ (digits ++ soh :: rest)))
      (begin.length + 1 + 2 + digits.length + 1) n

/-- The scan arrives at a head whose BodyLength reaches past the largest `usize`. -/
inductive Overlong : Bytes → Prop
  | here {buf buf' start n} :
    resync buf = .ok buf' →
    Declares buf' start n →
    2 ^ 64 ≤ start + n →
    Overlong buf
  | later {buf buf'} :
    resync buf = .ok buf' →
    Garbled buf' →
    Overlong (buf'.drop 2) →
    Overlong buf

/-- The shape of a frame: its body has at least the declared length, and its CheckSum is the first
one from there on. -/
def FrameShape (frame : Bytes) : Prop :=
  ∃ begin digits body sum n,
    frame = ascii "8=" ++ begin ++ soh :: (ascii "9=" ++ (digits ++ soh ::
      (body ++ (ascii "10=" ++ (sum ++ [soh]))))) ∧
    soh ∉ begin ∧ soh ∉ digits ∧ soh ∉ sum ∧
    parseUnsigned (2 ^ 64) digits = some n ∧
    n ≤ body.length ∧
    [soh] <:+ soh :: body ∧
    ∀ i, n ≤ i → i < body.length →
      ¬ soh :: ascii "10=" <+: (soh :: (body ++ (ascii "10=" ++ (sum ++ [soh])))).drop i

/-! ## Splitting at a delimiter -/

/-- A needle does not stand before where it was found. -/
lemma find_first {needle bs i} (h : find needle bs = some i) {j} (lt : j < i) :
    ¬ needle <+: bs.drop j := by
  induction bs generalizing i j with
  | nil => cases h
  | cons b bs ih =>
    rw [find] at h
    split at h
    case isTrue =>
      cases h
      cases lt
    case isFalse away =>
      obtain ⟨k, found, rfl⟩ := Option.map_eq_some_iff.mp h
      cases j with
      | zero => exact fun here => away (List.isPrefixOf_iff_prefix.mpr here)
      | succ j => exact ih found (Nat.lt_of_succ_lt_succ lt)

/-- The bytes around the first delimiter. -/
lemma find_soh {bs i} (h : find [soh] bs = some i) :
    ∃ start rest, bs = start ++ soh :: rest ∧ soh ∉ start ∧ i = start.length := by
  obtain ⟨⟨rest, here⟩, lt⟩ := find_spec h
  have size : (bs.take i).length = i := List.length_take_of_le lt.le
  refine ⟨bs.take i, rest, ?_, ?_, size.symm⟩
  · calc
      bs = bs.take i ++ bs.drop i := (List.take_append_drop i bs).symm
      _ = bs.take i ++ soh :: rest := by rw [← here]; rfl
  · intro mem
    obtain ⟨j, lt', eq⟩ := List.mem_iff_getElem.mp mem
    rw [size] at lt'
    apply find_first h lt'
    rw [List.getElem_take] at eq
    rw [List.drop_eq_getElem_cons (lt'.trans lt), eq]
    exact List.prefix_append [soh] _

/-! ## Checked heads -/

open Ranged

variable {buf : Bytes}

/-- Dropping bytes that are there is exact. -/
lemma advance_of_le {ε n} (h : n ≤ buf.length) : (advance n buf : Ranged ε Bytes) = .ok (buf.drop n) :=
  slice_end h

/-- The fields of a head up to its BodyLength. -/
lemma head_split {soh1 relSoh2} (begins : find [soh] buf = some soh1)
    (tag : (buf.drop (soh1 + 1)).take 2 = ascii "9=")
    (length : find [soh] (buf.drop (soh1 + 1 + 2)) = some relSoh2) :
    ∃ begin digits rest, buf = begin ++ soh :: (ascii "9=" ++ (digits ++ soh :: rest)) ∧
      soh ∉ begin ∧ soh ∉ digits ∧ soh1 = begin.length ∧ relSoh2 = digits.length := by
  obtain ⟨begin, after, rfl, plain, rfl⟩ := find_soh begins
  obtain ⟨digits, rest, value, number, rfl⟩ := find_soh length
  have from9 : (begin ++ soh :: after).drop (begin.length + 1) = after := by
    rw [List.drop_length_add_append]
    rfl
  rw [← List.drop_drop, from9] at value
  rw [from9] at tag
  refine ⟨begin, digits, rest, ?_, plain, number, rfl, rfl⟩
  rw [← tag, ← value, List.take_append_drop]

/-- The digits of a BodyLength. -/
lemma head_digits {begin digits rest : Bytes} :
    ((begin ++ soh :: (ascii "9=" ++ (digits ++ soh :: rest))).drop (begin.length + 1 + 2)).take
      digits.length = digits := by
  rw [← List.drop_drop, List.drop_length_add_append]
  exact List.take_left

/-- A head whose BodyLength is a number declares it. -/
lemma declares_of_find {soh1 relSoh2 n} (begins : find [soh] buf = some soh1)
    (tag : (buf.drop (soh1 + 1)).take 2 = ascii "9=")
    (length : find [soh] (buf.drop (soh1 + 1 + 2)) = some relSoh2)
    (declared : parseUnsigned (2 ^ 64) ((buf.drop (soh1 + 1 + 2)).take relSoh2) = some n) :
    Declares buf (soh1 + 1 + 2 + relSoh2 + 1) n := by
  obtain ⟨begin, digits, rest, rfl, plain, number, rfl, rfl⟩ := head_split begins tag length
  rw [head_digits] at declared
  exact .intro plain number declared

/-- A garbled head is skipped. -/
lemma frameHead_of_garbled (h : Garbled buf) : frameHead buf = .garbled := by
  cases h with
  | @tag begin rest plain long other =>
    have short : ¬ (begin ++ soh :: rest).length < begin.length + 1 + 2 := by
      simp only [List.length_append, List.length_cons]
      omega
    have tag : ((begin ++ soh :: rest).drop (begin.length + 1)).take 2 ≠ ascii "9=" := by
      rw [List.drop_length_add_append]
      intro eq
      exact other ⟨rest.drop 2, by rw [← eq]; exact List.take_append_drop 2 rest⟩
    simp only [frameHead, find_byte rest plain, if_neg short, if_pos tag]
  | @length begin digits rest plain number undeclared =>
    have from9 : (begin ++ soh :: (ascii "9=" ++ (digits ++ soh :: rest))).drop (begin.length + 1) =
        ascii "9=" ++ (digits ++ soh :: rest) := List.drop_length_add_append ..
    have after : (begin ++ soh :: (ascii "9=" ++ (digits ++ soh :: rest))).drop
        (begin.length + 1 + 2) = digits ++ soh :: rest := by
      rw [← List.drop_drop, from9]
      rfl
    have short : ¬ (begin ++ soh :: (ascii "9=" ++ (digits ++ soh :: rest))).length <
        begin.length + 1 + 2 := by
      simp [ascii]
      omega
    have tag : (ascii "9=" ++ (digits ++ soh :: rest)).take 2 = ascii "9=" := rfl
    simp only [frameHead, find_byte _ plain, if_neg short, from9, tag, after, find_byte _ number,
      List.take_left, undeclared, ne_eq, not_true, if_false]

/-- Bytes have one first delimiter. -/
lemma soh_inj {a b x y : Bytes} (plain : soh ∉ a) (plain' : soh ∉ b)
    (eq : a ++ soh :: x = b ++ soh :: y) : a = b ∧ x = y := by
  have split := congrArg (splitOnce soh) eq
  rw [splitOnce_append plain, splitOnce_append plain'] at split
  cases split
  exact ⟨rfl, rfl⟩

/-- A garbled head declares no BodyLength. -/
lemma Garbled.not_declares (h : Garbled buf) {start n} : ¬ Declares buf start n := by
  intro declares
  generalize same : buf = buf' at declares
  cases declares with
  | intro plain number declared =>
    cases h with
    | tag plain' _ other =>
      obtain ⟨rfl, rfl⟩ := soh_inj plain' plain same
      exact other (List.prefix_append ..)
    | length plain' number' undeclared =>
      obtain ⟨rfl, rest⟩ := soh_inj plain' plain same
      obtain ⟨rfl, -⟩ := soh_inj number' number (List.append_cancel_left rest)
      cases undeclared.symm.trans declared

/-- What a head can be: too short, garbled, or with a BodyLength. -/
lemma frameHead_cases (buf : Bytes) :
    frameHead buf = .incomplete ∨ Garbled buf ∨ ∃ begin digits rest n,
      buf = begin ++ soh :: (ascii "9=" ++ (digits ++ soh :: rest)) ∧ soh ∉ begin ∧ soh ∉ digits ∧
      parseUnsigned (2 ^ 64) digits = some n := by
  cases begins : find [soh] buf with
  | none => exact .inl (by simp only [frameHead, begins])
  | some soh1 =>
    by_cases short : buf.length < soh1 + 1 + 2
    · exact .inl (by simp only [frameHead, begins, if_pos short])
    by_cases tag : (buf.drop (soh1 + 1)).take 2 = ascii "9="
    · cases length : find [soh] (buf.drop (soh1 + 1 + 2)) with
      | none => exact .inl (by simp only [frameHead, begins, if_neg short, tag, length]; rfl)
      | some relSoh2 =>
        obtain ⟨begin, digits, rest, rfl, plain, number, -⟩ := head_split begins tag length
        cases declared : parseUnsigned (2 ^ 64) digits with
        | none => exact .inr (.inl (.length plain number declared))
        | some n => exact .inr (.inr ⟨begin, digits, rest, n, rfl, plain, number, declared⟩)
    · obtain ⟨begin, rest, rfl, plain, rfl⟩ := find_soh begins
      rw [List.drop_length_add_append] at tag
      simp only [List.length_append, List.length_cons] at short
      refine .inr (.inl (.tag plain (by omega) ?_))
      rintro ⟨more, rfl⟩
      exact tag rfl

/-- The heads that are skipped are the garbled ones. -/
lemma frameHead_garbled : frameHead buf = .garbled ↔ Garbled buf := by
  refine ⟨fun head => ?_, frameHead_of_garbled⟩
  obtain short | garbled | ⟨begin, digits, rest, n, rfl, plain, number, declared⟩ := frameHead_cases buf
  · cases head.symm.trans short
  · exact garbled
  · have soh1 := find_byte (ascii "9=" ++ (digits ++ soh :: rest)) plain
    rw [frameHead_body soh1 (List.drop_length_add_append ..) number declared] at head
    simp only at head
    split at head
    case isTrue => cases head
    case isFalse =>
      split at head
      case h_1 => cases head
      case h_2 => split at head <;> cases head

/-- The first field of a head that starts with `8=`. -/
lemma first_field {begin rest : Bytes} (start : ascii "8=" <+: begin ++ soh :: rest) :
    ∃ value, begin = ascii "8=" ++ value := by
  obtain ⟨more, eq⟩ := start
  match begin with
  | [] => cases eq
  | [b] => cases eq
  | b :: c :: value =>
    cases eq
    exact ⟨value, rfl⟩

/-- The body and the CheckSum found in the bytes from the delimiter after BodyLength on. -/
lemma find_sum {rest : Bytes} {n relCs relEnd}
    (sum : find (soh :: ascii "10=") ((soh :: rest).drop n) = some relCs)
    (value : find [soh] ((soh :: rest).drop (n + relCs + 4)) = some relEnd) :
    ∃ body digits more, rest = body ++ (ascii "10=" ++ (digits ++ soh :: more)) ∧
      body.length = n + relCs ∧ digits.length = relEnd ∧ [soh] <:+ soh :: body ∧ soh ∉ digits := by
  obtain ⟨⟨after, here⟩, -⟩ := find_spec sum
  have size := find_le sum
  rw [List.length_drop, show (soh :: ascii "10=").length = 4 from rfl] at size
  rw [List.drop_drop] at here
  have whole := List.take_append_drop (n + relCs) (soh :: rest)
  have length : ((soh :: rest).take (n + relCs)).length = n + relCs :=
    List.length_take_of_le (by omega)
  generalize (soh :: rest).take (n + relCs) = start at whole length
  rw [← List.drop_drop, ← here] at value
  rw [← here] at whole
  obtain ⟨digits, more, split, plain, rfl⟩ := find_soh value
  replace split : after = digits ++ soh :: more := split
  subst split
  cases start with
  | nil =>
    cases whole
    exact ⟨[], digits, more, rfl, length, rfl, List.suffix_refl _, plain⟩
  | cons c cs =>
    obtain ⟨rfl, rfl⟩ := List.cons_eq_cons.mp whole
    exact ⟨cs ++ [soh], digits, more, by simp, by simpa using length, rfl,
      List.suffix_append (soh :: cs) _, plain⟩

/-- A message at the head has the shape of one. -/
lemma frameHead_shape {stop} (start : ascii "8=" <+: buf) (head : frameHead buf = .message stop) :
    FrameShape (buf.take stop) := by
  obtain short | garbled | ⟨begin, digits, rest, n, rfl, plain, number, declared⟩ := frameHead_cases buf
  · cases head.symm.trans short
  · cases head.symm.trans (frameHead_of_garbled garbled)
  · have soh1 := find_byte (ascii "9=" ++ (digits ++ soh :: rest)) plain
    rw [frameHead_body soh1 (List.drop_length_add_append ..) number declared] at head
    simp only at head
    split at head
    case isTrue => cases head
    case isFalse within =>
      split at head
      case h_1 => cases head
      case h_2 relCs sum =>
        split at head
        case h_1 => cases head
        case h_2 relEnd value =>
          have jump : begin.length + 1 + 2 + digits.length + 1 + n - 1 =
            (begin ++ soh :: (ascii "9=" ++ digits)).length + n := by simp [ascii]; omega
          have after : begin ++ soh :: (ascii "9=" ++ (digits ++ soh :: rest)) =
            begin ++ soh :: (ascii "9=" ++ digits) ++ soh :: rest := by simp
          rw [jump, after, List.drop_length_add_append] at sum
          rw [jump, after, Nat.add_assoc, Nat.add_assoc, List.drop_length_add_append,
            ← Nat.add_assoc] at value
          obtain ⟨body, digits', more, rfl, bodyEnd, rfl, closed, plain'⟩ := find_sum sum value
          obtain ⟨begin', rfl⟩ := first_field start
          cases head
          refine ⟨begin', digits, body, digits', n, ?_, ?_, number, plain', declared, ?_, closed, ?_⟩
          · have whole : ascii "8=" ++ begin' ++ soh :: (ascii "9=" ++ (digits ++ soh ::
                (body ++ (ascii "10=" ++ (digits' ++ soh :: more))))) =
              ascii "8=" ++ begin' ++ soh :: (ascii "9=" ++ (digits ++ soh ::
                (body ++ (ascii "10=" ++ (digits' ++ [soh]))))) ++ more := by simp
            rw [whole, List.take_left']
            simp [ascii]
            omega
          · exact fun mem => plain (List.mem_append_right _ mem)
          · exact bodyEnd ▸ Nat.le_add_right n relCs
          · intro i le lt here
            have inside : soh :: (body ++ (ascii "10=" ++ (digits' ++ [soh]))) <+:
              soh :: (body ++ (ascii "10=" ++ (digits' ++ soh :: more))) := ⟨more, by simp⟩
            apply find_first sum (show i - n < relCs by omega)
            rw [List.drop_drop, Nat.add_sub_cancel' le]
            exact here.trans (inside.drop i)

/-- A head whose BodyLength reaches too far overflows. -/
lemma frameHeadAt_overlong {start n} (fits : buf.length < 2 ^ 63) (declares : Declares buf start n)
    (far : 2 ^ 64 ≤ start + n) : frameHeadAt buf = .error (.inl .overflow) := by
  cases declares with
  | @intro begin digits rest n plain number declared =>
    generalize whole : begin ++ soh :: (ascii "9=" ++ (digits ++ soh :: rest)) = buf at fits ⊢
    have size := congrArg List.length whole
    have width : (ascii "9=").length = 2 := rfl
    simp only [List.length_append, List.length_cons, width] at size
    have soh1 : find [soh] buf = some begin.length := whole ▸ find_byte _ plain
    have from9 : buf.drop (begin.length + 1) = ascii "9=" ++ (digits ++ soh :: rest) := by
      rw [← whole, List.drop_length_add_append]
      rfl
    have after : buf.drop (begin.length + 1 + 2) = digits ++ soh :: rest := by
      rw [← List.drop_drop, from9]
      rfl
    simp only [frameHeadAt, soh1]
    rw [add_of_lt (by omega), ok_bind, add_of_lt (by omega), ok_bind, if_neg (by omega),
      slice_of_le (by omega) (by omega), ok_bind, from9, Nat.add_sub_cancel_left, if_neg (by simp [ascii]),
      slice_end (by omega), ok_bind, after]
    simp only [find_byte rest number]
    rw [add_of_lt (by omega), ok_bind, slice_of_le (by omega) (by omega), ok_bind, after,
      Nat.add_sub_cancel_left, List.take_left]
    simp only [declared]
    rw [add_of_lt (by omega), ok_bind, add_of_le far, fault_bind]

/-- Any other head is read as without checks. -/
lemma frameHeadAt_eq (fits : buf.length < 2 ^ 63)
    (near : ∀ start n, Declares buf start n → start + n < 2 ^ 64) :
    frameHeadAt buf = .ok (frameHead buf) := by
  unfold frameHeadAt frameHead
  cases begins : find [soh] buf with
  | none => rfl
  | some soh1 =>
    have le := find_le begins
    rw [List.length_singleton] at le
    simp only
    rw [add_of_lt (by omega), ok_bind, add_of_lt (by omega), ok_bind]
    by_cases short : buf.length < soh1 + 1 + 2
    · rw [if_pos short, if_pos short]
    rw [if_neg short, if_neg short, slice_of_le (by omega) (by omega), ok_bind, Nat.add_sub_cancel_left]
    by_cases tag : (buf.drop (soh1 + 1)).take 2 ≠ ascii "9="
    · rw [if_pos tag, if_pos tag]
    rw [if_neg tag, if_neg tag, slice_end (by omega), ok_bind]
    cases length : find [soh] (buf.drop (soh1 + 1 + 2)) with
    | none => rfl
    | some relSoh2 =>
      have le' := (find_drop_append [] (by simp) length).2
      rw [List.length_singleton] at le'
      simp only
      rw [add_of_lt (by omega), ok_bind, slice_of_le (by omega) (by omega), ok_bind,
        Nat.add_sub_cancel_left]
      cases declared : parseUnsigned (2 ^ 64) ((buf.drop (soh1 + 1 + 2)).take relSoh2) with
      | none => rfl
      | some bodyLen =>
        have reach := near _ _ (declares_of_find begins (not_not.mp tag) length declared)
        simp only
        rw [add_of_lt (by omega), ok_bind, add_of_lt reach, ok_bind]
        generalize soh1 + 1 + 2 + relSoh2 + 1 + bodyLen - 1 = searchFrom
        by_cases beyond : buf.length ≤ searchFrom
        · rw [if_pos beyond, if_pos beyond]
        rw [if_neg beyond, if_neg beyond, slice_end (by omega), ok_bind]
        cases sum : find (soh :: ascii "10=") (buf.drop searchFrom) with
        | none => rfl
        | some relCs =>
          have le'' := (find_drop_append [] (by simp) sum).2
          rw [show (soh :: ascii "10=").length = 4 from rfl] at le''
          simp only
          rw [add_of_lt (by omega), ok_bind, add_of_lt (by omega), ok_bind, slice_end (by omega), ok_bind]
          cases stop : find [soh] (buf.drop (searchFrom + relCs + 4)) with
          | none => rfl
          | some relEnd =>
            have last := (find_drop_append [] (by simp) stop).2
            rw [List.length_singleton] at last
            simp only
            rw [add_of_lt (by omega), ok_bind, add_of_lt (by omega), ok_bind]

/-! ## Checked frames -/

/-- `resync` leaves no range. -/
lemma resyncAt_eq (buf : Bytes) : resyncAt buf = Ranged.lift (resync buf) := by
  rw [resyncAt, resync]
  cases found : find (ascii "8=") buf with
  | some start => exact advance_of_le (find_spec found).2.le
  | none =>
    have le : (if buf.getLast? = some 56 then 1 else 0) ≤ buf.length := by
      split
      case isTrue last =>
        obtain ⟨init, rfl⟩ := List.getLast?_eq_some_iff.mp last
        simp
      case isFalse => exact Nat.zero_le _
    simp only [sub_of_le le, ok_bind, advance_of_le (Nat.sub_le ..)]
    rfl

/-- What the checked `resync` keeps is shorter without its `8=`. -/
lemma resyncAt_shrinks {buf' rest : Bytes} (sync : resyncAt buf = .ok buf')
    (skip : (advance 2 buf' : Ranged Empty Bytes) = .ok rest) : rest.length < buf.length := by
  rw [resyncAt_eq] at sync
  cases eq : resync buf with
  | error kept =>
    rw [eq] at sync
    cases sync
  | ok buf'' =>
    rw [eq] at sync
    cases sync
    obtain ⟨start, le⟩ := resync_tail eq
    have two : 2 ≤ buf'.length := start.length_le
    rw [advance_of_le two] at skip
    cases skip
    rw [List.length_drop]
    omega

/-- `extractFrame` with checked arithmetic. -/
def extractFrameAt (buf : Bytes) : Ranged Empty (Option Bytes × Bytes) :=
  match _sync : resyncAt buf with
  | .error (.inl fault) => .error (.inl fault)
  | .error (.inr rest) => .ok (none, rest)
  | .ok buf' =>
    match frameHeadAt buf' with
    | .error e => .error e
    | .ok (.message stop) => do
      let frame ← slice buf' 0 stop
      let rest ← advance stop buf'
      .ok (some frame, rest)
    | .ok .incomplete => .ok (none, buf')
    | .ok .garbled =>
      match _skip : (advance 2 buf' : Ranged Empty Bytes) with
      | .error e => .error e
      | .ok rest => extractFrameAt rest
termination_by buf.length
decreasing_by exact resyncAt_shrinks _sync _skip

/-- Where the scan stops at a head, the frame is what stands there. -/
lemma extractFrameAt_sync {buf'} (sync : resync buf = .ok buf') :
    extractFrameAt buf =
      match frameHeadAt buf' with
      | .error e => .error e
      | .ok (.message stop) => do
        let frame ← slice buf' 0 stop
        let rest ← advance stop buf'
        .ok (some frame, rest)
      | .ok .incomplete => .ok (none, buf')
      | .ok .garbled => extractFrameAt (buf'.drop 2) := by
  have checked : resyncAt buf = .ok buf' := (resyncAt_eq buf).trans (sync ▸ rfl)
  have two : 2 ≤ buf'.length := (resync_tail sync).1.length_le
  rw [extractFrameAt]
  split
  case h_1 sync' => cases checked.symm.trans sync'
  case h_2 sync' => cases checked.symm.trans sync'
  case h_3 sync' =>
    cases checked.symm.trans sync'
    split
    case h_4 =>
      split
      case h_1 skip => cases (advance_of_le two).symm.trans skip
      case h_2 skip =>
        cases (advance_of_le two).symm.trans skip
        rfl
    all_goals rfl

/-- A scan that arrives at a BodyLength that reaches too far overflows. -/
lemma extractFrameAt_overlong (fits : buf.length < 2 ^ 63) (overlong : Overlong buf) :
    extractFrameAt buf = .error (.inl .overflow) := by
  induction overlong with
  | here sync declares far =>
    have le := (resync_tail sync).2
    rw [extractFrameAt_sync sync, frameHeadAt_overlong (by omega) declares far]
  | later sync garbled _ ih =>
    have le := (resync_tail sync).2
    rw [List.length_drop] at ih
    rw [extractFrameAt_sync sync, frameHeadAt_eq (by omega), frameHead_of_garbled garbled]
    · exact ih (by omega)
    · exact fun _ _ declares => absurd declares garbled.not_declares

/-- A head that such a scan does not arrive at is read as without checks. -/
lemma frameHeadAt_near {buf'} (sync : resync buf = .ok buf') (fits : buf.length < 2 ^ 63)
    (near : ¬ Overlong buf) : frameHeadAt buf' = .ok (frameHead buf') := by
  have le := (resync_tail sync).2
  apply frameHeadAt_eq (by omega)
  intro start n declares
  by_contra far
  exact near (.here sync declares (Nat.not_lt.mp far))

/-- Any other scan is the one without checks. -/
lemma extractFrameAt_eq (fits : buf.length < 2 ^ 63) (near : ¬ Overlong buf) :
    extractFrameAt buf = .ok (extractFrame buf) := by
  induction buf using extractFrame.induct with
  | case1 buf rest sync =>
    have checked : resyncAt buf = .error (.inr rest) := (resyncAt_eq buf).trans (sync ▸ rfl)
    rw [extractFrame_error sync, extractFrameAt]
    split
    case h_1 sync' => cases checked.symm.trans sync'
    case h_2 sync' => cases checked.symm.trans sync'; rfl
    case h_3 sync' => cases checked.symm.trans sync'
  | case2 buf buf' sync stop head =>
    have le := (resync_tail sync).2
    have stops := (frameHead_bounds head).2
    rw [extractFrame_ok sync, extractFrameAt_sync sync, frameHeadAt_near sync fits near, head]
    simp only [slice_of_le (Nat.zero_le _) stops, advance_of_le stops, ok_bind]
    rfl
  | case3 buf buf' sync head =>
    rw [extractFrame_ok sync, extractFrameAt_sync sync, frameHeadAt_near sync fits near, head]
  | case4 buf buf' sync head ih =>
    have le := (resync_tail sync).2
    rw [List.length_drop] at ih
    rw [extractFrame_ok sync, extractFrameAt_sync sync, frameHeadAt_near sync fits near, head]
    apply ih (by omega)
    exact fun overlong => near (.later sync (frameHead_garbled.mp head) overlong)

/-- `resync` keeps the end of a buffer. -/
lemma resync_suffix {buf'} (sync : resync buf = .ok buf') : buf' <:+ buf := by
  rw [resync] at sync
  split at sync
  case h_1 =>
    cases sync
    exact List.drop_suffix ..
  case h_2 => cases sync

/-- `resync` keeps the end of a buffer while it waits. -/
lemma resync_waiting_suffix {rest} (sync : resync buf = .error rest) : rest <:+ buf := by
  rw [resync] at sync
  split at sync
  case h_1 => cases sync
  case h_2 =>
    cases sync
    exact List.drop_suffix ..

/-- What is taken off a buffer and left of it is the end of the buffer, and a frame has its shape. -/
lemma extractFrame_shape {taken rest} (h : extractFrame buf = (taken, rest)) :
    (∃ dropped, buf = dropped ++ taken.getD [] ++ rest) ∧ ∀ frame, taken = some frame → FrameShape frame := by
  induction buf using extractFrame.induct with
  | case1 buf rest' sync =>
    rw [extractFrame_error sync] at h
    cases h
    obtain ⟨dropped, rfl⟩ := resync_waiting_suffix sync
    exact ⟨⟨dropped, by simp⟩, by simp⟩
  | case2 buf buf' sync stop head =>
    rw [extractFrame_ok sync, head] at h
    cases h
    obtain ⟨dropped, rfl⟩ := resync_suffix sync
    refine ⟨⟨dropped, by simp⟩, ?_⟩
    rintro frame ⟨⟩
    exact frameHead_shape (resync_tail sync).1 head
  | case3 buf buf' sync head =>
    rw [extractFrame_ok sync, head] at h
    cases h
    obtain ⟨dropped, rfl⟩ := resync_suffix sync
    exact ⟨⟨dropped, by simp⟩, by simp⟩
  | case4 buf buf' sync head ih =>
    rw [extractFrame_ok sync, head] at h
    obtain ⟨⟨skipped, eq⟩, shape⟩ := ih h
    obtain ⟨dropped, rfl⟩ := resync_suffix sync
    refine ⟨⟨dropped ++ buf'.take 2 ++ skipped, ?_⟩, shape⟩
    calc
      dropped ++ buf' = dropped ++ (buf'.take 2 ++ buf'.drop 2) := by rw [List.take_append_drop]
      _ = _ := by rw [eq]; simp

/-- Framing terminates without a fault, splits the buffer and yields frames of the right shape,
exactly where the scan does not arrive at a BodyLength that reaches past the largest `usize`. No
buffer is longer than a byte vector of the source can be. -/
theorem extractFrameAt_shape (fits : buf.length < 2 ^ 63) :
    (∃ taken rest, extractFrameAt buf = .ok (taken, rest) ∧
      (∃ dropped, buf = dropped ++ taken.getD [] ++ rest) ∧
      ∀ frame, taken = some frame → FrameShape frame) ↔ ¬ Overlong buf := by
  constructor
  case mp =>
    rintro ⟨taken, rest, eq, -⟩ overlong
    cases eq.symm.trans (extractFrameAt_overlong fits overlong)
  case mpr =>
    intro near
    exact ⟨_, _, extractFrameAt_eq fits near, extractFrame_shape rfl⟩

/-- A Heartbeat behind some noise is framed, so it is short enough. -/
theorem extractFrameAt_shape_heartbeat :
    ¬ Overlong (ascii "x" ++ (Message.withType MsgType.heartbeat).toBytes) := by
  have framed : extractFrame (ascii "x" ++ (Message.withType MsgType.heartbeat).toBytes) =
      (some (Message.withType MsgType.heartbeat).toBytes, []) := by decide +kernel
  apply (extractFrameAt_shape (by decide +kernel)).mp
  refine ⟨some (Message.withType MsgType.heartbeat).toBytes, [], by decide +kernel, ⟨ascii "x", ?_⟩, ?_⟩
  · simp
  · exact (extractFrame_shape framed).2

/-- A head that declares the largest `usize` as its BodyLength. -/
def farHead : Bytes := ascii "8=F" ++ soh :: (ascii "9=18446744073709551615" ++ soh :: [])

/-- It stops the framer. -/
theorem farHead_overflows : ¬ ∃ taken rest, extractFrameAt farHead = .ok (taken, rest) := by
  have overlong : Overlong farHead := by
    have declares : Declares farHead 27 18446744073709551615 :=
      @Declares.intro (ascii "8=F") (ascii "18446744073709551615") [] _ (by decide) (by decide)
        (by decide +kernel)
    exact .here rfl declares (by decide)
  rintro ⟨taken, rest, eq⟩
  cases eq.symm.trans (extractFrameAt_overlong (by decide +kernel) overlong)

end QuickFix
