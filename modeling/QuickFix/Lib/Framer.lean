import Mathlib.Data.List.Basic
import Mathlib.Tactic.Lemma

/-!
# Framers

A framer takes frames off the front of a growing buffer. Two laws say that it never decides too
early: a frame it takes it would also take with more elements present, and what it drops while it
waits makes no difference later. From these, however a stream is cut into chunks, the same frames
come out and the same elements are left (`Framer.feed_eq`).
-/

namespace QuickFix

/-- A framer of elements `α` into frames `β`. -/
structure Framer (α β : Type*) where
  /-- Takes the next frame off the buffer, or none where more elements are needed; and what the
  buffer then holds. -/
  extract : List α → Option β × List α
  /-- A frame takes elements off the buffer. -/
  shrinks {buf f rest} : extract buf = (some f, rest) → rest.length < buf.length
  /-- A frame is taken whatever comes after it. -/
  found {buf f rest} (more) :
    extract buf = (some f, rest) → extract (buf ++ more) = (some f, rest ++ more)
  /-- What is dropped while waiting could not have become part of a frame. -/
  waiting {buf rest} (more) :
    extract buf = (none, rest) → extract (buf ++ more) = extract (rest ++ more)

namespace Framer

variable {α β : Type*} (F : Framer α β)

/-- Takes frames off the buffer while there are any. -/
def drain (buf : List α) : List β × List α :=
  match _eq : F.extract buf with
  | (some f, rest) =>
    let (fs, last) := drain rest
    (f :: fs, last)
  | (none, rest) => ([], rest)
termination_by buf.length
decreasing_by exact F.shrinks _eq

/-- Drains the buffer, then again after each chunk that is appended to it. -/
def feed (buf : List α) : List (List α) → List β × List α
  | [] => F.drain buf
  | chunk :: chunks =>
    let (fs, rest) := F.drain buf
    let (fs', last) := feed (rest ++ chunk) chunks
    (fs ++ fs', last)

variable {F}

/-- Draining a buffer that starts with a frame. -/
lemma drain_found {buf f rest} (h : F.extract buf = (some f, rest)) :
    F.drain buf = (f :: (F.drain rest).1, (F.drain rest).2) := by
  rw [drain]
  split
  case h_1 f' rest' eq =>
    rw [h] at eq
    cases eq
    rfl
  case h_2 rest' eq =>
    rw [h] at eq
    cases eq

/-- Draining a buffer that has no frame. -/
lemma drain_waiting {buf rest} (h : F.extract buf = (none, rest)) : F.drain buf = ([], rest) := by
  rw [drain]
  split
  case h_1 f' rest' eq =>
    rw [h] at eq
    cases eq
  case h_2 rest' eq =>
    rw [h] at eq
    cases eq
    rfl

/-- Draining depends on the next frame only. -/
lemma drain_congr {a b} (h : F.extract a = F.extract b) : F.drain a = F.drain b := by
  cases eq : F.extract b with
  | mk f rest =>
    cases f with
    | none => rw [drain_waiting eq, drain_waiting (h.trans eq)]
    | some f => rw [drain_found eq, drain_found (h.trans eq)]

/-- Draining before more elements arrive loses nothing. -/
lemma drain_append (buf more) :
    F.drain (buf ++ more) =
      ((F.drain buf).1 ++ (F.drain ((F.drain buf).2 ++ more)).1,
        (F.drain ((F.drain buf).2 ++ more)).2) := by
  induction n : buf.length using Nat.strongRecOn generalizing buf with
  | _ n ih =>
    cases eq : F.extract buf with
    | mk f rest =>
      cases f with
      | none =>
        rw [drain_waiting eq, drain_congr (F.waiting more eq)]
        rfl
      | some f =>
        rw [drain_found (F.found more eq), drain_found eq, ih _ (n ▸ F.shrinks eq) rest rfl]
        rfl

/-- What is left of a buffer has no frame. -/
lemma drain_rest (buf) : F.drain (F.drain buf).2 = ([], (F.drain buf).2) := by
  have twice := F.drain_append buf []
  rw [List.append_nil, List.append_nil] at twice
  have none : (F.drain (F.drain buf).2).1 = [] :=
    List.self_eq_append_right.mp (congrArg Prod.fst twice)
  have rest : (F.drain (F.drain buf).2).2 = (F.drain buf).2 := (congrArg Prod.snd twice).symm
  exact Prod.ext none rest

/-- Feeding a stream in chunks is draining it whole. -/
theorem feed_eq (buf chunks) : F.feed buf chunks = F.drain (buf ++ chunks.flatten) := by
  induction chunks generalizing buf with
  | nil => simp [feed]
  | cons chunk chunks ih =>
    rw [feed, List.flatten_cons, drain_append]
    simp only [ih, List.append_assoc]

end Framer

end QuickFix
