import QuickFix.Wire.Reject

/-!
# Message stores

Model of the trait `MessageStore` of `src/store.rs`: the two next sequence numbers, the sent
messages, and the operations a session performs on them. An operation answers `Ok` or an error and
leaves a store behind in both cases; the clock reading some of them take is an argument.

The laws a store may satisfy are classes over the trait. `LawfulStore` says that an operation that
succeeds has its documented effect, and one that fails has it or none; `FailStopStore` that one that
fails has none.
-/

namespace QuickFix

/-- Persists sequence numbers and sent messages for resend. -/
class MessageStore (σ : Type) where
  nextSenderSeqNum : σ → Nat
  nextTargetSeqNum : σ → Nat
  creationTime : σ → UtcTime
  incrNextSenderSeqNum : σ → Except Error Unit × σ
  incrNextTargetSeqNum : σ → Except Error Unit × σ
  setNextSenderSeqNum : Nat → σ → Except Error Unit × σ
  setNextTargetSeqNum : Nat → σ → Except Error Unit × σ
  /-- Persist an outgoing message under its seqnum. -/
  saveMessage : Nat → Bytes → σ → Except Error Unit × σ
  /-- Stored messages of a range as pairs, ascending. -/
  getMessages : Nat → Nat → σ → Except Error (List (Nat × Bytes)) × σ
  /-- Reload state from the backing medium. -/
  refresh : UtcTime → σ → Except Error Unit × σ
  /-- Wipe messages, reset both seqnums to 1, restamp creation time. -/
  reset : UtcTime → σ → Except Error Unit × σ

/-- A `u64` counter after `+= 1`, as release builds compute it: after `2 ^ 64 - 1` comes 0. Builds with
overflow checks panic there. -/
def incremented (n : Nat) : Nat := (n + 1) % 2 ^ 64

/-- A counter stays in the range of `u64`. -/
lemma incremented_lt (n : Nat) : incremented n < 2 ^ 64 := Nat.mod_lt _ (by decide)

/-- A counter that is not at the end of its range is one further. -/
lemma incremented_eq {n : Nat} (room : n + 1 < 2 ^ 64) : incremented n = n + 1 := Nat.mod_eq_of_lt room

/-- No counter stays where it is. -/
lemma incremented_ne (n : Nat) : incremented n ≠ n := by
  unfold incremented
  omega

/-- A counter is moved one further, or starts again at 0. -/
lemma incremented_le (n : Nat) : incremented n ≤ n + 1 := Nat.mod_le _ _

namespace MessageStore

variable {σ : Type} [MessageStore σ]

/-- Persist and advance the sender seqnum as one operation. -/
def saveMessageAndIncr (seq : Nat) (raw : Bytes) (st : σ) : Except Error Unit × σ :=
  match saveMessage seq raw st with
  | (.error e, st) => (.error e, st)
  | (.ok (), st) => incrNextSenderSeqNum st

end MessageStore

open MessageStore

/-- What a session can observe of a store over time. -/
structure StoreView where
  nextSender : Nat
  nextTarget : Nat
  messages : Nat → Option Bytes

/-- An operation from a state with view `v` ended in a valid state: with its effect when it
succeeded, with its effect or none when it failed. -/
def Outcome {σ α : Type} (Valid : σ → Prop) (view : σ → StoreView) (v : StoreView)
    (effect : StoreView → Prop) (res : Except Error α × σ) : Prop :=
  Valid res.2 ∧
    match res.1 with
    | .ok _ => effect (view res.2)
    | .error _ => view res.2 = v ∨ effect (view res.2)

/-- The view of a store whose messages are read off by `messages`. -/
abbrev viewWith {σ : Type} [MessageStore σ] (messages : σ → Nat → Option Bytes) (st : σ) :
    StoreView :=
  { nextSender := nextSenderSeqNum st, nextTarget := nextTargetSeqNum st, messages := messages st }

/-- Every operation has its documented effect or, when it fails, maybe none. -/
class LawfulStore (σ : Type) [MessageStore σ] where
  /-- The states operations lead to. -/
  Valid : σ → Prop
  /-- The stored messages. -/
  messages : σ → Nat → Option Bytes
  /-- The counters are in the range of `u64`. -/
  bounded : ∀ st, Valid st → nextSenderSeqNum st < 2 ^ 64 ∧ nextTargetSeqNum st < 2 ^ 64
  incrSender : ∀ st, Valid st → Outcome Valid (viewWith messages) (viewWith messages st)
    (· = { viewWith messages st with nextSender := incremented (nextSenderSeqNum st) })
    (incrNextSenderSeqNum st)
  incrTarget : ∀ st, Valid st → Outcome Valid (viewWith messages) (viewWith messages st)
    (· = { viewWith messages st with nextTarget := incremented (nextTargetSeqNum st) })
    (incrNextTargetSeqNum st)
  setSender : ∀ n < 2 ^ 64, ∀ st, Valid st → Outcome Valid (viewWith messages) (viewWith messages st)
    (· = { viewWith messages st with nextSender := n }) (setNextSenderSeqNum n st)
  setTarget : ∀ n < 2 ^ 64, ∀ st, Valid st → Outcome Valid (viewWith messages) (viewWith messages st)
    (· = { viewWith messages st with nextTarget := n }) (setNextTargetSeqNum n st)
  /-- A store of bounded capacity may drop messages when one is saved, the saved one included. -/
  save : ∀ n raw st, Valid st → Outcome Valid (viewWith messages) (viewWith messages st)
    (fun v => v.nextSender = nextSenderSeqNum st ∧ v.nextTarget = nextTargetSeqNum st ∧
      ∀ k r, v.messages k = some r → if k = n then r = raw else messages st k = some r)
    (saveMessage n raw st)
  get : ∀ b e st, Valid st → Outcome Valid (viewWith messages) (viewWith messages st)
    (· = viewWith messages st) (getMessages b e st)
  /-- What is read back from the medium may differ from what the store held. -/
  refresh : ∀ t st, Valid st → Outcome Valid (viewWith messages) (viewWith messages st)
    (fun _ => True) (refresh t st)
  reset : ∀ t st, Valid st → Outcome Valid (viewWith messages) (viewWith messages st)
    (· = { nextSender := 1, nextTarget := 1, messages := fun _ => none }) (reset t st)

/-- The view of a store. -/
abbrev view {σ : Type} [MessageStore σ] [LawfulStore σ] (st : σ) : StoreView :=
  viewWith LawfulStore.messages st

/-- An operation that failed had no effect. -/
def Stops {σ α : Type} [MessageStore σ] [LawfulStore σ] (st : σ) (res : Except Error α × σ) : Prop :=
  ∀ e, res.1 = .error e → view res.2 = view st

/-- No operation that fails has an effect. -/
class FailStopStore (σ : Type) [MessageStore σ] extends LawfulStore σ where
  incrSender_stops : ∀ st, Valid st → Stops st (incrNextSenderSeqNum st)
  incrTarget_stops : ∀ st, Valid st → Stops st (incrNextTargetSeqNum st)
  setSender_stops : ∀ n < 2 ^ 64, ∀ st, Valid st → Stops st (setNextSenderSeqNum n st)
  setTarget_stops : ∀ n < 2 ^ 64, ∀ st, Valid st → Stops st (setNextTargetSeqNum n st)
  save_stops : ∀ n raw st, Valid st → Stops st (saveMessage n raw st)
  refresh_stops : ∀ t st, Valid st → Stops st (MessageStore.refresh t st)
  reset_stops : ∀ t st, Valid st → Stops st (MessageStore.reset t st)

end QuickFix
