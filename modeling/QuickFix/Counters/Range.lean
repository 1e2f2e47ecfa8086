import QuickFix.Steps.History
import QuickFix.Session.Script

/-!
# Arithmetic on the counters

Counters are `u64`s, and a dozen expressions move them by one, or by the limit of a resend request.
Those on received numbers stay in range in every run: what is subtracted from is not zero, and what is
added to is below the last number. Those on the session's own two counters stay in range exactly when
the counter is not at the end of its range, which a peer and an operator can bring about.
-/

namespace QuickFix

set_option linter.unusedSectionVars false

open MessageStore

/-- A computation on `u64`s. -/
inductive Arith where
  | add (a b : Nat)
  | sub (a b : Nat)
  deriving DecidableEq

/-- Whether a computation stays in the range of `u64`. -/
def Arith.inRange : Arith → Bool
  | .add a b => a + b < 2 ^ 64
  | .sub a b => b ≤ a

/-- The operations for a resend request, which asks for at most `max` messages unless that is 0. -/
def requestOps (begin' received : Nat) : Nat → List Arith
  | 0 => [.sub received 1]
  | max => [.sub received 1, .add begin' max, .sub (begin' + max) 1]

/-- A resend request below a received number needs room for its limit only. -/
lemma requestOps_inRange {begin' received max : Nat} (pos : 1 ≤ received) :
    (∀ op ∈ requestOps begin' received max, op.inRange = true) ↔
      max = 0 ∨ begin' + max < 2 ^ 64 := by
  cases max with
  | zero => simp [requestOps, Arith.inRange, pos]
  | succ max =>
    have le : 1 ≤ begin' + (max + 1) := Nat.le_add_left _ _
    simp [requestOps, Arith.inRange, pos, le]

section Calls

variable {σ : Type} [MessageStore σ]

/-- The operations of a computation, in the order they are performed. -/
def Computation.ops (s : Session σ) : Computation → List Arith
  | .request begin' received => requestOps begin' received s.cfg.maxMessagesInResendRequest
  | .nextChunk fullEnd => [.add fullEnd 1]
  | .nextExpected => [.add (nextTargetSeqNum s.store) 1]
  | .gap received => [.sub received 1]
  | .lastSent => [.sub (nextSenderSeqNum s.store) 1]
  | .fillEnd end' => [.add end' 1]

/-- The operations on counters that are performed at a call. -/
def Call.computes (c : Call σ) : List Arith :=
  match c.event with
  | .incrTarget _ => [.add c.nextTarget 1]
  | .incrSender _ | .save .. => [.add c.nextSender 1]
  | .compute what => what.flatMap (·.ops c.session)
  | _ => []

/-- Whether what is computed at a call stays in the range of `u64`. -/
def Call.inRange (c : Call σ) : Bool := c.computes.all (·.inRange)

/-- Whether the counter a computation is about leaves room for it. -/
def Computation.hasRoom (s : Session σ) : Computation → Bool
  | .request .. =>
    s.cfg.maxMessagesInResendRequest = 0 ||
      decide (nextTargetSeqNum s.store + s.cfg.maxMessagesInResendRequest < 2 ^ 64)
  | .nextExpected => nextTargetSeqNum s.store + 1 < 2 ^ 64
  | .lastSent => 0 < nextSenderSeqNum s.store
  | .nextChunk _ | .gap _ | .fillEnd _ => true

/-- Whether the counters leave room for what is computed at a call. -/
def Call.hasRoom (c : Call σ) : Bool :=
  match c.event with
  | .incrTarget _ => c.nextTarget + 1 < 2 ^ 64
  | .incrSender _ | .save .. => c.nextSender + 1 < 2 ^ 64
  | .compute what => what.all (·.hasRoom c.session)
  | _ => true

/-- What is known about a computation from the calls before it. -/
inductive Founded (c : Call σ) (earlier : List (Call σ)) : Computation → Prop
  | request {received} (high : c.nextTarget < received) :
      Founded c earlier (.request c.nextTarget received)
  | nextChunk {fullEnd} (small : fullEnd + 1 < 2 ^ 64) : Founded c earlier (.nextChunk fullEnd)
  | nextExpected : Founded c earlier .nextExpected
  | gap {received} (high : c.nextTarget < received) : Founded c earlier (.gap received)
  | lastSent : Founded c earlier .lastSent
  | fillEnd {d : Call σ} {n} (mem : d ∈ earlier) (sent : n + 1 ≤ max 1 d.nextSender) :
      Founded c earlier (.fillEnd n)

/-- A founded computation stays in range when the counters leave room, and only then. -/
lemma Founded.inRange_iff {c : Call σ} {earlier} {what} (h : Founded c earlier what)
    (bound : ∀ d ∈ earlier, d.nextSender < 2 ^ 64) :
    (∀ op ∈ what.ops c.session, op.inRange = true) ↔ what.hasRoom c.session = true := by
  cases h with
  | @request received high =>
    rw [Computation.ops, requestOps_inRange (Nat.one_le_of_lt high)]
    simp [Computation.hasRoom]
  | nextChunk small => simpa [Computation.ops, Computation.hasRoom, Arith.inRange] using small
  | nextExpected => simp [Computation.ops, Computation.hasRoom, Arith.inRange]
  | gap high =>
    simpa [Computation.ops, Computation.hasRoom, Arith.inRange] using Nat.one_le_of_lt high
  | lastSent => simp [Computation.ops, Computation.hasRoom, Arith.inRange, Nat.one_le_iff_ne_zero,
      Nat.pos_iff_ne_zero]
  | @fillEnd d n mem sent =>
    have small : n + 1 < 2 ^ 64 := lt_of_le_of_lt sent (max_lt (by decide) (bound d mem))
    simpa [Computation.ops, Computation.hasRoom, Arith.inRange] using small

/-- What is computed at a call is founded. -/
def FoundedCall (c : Call σ) (earlier : List (Call σ)) : Prop :=
  ∀ what, c.event = .compute what → ∀ x ∈ what, Founded c earlier x

/-- The operations at a call of founded computations stay in range when the counters leave room, and
only then. -/
lemma FoundedCall.inRange_iff {c : Call σ} {earlier} (h : FoundedCall c earlier)
    (bound : ∀ d ∈ earlier, d.nextSender < 2 ^ 64) :
    c.inRange = true ↔ c.hasRoom = true := by
  rw [Call.inRange, List.all_eq_true]
  unfold Call.computes Call.hasRoom
  split
  case h_1 | h_2 | h_3 => simp [Arith.inRange]
  case h_4 what ev =>
    rw [List.all_eq_true]
    constructor
    · intro inRange x mem
      refine ((h what ev x mem).inRange_iff bound).mp fun op own => ?_
      exact inRange op (List.mem_flatMap.mpr ⟨x, mem, own⟩)
    · intro room op mem
      obtain ⟨x, mem, own⟩ := List.mem_flatMap.mp mem
      exact ((h what ev x mem).inRange_iff bound).mpr (room x mem) op own
  case h_5 => simp

end Calls

/-! ## Runs -/

section Runs

variable {σ ω : Type} [Chrono] [MessageStore σ] [Application ω] [Runtime ω]

/-- Computations were founded, and a resend range that is outstanding ends below the last number. -/
structure WellFounded (s : Sys σ ω) : Prop where
  along : Along FoundedCall s.trace
  small : ∀ b fullEnd c, s.session.resendRange = some (b, fullEnd, c) → fullEnd + 1 < 2 ^ 64

/-- A call that computes nothing keeps that. -/
lemma WellFounded.cons {s t : Sys σ ω} {c} (h : WellFounded s) (tr : t.trace = c :: s.trace)
    (range : t.session.resendRange = s.session.resendRange ∨ t.session.resendRange = none)
    (plain : ∀ what, c.event ≠ .compute what) : WellFounded t := by
  constructor
  · rw [tr]
    exact ⟨fun what ev => absurd ev (plain what), h.along⟩
  · intro b fullEnd c' some
    rcases range with same | none
    · exact h.small b fullEnd c' (same ▸ some)
    · rw [none] at some
      cases some

/-- A computation that is founded keeps that. -/
lemma WellFounded.compute {s : Sys σ ω} {what} (h : WellFounded s) (why : Computed s what) :
    WellFounded (s.called (.compute what) s.world) := by
  refine ⟨⟨?_, h.along⟩, h.small⟩
  rintro what ⟨rfl⟩ x mem
  cases why with
  | none => cases mem
  | request high =>
    cases List.mem_singleton.mp mem
    exact .request high
  | nextChunk range =>
    cases List.mem_singleton.mp mem
    exact .nextChunk (h.small _ _ _ range)
  | nextExpected =>
    cases List.mem_singleton.mp mem
    exact .nextExpected
  | gap high =>
    cases List.mem_singleton.mp mem
    exact .gap high
  | lastSent =>
    cases List.mem_singleton.mp mem
    exact .lastSent
  | fillEnd earlier sent =>
    cases List.mem_singleton.mp mem
    exact .fillEnd earlier sent

/-- A range that ends below the last number is recorded. -/
lemma WellFounded.expect {s : Sys σ ω} {b fullEnd chunkEnd} (h : WellFounded s)
    (small : fullEnd + 1 < 2 ^ 64) : WellFounded (s.expecting b fullEnd chunkEnd) := by
  refine ⟨⟨by simp [FoundedCall], h.along⟩, ?_⟩
  rintro b f c ⟨rfl, rfl, rfl⟩
  exact small

/-- Giving up the connection computes nothing. -/
lemma GivenUp.wellFounded {s t : Sys σ ω} (left : GivenUp s t) (h : WellFounded s) :
    WellFounded t := by
  have noted : WellFounded ((s.called (.log .disconnecting) s.world).updated Session.detached) :=
    h.cons rfl (.inr rfl) (by simp)
  refine left.elim (fun cut => ?_) fun _ founded => founded.cons rfl (.inl rfl) (by simp)
  cases cut with
  | kept => exact noted
  | reset w now flag => exact noted.cons rfl (.inl rfl) (by simp)

/-- What changes neither the history nor the resend range keeps that. -/
lemma WellFounded.same {s t : Sys σ ω} (h : WellFounded s) (tr : t.trace = s.trace)
    (range : t.session.resendRange = s.session.resendRange) : WellFounded t :=
  ⟨tr ▸ h.along, range ▸ h.small⟩

/-- Acts of the outbound half compute what is founded. -/
lemma SendAct.wellFounded {fresh} {s t : Sys σ ω} (act : SendAct fresh s t) (h : WellFounded s) :
    WellFounded t := by
  cases act with
  | quiet | adopt | logon => exact h.same rfl rfl
  | compute what why => exact h.compute why
  | cut _ _ left => exact left.wellFounded h
  | @announce line _ _ _ w =>
    have noted : WellFounded (s.called (.log line) w) := h.cons rfl (.inl rfl) (by simp)
    exact noted.cons rfl (.inl rfl) (by simp)
  | _ => exact h.cons rfl (.inl rfl) (by simp)

/-- Acts of the handlers compute what is founded. -/
lemma HandleAct.wellFounded {resets} {s t : Sys σ ω} (act : HandleAct resets s t) (h : WellFounded s) :
    WellFounded t := by
  cases act with
  | send act => exact act.wellFounded h
  | receivingReset | endingResets | logon | supersede => exact h.same rfl rfl
  | @deliver origin msg answer w =>
    have called : WellFounded (s.called (.fromApp msg answer) w) :=
      h.cons rfl (.inl rfl) (by simp)
    exact called.cons rfl (.inl rfl) (by simp)
  | @stashAndExpect _ msg seq recovery what chunkEnd item number high recovers why =>
    have stashed : WellFounded (s.stashing seq msg recovery) := h.cons rfl (.inl rfl) (by simp)
    have same : Computed (s.stashing seq msg recovery) what := by
      cases why with
      | none => exact .none
      | request high => exact .request high
      | nextChunk range => exact .nextChunk range
      | nextExpected => exact .nextExpected
      | gap high => exact .gap high
      | lastSent => exact .lastSent
      | fillEnd mem sent => exact .fillEnd (List.mem_cons_of_mem _ mem) sent
    refine (stashed.compute same).expect ?_
    have lt := Message.seqNum_lt number
    omega
  | nextChunk range => exact h.expect (h.small _ _ _ range)
  | satisfied => exact h.cons rfl (.inr rfl) (by simp)
  | _ => exact h.cons rfl (.inl rfl) (by simp)

/-- Every act computes what is founded. -/
lemma Act.wellFounded {s t : Sys σ ω} (act : Act s t) (h : WellFounded s) : WellFounded t := by
  cases act with
  | handle act => exact act.wellFounded h
  | send act => exact act.wellFounded h
  | ask => exact h.same rfl rfl
  | cut _ left => exact left.wellFounded h
  | endLogout now _ left => exact left.wellFounded (h.cons rfl (.inl rfl) (by simp))
  | _ => exact h.cons rfl (.inl rfl) (by simp)

variable [LawfulStore σ]

/-- What a system computes stays in range exactly where its counters leave room for it. -/
structure SoundArithmetic (s : Sys σ ω) : Prop where
  inRange_iff : ∀ c ∈ s.trace, c.inRange = true ↔ c.hasRoom = true

/-- Along every run over a lawful store, what is computed at a call stays in range exactly when the
counters leave room for it. -/
theorem computes_inRange (cfg : SessionConfig) (dictionary adminDictionary : Option DataDictionary)
    (store : σ) (valid : LawfulStore.Valid store) (now : Nat) (world : ω) (inputs : List Input) :
    SoundArithmetic (Sys.ran cfg dictionary adminDictionary store now world inputs) := by
  refine ⟨fun c mem => ?_⟩
  have founded : WellFounded (Sys.ran cfg dictionary adminDictionary store now world inputs) :=
    ran_keeps Act.wellFounded ⟨trivial, by simp [Sys.init, Session.spawn]⟩
  obtain ⟨earlier, suffix, call⟩ := founded.along.of_mem mem
  apply call.inRange_iff
  intro d before
  have mem' := suffix.subset (List.mem_cons_of_mem c before)
  exact (LawfulStore.bounded _ ((linked_ran.valid valid).2 d mem')).1

end Runs

/-- A SequenceReset of the peer to the last number, and the message with that number. -/
def Script.lastNumber : List Input :=
  [.attach, .inbound (fromPeer MsgType.logon 1).toBytes,
    .inbound ((fromPeer MsgType.sequenceReset 2).set Tags.newSeqNo (ascii "18446744073709551615")).toBytes,
    .inbound ((fromPeer MsgType.heartbeat 3).setHeader Tags.msgSeqNum
      (ascii "18446744073709551615")).toBytes]

/-- Up to the last number, what is computed stays in range exactly when there is room. -/
theorem computes_inRange_lastNumber :
    SoundArithmetic (Script.play Script.acceptor {} Script.lastNumber) :=
  letI := epochDay
  computes_inRange Script.acceptor none none ({ creationTime := 0 } : MemoryStore)
    (MemoryStore.valid_empty 0) 0 ({} : Script) Script.lastNumber

/-- Counting the message with the last number overflows. -/
theorem computes_overflow_lastNumber :
    ¬ ∀ c ∈ (Script.play Script.acceptor {} Script.lastNumber).trace, c.inRange = true := by
  decide +kernel

end QuickFix
