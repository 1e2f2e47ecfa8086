import QuickFix.Steps.History
import QuickFix.Session.Script

/-!
# The order of delivery

Application messages are delivered in sequence: the number of a delivered message is the next target
number, and between two boundaries, at which the numbering starts anew, delivered numbers increase. That
holds as long as no message is counted at the end of the range of `u64`, where the number starts again at
0 (`not_delivered_inOrder_lastNumber`).
-/

namespace QuickFix

set_option linter.unusedSectionVars false

open MessageStore

namespace Event

/-- Whether an event starts the inbound numbering anew. -/
def renumbers : Event → Bool
  | .reset .. | .refresh .. | .setTarget .command .. => true
  | _ => false

end Event

/-- A call at which the inbound numbering starts anew. -/
def boundary {σ : Type} (c : Call σ) : Bool := c.event.renumbers

section Lists

variable {σ : Type} [MessageStore σ]

/-- What a call is to the calls before it, as far as delivery is concerned. -/
structure Orderly (c : Call σ) (rest : List (Call σ)) : Prop where
  number : ∀ msg answer, c.event = .fromApp msg answer → msg.seqNum = .ok c.nextTarget
  up : ∀ n res, c.event = .setTarget .sequenceReset n res → c.nextTarget < n
  counted : ∀ d, rest.head? = some d → d.event.delivers = true → ∃ res, c.event = .incrTarget res

/-- What the order of delivery is for a call and the calls before it. -/
structure InOrder (c : Call σ) (earlier : List (Call σ)) : Prop where
  /-- A message is delivered when its number is next. -/
  number : ∀ msg answer, c.event = .fromApp msg answer → msg.seqNum = .ok c.nextTarget
  /-- The next number has not decreased since the last boundary. -/
  mono : ∀ d ∈ since boundary earlier, d.nextTarget ≤ c.nextTarget
  /-- The numbers delivered since then are smaller. -/
  increasing : ∀ d ∈ since boundary earlier, ∀ msg msg' answer answer' seq seq',
    d.event = .fromApp msg answer → c.event = .fromApp msg' answer' →
    msg.seqNum = .ok seq → msg'.seqNum = .ok seq' → seq < seq'

variable [LawfulStore σ]

/-- Between boundaries no operation moves the next target number down. -/
lemma nextTarget_mono {c : Call σ} {rest} {st : σ} (orderly : Orderly c rest)
    (inside : boundary c = false) (room : c.wrapsTarget = false)
    (moves : c.event.Moves (view c.session.store) (view st)) :
    c.nextTarget ≤ nextTargetSeqNum st := by
  have same {v : StoreView} (h : view st = v) := (congrArg StoreView.nextTarget h).symm.le
  obtain ⟨session, event⟩ := c
  cases event with
  | incrSender | setSender => exact moves.elim same same
  | incrTarget res =>
    refine moves.elim same fun h => ?_
    exact (Nat.le_succ _).trans ((incremented_eq (Call.room_of_incr rfl room)).symm.le.trans (same h))
  | save => exact moves.1.symm.le
  | refresh | reset => simp [boundary, Event.renumbers] at inside
  | setTarget setter n res =>
    cases setter with
    | command => simp [boundary, Event.renumbers] at inside
    | sequenceReset => exact moves.elim same fun h => (orderly.up n res rfl).le.trans (same h)
  | _ => exact same moves

/-- The numbers since the last boundary are at most the next one, and those delivered are smaller
once they are counted. -/
lemma since_le {start st : σ} {cs : List (Call σ)} (valid : LawfulStore.Valid start)
    (linked : Linked start cs st) (orderly : Along Orderly cs)
    (clean : ∀ c ∈ cs, c.event.failed = false) (room : ∀ c ∈ cs, c.wrapsTarget = false) :
    ∀ d ∈ since boundary cs, d.nextTarget ≤ nextTargetSeqNum st ∧
      (d.event.delivers = true → cs.head? = some d ∨ d.nextTarget < nextTargetSeqNum st) := by
  induction cs generalizing st with
  | nil => simp
  | cons c cs ih =>
    intro d mem
    have moves := (linked.1.moves (linked.2.valid valid).1).2
    have ih := ih linked.2 orderly.2 (fun c mem => clean c (by simp [mem]))
      fun c mem => room c (by simp [mem])
    rw [since_cons] at mem
    split at mem
    case isTrue => simp at mem
    case isFalse inside =>
      have mono := nextTarget_mono orderly.1 (by simpa using inside) (room c (by simp)) moves
      obtain rfl | mem := List.mem_cons.mp mem
      · exact ⟨mono, fun _ => .inl rfl⟩
      · obtain ⟨le, lt⟩ := ih d mem
        refine ⟨le.trans mono, fun delivers => .inr ?_⟩
        obtain head | lt := lt delivers
        · obtain ⟨res, ev⟩ := orderly.1.counted d head delivers
          have done := clean c (by simp)
          rw [ev] at moves done
          cases res with
          | error e => simp [Event.failed] at done
          | ok _ =>
            have next : nextTargetSeqNum st = c.nextTarget + 1 :=
              (congrArg StoreView.nextTarget moves).trans
                (incremented_eq (Call.room_of_incr ev (room c (by simp))))
            exact le.trans_lt (next ▸ Nat.lt_succ_self _)
        · exact lt.trans_le mono

/-- A history of orderly calls is in order. -/
lemma inOrder_of_orderly {start st : σ} {cs : List (Call σ)} (valid : LawfulStore.Valid start)
    (linked : Linked start cs st) (orderly : Along Orderly cs)
    (clean : ∀ c ∈ cs, c.event.failed = false) (room : ∀ c ∈ cs, c.wrapsTarget = false) :
    Along InOrder cs := by
  induction cs generalizing st with
  | nil => trivial
  | cons c cs ih =>
    have clean' : ∀ c ∈ cs, c.event.failed = false := fun c mem => clean c (by simp [mem])
    have room' : ∀ c ∈ cs, c.wrapsTarget = false := fun c mem => room c (by simp [mem])
    have le := since_le valid linked.2 orderly.2 clean' room'
    refine ⟨⟨orderly.1.number, fun d mem => (le d mem).1, ?_⟩, ih linked.2 orderly.2 clean' room'⟩
    intro d mem msg msg' answer answer' seq seq' ev ev' number number'
    obtain ⟨rest, -, orderly'⟩ := orderly.2.of_mem (mem_of_mem_since mem)
    obtain rfl : d.nextTarget = seq := by simpa [number] using (orderly'.number msg answer ev).symm
    obtain rfl : c.nextTarget = seq' := by simpa [number'] using (orderly.1.number msg' answer' ev').symm
    obtain head | lt := (le d mem).2 (by simp [ev, Event.delivers])
    · obtain ⟨res, ev''⟩ := orderly.1.counted d head (by simp [ev, Event.delivers])
      simp [ev'] at ev''
    · exact lt

end Lists

/-! ## Runs -/

section Runs

variable {σ ω : Type} [Chrono] [MessageStore σ] [Application ω] [Runtime ω]

/-- The calls are orderly, and every delivery was counted. -/
structure Settled (cs : List (Call σ)) : Prop where
  along : Along Orderly cs
  counted : ∀ d, cs.head? = some d → d.event.delivers = false

/-- A call that neither delivers nor moves the next target number down keeps that. -/
lemma Settled.cons {c : Call σ} {cs} (h : Settled cs) (quiet : c.event.delivers = false)
    (up : ∀ n res, c.event = .setTarget .sequenceReset n res → c.nextTarget < n) :
    Settled (c :: cs) where
  along := by
    refine ⟨⟨fun msg answer ev => ?_, up, fun d head delivers => ?_⟩, h.along⟩
    · simp [ev, Event.delivers] at quiet
    · simp [h.counted d head] at delivers
  counted := by simpa using quiet

/-- Giving up the connection keeps that. -/
lemma GivenUp.settled {s t : Sys σ ω} (left : GivenUp s t) (h : Settled s.trace) :
    Settled t.trace := by
  refine left.elim (P := fun t => Settled t.trace) (fun cut => ?_) fun _ h => h.cons rfl (by simp)
  cases cut with
  | kept => exact h.cons rfl (by simp)
  | reset => exact (h.cons rfl (by simp)).cons rfl (by simp)

/-- An act of the outbound half keeps that. -/
lemma SendAct.settled {fresh} {s t : Sys σ ω} (act : SendAct fresh s t) (h : Settled s.trace) :
    Settled t.trace := by
  cases act with
  | quiet | adopt | logon => exact h
  | cut _ _ left => exact left.settled h
  | announce => exact (h.cons rfl (by simp)).cons rfl (by simp)
  | _ => exact h.cons rfl (by simp)

/-- An act of a handler keeps that. -/
lemma HandleAct.settled {resets} {s t : Sys σ ω} (act : HandleAct resets s t) (h : Settled s.trace) :
    Settled t.trace := by
  cases act with
  | send act => exact act.settled h
  | receivingReset | endingResets | logon | supersede => exact h
  | moveTarget n item bound up => exact h.cons rfl (by simp; exact up)
  | deliver answer w taken app number state =>
    have last := h.counted
    refine ⟨⟨⟨by simp, by simp, fun _ _ _ => ⟨_, rfl⟩⟩, ⟨?_, by simp, ?_⟩, h.along⟩, ?_⟩
    · rintro msg' answer' ⟨rfl, rfl⟩
      exact number
    · exact fun d head delivers => by simp [last d head] at delivers
    · rintro d ⟨rfl⟩
      rfl
  | stashAndExpect => exact ((h.cons rfl (by simp)).cons rfl (by simp)).cons rfl (by simp)
  | _ => exact h.cons rfl (by simp)

/-- Every act keeps that. -/
lemma Act.settled {s t : Sys σ ω} (act : Act s t) (h : Settled s.trace) : Settled t.trace := by
  cases act with
  | handle act => exact act.settled h
  | send act => exact act.settled h
  | ask => exact h
  | cut _ left => exact left.settled h
  | endLogout now _ left => exact left.settled (h.cons rfl (by simp))
  | _ => exact h.cons rfl (by simp)

variable [LawfulStore σ]

/-- The messages of a system were delivered in order, and the next target number has not decreased
since the last boundary. -/
structure DeliveredInOrder (s : Sys σ ω) : Prop where
  along : Along InOrder s.trace
  mono : ∀ d ∈ since boundary s.trace, d.nextTarget ≤ s.nextTarget

/-- Along every run in which no message is counted at the end of the range, application messages are
delivered in order: a delivered message has the next target number, and between two boundaries that
number does not decrease and the delivered ones increase. -/
theorem delivered_inOrder (cfg : SessionConfig) (dictionary adminDictionary : Option DataDictionary)
    (store : σ) (now : Nat) (world : ω) (inputs : List Input) (valid : LawfulStore.Valid store)
    (reliable : (Sys.ran cfg dictionary adminDictionary store now world inputs).Reliable)
    (room : (Sys.ran cfg dictionary adminDictionary store now world inputs).TargetRoom) :
    DeliveredInOrder (Sys.ran cfg dictionary adminDictionary store now world inputs) := by
  have settled : Settled (Sys.ran cfg dictionary adminDictionary store now world inputs).trace :=
    ran_keeps (I := fun s => Settled s.trace) Act.settled ⟨trivial, by simp [Sys.init]⟩
  refine ⟨inOrder_of_orderly valid linked_ran settled.along reliable room, fun d mem => ?_⟩
  exact (since_le valid linked_ran settled.along reliable room d mem).1

end Runs

/-- A message comes before the one it waits for. -/
def Script.outOfOrder : List Input :=
  [.attach, .inbound (fromPeer MsgType.logon 1).toBytes, .inbound (fromPeer (ascii "D") 3).toBytes,
    .inbound (fromPeer (ascii "D") 2).toBytes]

/-- Messages that arrive out of order are delivered in order. -/
theorem delivered_inOrder_outOfOrder :
    DeliveredInOrder (Script.play Script.acceptor {} Script.outOfOrder) :=
  letI := epochDay
  delivered_inOrder Script.acceptor none none ({ creationTime := 0 } : MemoryStore) 0 ({} : Script)
    Script.outOfOrder (MemoryStore.valid_empty 0) (by decide +kernel) (by decide +kernel)

/-- An order of the counterparty with a number of its own spelling. -/
def Script.orderNumbered (number : String) : Message :=
  (fromPeer (ascii "D") 0).setHeader Tags.msgSeqNum (ascii number)

/-- A SequenceReset of the peer to the last number, the order with that number, and one with 0. -/
def Script.pastLastNumber : List Input :=
  [.attach, .inbound (fromPeer MsgType.logon 1).toBytes,
    .inbound ((fromPeer MsgType.sequenceReset 2).set Tags.newSeqNo (ascii "18446744073709551615")).toBytes,
    .inbound (orderNumbered "18446744073709551615").toBytes, .inbound (orderNumbered "0").toBytes]

/-- The numbers of the messages delivered, the earliest first. -/
def deliveredNumbers {σ ω : Type} (s : Sys σ ω) : List (Except ConversionError Nat) :=
  s.trace.reverse.filterMap fun c =>
    match c.event with
    | .fromApp msg _ => some msg.seqNum
    | _ => none

/-- The order with the last number is delivered, the next number starts again at 0, and the order with
that number is delivered after it, though no store operation failed. -/
theorem not_delivered_inOrder_lastNumber :
    let s := Script.play Script.acceptor {} Script.pastLastNumber
    s.Reliable ∧ deliveredNumbers s = [.ok 18446744073709551615, .ok 0] ∧ ¬ DeliveredInOrder s := by
  refine ⟨by decide +kernel, by decide +kernel, fun ordered => ?_⟩
  exact absurd ordered.mono (by decide +kernel)

end QuickFix
