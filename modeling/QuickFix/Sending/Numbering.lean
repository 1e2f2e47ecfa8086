import QuickFix.Steps.History
import QuickFix.Session.Script

/-!
# Outbound numbering

Fresh messages are numbered consecutively: between two points where the outbound numbering starts
anew, the numbers of the messages accepted for sending follow each other from the next sender number
on. The bytes stored under a number are the bytes handed on for it, and nothing else moves the
number: not a veto, not a failed store operation, not a resend.
-/

namespace QuickFix

set_option mvcgen.warning false
set_option linter.unusedSectionVars false

open Std.Do MessageStore

namespace Event

/-- Whether the outbound numbering starts anew. -/
def restarts : Event → Bool
  | .reset .. | .refresh .. | .setSender .. => true
  | _ => false

/-- The number and the bytes of a fresh message that is accepted. -/
def accepted : Event → Option (Nat × Bytes)
  | .save n raw (.ok _) => some (n, raw)
  | _ => none

/-- A message is accepted when it was saved and counted. -/
lemma accepted_eq_some {e : Event} {n raw} (h : e.accepted = some (n, raw)) : e = .save n raw (.ok ()) := by
  unfold accepted at h
  split at h
  · cases h
    rfl
  · cases h

end Event

/-- A call at which the outbound numbering starts anew. -/
def restart {σ : Type} (c : Call σ) : Bool := c.event.restarts

/-- Callbacks that leave the number of a message alone. -/
structure LeavesNumber (ω : Type) [Application ω] : Prop where
  toAdmin : ∀ m (w : ω), (Application.toAdmin m w).1.header.getRaw Tags.msgSeqNum =
    m.header.getRaw Tags.msgSeqNum
  toApp : ∀ m (w : ω) m', (Application.toApp m w).1 = some m' →
    m'.header.getRaw Tags.msgSeqNum = m.header.getRaw Tags.msgSeqNum

section Lists

variable {σ : Type} [MessageStore σ]

/-- The numbers of the fresh messages accepted, the earliest first. -/
def acceptedNumbers : List (Call σ) → List Nat
  | [] => []
  | c :: cs => acceptedNumbers cs ++ (c.event.accepted.map (·.1)).toList

/-- The next sender number at the earliest of the calls, which lead to the number `next`. -/
def firstNumber (next : Nat) : List (Call σ) → Nat
  | [] => next
  | c :: cs => firstNumber c.nextSender cs

/-- The numbers accepted follow each other from the first one on, and `next` follows them. -/
structure Consecutive (next : Nat) (cs : List (Call σ)) : Prop where
  numbers : acceptedNumbers cs = List.range' (firstNumber next cs) (acceptedNumbers cs).length
  next : next = firstNumber next cs + (acceptedNumbers cs).length

/-- What the order of sending is for a call and the calls before it. -/
structure SentInOrder (c : Call σ) (earlier : List (Call σ)) : Prop where
  /-- The numbers accepted since the last restart follow each other up to the next one. -/
  consecutive : Consecutive c.nextSender (since restart earlier)
  /-- A message is stored under the next number, as it came out of its callback. -/
  saved : ∀ n raw res, c.event = .save n raw res →
    n = c.nextSender ∧ Outgoing n raw c.session earlier
  /-- Bytes are handed on right after they were stored; all others are possible duplicates. -/
  handed : ∀ raw, c.event = .transmit raw → JustStored raw earlier ∨ Resent raw earlier

/-- An outgoing callback left the number of its message alone. -/
def Event.LeftNumber (e : Event) : Prop :=
  ∀ m m', e = .toAdmin m m' ∨ e = .toApp m (some m') →
    m'.header.getRaw Tags.msgSeqNum = m.header.getRaw Tags.msgSeqNum

/-- What is known about a call of the outbound half without looking at the store. -/
structure Emitted (c : Call σ) (earlier : List (Call σ)) : Prop where
  persisted : ∀ res, c.event ≠ .incrSender res
  saved : ∀ n raw res, c.event = .save n raw res → Outgoing n raw c.session earlier
  handed : ∀ raw, c.event = .transmit raw → JustStored raw earlier ∨ Resent raw earlier
  left : c.event.LeftNumber

/-- The bytes stored under a number accepted since the last restart are those accepted. -/
def Kept [LawfulStore σ] (st : σ) (cs : List (Call σ)) : Prop :=
  ∀ d ∈ since restart cs, ∀ n raw, d.event.accepted = some (n, raw) →
    ∀ r, LawfulStore.messages st n = some r → r = raw

/-! ## Numbers -/

/-- The order of the dictionary leaves the header. -/
lemma Session.header_canonicalized (x : Session σ) (m : Message) :
    (x.canonicalized m).header = m.header := by
  unfold canonicalized
  split
  · exact DataDictionary.canonicalizeBody_header _ _
  · rfl

/-- The number read back from a message is the one written into it, and from 2^63 on none is. -/
lemma Outgoing.number {n : Nat} {raw} {x : Session σ} {earlier} (h : Outgoing n raw x earlier)
    (left : ∀ c ∈ earlier, c.event.LeftNumber) (bound : nextSenderSeqNum x.store < 2 ^ 64) :
    n = nextSenderSeqNum x.store ∧ nextSenderSeqNum x.store < 2 ^ 63 := by
  obtain ⟨c, m, m', hd, ev, own, number, -⟩ := h
  have same := left c (List.mem_of_mem_head? hd) m m' ev
  have read : decodeU64 Tags.msgSeqNum (encode (nextSenderSeqNum x.store)) = .ok n := by
    rw [Message.seqNum, FieldMap.get, x.header_canonicalized, same, own] at number
    exact number
  cases Nat.lt_or_ge (nextSenderSeqNum x.store) (2 ^ 63) with
  | inl low =>
    rw [decodeU64_encode low] at read
    exact ⟨(Except.ok.inj read).symm, low⟩
  | inr high =>
    obtain ⟨e, failed⟩ := decodeU64_encode_neg high bound
    rw [failed] at read
    cases read

/-- The number of an accepted message is among the numbers accepted. -/
lemma mem_acceptedNumbers {d : Call σ} {cs n raw} (mem : d ∈ cs)
    (accepted : d.event.accepted = some (n, raw)) : n ∈ acceptedNumbers cs := by
  induction cs with
  | nil => cases mem
  | cons c cs ih =>
    cases mem with
    | head => simp [acceptedNumbers, accepted]
    | tail _ mem => exact List.mem_append_left _ (ih mem)

/-- Numbers that were accepted are smaller than the next one. -/
lemma Consecutive.lt {next n : Nat} {cs : List (Call σ)} (h : Consecutive next cs)
    (mem : n ∈ acceptedNumbers cs) : n < next := by
  rw [h.numbers, List.mem_range'_1] at mem
  rw [h.next]
  exact mem.2

/-- A call that accepts the next number, or none, keeps the numbers consecutive. -/
lemma Consecutive.cons {next : Nat} {c : Call σ} {cs} (h : Consecutive c.nextSender cs)
    (own : ∀ n raw, c.event.accepted = some (n, raw) → n = c.nextSender)
    (moved : next = c.nextSender + c.event.accepted.toList.length) : Consecutive next (c :: cs) := by
  obtain ⟨numbers, last⟩ := h
  cases accepted : c.event.accepted with
  | none =>
    rw [accepted] at moved
    refine ⟨?_, ?_⟩
    · simpa [acceptedNumbers, firstNumber, accepted] using numbers
    · simpa [acceptedNumbers, firstNumber, accepted, moved] using last
  | some sent =>
    obtain ⟨n, raw⟩ := sent
    rw [accepted] at moved
    have n_eq := own n raw accepted
    refine ⟨?_, ?_⟩
    · simp only [acceptedNumbers, firstNumber, accepted, Option.map_some, Option.toList_some,
        List.length_append, List.length_singleton, List.range'_concat, one_mul]
      rw [← numbers, n_eq, ← last]
    · simp only [acceptedNumbers, firstNumber, accepted, Option.map_some, Option.toList_some,
        List.length_append, List.length_singleton]
      rw [moved, ← Nat.add_assoc, ← last]
      rfl

end Lists

/-! ## The store -/

section Store

variable {σ : Type} [MessageStore σ] [FailStopStore σ]

open LawfulStore

/-- An operation that fails leaves the next sender number. -/
lemma Stops.nextSender {st st' : σ} {res : Except Error Unit} (h : Stops st (res, st')) {e}
    (failed : res = .error e) : nextSenderSeqNum st' = nextSenderSeqNum st :=
  congrArg StoreView.nextSender (h e failed)

/-- Saving a message takes its number when it succeeds only. -/
lemma saveMessageAndIncr_sender {n raw} {st st' : σ} {res} (valid : Valid st)
    (h : saveMessageAndIncr n raw st = (res, st'))
    (room : ∀ sent, (Event.save n raw res).accepted = some sent → nextSenderSeqNum st + 1 < 2 ^ 64) :
    nextSenderSeqNum st' =
      nextSenderSeqNum st + (Event.save n raw res).accepted.toList.length := by
  have moves := (@saveMessageAndIncr_moves _ _ _ n raw st valid).2
  rw [h] at moves
  cases res with
  | ok _ => exact moves.2.2.1.trans (incremented_eq (room _ rfl))
  | error e =>
    unfold saveMessageAndIncr at h
    cases saved : saveMessage n raw st with
    | mk res st1 =>
      rw [saved] at h
      have stops := FailStopStore.save_stops n raw st valid
      have stored := LawfulStore.save n raw st valid
      rw [saved] at stops stored
      cases res with
      | error e' =>
        cases h
        exact stops.nextSender rfl
      | ok _ =>
        have stops' := FailStopStore.incrSender_stops st1 stored.1
        have h : incrNextSenderSeqNum st1 = (.error e, st') := h
        rw [h] at stops'
        exact (stops'.nextSender rfl).trans stored.2.1

/-- Only accepting a message moves the next sender number, by one. -/
lemma Event.Effect.sender {e : Event} {st st' : σ} (h : e.Effect st st') (valid : Valid st)
    (inside : e.restarts = false) (persisted : ∀ res, e ≠ .incrSender res)
    (room : ∀ sent, e.accepted = some sent → nextSenderSeqNum st + 1 < 2 ^ 64) :
    nextSenderSeqNum st' = nextSenderSeqNum st + e.accepted.toList.length := by
  have moves := (h.moves valid).2
  have same {v : StoreView} (h : view st' = v) : nextSenderSeqNum st' = v.nextSender :=
    congrArg StoreView.nextSender h
  cases e with
  | incrSender res => exact absurd rfl (persisted res)
  | setSender | refresh | reset => simp [restarts] at inside
  | save n raw res => exact saveMessageAndIncr_sender valid h room
  | incrTarget => exact moves.elim same same
  | setTarget => exact moves.elim same same
  | _ => exact same moves

/-- Stored bytes stay those accepted. -/
lemma Kept.cons {st : σ} {c : Call σ} {cs} (h : Kept c.session.store cs)
    (effect : c.event.Effect c.session.store st) (valid : Valid c.session.store)
    (consecutive : Consecutive c.nextSender (since restart cs))
    (own : ∀ n raw res, c.event = .save n raw res → n = c.nextSender) : Kept st (c :: cs) := by
  intro d mem n raw accepted r stored
  have moves := (effect.moves valid).2
  rw [since_cons] at mem
  split at mem
  case isTrue => cases mem
  case isFalse inside =>
    cases mem with
    | head =>
      obtain ⟨session, event⟩ := c
      cases event with
      | save k raw' res =>
        cases res with
        | error e => simp [Event.accepted] at accepted
        | ok _ =>
          obtain ⟨rfl, rfl⟩ : k = n ∧ raw' = raw := by simpa [Event.accepted] using accepted
          exact moves.2.2.2 r stored
      | _ => simp [Event.accepted] at accepted
    | tail _ mem =>
      have lt := consecutive.lt (mem_acceptedNumbers mem accepted)
      refine h d mem n raw accepted r ?_
      have same {v : StoreView} (h : view st = v) : messages st n = v.messages n :=
        congrFun (congrArg StoreView.messages h) n
      obtain ⟨session, event⟩ := c
      cases event with
      | save k raw' res =>
        obtain before | ⟨rfl, -⟩ := moves.2.1 n r stored
        · exact before
        · exact absurd (own n raw' res rfl) (Nat.ne_of_lt lt)
      | incrSender | incrTarget | setSender | setTarget =>
        exact moves.elim (fun h => (same h).symm.trans stored) (fun h => (same h).symm.trans stored)
      | refresh | reset => simp [restart, Event.restarts] at inside
      | _ => exact (same moves).symm.trans stored

/-- Calls of the outbound half along which the store does what it should are in order. -/
lemma sentInOrder_of_emitted {start st : σ} {cs : List (Call σ)} (valid : Valid start)
    (linked : Linked start cs st) (emitted : Along Emitted cs) :
    Along SentInOrder cs ∧ Consecutive (nextSenderSeqNum st) (since restart cs) ∧ Kept st cs := by
  induction cs generalizing st with
  | nil => exact ⟨trivial, ⟨rfl, rfl⟩, fun _ mem => by cases mem⟩
  | cons c cs ih =>
    obtain ⟨effect, before⟩ := linked
    obtain ⟨now, earlier⟩ := emitted
    obtain ⟨along, consecutive, kept⟩ := ih before earlier
    have valid' : Valid c.session.store := (before.valid valid).1
    have left : ∀ d ∈ cs, d.event.LeftNumber := fun d mem => by
      obtain ⟨rest, -, emitted⟩ := earlier.of_mem mem
      exact emitted.left
    have number : ∀ n raw res, c.event = .save n raw res → n = c.nextSender ∧ c.nextSender < 2 ^ 63 :=
      fun n raw res ev => (now.saved n raw res ev).number left (bounded _ valid').1
    have own n raw res (ev : c.event = .save n raw res) : n = c.nextSender := (number n raw res ev).1
    have room sent (accepted : c.event.accepted = some sent) : nextSenderSeqNum c.session.store + 1 < 2 ^ 64 := by
      have low : nextSenderSeqNum c.session.store < 2 ^ 63 :=
        (number _ _ _ (Event.accepted_eq_some accepted)).2
      omega
    have saved n raw res (ev : c.event = .save n raw res) := And.intro (own n raw res ev)
      (now.saved n raw res ev)
    refine ⟨⟨⟨consecutive, saved, now.handed⟩, along⟩, ?_, kept.cons effect valid' consecutive own⟩
    rw [since_cons]
    split
    case isTrue => exact ⟨rfl, rfl⟩
    case isFalse inside =>
      refine consecutive.cons ?_
        (effect.sender valid' (by simpa [restart] using inside) now.persisted room)
      intro n raw accepted
      exact own n raw _ (Event.accepted_eq_some accepted)

end Store

/-! ## Runs -/

section Runs

variable {σ ω : Type} [Chrono] [MessageStore σ] [Application ω] [Runtime ω]

/-- An outgoing callback that leaves numbers alone left that of its message. -/
lemma LeavesNumber.left (h : LeavesNumber ω) {e : Event} (called : e.CallsBack ω) : e.LeftNumber := by
  obtain ⟨m, w, rfl | rfl⟩ := called
  · intro k k' ev
    obtain ⟨rfl, rfl⟩ : m = k ∧ (Application.toAdmin m w).1 = k' := by simpa using ev
    exact h.toAdmin m w
  · intro k k' ev
    obtain ⟨rfl, sent⟩ : m = k ∧ (Application.toApp m w).1 = some k' := by simpa using ev
    exact h.toApp m w k' sent

namespace Event

/-- Whether an event says something about what is sent. -/
def emits : Event → Bool
  | .incrSender .. | .save .. | .transmit .. | .toAdmin .. | .toApp .. => true
  | _ => false

end Event

/-- A call that does not say anything about what is sent. -/
lemma Emitted.of_quiet {c : Call σ} {earlier} (h : c.event.emits = false) : Emitted c earlier := by
  constructor
  · intro res ev
    simp [ev, Event.emits] at h
  · intro n raw res ev
    simp [ev, Event.emits] at h
  · intro raw ev
    simp [ev, Event.emits] at h
  · rintro m m' (ev | ev) <;> simp [ev, Event.emits] at h

/-- An outgoing callback is emitted as it should be. -/
lemma Emitted.of_callback (leaves : LeavesNumber ω) {c : Call σ} {earlier}
    (called : c.event.CallsBack ω) : Emitted c earlier := by
  have left := leaves.left called
  obtain ⟨m, w, ev | ev⟩ := called
  · exact ⟨by simp [ev], by simp [ev], by simp [ev], left⟩
  · exact ⟨by simp [ev], by simp [ev], by simp [ev], left⟩

/-- What is known about the outbound half of a system that persists its messages. -/
structure Emits (s : Sys σ ω) : Prop where
  persist : s.session.cfg.persistMessages = true
  along : Along Emitted s.trace

/-- A call that says nothing about what is sent keeps that. -/
lemma Emits.cons {s t : Sys σ ω} {c} (h : Emits s) (cfg : t.session.cfg = s.session.cfg)
    (tr : t.trace = c :: s.trace) (emitted : Emitted c s.trace) : Emits t :=
  ⟨cfg ▸ h.persist, by rw [tr]; exact ⟨emitted, h.along⟩⟩

/-- Giving up the connection keeps it. -/
lemma GivenUp.emits {s t : Sys σ ω} (left : GivenUp s t) (h : Emits s) : Emits t := by
  have noted : Emits (s.called (.log .disconnecting) s.world) := h.cons rfl rfl (.of_quiet rfl)
  refine left.elim (fun cut => ?_) fun _ h => h.cons rfl rfl (.of_quiet rfl)
  cases cut with
  | kept => exact ⟨noted.persist, noted.along⟩
  | reset w now flag => exact noted.cons rfl rfl (.of_quiet rfl)

/-- Acts of the outbound half keep it. -/
lemma SendAct.emits {fresh} (leaves : LeavesNumber ω) {s t : Sys σ ω} (act : SendAct fresh s t)
    (h : Emits s) : Emits t := by
  cases act with
  | quiet | adopt | logon => exact ⟨h.persist, h.along⟩
  | logout => exact h.cons rfl rfl (.of_quiet rfl)
  | cut _ _ left => exact left.emits h
  | toAdmin m => exact h.cons rfl rfl (.of_callback leaves ⟨m, s.world, .inl rfl⟩)
  | toApp m => exact h.cons rfl rfl (.of_callback leaves ⟨m, s.world, .inr rfl⟩)
  | @announce line _ _ now w =>
    have noted : Emits (s.called (.log line) w) := h.cons rfl rfl (.of_quiet rfl)
    exact noted.cons rfl rfl (.of_callback leaves ⟨_, w, .inl rfl⟩)
  | save isFresh out =>
    refine h.cons rfl rfl ⟨by simp, ?_, by simp, by simp [Event.LeftNumber]⟩
    rintro n raw res ⟨rfl, rfl, rfl⟩
    exact out
  | incrSender isFresh volatile => simp [h.persist] at volatile
  | transmit raw why =>
    refine h.cons rfl rfl ⟨by simp, by simp, ?_, by simp [Event.LeftNumber]⟩
    rintro raw ⟨rfl⟩
    cases why with
    | stored _ stored _ => exact .inl stored
    | volatile _ volatile => simp [h.persist] at volatile
    | resent resent => exact .inr resent
  | _ => exact h.cons rfl rfl (.of_quiet rfl)

/-- Acts of the handlers keep it. -/
lemma HandleAct.emits {resets} (leaves : LeavesNumber ω) {s t : Sys σ ω} (act : HandleAct resets s t)
    (h : Emits s) : Emits t := by
  cases act with
  | send act => exact act.emits leaves h
  | receivingReset | endingResets | logon | supersede => exact ⟨h.persist, h.along⟩
  | deliver answer w =>
    exact (h.cons (t := s.called _ w) rfl rfl (.of_quiet rfl)).cons rfl rfl (.of_quiet rfl)
  | @stashAndExpect _ msg seq recovery what =>
    have stashed : Emits (s.stashing seq msg recovery) := h.cons rfl rfl (.of_quiet rfl)
    have computed : Emits ((s.stashing seq msg recovery).called (.compute what) s.world) :=
      stashed.cons rfl rfl (.of_quiet rfl)
    exact computed.cons rfl rfl (.of_quiet rfl)
  | _ => exact h.cons rfl rfl (.of_quiet rfl)

/-- Every act keeps it. -/
lemma Act.emits (leaves : LeavesNumber ω) {s t : Sys σ ω} (act : Act s t) (h : Emits s) :
    Emits t := by
  cases act with
  | handle act => exact act.emits leaves h
  | send act => exact act.emits leaves h
  | ask => exact ⟨h.persist, h.along⟩
  | cut _ left => exact left.emits h
  | endLogout now _ left => exact left.emits (h.cons rfl rfl (.of_quiet rfl))
  | _ => exact h.cons rfl rfl (.of_quiet rfl)

/-! ## Single operations -/

/-- A fresh message was accepted: it was stored under the next number, and nothing but its bytes was
handed on after that. -/
def Accepted (s t : Sys σ ω) : Prop :=
  ∃ recent c d raw, t.trace = recent ++ d :: c :: s.trace ∧ c.event.CallsBack ω ∧
    d.event = .save (nextSenderSeqNum s.session.store) raw (.ok ()) ∧
    ∀ e ∈ recent, e.event.carries raw = true

/-- Whether an event belongs to a message that is not accepted. -/
def Event.refuses : Event → Bool
  | .toAdmin .. | .toApp .. | .save _ _ (.error _) => true
  | _ => false

/-- A fresh message was refused: it took no number, and nothing was handed on. -/
def Refused (s t : Sys σ ω) : Prop :=
  nextSenderSeqNum t.session.store = nextSenderSeqNum s.session.store ∧ Extends Event.refuses s t

/-- No number was taken. Where the store was not reset meanwhile, the next number is the same. -/
def Unmoved (s t : Sys σ ω) : Prop :=
  ∃ recent, t.trace = recent ++ s.trace ∧ (∀ c ∈ recent, c.event.accepted = none) ∧
    ((∀ c ∈ recent, restart c = false) →
      nextSenderSeqNum t.session.store = nextSenderSeqNum s.session.store)

variable [FailStopStore σ]

open LawfulStore

/-- The number of a message that its callback was made for is the next one. -/
lemma CalledBack.number {s u : Sys σ ω} (h : CalledBack s u) (leaves : LeavesNumber ω)
    (valid : Valid s.session.store) {seq raw} (out : Outgoing seq raw u.session u.trace) :
    seq = nextSenderSeqNum s.session.store := by
  obtain ⟨same, c, tr, called⟩ := h
  have own : Outgoing seq raw u.session [c] := by
    obtain ⟨d, m, m', hd, rest⟩ := out
    exact ⟨d, m, m', by simpa [tr] using hd, rest⟩
  rw [(own.number (by simpa using leaves.left called) (by rw [same]; exact (bounded _ valid).1)).1, same]

/-- A message that is sent is accepted, and one that is not is refused. -/
lemma SendOutcome.settled (leaves : LeavesNumber ω) {s t : Sys σ ω}
    (persist : s.session.cfg.persistMessages = true) (valid : Valid s.session.store) {res}
    (h : SendOutcome s res t) :
    (res = .ok () → Accepted s t) ∧ (∀ e, res = .error e → Refused s t) := by
  cases h with
  | @accepted u v _ seq raw called out saved recent =>
    have number := called.number leaves valid out
    obtain ⟨same, c, tr, callsBack⟩ := called
    obtain ⟨-, rfl⟩ := saved (by rw [same]; exact persist)
    obtain ⟨recent, tr', carries⟩ := recent
    refine ⟨fun _ => ?_, by simp⟩
    refine ⟨recent, c, ⟨u.session, .save seq raw (.ok ())⟩, raw, ?_, callsBack, ?_, carries⟩
    · rw [tr', ← tr]
      rfl
    · rw [number]
  | refused called =>
    obtain ⟨same, c, tr, m, w, ev⟩ := called
    refine ⟨by simp, fun _ _ => ⟨by rw [same], Extends.cons (.refl (t := s) rfl) tr ?_⟩⟩
    obtain ev | ev := ev <;> rw [ev] <;> rfl
  | @failed u v seq raw e called out saved =>
    obtain ⟨same, c, tr, m, w, ev⟩ := called
    obtain ⟨failed, rfl⟩ := saved (by rw [same]; exact persist)
    have effect : (Event.save seq raw (.error e)).Effect u.session.store
        (saveMessageAndIncr seq raw u.session.store).2 := Prod.ext failed rfl
    refine ⟨by simp, fun _ _ => ?_⟩
    refine ⟨?_, Extends.cons (Extends.cons (.refl (t := s) rfl) tr ?_) rfl rfl⟩
    · have sender := effect.sender (same ▸ valid) rfl (by simp) nofun
      exact sender.trans (congrArg (fun x => nextSenderSeqNum x.store) same)
    · obtain ev | ev := ev <;> rw [ev] <;> rfl

/-- No number was taken, over a store that is still valid. -/
structure Still (s t : Sys σ ω) : Prop where
  valid : Valid t.session.store
  unmoved : Unmoved s t

/-- What calls nothing and leaves the store takes no number. -/
lemma Still.same {s t u : Sys σ ω} (h : Still s t) (tr : u.trace = t.trace)
    (store : u.session.store = t.session.store) : Still s u := by
  obtain ⟨valid, recent, tr', none, same⟩ := h
  refine ⟨?_, recent, tr.trans tr', none, ?_⟩
  · rw [store]
    exact valid
  · rw [store]
    exact same

/-- A call that accepts nothing takes no number. -/
lemma Still.cons {s t u : Sys σ ω} {e : Event} (h : Still s t)
    (tr : u.trace = ⟨t.session, e⟩ :: t.trace) (effect : e.Effect t.session.store u.session.store)
    (accepted : e.accepted = none) (persisted : ∀ res, e ≠ .incrSender res) : Still s u := by
  obtain ⟨valid, recent, tr', none, same⟩ := h
  refine ⟨(effect.moves valid).1, ⟨t.session, e⟩ :: recent, by rw [tr, tr']; rfl, ?_, ?_⟩
  · simpa using ⟨accepted, none⟩
  · intro inside
    have sender := effect.sender valid (inside ⟨t.session, e⟩ (by simp)) persisted (by simp [accepted])
    rw [sender, accepted, same fun c mem => inside c (by simp [mem])]
    rfl

/-- Nothing takes no number. -/
lemma Still.refl {s : Sys σ ω} (valid : Valid s.session.store) : Still s s :=
  ⟨valid, [], rfl, by simp, fun _ => rfl⟩

/-- A computation takes no number. -/
lemma Still.compute {s t : Sys σ ω} (h : Still s t) (what) :
    Still s (t.called (.compute what) t.world) :=
  h.cons (e := .compute what) rfl rfl rfl (by simp)

/-- Looking messages up takes no number. -/
lemma Still.getMessages {s t : Sys σ ω} (h : Still s t) (b e) :
    Still s (t.stored (.getMessages b e) (MessageStore.getMessages b e t.session.store).2) :=
  h.cons rfl rfl rfl (by simp)

/-- Giving up the connection takes no number. -/
lemma GivenUp.still {s t u : Sys σ ω} (left : GivenUp t u) (h : Still s t) : Still s u := by
  have noted : Still s (t.called (.log .disconnecting) t.world) :=
    h.cons (e := .log .disconnecting) rfl rfl rfl (by simp)
  refine left.elim (fun cut => ?_) fun _ h => h.cons (e := .onLogout) rfl rfl rfl (by simp)
  cases cut with
  | kept => exact noted.same rfl rfl
  | reset w now flag =>
    have detached : Still s ((t.called (.log .disconnecting) t.world).updated Session.detached) :=
      noted.same rfl rfl
    exact detached.cons rfl ⟨now, rfl⟩ rfl (by simp)

/-- An act of a resend takes no number. -/
lemma SendAct.still {s t u : Sys σ ω} (act : SendAct false t u) (h : Still s t) : Still s u := by
  cases act with
  | quiet | adopt | logon => exact h.same rfl rfl
  | announce isFresh | save isFresh | incrSender isFresh => exact absurd isFresh Bool.false_ne_true
  | cut _ _ left => exact left.still h
  | logout =>
    have noted : Still s (t.called (.log .initiatedLogout) t.world) :=
      h.cons (e := .log .initiatedLogout) rfl rfl rfl (by simp)
    exact noted.same rfl rfl
  | _ => exact h.cons rfl rfl rfl (by simp)

/-- A resend takes no number. -/
lemma Resends.still {s t u : Sys σ ω} (run : Resends t u) (h : Still s t) : Still s u :=
  runs_keep SendAct.still run h

/-- Replaying a range takes no number. -/
lemma retransmit_still {b e} {s0 : Sys σ ω} (valid : Valid s0.session.store) :
    ⦃fun s => ⌜s = s0⌝⦄ Session.retransmit b e ⦃⇓ _ s => ⌜Still s0 s⌝⦄ := by
  mvcgen [Session.retransmit, Session.getMessages, Session.storeOp, Session.utcNow, sendGapFill_spec]
  case vc1.h_1.post.success.h_1.post.success s eq ms _ _ gb _ s1 all _ s2 =>
    intro last _
    subst eq
    have looked := (Still.refl valid).getMessages b e
    have resent := Resends.still all (looked.same rfl rfl)
    exact Resends.still last (resent.compute _)
  case vc2.h_1.post.success.h_2 s eq ms _ _ _ s1 all =>
    subst eq
    have looked := (Still.refl valid).getMessages b e
    exact Resends.still all (looked.same rfl rfl)
  case vc3.h_2 s eq _ _ =>
    subst eq
    exact (Still.refl valid).getMessages b e

/-- Answering a resend range takes no number. -/
lemma answerResend_still {b e} {s0 : Sys σ ω} (valid : Valid s0.session.store) :
    ⦃fun s => ⌜s = s0⌝⦄ Session.answerResend b e ⦃⇓ _ s => ⌜Still s0 s⌝⦄ := by
  generalize goal : Still s0 = R
  mvcgen [Session.answerResend, retransmit_still, sendGapFill_spec]
  case vc1.isTrue s eq => exact goal ▸ eq ▸ .refl (eq ▸ valid)
  case vc2.valid => exact ‹_ = s0› ▸ valid
  case vc3 s eq _ _ t => exact fun still => goal ▸ eq ▸ still
  case vc4 s eq _ _ t =>
    intro filled _
    subst goal eq
    exact Resends.still filled ((Still.refl valid).compute _)

/-- The messages of a system were sent in order. -/
structure SentInSequence (s : Sys σ ω) : Prop where
  along : Along SentInOrder s.trace
  consecutive : Consecutive (nextSenderSeqNum s.session.store) (since restart s.trace)
  kept : Kept s.session.store s.trace

/-- Along every run that persists its messages, over a store whose failed operations have no effect
and with callbacks that leave numbers alone, fresh messages are numbered consecutively, and what is
stored under a number is what is handed on for it. A message that is refused takes no number and hands
nothing on, and a resend takes no number. -/
theorem sent_inSequence (leaves : LeavesNumber ω) (cfg : SessionConfig)
    (persist : cfg.persistMessages = true) (dictionary adminDictionary : Option DataDictionary)
    (store : σ) (valid : Valid store) (now : Nat) (world : ω) (inputs : List Input) :
    SentInSequence (Sys.ran cfg dictionary adminDictionary store now world inputs) ∧
      ∀ s0 : Sys σ ω, s0.session.cfg.persistMessages = true → Valid s0.session.store →
        (∀ msg, ⦃fun s => ⌜s = s0⌝⦄ Session.sendMessage msg
          ⦃post⟨fun _ s => ⌜Accepted s0 s⌝, fun _ s => ⌜Refused s0 s⌝⟩⦄) ∧
        ∀ b e, ⦃fun s => ⌜s = s0⌝⦄ Session.answerResend b e ⦃⇓ _ s => ⌜Unmoved s0 s⌝⦄ := by
  refine ⟨?_, fun s0 persist valid => ⟨fun msg => ?_, fun b e => ?_⟩⟩
  · have emits : Emits (Sys.ran cfg dictionary adminDictionary store now world inputs) :=
      ran_keeps (Act.emits leaves) ⟨persist, trivial⟩
    obtain ⟨along, consecutive, kept⟩ := sentInOrder_of_emitted valid linked_ran emits.along
    exact ⟨along, consecutive, kept⟩
  · generalize goal : Accepted s0 = A
    generalize goal' : Refused s0 = R
    mvcgen [-sendMessage_spec, sendMessage_outcome]
    · rename_i s eq _ t
      subst eq goal
      exact fun _ outcome => (outcome.settled leaves persist valid).1 rfl
    · rename_i s eq _ t
      subst eq goal'
      exact fun _ outcome => (outcome.settled leaves persist valid).2 _ rfl
  · generalize goal : Unmoved s0 = U
    mvcgen [answerResend_still]
    case vc1 s eq _ t => exact fun still => goal ▸ eq ▸ still.unmoved
    case vc2 =>
      rintro s rfl
      exact valid

end Runs

/-- The callbacks of a script change no message. -/
lemma Script.leavesNumber : LeavesNumber Script where
  toAdmin _ _ := rfl
  toApp m _ m' h := by
    obtain ⟨-, rfl⟩ : _ ∧ m = m' := by simpa [Application.toApp] using h
    rfl

/-- Two messages are sent once logged on. -/
def Script.sendTwice : List Input :=
  [.attach, .inbound (fromPeer MsgType.logon 1).toBytes, .send (.withType (ascii "D")),
    .send (.withType (ascii "D"))]

/-- A logon and two messages are sent in sequence. -/
theorem sent_inSequence_sendTwice :
    SentInSequence (Script.play Script.acceptor {} Script.sendTwice) :=
  letI := epochDay
  (sent_inSequence Script.leavesNumber Script.acceptor rfl none none
    ({ creationTime := 0 } : MemoryStore) (MemoryStore.valid_empty 0) 0 ({} : Script)
    Script.sendTwice).1

end QuickFix
