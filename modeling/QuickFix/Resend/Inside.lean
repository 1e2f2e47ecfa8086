import QuickFix.Resend.Tiling
import QuickFix.Sending.Numbering

/-!
# Resends stay inside the sent range

What a ResendRequest is answered with carries numbers that were sent, up to the end asked for, and
nothing is changed by it, exactly where its BeginSeqNo is not 0 and its EndSeqNo is not taken for none
(`answerRequest_inside`).
-/

namespace QuickFix

set_option mvcgen.warning false
set_option linter.unusedSectionVars false

open Std.Do Session MessageStore

/-- BeginSeqNo of a ResendRequest. -/
def Message.requestedBegin (msg : Message) : Nat := (msg.bodyU64 Tags.beginSeqNo).getD 1

/-- EndSeqNo of a ResendRequest. -/
def Message.requestedEnd (msg : Message) : Nat := (msg.bodyU64 Tags.endSeqNo).getD 0

/-- Whether a ResendRequest is taken for one of everything from its BeginSeqNo on. -/
def Message.openEnded (msg : Message) (nextSender : Nat) : Bool :=
  msg.requestedEnd == 0 || msg.requestedEnd == 999999 || decide (nextSender ≤ msg.requestedEnd)

/-- The last number of the range that a ResendRequest is answered with. -/
def Message.answeredEnd (msg : Message) (nextSender : Nat) : Nat :=
  if msg.openEnded nextSender then nextSender - 1 else msg.requestedEnd

section Answer

variable {σ ω : Type} [Chrono] [MessageStore σ] [Application ω] [Runtime ω]

/-- Answers a ResendRequest that passed its checks. -/
def Session.answerRequest (msg : Message) : SessionM σ ω Unit := do
  let s ← current
  note (.compute (if msg.openEnded (nextSenderSeqNum s.store) then [.lastSent] else []))
  answerResend msg.requestedBegin (msg.answeredEnd (nextSenderSeqNum s.store))

/-- A ResendRequest that passed its checks is answered, and then counted where it was in sequence. -/
lemma handleResendRequest_eq (msg : Message) : handleResendRequest (σ := σ) (ω := ω) msg = (do
    match ← verify msg false false with
    | .stop => return ()
    | .continue =>
      lift (answerRequest msg)
      let s ← lift current
      if msg.seqNum = .ok (nextTargetSeqNum s.store) then incrTarget) := by
  rfl

/-! ## Calls of an answer -/

/-- The message that an outgoing callback let through. -/
def Event.outgoing : Event → Option Message
  | .toAdmin _ sent => some sent
  | .toApp _ sent => sent
  | _ => none

/-- Whether an event resets the store. -/
def Event.clears : Event → Bool
  | .reset _ (.ok ()) => true
  | _ => false

/-- The calls an answer is made of. -/
inductive Replies (ω : Type) [Application ω] : Event → Prop
  | log (line) : Replies ω (.log line)
  | compute (what) : Replies ω (.compute what)
  | callsBack {e} (called : e.CallsBack ω) : Replies ω e
  | getMessages (b e) : Replies ω (.getMessages b e)
  | transmit (raw) : Replies ω (.transmit raw)
  | write (raw accepted) : Replies ω (.write raw accepted)
  | reset (res) : Replies ω (.reset .disconnect res)
  | onLogout : Replies ω .onLogout

/-- Calls of an answer are added. -/
def Replied (s t : Sys σ ω) : Prop := ∃ recent, Leads recent s t ∧ ∀ c ∈ recent, Replies ω c.event

/-- Where nothing is called, nothing is answered. -/
lemma Replied.refl {s t : Sys σ ω} (tr : t.trace = s.trace) (store : t.session.store = s.session.store) :
    Replied s t := ⟨[], ⟨tr, store⟩, by simp⟩

/-- What is answered in two steps is answered. -/
lemma Replied.trans {s t u : Sys σ ω} (h : Replied s t) (h' : Replied t u) : Replied s u := by
  obtain ⟨recent, leads, replies⟩ := h
  obtain ⟨more, leads', replies'⟩ := h'
  refine ⟨more ++ recent, leads.trans leads', ?_⟩
  simp only [List.forall_mem_append]
  exact ⟨replies', replies⟩

/-- One call of an answer. -/
lemma Replied.of_call {s t : Sys σ ω} {e} (tr : t.trace = ⟨s.session, e⟩ :: s.trace)
    (effect : e.Effect s.session.store t.session.store) (replies : Replies ω e) : Replied s t :=
  ⟨[⟨s.session, e⟩], ⟨tr, effect, rfl⟩, by simpa using replies⟩

/-- Giving up the connection may be part of an answer. -/
lemma GivenUp.replied {s t : Sys σ ω} (left : GivenUp s t) : Replied s t := by
  refine left.elim (P := Replied s) (fun cut => ?_) fun _ h => h.trans (.of_call rfl rfl .onLogout)
  have noted : Replied s ((s.called (.log .disconnecting) s.world).updated Session.detached) :=
    .of_call rfl rfl (.log _)
  cases cut with
  | kept => exact noted
  | reset w now => exact noted.trans (.of_call rfl ⟨now, rfl⟩ (.reset _))

/-- An act of a resend is part of an answer. -/
lemma SendAct.replied {s t : Sys σ ω} (act : SendAct false s t) : Replied s t := by
  cases act with
  | quiet | adopt | logon => exact .refl rfl rfl
  | logout => exact .of_call rfl rfl (.log _)
  | announce isFresh | save isFresh | incrSender isFresh => exact absurd isFresh Bool.false_ne_true
  | compute what => exact .of_call rfl rfl (.compute what)
  | toAdmin m => exact .of_call rfl rfl (.callsBack ⟨m, s.world, .inl rfl⟩)
  | toApp m => exact .of_call rfl rfl (.callsBack ⟨m, s.world, .inr rfl⟩)
  | getMessages b e => exact .of_call rfl rfl (.getMessages b e)
  | transmit raw => exact .of_call rfl rfl (.transmit raw)
  | write raw => exact .of_call rfl rfl (.write raw _)
  | cut _ _ left => exact left.replied

/-- A run of resends is part of an answer. -/
lemma Resends.replied {s t : Sys σ ω} (run : Resends s t) : Replied s t := by
  induction run with
  | refl => exact .refl rfl rfl
  | tail _ act ih => exact ih.trans act.replied

/-! ## Numbers -/

/-- Numbers that are written the same are the same. -/
lemma encode_inj {n k : Nat} (hn : n < 2 ^ 64) (hk : k < 2 ^ 64) (same : encode n = encode k) : n = k := by
  have casts : asI64 n = asI64 k := by
    have read := parseSigned_encode n
    rw [same, parseSigned_encode k] at read
    exact (Option.some.inj read).symm
  simp only [asI64] at casts
  split at casts <;> split at casts <;> omega

/-- The MsgSeqNum of a message is the number written into it, if that is below `2 ^ 63`. -/
lemma seqNum_iff {m : Message} {n k : Nat} (raw : m.header.getRaw Tags.msgSeqNum = some (encode n))
    (bound : n < 2 ^ 64) : m.seqNum = .ok k ↔ k = n ∧ n < 2 ^ 63 := by
  rw [Message.seqNum, FieldMap.get, raw]
  cases Nat.lt_or_ge n (2 ^ 63) with
  | inl low =>
    have read : decodeU64 Tags.msgSeqNum (encode n) = .ok n := decodeU64_encode low
    simp only [read, Except.ok.injEq, low, and_true]
    exact eq_comm
  | inr high =>
    obtain ⟨e, failed⟩ := @decodeU64_encode_neg Tags.msgSeqNum _ high bound
    simp only [failed, Nat.not_lt.mpr high, and_false, reduceCtorEq]

/-- A stored message is sent again under its number. -/
lemma Message.msgSeqNum_resent (m : Message) (now : UtcTimestamp) :
    (m.resent now).header.getRaw Tags.msgSeqNum = m.header.getRaw Tags.msgSeqNum := by
  cases sent : m.header.getRaw Tags.sendingTime with
  | none => simp +decide [resent, stampSendingTime, sent]
  | some orig => simp +decide [resent, stampSendingTime, sent]

/-- Callbacks that leave the numbers of messages and gap fills alone. -/
structure LeavesFills (ω : Type) [Application ω] : Prop extends LeavesNumber ω where
  newSeqNo : ∀ m (w : ω), (Application.toAdmin m w).1.body.getRaw Tags.newSeqNo =
    m.body.getRaw Tags.newSeqNo

/-- What is read back under a number is a message with that number. -/
def ReadsNumbered (st : σ) : Prop :=
  ∀ b e stored, (MessageStore.getMessages b e st).1 = .ok stored → ∀ n raw, (n, raw) ∈ stored →
    ∀ m, Message.parse raw false = .ok m → m.header.getRaw Tags.msgSeqNum = some (encode n)

/-- A message that may be sent again has the number it is stored under. -/
lemma ReadsNumbered.resendable {st : σ} (numbered : ReadsNumbered st) {b e stored}
    (read : (MessageStore.getMessages b e st).1 = .ok stored) {n m}
    (stands : resendable (.ofList stored) n = some m) :
    m.header.getRaw Tags.msgSeqNum = some (encode n) := by
  unfold QuickFix.Session.resendable at stands
  split at stands
  case h_1 => cases stands
  case h_2 raw found =>
    have mem := SeqMap.mem_of_get_ofList found
    split at stands
    case h_1 => cases stands
    case h_2 m' parsed =>
      split at stands
      case isTrue => cases stands
      case isFalse =>
        cases stands
        exact numbered b e stored read n raw mem m parsed

/-! ## Pieces of an answer -/

/-- Whether a range is answered with nothing: it is empty, or the store cannot read its messages. -/
def Unanswered (b e : Nat) (s : Sys σ ω) : Prop :=
  e < b ∨ s.session.cfg.persistMessages = true ∧
    ∃ err, (MessageStore.getMessages b e s.session.store).1 = .error err

/-- Whether an event only looks at the counters or the store. -/
def Event.looks : Event → Bool
  | .compute _ | .getMessages .. => true
  | _ => false

/-- What a range is answered with: a tiling by messages with their numbers and gap fills. -/
def Pieced (b e : Nat) (s t : Sys σ ω) : Prop :=
  ∃ (stored : SeqMap Bytes) (now : UtcTimestamp) (pieces : List Piece)
    (asked : List ((Nat × Message) × Option Message)),
    (∀ n m, resendable stored n = some m → m.header.getRaw Tags.msgSeqNum = some (encode n)) ∧
      Tiling stored (seqRange b e) b (e + 1) pieces asked ∧ Transmits now pieces asked s t

/-- A range without numbers is looked at only. -/
lemma answerResend_unanswered {b e} {start s0 : Sys σ ω} (looked : Extends Event.looks start s0)
    (none : Unanswered b e s0) :
    ⦃fun s => ⌜s = s0⌝⦄ answerResend b e ⦃⇓ _ s => ⌜Extends Event.looks start s⌝⦄ := by
  mvcgen [answerResend, retransmit, Session.getMessages, storeOp]
  case vc1.isTrue s eq => exact eq ▸ looked
  case vc2.isFalse.isTrue.h_1 s eq on stored read =>
    subst eq
    obtain lt | ⟨-, err, failed⟩ := none
    · contradiction
    · rw [read] at failed
      cases failed
  case vc3.isFalse.isTrue.h_2 s eq _ err _ =>
    subst eq
    exact looked.cons rfl rfl
  case vc4.isFalse.isFalse s eq off =>
    subst eq
    obtain lt | ⟨on, -⟩ := none
    · contradiction
    · exact absurd on off

/-- A gap fill tiles a range of which nothing can be sent again. -/
lemma tiling_fill {b e m} (sent) (le : b ≤ e) (genuine : WritesGapFill b (e + 1) m) :
    Tiling ∅ (seqRange b e) b (e + 1) [.fill b (e + 1) m sent] [] := by
  have nothing (n) : resendable ∅ n = none := by simp [resendable]
  refine ⟨?_, rfl, ⟨rfl, Nat.lt_succ_of_le le, rfl⟩, by simpa [Piece.Written] using genuine, .singleton _⟩
  exact (List.filterMap_eq_nil_iff.mpr fun n _ => by rw [nothing]; rfl).symm

/-- A range is answered piece by piece. -/
lemma answerResend_pieced {b e} {s0 : Sys σ ω} (answered : ¬ Unanswered b e s0)
    (numbered : ReadsNumbered s0.session.store) :
    ⦃fun s => ⌜s = s0⌝⦄ answerResend b e ⦃⇓ _ s => ⌜Pieced b e s0 s⌝⦄ := by
  have le : b ≤ e := Nat.not_lt.mp fun lt => answered (.inl lt)
  have replay (s1 : Sys σ ω) := @retransmit_answers _ _ _ _ _ _ _ _ le s1
  mvcgen [answerResend, -retransmit_spec, replay, sendGapFill_adds]
  case vc1.isTrue lt s eq => exact absurd (.inl lt) answered
  case vc2.isFalse.isTrue.post.success s eq on _ t =>
    subst eq
    intro answers
    unfold Answers at answers
    split at answers
    case h_1 err failed => exact absurd (.inr ⟨on, err, failed⟩) answered
    case h_2 stored read =>
      obtain ⟨pieces, asked, tiling, transmits⟩ := answers
      exact ⟨_, _, pieces, asked, fun n m => numbered.resendable read, tiling, transmits⟩
  case vc3.isFalse.isFalse.post.success s eq off _ t =>
    subst eq
    rintro ⟨m, sent, genuine, adds⟩
    have noted : Adds [] [] [] s (s.called (.compute [.fillEnd e]) s.world) :=
      .called s (.compute [.fillEnd e]) s.world
    refine ⟨∅, s.session.timestamp 0, _, _, ?_, tiling_fill sent le genuine, noted.trans adds⟩
    simp [resendable]

/-- The calls made since an earlier state. -/
def Sys.callsSince (s t : Sys σ ω) : List (Call σ) := t.trace.take (t.trace.length - s.trace.length)

/-- The calls since are those that were added. -/
lemma Sys.callsSince_eq {s t : Sys σ ω} {recent} (tr : t.trace = recent ++ s.trace) :
    s.callsSince t = recent := by
  simp [callsSince, tr]

/-- A message came out of its callback and was handed on. -/
structure Transmitted (calls : List (Call σ)) (m : Message) : Prop where
  outgoing : ∃ c ∈ calls, c.event.outgoing = some m
  handed : ∃ c ∈ calls, c.event = .transmit m.toBytes

/-- The message of a piece, as it is handed on. -/
def Piece.sent : Piece → Message
  | .app _ sent => sent
  | .fill _ _ _ sent => sent

/-- The calls of an answer hand the messages of its pieces on, each under its first number. -/
structure Hands (calls : List (Call σ)) (b e : Nat) (pieces : List Piece) : Prop where
  tiles : Tiles Piece.first Piece.next b pieces (e + 1)
  apart : pieces.IsChain Piece.Apart
  transmitted : ∀ m, Transmitted calls m ↔ ∃ p ∈ pieces, p.sent = m
  handed : ∀ c ∈ calls, ∀ raw, c.event = .transmit raw → ∃ p ∈ pieces, raw = p.sent.toBytes
  number : ∀ p ∈ pieces, p.sent.header.getRaw Tags.msgSeqNum = some (encode p.first)
  newSeqNo : ∀ c ∈ calls, ∀ m sent, c.event = .toAdmin m sent →
    ∃ h ≤ e + 1, sent.body.getRaw Tags.newSeqNo = some (encode h)
  offered : ∀ n sent, .app n sent ∈ pieces → ∃ c ∈ calls, ∃ m, c.event = .toApp m (some sent) ∧
    m.header.getRaw Tags.msgSeqNum = some (encode n)
  accepted : ∀ c ∈ calls, ∀ m sent, c.event = .toApp m (some sent) →
    ∃ n, .app n sent ∈ pieces ∧ m.header.getRaw Tags.msgSeqNum = some (encode n)

/-- What was observed is an observation of a call. -/
lemma mem_observed {α : Type} {f : Event → Option α} {calls : List (Call σ)} {a} :
    a ∈ observed f calls ↔ ∃ c ∈ calls, f c.event = some a := by
  simp [observed]

/-- What was observed since is what was added. -/
lemma observed_since {α : Type} {f : Event → Option α} {recent calls : List (Call σ)} {xs}
    (h : observed f (recent ++ calls) = observed f calls ++ xs) : observed f recent = xs := by
  rw [observed, List.filterMap_append, List.reverse_append] at h
  exact List.append_cancel_left h

/-- The message of an offer may be sent again. -/
lemma Tiling.offer_mem {stored seqs lo hi pieces asked} (h : Tiling stored seqs lo hi pieces asked) {n m answer}
    (mem : ((n, m), answer) ∈ asked) : resendable stored n = some m := by
  have mem : (n, m) ∈ offered stored seqs := h.offers ▸ List.mem_map_of_mem mem
  obtain ⟨k, -, eq⟩ := List.mem_filterMap.mp mem
  obtain ⟨m', stands, ⟨⟩⟩ := Option.map_eq_some_iff.mp eq
  exact stands

/-- Callbacks that leave numbers alone hand the pieces on under their numbers. -/
lemma Pieced.hands (leaves : LeavesFills ω) {b e} {s t : Sys σ ω} {recent} (h : Pieced b e s t)
    (tr : t.trace = recent ++ s.trace) (replies : ∀ c ∈ recent, Replies ω c.event) :
    ∃ pieces, Hands recent b e pieces := by
  obtain ⟨stored, now, pieces, asked, numbered, tiling, raws, admin, app⟩ := h
  rw [tr] at raws admin app
  have raws := observed_since raws
  have admin := observed_since admin
  have app := observed_since app
  have handed (raw) : (∃ c ∈ recent, c.event = .transmit raw) ↔ ∃ p ∈ pieces, p.raw = raw := by
    have mapped : (∃ p ∈ pieces, p.raw = raw) ↔ raw ∈ pieces.map Piece.raw := List.mem_map.symm
    rw [mapped, ← raws, mem_observed]
    apply exists_congr
    intro c
    cases c.event <;> simp [Event.transmission]
  have filled (m sent) : (∃ c ∈ recent, c.event = .toAdmin m sent) ↔ ∃ g h, .fill g h m sent ∈ pieces := by
    have gapFill : (m, sent) ∈ pieces.filterMap Piece.gapFill ↔ ∃ g h, .fill g h m sent ∈ pieces := by
      rw [List.mem_filterMap]
      constructor
      · rintro ⟨p, mem, eq⟩
        cases p <;> cases eq
        exact ⟨_, _, mem⟩
      · rintro ⟨g, h, mem⟩
        exact ⟨_, mem, rfl⟩
    rw [← gapFill, ← admin, mem_observed]
    apply exists_congr
    intro c
    cases c.event <;> simp [Event.toAdminCall]
  have letThrough (m sent) : (∃ c ∈ recent, c.event = .toApp m (some sent)) ↔
      ∃ n m', ((n, m'), some sent) ∈ asked ∧ m = m'.resent now := by
    have offer : (m, some sent) ∈ asked.map (offerCall now) ↔
        ∃ n m', ((n, m'), some sent) ∈ asked ∧ m = m'.resent now := by
      rw [List.mem_map]
      constructor
      · rintro ⟨⟨⟨n, m'⟩, answer⟩, mem, eq⟩
        cases eq
        exact ⟨n, m', mem, rfl⟩
      · rintro ⟨n, m', mem, rfl⟩
        exact ⟨_, mem, rfl⟩
    rw [← offer, ← app, mem_observed]
    apply exists_congr
    intro c
    cases c.event <;> simp [Event.toAppCall]
  have offered {n m'} (answer) (mem : ((n, m'), answer) ∈ asked) :
      (m'.resent now).header.getRaw Tags.msgSeqNum = some (encode n) := by
    rw [Message.msgSeqNum_resent]
    exact numbered n m' (tiling.offer_mem mem)
  have outgoing (p) (mem : p ∈ pieces) : ∃ c ∈ recent, c.event.outgoing = some p.sent := by
    cases p with
    | app n sent =>
      obtain ⟨m, mem⟩ := tiling.app_mem.mp mem
      obtain ⟨c, mem, ev⟩ := (letThrough _ sent).mpr ⟨n, m, mem, rfl⟩
      exact ⟨c, mem, by rw [ev]; rfl⟩
    | fill g h m sent =>
      obtain ⟨c, mem, ev⟩ := (filled m sent).mpr ⟨g, h, mem⟩
      exact ⟨c, mem, by rw [ev]; rfl⟩
  have left (c) (mem : c ∈ recent) (out : c.event.outgoing.isSome) : c.event.CallsBack ω := by
    cases ev : c.event <;> simp only [ev, Event.outgoing, Option.isSome_none, Bool.false_eq_true] at out
    all_goals
      have here := replies c mem
      rw [ev] at here
      cases here with
      | callsBack called => exact called
  refine ⟨pieces, tiling.tiles, tiling.apart, fun m => ⟨?_, ?_⟩, ?_, ?_, ?_, ?_, ?_⟩
  · rintro ⟨⟨c, mem, out⟩, -⟩
    cases ev : c.event <;> simp only [ev, Event.outgoing, reduceCtorEq] at out
    case toAdmin m' sent =>
      cases out
      obtain ⟨g, h, mem⟩ := (filled m' m).mp ⟨c, mem, ev⟩
      exact ⟨_, mem, rfl⟩
    case toApp m' answer =>
      subst out
      obtain ⟨n, m', mem, rfl⟩ := (letThrough _ m).mp ⟨c, mem, ev⟩
      exact ⟨_, tiling.app_mem.mpr ⟨m', mem⟩, rfl⟩
  · rintro ⟨p, mem, rfl⟩
    refine ⟨outgoing p mem, (handed _).mpr ⟨p, mem, ?_⟩⟩
    cases p <;> rfl
  · intro c mem raw ev
    obtain ⟨p, mem, eq⟩ := (handed raw).mp ⟨c, mem, ev⟩
    refine ⟨p, mem, ?_⟩
    rw [← eq]
    cases p <;> rfl
  · intro p mem
    cases p with
    | app n sent =>
      obtain ⟨m, mem⟩ := tiling.app_mem.mp mem
      obtain ⟨c, mem', ev⟩ := (letThrough _ sent).mpr ⟨n, m, mem, rfl⟩
      have same := leaves.left (left c mem' (by rw [ev]; rfl)) _ sent (.inr ev)
      exact same.trans (offered _ mem)
    | fill g h m sent =>
      obtain ⟨c, mem', ev⟩ := (filled m sent).mpr ⟨g, h, mem⟩
      have same := leaves.left (left c mem' (by rw [ev]; rfl)) m sent (.inl ev)
      exact same.trans (tiling.genuine _ mem).msgSeqNum
  · intro c mem m sent ev
    obtain ⟨g, h, mem'⟩ := (filled m sent).mp ⟨c, mem, ev⟩
    have number : m.body.getRaw Tags.newSeqNo = some (encode h) := (tiling.genuine _ mem').newSeqNo
    obtain ⟨m', w, called | called⟩ := left c mem (by rw [ev]; rfl)
    · rw [ev] at called
      cases called
      obtain ⟨before, after, rfl⟩ := List.append_of_mem mem'
      obtain ⟨mid, -, -, -, rest⟩ := tiling.tiles.split
      exact ⟨h, rest.le, (leaves.newSeqNo m w).trans number⟩
    · rw [ev] at called
      cases called
  · intro n sent mem
    obtain ⟨m, mem⟩ := tiling.app_mem.mp mem
    obtain ⟨c, mem', ev⟩ := (letThrough _ sent).mpr ⟨n, m, mem, rfl⟩
    exact ⟨c, mem', _, ev, offered _ mem⟩
  · intro c mem m sent ev
    obtain ⟨n, m', mem, rfl⟩ := (letThrough m sent).mp ⟨c, mem, ev⟩
    exact ⟨n, tiling.app_mem.mpr ⟨m', mem⟩, offered _ mem⟩

/-! ## Bounds -/

/-- EndSeqNo of a ResendRequest that has an end: 0 asks for everything, and 999999 does up to FIX 4.2. -/
def finiteEnd (id : SessionId) (msg : Message) : Option Nat :=
  if msg.requestedEnd = 0 ∨ msg.requestedEnd = 999999 ∧ ¬ ascii "FIX.4.2" < id.beginString then none
  else some msg.requestedEnd

/-- The largest number that may be sent: after FIX 4.2 an EndSeqNo of 999999 is one like others, and no
number from `2 ^ 63` on can be written. -/
def ceiling (id : SessionId) (msg : Message) : Nat :=
  if msg.requestedEnd = 999999 ∧ ascii "FIX.4.2" < id.beginString then 999999 else 2 ^ 63 - 1

/-- The pieces begin up to a bound, where the range does and the messages before the last piece are
below it. -/
lemma Hands.first_le {calls : List (Call σ)} {b e pieces} (h : Hands calls b e pieces) (le : b ≤ e)
    (small : e < 2 ^ 64) {C : Nat} (fits : C < 2 ^ 64) :
    (∀ p ∈ pieces, p.first ≤ C) ↔ e ≤ C ∨ b ≤ C ∧ ∀ c ∈ calls, ∀ m sent, c.event = .toApp m (some sent) →
      ∃ n < C, m.header.getRaw Tags.msgSeqNum = some (encode n) := by
  constructor
  · intro all
    by_contra no
    obtain ⟨high, no⟩ := not_or.mp no
    refine no ⟨?_, fun c mem m sent ev => ?_⟩
    · cases pieces with
      | nil =>
        have done : b = e + 1 := h.tiles
        omega
      | cons p pieces => exact h.tiles.1 ▸ all p List.mem_cons_self
    · obtain ⟨n, mem, number⟩ := h.accepted c mem m sent ev
      refine ⟨n, ?_, number⟩
      have here : n ≤ C := all _ mem
      rcases h.tiles.successor mem with last | ⟨q, mem', next⟩
      · have last : n + 1 = e + 1 := last
        omega
      · have next : q.first = n + 1 := next
        have later := all q mem'
        omega
  · rintro (low | ⟨start, apps⟩) p mem
    · exact (Nat.le_of_lt_succ (h.tiles.within mem).2).trans low
    · have below {n sent} (mem : .app n sent ∈ pieces) : n < C := by
        obtain ⟨c, mem', m, ev, number⟩ := h.offered n sent mem
        obtain ⟨k, lt, number'⟩ := apps c mem' m sent ev
        have range : n < e + 1 := (h.tiles.within mem).2
        have same : n = k := by
          apply encode_inj (by omega) (by omega)
          exact Option.some.inj (number.symm.trans number')
        omega
      rcases h.tiles.predecessor h.apart mem with first | ⟨q, mem', next, apart⟩
      · exact first ▸ start
      · rcases apart with message | message
        · cases q with
          | app n sent =>
            have lt := below mem'
            have next : n + 1 = p.first := next
            omega
          | fill => cases message
        · cases p with
          | app n sent => exact Nat.le_of_lt (below mem)
          | fill => cases message

/-- A number of the range is one that may be sent where it can be written and is not above a finite
EndSeqNo. -/
lemma le_ceiling_iff {id : SessionId} {msg : Message} {next n : Nat} (inside : n ≤ msg.answeredEnd next) :
    n ≤ ceiling id msg ↔ n < 2 ^ 63 ∧ ∀ f ∈ finiteEnd id msg, n ≤ f := by
  have clamped : msg.requestedEnd ≠ 0 → msg.requestedEnd ≠ 999999 → n ≤ msg.requestedEnd := by
    intro nonzero special
    unfold Message.answeredEnd at inside
    split at inside
    case isTrue openEnded =>
      simp only [Message.openEnded, Bool.or_eq_true, beq_iff_eq, nonzero, special, decide_eq_true_eq,
        false_or] at openEnded
      omega
    case isFalse => exact inside
  unfold ceiling finiteEnd
  by_cases late : ascii "FIX.4.2" < id.beginString
  · by_cases special : msg.requestedEnd = 999999
    · simp [late, special]
      omega
    · by_cases zero : msg.requestedEnd = 0
      · simp [zero]
        omega
      · have below := clamped zero special
        simp [special, zero, below]
        omega
  · by_cases special : msg.requestedEnd = 999999
    · simp [late, special]
      omega
    · by_cases zero : msg.requestedEnd = 0
      · simp [zero]
        omega
      · have below := clamped zero special
        simp [special, zero, below]
        omega

section Store

variable [FailStopStore σ]

open LawfulStore

/-- A call of an answer changes the store only where it resets it. -/
lemma Replies.view {e : Event} (h : Replies ω e) {st st' : σ} (effect : e.Effect st st') (valid : Valid st) :
    QuickFix.view st' = if e.clears then ⟨1, 1, fun _ => none⟩ else QuickFix.view st := by
  have moves := (effect.moves valid).2
  cases h with
  | callsBack called =>
    obtain ⟨m, w, rfl | rfl⟩ := called
    · exact moves
    · exact moves
  | reset res =>
    cases res with
    | ok _ => exact moves
    | error err =>
      obtain ⟨now, failed⟩ := effect
      have stops := FailStopStore.reset_stops now st valid
      rw [failed] at stops
      exact stops err rfl
  | _ => exact moves

/-- An answer changes the store only where it resets it. -/
lemma view_replied {start st : σ} {recent : List (Call σ)} (linked : Linked start recent st)
    (replies : ∀ c ∈ recent, Replies ω c.event) (valid : Valid start) :
    view st = if recent.any (·.event.clears) then ⟨1, 1, fun _ => none⟩ else view start := by
  induction recent generalizing st with
  | nil =>
    have same : st = start := linked
    rw [same]
    rfl
  | cons c recent ih =>
    obtain ⟨here, before⟩ := List.forall_mem_cons.mp replies
    rw [List.any_cons, here.view linked.1 (linked.2.valid valid).1, ih linked.2 before]
    cases c.event.clears <;> simp

/-- The end that is answered is below the next sender number. -/
lemma answeredEnd_lt {msg : Message} {next : Nat} (started : 1 ≤ next) : msg.answeredEnd next < next := by
  unfold Message.answeredEnd
  split
  case isTrue => omega
  case isFalse closed =>
    simp only [Message.openEnded, Bool.or_eq_true, decide_eq_true_eq, not_or, not_le] at closed
    exact closed.2

/-- Answering a request adds calls of an answer. -/
lemma answerRequest_replied {msg} {s0 : Sys σ ω} (started : 1 ≤ s0.nextSender) :
    ⦃fun s => ⌜s = s0⌝⦄ answerRequest msg ⦃⇓ _ s => ⌜Replied s0 s⌝⦄ := by
  have lt : msg.answeredEnd s0.nextSender < s0.nextSender := answeredEnd_lt started
  mvcgen [answerRequest, answerResend_spec]
  case vc1.sent s eq =>
    subst eq
    exact ⟨_, List.mem_cons_self, Nat.le_trans lt (Nat.le_max_right 1 _)⟩
  case vc2.post.success s eq _ t =>
    subst eq
    intro run
    have noted (what) : Replied s (s.called (.compute what) s.world) := .of_call rfl rfl (.compute what)
    exact (noted _).trans (Resends.replied run)

/-- A request without numbers is looked at only. -/
lemma answerRequest_unanswered {msg} {s0 : Sys σ ω}
    (none : Unanswered msg.requestedBegin (msg.answeredEnd s0.nextSender) s0) :
    ⦃fun s => ⌜s = s0⌝⦄ answerRequest msg ⦃⇓ _ s => ⌜Extends Event.looks s0 s⌝⦄ := by
  have noted (what) : Extends Event.looks s0 (s0.called (.compute what) s0.world) :=
    Extends.cons (t := s0) (.refl rfl) rfl rfl
  have look (what) := answerResend_unanswered (noted what) none
  mvcgen [answerRequest]
  rename_i s eq
  subst eq
  exact look _ _ rfl

/-- A request is answered piece by piece. -/
lemma answerRequest_pieced {msg} {s0 : Sys σ ω}
    (answered : ¬ Unanswered msg.requestedBegin (msg.answeredEnd s0.nextSender) s0)
    (numbered : ReadsNumbered s0.session.store) :
    ⦃fun s => ⌜s = s0⌝⦄ answerRequest msg
    ⦃⇓ _ s => ⌜Pieced msg.requestedBegin (msg.answeredEnd s0.nextSender) s0 s⌝⦄ := by
  mvcgen [answerRequest, answerResend_pieced]
  case vc1.answered s eq =>
    subst eq
    exact answered
  case vc2.numbered s eq =>
    subst eq
    exact numbered
  case vc3.post.success s eq _ t =>
    subst eq
    rintro ⟨stored, now, pieces, asked, own, tiling, transmits⟩
    have noted := Adds.called s (.compute (if msg.openEnded (nextSenderSeqNum s.session.store) then [.lastSent]
      else [])) s.world
    exact ⟨stored, now, pieces, asked, own, tiling, noted.trans transmits⟩

/-- The answer to a ResendRequest stays inside the sent range: what is handed on has a number that was
sent, up to a finite EndSeqNo, no NewSeqNo is above the next number, and the store is as before. -/
structure Inside (msg : Message) (s t : Sys σ ω) : Prop where
  handed : ∀ c ∈ s.callsSince t, ∀ raw, c.event = .transmit raw →
    ∃ m, Transmitted (s.callsSince t) m ∧ raw = m.toBytes
  numbers : ∀ m, Transmitted (s.callsSince t) m → ∃ n, m.seqNum = .ok n ∧ 1 ≤ n ∧ n < s.nextSender ∧
    ∀ f ∈ finiteEnd s.session.cfg.sessionId msg, n ≤ f
  newSeqNo : ∀ c ∈ s.callsSince t, ∀ m sent, c.event = .toAdmin m sent →
    ∃ v, sent.body.get decodeI64 Tags.newSeqNo = .ok v ∧ v ≤ s.nextSender
  unchanged : view t.session.store = view s.session.store

/-- Nothing is sent, or BeginSeqNo is not 0 and no message is let through at the largest number that may
be sent or above, unless the range ends there; and no loss of the connection resets the store. -/
structure Answerable (msg : Message) (s t : Sys σ ω) : Prop where
  range : Unanswered msg.requestedBegin (msg.answeredEnd s.nextSender) s ∨
    1 ≤ msg.requestedBegin ∧
      (msg.answeredEnd s.nextSender ≤ ceiling s.session.cfg.sessionId msg ∨
        msg.requestedBegin ≤ ceiling s.session.cfg.sessionId msg ∧
          ∀ c ∈ s.callsSince t, ∀ m sent, c.event = .toApp m (some sent) →
            ∃ n < ceiling s.session.cfg.sessionId msg,
              m.header.getRaw Tags.msgSeqNum = some (encode n))
  kept : ∀ c ∈ s.callsSince t, c.event.clears = false

/-- The answer to a ResendRequest stays inside the sent range exactly where its BeginSeqNo is not 0,
999999 is not taken for no end after FIX 4.2, and the connection is not lost. -/
theorem answerRequest_inside (leaves : LeavesFills ω) (msg : Message) (s : Sys σ ω)
    (valid : Valid s.session.store) (numbered : ReadsNumbered s.session.store) (started : 1 ≤ s.nextSender) :
    Inside msg s ((answerRequest msg).run s).2 ↔ Answerable msg s ((answerRequest msg).run s).2 := by
  have replied : Replied s ((answerRequest msg).run s).2 := answerRequest_replied started s rfl
  have looks (none : Unanswered msg.requestedBegin (msg.answeredEnd s.nextSender) s) :
      Extends Event.looks s ((answerRequest msg).run s).2 := answerRequest_unanswered none s rfl
  have pieced (answered : ¬ Unanswered msg.requestedBegin (msg.answeredEnd s.nextSender) s) :
      Pieced msg.requestedBegin (msg.answeredEnd s.nextSender) s ((answerRequest msg).run s).2 :=
    answerRequest_pieced answered numbered s rfl
  generalize ((answerRequest msg).run s).2 = t at *
  obtain ⟨recent, ⟨tr, linked⟩, replies⟩ := replied
  have since : s.callsSince t = recent := Sys.callsSince_eq tr
  have store := view_replied linked replies valid
  by_cases none : Unanswered msg.requestedBegin (msg.answeredEnd s.nextSender) s
  · obtain ⟨looked, tr', quiet⟩ := looks none
    obtain rfl : looked = recent := List.append_cancel_right (tr'.symm.trans tr)
    have kept : ∀ c ∈ looked, c.event.clears = false := by
      intro c mem
      have here := quiet c mem
      cases ev : c.event <;> simp_all [Event.looks, Event.clears]
    have nothing : looked.any (·.event.clears) = false := by
      rw [List.any_eq_false]
      exact fun c mem => by simp [kept c mem]
    rw [nothing] at store
    constructor
    · intro
      refine ⟨.inl none, ?_⟩
      rw [since]
      exact kept
    · intro
      refine ⟨?_, ?_, ?_, store⟩
      all_goals rw [since]
      · intro c mem raw ev
        have here := quiet c mem
        rw [ev] at here
        cases here
      · rintro m ⟨⟨c, mem, ev⟩, -⟩
        have here := quiet c mem
        cases ev' : c.event <;> simp_all [Event.looks, Event.outgoing]
      · intro c mem m sent ev
        have here := quiet c mem
        rw [ev] at here
        cases here
  · have le : msg.requestedBegin ≤ msg.answeredEnd s.nextSender := Nat.not_lt.mp fun lt => none (.inl lt)
    obtain ⟨pieces, hands⟩ := (pieced none).hands leaves tr replies
    have bound : s.nextSender < 2 ^ 64 := (bounded _ valid).1
    have lt : msg.answeredEnd s.nextSender < s.nextSender := answeredEnd_lt started
    have fits : ceiling s.session.cfg.sessionId msg < 2 ^ 64 := by
      unfold ceiling
      split <;> omega
    have highest := hands.first_le le (by omega) fits
    have named (p : Piece) (mem : p ∈ pieces) : p.first ≤ ceiling s.session.cfg.sessionId msg ↔
        p.first < 2 ^ 63 ∧ ∀ f ∈ finiteEnd s.session.cfg.sessionId msg, p.first ≤ f :=
      le_ceiling_iff (Nat.le_of_lt_succ (hands.tiles.within mem).2)
    have within (p : Piece) (mem : p ∈ pieces) :
        msg.requestedBegin ≤ p.first ∧ p.first < s.nextSender := by
      have range := hands.tiles.within mem
      omega
    constructor
    · intro ⟨_, numbers, _, unchanged⟩
      rw [since] at numbers
      have carried (p) (mem : p ∈ pieces) : 1 ≤ p.first ∧ p.first ≤ ceiling s.session.cfg.sessionId msg := by
        obtain ⟨n, number, pos, -, finite⟩ := numbers _ ((hands.transmitted _).mpr ⟨p, mem, rfl⟩)
        obtain ⟨rfl, small⟩ := (seqNum_iff (hands.number p mem) (by have := within p mem; omega)).mp number
        exact ⟨pos, (named p mem).mpr ⟨small, finite⟩⟩
      have first : 1 ≤ msg.requestedBegin := by
        cases pieces with
        | nil =>
          have done : msg.requestedBegin = msg.answeredEnd s.nextSender + 1 := hands.tiles
          omega
        | cons p pieces => exact hands.tiles.1 ▸ (carried p List.mem_cons_self).1
      refine ⟨.inr ⟨first, ?_⟩, ?_⟩
      · rw [since]
        exact highest.mp fun p mem => (carried p mem).2
      · rw [since]
        by_contra some
        have cleared : recent.any (·.event.clears) = true := by
          rw [List.any_eq_true]
          by_contra none
          refine some fun c mem => ?_
          by_contra set
          exact none ⟨c, mem, by simpa using set⟩
        rw [cleared, if_pos rfl, unchanged] at store
        have one : s.nextSender = 1 := congrArg StoreView.nextSender store
        omega
    · intro ⟨range, kept⟩
      rw [since] at range kept
      have range := range.resolve_left none
      have nothing : recent.any (·.event.clears) = false := by
        rw [List.any_eq_false]
        exact fun c mem => by simp [kept c mem]
      rw [nothing] at store
      refine ⟨?_, ?_, ?_, store⟩
      all_goals rw [since]
      · intro c mem raw ev
        obtain ⟨p, mem, rfl⟩ := hands.handed c mem raw ev
        exact ⟨p.sent, (hands.transmitted _).mpr ⟨p, mem, rfl⟩, rfl⟩
      · intro m sent
        obtain ⟨p, mem, rfl⟩ := (hands.transmitted m).mp sent
        obtain ⟨small, finite⟩ := (named p mem).mp (highest.mpr range.2 p mem)
        have inner := within p mem
        refine ⟨p.first, ?_, range.1.trans inner.1, inner.2, finite⟩
        exact (seqNum_iff (hands.number p mem) (by omega)).mpr ⟨rfl, small⟩
      · intro c mem m sent ev
        obtain ⟨h, le, number⟩ := hands.newSeqNo c mem m sent ev
        have cast : asI64 h ≤ s.nextSender := by
          simp only [asI64]
          split <;> omega
        refine ⟨asI64 h, ?_, cast⟩
        simp only [FieldMap.get, number, decodeI64, parseSigned_encode]

/-- What is handed on under the number 0 was not sent under it. -/
lemma not_inside {msg : Message} {s t : Sys σ ω} (zero : ∃ c ∈ s.callsSince t, ∃ d ∈ s.callsSince t,
    ∃ m ∈ c.event.outgoing, m.seqNum = .ok 0 ∧ d.event.transmission = some m.toBytes) : ¬ Inside msg s t := by
  intro inside
  obtain ⟨c, mem, d, mem', m, out, number, handed⟩ := zero
  have sent : Transmitted (s.callsSince t) m := by
    refine ⟨⟨c, mem, out⟩, d, mem', ?_⟩
    cases ev : d.event <;> simp_all [Event.transmission]
  obtain ⟨n, number', pos, -⟩ := inside.numbers m sent
  rw [number] at number'
  cases number'
  omega

end Store

end Answer

namespace Script

/-- A ResendRequest of everything from a number on. -/
def resendFrom (b : Nat) : Message := (fromPeer MsgType.resendRequest 2).set Tags.beginSeqNo b

/-- An acceptor that has sent two messages it does not hold any more. -/
def sentTwo : Sys MemoryStore Script := play acceptor {} [.setSeqNums (some 3) none]

/-- Whether a stored message is read back under its own number. -/
def readsOwn (p : Nat × Bytes) : Bool :=
  match Message.parse p.2 false with
  | .ok m => m.header.getRaw Tags.msgSeqNum == some (encode p.1)
  | .error _ => true

/-- A memory store whose messages all have their numbers gives them back so. -/
lemma readsNumbered_of {st : MemoryStore} (own : st.messages.toList.all readsOwn = true) :
    ReadsNumbered st := by
  intro b e stored read n raw mem m parsed
  cases read
  have here := List.all_eq_true.mp own (n, raw) (List.mem_filter.mp mem).1
  simpa [readsOwn, parsed] using here

/-- An acceptor that sent three messages while no one was connected, and holds the two orders among
them. -/
def storedOrders : Sys MemoryStore Script :=
  play acceptor {} [.send plainOrder, .setSeqNums (some 3) none, .send plainOrder, .attach]

/-- The answer to a request from number 1 on, an order, a gap fill and an order, stays inside what was
sent. -/
theorem answerRequest_inside_storedOrders :
    letI := epochDay
    ((storedOrders.callsSince ((Session.answerRequest (resendFrom 1)).run storedOrders).2).filterMap
        (·.event.transmission)).length = 3 ∧
      Inside (resendFrom 1) storedOrders ((Session.answerRequest (resendFrom 1)).run storedOrders).2 := by
  let := epochDay
  have leaves : LeavesFills Script := ⟨leavesNumber, fun _ _ => rfl⟩
  have numbered : ReadsNumbered storedOrders.session.store := readsNumbered_of (by decide +kernel)
  have valid : LawfulStore.Valid storedOrders.session.store := ⟨by decide +kernel, by decide +kernel⟩
  refine ⟨by decide +kernel, ?_⟩
  apply (answerRequest_inside leaves (resendFrom 1) storedOrders valid numbered (by decide +kernel)).mpr
  exact ⟨.inr ⟨by decide +kernel, .inl (by decide +kernel)⟩, by decide +kernel⟩

/-- A request from number 0 on is answered with a gap fill numbered 0. -/
theorem not_inside_zero :
    letI := epochDay
    ¬ Inside (resendFrom 0) sentTwo ((Session.answerRequest (resendFrom 0)).run sentTwo).2 := by
  let := epochDay
  exact not_inside (by decide +kernel)

end Script

end QuickFix
