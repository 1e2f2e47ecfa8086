import Mathlib.Data.List.Chain
import QuickFix.Lib.Tiling
import QuickFix.Session.Script
import QuickFix.Steps.Outbound

/-!
# Resends tile their range

What `retransmit` hands to `transmit` for a range of numbers: the stored application messages that
the application lets through, each under its own number, and gap fills for everything between them
(`retransmit_tiles_iff`).
-/

namespace QuickFix

set_option mvcgen.warning false

open Std.Do Session

/-! ## Observations -/

namespace Event

/-- Bytes handed to `transmit`. -/
def transmission : Event → Option Bytes
  | .transmit raw => some raw
  | _ => none

/-- A call of `to_admin` with what it made of the message. -/
def toAdminCall : Event → Option (Message × Message)
  | .toAdmin m sent => some (m, sent)
  | _ => none

/-- A call of `to_app` with its answer. -/
def toAppCall : Event → Option (Message × Option Message)
  | .toApp m answer => some (m, answer)
  | _ => none

/-- Whether an event belongs to a write, or to the loss of the connection. -/
def isWrite : Event → Bool
  | .write .. | .log .disconnecting | .reset .disconnect _ | .onLogout => true
  | _ => false

end Event

section Resend

variable {σ ω α : Type}

/-- What is observed of a trace, the earliest first. -/
def observed (f : Event → Option α) (trace : List (Call σ)) : List α :=
  (trace.filterMap fun c => f c.event).reverse

/-- A call adds what is observed of it. -/
lemma observed_cons (f : Event → Option α) (c : Call σ) (trace) :
    observed f (c :: trace) = observed f trace ++ (f c.event).toList := by
  rw [observed, List.filterMap_cons]
  cases f c.event <;> simp [observed]

/-- Calls of which nothing is observed. -/
lemma Extends.observed {f : Event → Option α} {P} {s t : Sys σ ω} (h : Extends P s t)
    (silent : ∀ e, P e = true → f e = none) : observed f t.trace = observed f s.trace := by
  obtain ⟨recent, tr, all⟩ := h
  have none : recent.filterMap (fun c => f c.event) = [] :=
    List.filterMap_eq_nil_iff.mpr fun c mem => silent _ (all c mem)
  rw [tr, QuickFix.observed, List.filterMap_append, none]
  rfl

/-- What a part of a run adds to the observations: transmissions, calls of `to_admin` and calls of
`to_app`. -/
structure Adds (raws : List Bytes) (admin : List (Message × Message))
    (app : List (Message × Option Message)) (s t : Sys σ ω) : Prop where
  raws : observed Event.transmission t.trace = observed Event.transmission s.trace ++ raws
  admin : observed Event.toAdminCall t.trace = observed Event.toAdminCall s.trace ++ admin
  app : observed Event.toAppCall t.trace = observed Event.toAppCall s.trace ++ app

/-- One part of a run after another. -/
lemma Adds.trans {r r' a a' p p'} {s t u : Sys σ ω} (h : Adds r a p s t) (h' : Adds r' a' p' t u) :
    Adds (r ++ r') (a ++ a') (p ++ p') s u where
  raws := by rw [h'.raws, h.raws, List.append_assoc]
  admin := by rw [h'.admin, h.admin, List.append_assoc]
  app := by rw [h'.app, h.app, List.append_assoc]

/-- Nothing is observed where no call is made. -/
lemma Adds.refl {s t : Sys σ ω} (same : t.trace = s.trace) : Adds [] [] [] s t := by
  constructor <;> rw [same, List.append_nil]

/-- One call adds what is observed of it. -/
lemma Adds.called (s : Sys σ ω) (e : Event) (w : ω) :
    Adds e.transmission.toList e.toAdminCall.toList e.toAppCall.toList s (s.called e w) := by
  constructor <;> exact observed_cons ..

/-- Writes add nothing. -/
lemma Adds.wrote {s t : Sys σ ω} (h : Extends Event.isWrite s t) : Adds [] [] [] s t := by
  constructor
  all_goals
    rw [List.append_nil]
    apply h.observed
    intro e wrote
    cases e <;> first | rfl | cases wrote

/-! ## Pieces -/

/-- The message that `send_gap_fill` makes for the numbers from `g` to before `h`, as it writes them. -/
structure WritesGapFill (g h : Nat) (m : Message) : Prop where
  msgType : m.header.getRaw Tags.msgType = some MsgType.sequenceReset
  msgSeqNum : m.header.getRaw Tags.msgSeqNum = some (encode g)
  possDup : m.header.getRaw Tags.possDupFlag = some (ascii "Y")
  newSeqNo : m.body.getRaw Tags.newSeqNo = some (encode h)
  gapFillFlag : m.body.getRaw Tags.gapFillFlag = some (ascii "Y")

/-- A SequenceReset-GapFill that is read as one for the numbers from `g` to before `h`. -/
structure IsGapFill (g h : Nat) (m : Message) : Prop where
  msgType : m.header.getRaw Tags.msgType = some MsgType.sequenceReset
  msgSeqNum : m.seqNum = .ok g
  possDup : m.header.getRaw Tags.possDupFlag = some (ascii "Y")
  newSeqNo : m.bodyU64 Tags.newSeqNo = some h
  gapFillFlag : m.body.getRaw Tags.gapFillFlag = some (ascii "Y")

/-- A gap fill that is made for numbers below `2 ^ 63` is read as one for them. -/
lemma WritesGapFill.isGapFill {g h : Nat} {m : Message} (fill : WritesGapFill g h m) (lt : g < h)
    (small : h < 2 ^ 63) : IsGapFill g h m where
  msgType := fill.msgType
  msgSeqNum := by simp only [Message.seqNum, FieldMap.get, fill.msgSeqNum, decodeU64_encode (lt.trans small)]
  possDup := fill.possDup
  newSeqNo := by simp only [Message.bodyU64, FieldMap.getOpt, fill.newSeqNo, decodeU64_encode small, Except.map]
  gapFillFlag := fill.gapFillFlag

/-- A gap fill that is read as one for some numbers was made for numbers below `2 ^ 63`. -/
lemma WritesGapFill.small {g h g' h' : Nat} {m : Message} (fill : WritesGapFill g h m) (bound : h ≤ 2 ^ 64)
    (read : IsGapFill g' h' m) (nonempty : g' < h') : h < 2 ^ 63 := by
  by_contra large
  have reads := read.newSeqNo
  simp only [Message.bodyU64, FieldMap.getOpt, fill.newSeqNo] at reads
  rcases Nat.lt_or_ge h (2 ^ 64) with inside | outside
  · obtain ⟨err, failed⟩ := @decodeU64_encode_neg Tags.newSeqNo h (Nat.not_lt.mp large) inside
    simp only [failed, Except.map, reduceCtorEq] at reads
  · -- the number behind the last one wraps to zero
    obtain rfl : h = 2 ^ 64 := Nat.le_antisymm bound outside
    have zero : (encode (2 ^ 64 : Nat) : Bytes) = encode (0 : Nat) := by decide
    rw [zero, decodeU64_encode (by decide)] at reads
    simp only [Except.map, Option.some.injEq] at reads
    omega

/-- A piece of the answer to a resend request. -/
inductive Piece where
  /-- The message stored under a number, as the application let it through. -/
  | app (n : Nat) (sent : Message)
  /-- A gap fill of the numbers from `g` to before `h`: the message made, and what its callback made
  of it. -/
  | fill (g h : Nat) (m sent : Message)

namespace Piece

/-- The bytes of a piece. -/
def raw : Piece → Bytes
  | app _ sent => sent.toBytes
  | fill _ _ _ sent => sent.toBytes

/-- The first number a piece covers. -/
def first : Piece → Nat
  | app n _ => n
  | fill g _ _ _ => g

/-- The number after those a piece covers. -/
def next : Piece → Nat
  | app n _ => n + 1
  | fill _ h _ _ => h

/-- The message of a piece that is one. -/
def message : Piece → Option (Nat × Message)
  | app n sent => some (n, sent)
  | fill .. => none

/-- The gap fill of a piece that is one. -/
def gapFill : Piece → Option (Message × Message)
  | app .. => none
  | fill _ _ m sent => some (m, sent)

/-- A gap fill is made for the numbers of its piece. -/
def Written : Piece → Prop
  | app .. => True
  | fill g h m _ => WritesGapFill g h m

/-- A gap fill is read as one for the numbers of its piece. -/
def Genuine : Piece → Prop
  | app .. => True
  | fill g h m _ => IsGapFill g h m

/-- No two gap fills stand side by side. -/
def Apart (p q : Piece) : Prop := p.gapFill = none ∨ q.gapFill = none

end Piece

/-- The messages of some numbers that may be sent again. -/
def offered (stored : SeqMap Bytes) (seqs : List Nat) : List (Nat × Message) :=
  seqs.filterMap fun n => (resendable stored n).map (n, ·)

/-- The message that an offered message is sent as, with its number. -/
def acceptedOffer (o : (Nat × Message) × Option Message) : Option (Nat × Message) :=
  o.2.map (o.1.1, ·)

/-- What answers some numbers of a range: its pieces cover the numbers from `lo` to before `hi`, the
messages among them are those that may be sent again and that the application let through, and no
two gap fills are adjacent. -/
structure Tiling (stored : SeqMap Bytes) (seqs : List Nat) (lo hi : Nat) (pieces : List Piece)
    (asked : List ((Nat × Message) × Option Message)) : Prop where
  offers : asked.map Prod.fst = offered stored seqs
  messages : pieces.filterMap Piece.message = asked.filterMap acceptedOffer
  tiles : Tiles Piece.first Piece.next lo pieces hi
  genuine : ∀ p ∈ pieces, p.Written
  apart : pieces.IsChain Piece.Apart

namespace Tiling

variable {stored : SeqMap Bytes} {seqs : List Nat} {lo hi n : Nat} {pieces : List Piece}
  {asked : List ((Nat × Message) × Option Message)}

/-- A number that nothing can be sent again for. -/
lemma skip (h : Tiling stored seqs lo hi pieces asked) (nothing : resendable stored n = none) :
    Tiling stored (seqs ++ [n]) lo hi pieces asked where
  __ := h
  offers := by rw [h.offers, offered, offered, List.filterMap_append]; simp [nothing]

/-- A number whose message the application vetoes. -/
lemma veto {m} (h : Tiling stored seqs lo hi pieces asked) (stands : resendable stored n = some m) :
    Tiling stored (seqs ++ [n]) lo hi pieces (asked ++ [((n, m), none)]) where
  __ := h
  offers := by rw [List.map_append, h.offers, offered, offered, List.filterMap_append]; simp [stands]
  messages := by rw [List.filterMap_append, h.messages]; simp [acceptedOffer]

/-- A gap fill, after a message. -/
lemma fill {m} (sent) (h : Tiling stored seqs lo hi pieces asked) (genuine : WritesGapFill hi n m)
    (lt : hi < n) (last : ∀ p ∈ pieces.getLast?, p.gapFill = none) :
    Tiling stored seqs lo n (pieces ++ [.fill hi n m sent]) asked where
  offers := h.offers
  messages := by rw [List.filterMap_append, h.messages]; simp [Piece.message]
  tiles := h.tiles.snoc rfl lt
  genuine := by
    intro p mem
    obtain mem | mem := List.mem_append.mp mem
    · exact h.genuine p mem
    · exact List.mem_singleton.mp mem ▸ genuine
  apart := by
    refine List.IsChain.append h.apart (.singleton _) ?_
    intro p mem q _
    exact .inl (last p mem)

/-- A message under its number. -/
lemma app {m sent} (h : Tiling stored seqs lo n pieces asked) (stands : resendable stored n = some m) :
    Tiling stored (seqs ++ [n]) lo (n + 1) (pieces ++ [.app n sent])
      (asked ++ [((n, m), some sent)]) where
  offers := by rw [List.map_append, h.offers, offered, offered, List.filterMap_append]; simp [stands]
  messages := by
    rw [List.filterMap_append, List.filterMap_append, h.messages]
    simp [Piece.message, acceptedOffer]
  tiles := h.tiles.snoc rfl (Nat.lt_succ_self n)
  genuine := by
    intro p mem
    obtain mem | mem := List.mem_append.mp mem
    · exact h.genuine p mem
    · exact List.mem_singleton.mp mem ▸ trivial
  apart := by
    refine List.IsChain.append h.apart (.singleton _) ?_
    intro p _ q mem
    cases mem
    exact .inr rfl

/-- The pieces that are messages are those the application let through. -/
lemma app_mem {sent} (h : Tiling stored seqs lo hi pieces asked) :
    .app n sent ∈ pieces ↔ ∃ m, ((n, m), some sent) ∈ asked := by
  have messages : (n, sent) ∈ pieces.filterMap Piece.message ↔ (n, sent) ∈ asked.filterMap acceptedOffer := by
    rw [h.messages]
  simp only [List.mem_filterMap] at messages
  constructor
  · intro mem
    obtain ⟨⟨⟨k, m⟩, answer⟩, offer, eq⟩ := messages.mp ⟨_, mem, rfl⟩
    obtain ⟨s, rfl, same⟩ := Option.map_eq_some_iff.mp eq
    obtain ⟨rfl, rfl⟩ := Prod.mk.inj same
    exact ⟨m, offer⟩
  · rintro ⟨m, mem⟩
    obtain ⟨p, mem, eq⟩ := messages.mpr ⟨_, mem, rfl⟩
    cases p with
    | fill => cases eq
    | app k s =>
      cases eq
      exact mem

end Tiling

/-- The range grows by its next number. -/
lemma range_succ {lo seq : Nat} (le : lo ≤ seq) :
    List.range' lo (seq + 1 - lo) = List.range' lo (seq - lo) ++ [seq] := by
  rw [Nat.succ_sub le, List.range'_1_concat, Nat.add_sub_cancel' le]

section

variable [Application ω]

/-- A call of `to_app` is observed with its answer. -/
lemma Adds.toApp {m : Message} {answer} {w : ω} (s : Sys σ ω) (eq : (Application.toApp m w).1 = answer) :
    Adds [] [] [(m, answer)] s
      (s.called (.toApp m (Application.toApp m w).1) (Application.toApp m w).2) := by
  subst eq
  exact .called s (.toApp m (Application.toApp m w).1) (Application.toApp m w).2

end

section

variable [Chrono]

/-- The call of `to_app` for an offered message, with its answer. -/
def offerCall (now : UtcTimestamp) (o : (Nat × Message) × Option Message) : Message × Option Message :=
  (o.1.2.resent now, o.2)

/-- The pieces are transmitted, after the calls that make and admit them. -/
abbrev Transmits (now : UtcTimestamp) (pieces : List Piece)
    (asked : List ((Nat × Message) × Option Message)) (s t : Sys σ ω) : Prop :=
  Adds (pieces.map Piece.raw) (pieces.filterMap Piece.gapFill) (asked.map (offerCall now)) s t

/-- The state of the loop before the number `seq`: a tiling up to the gap that is pending, or to
`seq`, after which no gap fill stands. -/
structure Pending (stored : SeqMap Bytes) (now : UtcTimestamp) (lo seq : Nat) (gapBegin : Option Nat)
    (pieces : List Piece) (asked : List ((Nat × Message) × Option Message)) (s t : Sys σ ω) :
    Prop where
  tiling : Tiling stored (List.range' lo (seq - lo)) lo (gapBegin.getD seq) pieces asked
  transmits : Transmits now pieces asked s t
  last : ∀ p ∈ pieces.getLast?, p.gapFill = none
  gap : ∀ gb ∈ gapBegin, gb < seq

namespace Pending

variable {stored : SeqMap Bytes} {now : UtcTimestamp} {lo seq : Nat} {gapBegin : Option Nat}
  {pieces : List Piece} {asked : List ((Nat × Message) × Option Message)} {s t u v w : Sys σ ω}
  {m : Message}

/-- Where nothing is sent for a number, the gap begins there at the latest. -/
lemma gapped (pending : Pending stored now lo seq gapBegin pieces asked s t) :
    ∀ gb ∈ some (gapBegin.getD seq), gb < seq + 1 := by
  rintro gb ⟨⟩
  cases eq : gapBegin with
  | none => exact Nat.lt_succ_self seq
  | some gb => exact Nat.lt_succ_of_lt (pending.gap gb eq)

/-- A number that nothing can be sent again for. -/
lemma skip (pending : Pending stored now lo seq gapBegin pieces asked s t) (le : lo ≤ seq)
    (nothing : resendable stored seq = none) :
    Pending stored now lo (seq + 1) (some (gapBegin.getD seq)) pieces asked s t where
  tiling := range_succ le ▸ pending.tiling.skip nothing
  transmits := pending.transmits
  last := pending.last
  gap := pending.gapped

/-- A number whose message the application vetoes. -/
lemma veto (pending : Pending stored now lo seq gapBegin pieces asked s t) (le : lo ≤ seq)
    (stands : resendable stored seq = some m) (adds : Adds [] [] [(m.resent now, none)] t u) :
    Pending stored now lo (seq + 1) (some (gapBegin.getD seq)) pieces
      (asked ++ [((seq, m), none)]) s u where
  tiling := range_succ le ▸ pending.tiling.veto stands
  transmits := by simpa [Transmits, offerCall] using pending.transmits.trans adds
  last := pending.last
  gap := pending.gapped

/-- A number whose message goes out, with no gap before it. -/
lemma accept {sent} (pending : Pending stored now lo seq none pieces asked s t) (le : lo ≤ seq)
    (stands : resendable stored seq = some m) (adds : Adds [] [] [(m.resent now, some sent)] t u)
    (handed : Adds [sent.toBytes] [] [] u v) :
    Pending stored now lo (seq + 1) none (pieces ++ [.app seq sent])
      (asked ++ [((seq, m), some sent)]) s v where
  tiling := range_succ le ▸ pending.tiling.app stands
  transmits := by
    simpa [Transmits, offerCall, Piece.raw, Piece.gapFill, List.filterMap_cons] using
      (pending.transmits.trans adds).trans handed
  last := by simp [Piece.gapFill]
  gap := by simp

/-- A number whose message goes out after a gap. -/
lemma acceptAfter {gb fill filled sent}
    (pending : Pending stored now lo seq (some gb) pieces asked s t) (le : lo ≤ seq)
    (stands : resendable stored seq = some m) (adds : Adds [] [] [(m.resent now, some sent)] t u)
    (genuine : WritesGapFill gb seq fill) (fills : Adds [filled.toBytes] [(fill, filled)] [] u v)
    (handed : Adds [sent.toBytes] [] [] v w) :
    Pending stored now lo (seq + 1) none (pieces ++ [.fill gb seq fill filled] ++ [.app seq sent])
      (asked ++ [((seq, m), some sent)]) s w where
  tiling := range_succ le ▸ (pending.tiling.fill filled genuine (pending.gap gb rfl) pending.last).app stands
  transmits := by
    simpa [Transmits, offerCall, Piece.raw, Piece.gapFill, List.filterMap_cons] using
      ((pending.transmits.trans adds).trans fills).trans handed
  last := by simp [Piece.gapFill]
  gap := by simp

end Pending

/-! ## Numbers that can be read -/

/-- The application is asked about the messages of a range: those that are stored under one of its numbers,
parse and are not administrative, in the order of the numbers. -/
structure AsksApp (stored : SeqMap Bytes) (now : UtcTimestamp) (b e : Nat)
    (asked : List ((Nat × Message) × Option Message)) (s t : Sys σ ω) : Prop where
  ascending : asked.Pairwise (·.1.1 < ·.1.1)
  offers : ∀ n m, (∃ answer, ((n, m), answer) ∈ asked) ↔ (b ≤ n ∧ n ≤ e) ∧ Standing stored n m
  calls : observed Event.toAppCall t.trace = observed Event.toAppCall s.trace ++ asked.map (offerCall now)

/-- The pieces are what is handed to `transmit`, and tile the range: the messages among them are those the
application let through, each under the number it is stored under, everything between them is gap fills for
just these numbers, and no two gap fills are adjacent. -/
structure Retransmits (b e : Nat) (asked : List ((Nat × Message) × Option Message)) (pieces : List Piece)
    (s t : Sys σ ω) : Prop where
  raws : observed Event.transmission t.trace = observed Event.transmission s.trace ++ pieces.map Piece.raw
  fills : observed Event.toAdminCall t.trace =
    observed Event.toAdminCall s.trace ++ pieces.filterMap Piece.gapFill
  messages : ∀ n sent, .app n sent ∈ pieces ↔ ∃ m, ((n, m), some sent) ∈ asked
  tiles : Tiles Piece.first Piece.next b pieces (e + 1)
  genuine : ∀ p ∈ pieces, p.Genuine
  apart : pieces.IsChain Piece.Apart

/-- The application let a message go out for a number. -/
def Released (asked : List ((Nat × Message) × Option Message)) (n : Nat) : Prop :=
  ∃ m sent, ((n, m), some sent) ∈ asked

variable {stored : SeqMap Bytes} {b e : Nat} {pieces : List Piece} {s t : Sys σ ω} {now : UtcTimestamp}
variable {asked : List ((Nat × Message) × Option Message)}

/-- What is offered of a range is what stands under its numbers, in their order. -/
lemma Tiling.asks (h : Tiling stored (seqRange b e) b (e + 1) pieces asked) (sends : Transmits now pieces asked s t) :
    AsksApp stored now b e asked s t where
  ascending := by
    have sorted : (offered stored (seqRange b e)).Pairwise (·.1 < ·.1) := by
      refine List.Pairwise.filterMap _ ?_ List.pairwise_lt_range'
      intro n k lt x here y there
      obtain ⟨-, -, rfl⟩ := Option.map_eq_some_iff.mp here
      obtain ⟨-, -, rfl⟩ := Option.map_eq_some_iff.mp there
      exact lt
    rw [← h.offers] at sorted
    rwa [List.pairwise_map] at sorted
  offers n m := by
    have known : (∃ answer, ((n, m), answer) ∈ asked) ↔ (n, m) ∈ offered stored (seqRange b e) := by
      rw [← h.offers, List.mem_map]
      constructor
      · rintro ⟨answer, mem⟩
        exact ⟨_, mem, rfl⟩
      · rintro ⟨⟨_, answer⟩, mem, rfl⟩
        exact ⟨answer, mem⟩
    rw [known, offered, List.mem_filterMap, ← resendable_eq_some]
    simp only [Option.map_eq_some_iff, Prod.mk.injEq, seqRange, List.mem_range'_1]
    constructor
    · rintro ⟨k, range, m', stands, rfl, rfl⟩
      exact ⟨by omega, stands⟩
    · rintro ⟨range, stands⟩
      exact ⟨n, by omega, m, stands, rfl, rfl⟩
  calls := sends.app

omit [Chrono] in
/-- A number that is not let through is in a gap fill. -/
lemma Retransmits.covered (h : Retransmits b e asked pieces s t) {n : Nat} (low : b ≤ n) (high : n ≤ e)
    (held : ¬ Released asked n) : ∃ g k m sent, .fill g k m sent ∈ pieces ∧ n < k := by
  obtain ⟨p, mem, le, lt⟩ := h.tiles.covers low (Nat.lt_succ_of_le high)
  cases p with
  | fill g k m sent => exact ⟨g, k, m, sent, mem, lt⟩
  | app k sent =>
    obtain rfl : k = n := Nat.le_antisymm le (Nat.le_of_lt_succ lt)
    obtain ⟨m, offer⟩ := (h.messages k sent).mp mem
    exact absurd ⟨m, sent, offer⟩ held

omit [Chrono] in
/-- The gap fill of a piece is among the gap fills. -/
lemma mem_gapFills {m sent : Message} :
    (m, sent) ∈ pieces.filterMap Piece.gapFill ↔ ∃ g h, .fill g h m sent ∈ pieces := by
  rw [List.mem_filterMap]
  constructor
  · rintro ⟨p, mem, eq⟩
    cases p <;> cases eq
    exact ⟨_, _, mem⟩
  · rintro ⟨g, h, mem⟩
    exact ⟨_, mem, rfl⟩

/-- A tiling whose gap fills are made for the numbers they cover has gap fills that are read as such exactly
when they end below `2 ^ 63`: when the numbers from `2 ^ 63 - 1` on are those of messages that go out. -/
lemma Tiling.retransmits_iff (h : Tiling stored (seqRange b e) b (e + 1) pieces asked)
    (sends : Transmits now pieces asked s t) (bound : e < 2 ^ 64) :
    (∃ pieces, Retransmits b e asked pieces s t) ↔
      ∀ n, b ≤ n → n ≤ e → 2 ^ 63 - 1 ≤ n → Released asked n := by
  constructor
  · rintro ⟨pieces', read⟩ n low high large
    by_contra held
    obtain ⟨g, k, m, sent, mem, lt⟩ := read.covered low high held
    -- the gap fill that covers the number was made for numbers below the limit
    have same : pieces'.filterMap Piece.gapFill = pieces.filterMap Piece.gapFill :=
      List.append_cancel_left (read.fills.symm.trans sends.admin)
    obtain ⟨g₀, k₀, mem₀⟩ := mem_gapFills.mp (same ▸ mem_gapFills.mpr ⟨g, k, mem⟩)
    have fill : WritesGapFill g₀ k₀ m := h.genuine _ mem₀
    have genuine : IsGapFill g k m := read.genuine _ mem
    have ends : k₀ ≤ e + 1 := h.tiles.next_le mem₀
    have small : k₀ < 2 ^ 63 := fill.small (by omega) genuine (read.tiles.nonempty mem)
    have again := (fill.isGapFill (h.tiles.nonempty mem₀) small).newSeqNo
    obtain rfl : k = k₀ := Option.some.inj (genuine.newSeqNo.symm.trans again)
    omega
  · intro released
    refine ⟨pieces, ⟨sends.raws, sends.admin, fun n sent => h.app_mem, h.tiles, ?_, h.apart⟩⟩
    intro p mem
    cases p with
    | app => trivial
    | fill g k m sent =>
      have fill : WritesGapFill g k m := h.genuine _ mem
      have lt : g < k := h.tiles.nonempty mem
      by_cases small : k < 2 ^ 63
      · exact fill.isGapFill lt small
      · -- the last number of the gap fill went out as a message, which covers it as well
        have low : b ≤ g := (h.tiles.within mem).1
        have high : k ≤ e + 1 := h.tiles.next_le mem
        obtain ⟨m', sent', out⟩ := released (k - 1) (by omega) (by omega) (by omega)
        have app : Piece.app (k - 1) sent' ∈ pieces := h.app_mem.mpr ⟨m', out⟩
        have twice := h.tiles.unique mem app (n := k - 1) ⟨Nat.le_sub_one_of_lt lt, Nat.sub_one_lt (by omega)⟩
          ⟨Nat.le_refl _, Nat.lt_succ_self _⟩
        cases twice

end

variable [Chrono] [MessageStore σ] [Application ω] [Runtime ω]

/-! ## Sending -/

/-- Disconnecting makes no other calls. -/
lemma Dropped.wrote {s t : Sys σ ω} (h : Dropped s t) : Extends Event.isWrite s t := by
  have noted : Extends Event.isWrite s (s.called (.log .disconnecting) s.world) :=
    Extends.cons (.refl (t := s) rfl) rfl rfl
  have cut {t} (c : Cut s t) : Extends Event.isWrite s t := by
    cases c with
    | kept => exact noted
    | reset => exact noted.cons rfl rfl
  cases h with
  | idle => exact .refl rfl
  | cut _ left => exact left.elim cut fun _ wrote => wrote.cons rfl rfl

/-- Transmitting adds one transmission. -/
lemma transmit_adds {raw} {s0 : Sys σ ω} :
    ⦃fun s => ⌜s = s0⌝⦄ transmit raw ⦃⇓ _ s => ⌜Adds [raw] [] [] s0 s⌝⦄ := by
  have noted : Adds [raw] [] [] s0 (s0.called (.transmit raw) s0.world) :=
    .called s0 (.transmit raw) s0.world
  have wrote (res w) : Extends Event.isWrite (s0.called (.transmit raw) s0.world)
      ((s0.called (.transmit raw) s0.world).called (.write raw res) w) :=
    Extends.cons (.refl (t := s0.called (.transmit raw) s0.world) rfl) rfl rfl
  mvcgen [transmit, write, instantNow, disconnect_spec]
  case vc1 s eq conn accepted =>
    subst eq
    exact noted.trans (.wrote (wrote _ (Runtime.send raw s.world).2))
  case vc2.isTrue.isFalse.post.success s eq conn gone _ t =>
    subst eq
    intro dropped
    exact noted.trans (.wrote ((wrote _ _).trans dropped.wrote))
  case vc3 s eq conn =>
    subst eq
    exact noted

/-- The message of a gap fill is one. -/
lemma writesGapFill_gapFillMessage (s : Session σ) (now now' g h) :
    WritesGapFill g h (gapFillMessage (s.filledHeader now (.withType MsgType.sequenceReset)) g h now') := by
  constructor
  all_goals simp +decide [gapFillMessage, Message.set, encode]

/-- Sending a gap fill transmits it as its callback left it. -/
lemma sendGapFill_adds {g h} {s0 : Sys σ ω} :
    ⦃fun s => ⌜s = s0⌝⦄ sendGapFill g h
    ⦃⇓ _ s => ⌜∃ m sent, WritesGapFill g h m ∧ Adds [sent.toBytes] [(m, sent)] [] s0 s⌝⦄ := by
  mvcgen [sendGapFill, fillHeader_spec, utcNow, transmit_adds]
  case vc1.post.success.post.success s eq m s1 head msg _ t =>
    obtain ⟨now, w, -, rfl, rfl⟩ := head
    subst eq
    intro sent
    generalize Application.toAdmin msg (Runtime.utcNow w).2 = answer at sent
    have called : Adds [] [(msg, answer.1)] [] s (s.called (.toAdmin msg answer.1) answer.2) :=
      .called s (.toAdmin msg answer.1) answer.2
    exact ⟨msg, _, writesGapFill_gapFillMessage .., called.trans sent⟩

/-! ## The loop -/

/-- A step of the loop. -/
lemma retransmitOne_pending {stored now lo seq gapBegin pieces asked} {s s0 : Sys σ ω}
    (le : lo ≤ seq) (pending : Pending stored now lo seq gapBegin pieces asked s s0) :
    ⦃fun t => ⌜t = s0⌝⦄ retransmitOne stored now gapBegin seq
    ⦃⇓ gapBegin' t => ⌜∃ pieces' asked', Pending stored now lo (seq + 1) gapBegin' pieces' asked' s t⌝⦄ := by
  mvcgen [retransmitOne, -retransmitOne_spec, sendGapFill_adds, transmit_adds]
  case vc1.h_1 nothing t eq => exact ⟨pieces, asked, eq ▸ pending.skip le nothing⟩
  case vc2.h_2.h_1 m stands t eq veto =>
    subst eq
    exact ⟨pieces, _, pending.veto le stands (.toApp t veto)⟩
  case vc3.h_2.h_2.h_1.post.success.post.success m stands t eq sent answer jp gb gap _ u filled _ v handed =>
    subst eq gap
    obtain ⟨fill, filled, genuine, fills⟩ := filled
    exact ⟨_, _, pending.acceptAfter le stands (.toApp t answer) genuine fills handed⟩
  case vc4.h_2.h_2.h_2.post.success m stands t eq sent answer jp gap _ u handed =>
    subst eq gap
    exact ⟨_, _, pending.accept le stands (.toApp t answer) handed⟩

/-- The loop, from a number of the range on. -/
lemma retransmitAll_pending {stored now lo gapBegin pieces asked} {s : Sys σ ω} (n) {seq} {s0 : Sys σ ω}
    (le : lo ≤ seq) (pending : Pending stored now lo seq gapBegin pieces asked s s0) :
    ⦃fun t => ⌜t = s0⌝⦄ retransmitAll stored now (List.range' seq n) gapBegin
    ⦃⇓ gapBegin' t => ⌜∃ pieces' asked',
      Pending stored now lo (seq + n) gapBegin' pieces' asked' s t⌝⦄ := by
  induction n generalizing seq gapBegin pieces asked s0 with
  | zero =>
    rw [List.range'_zero]
    mvcgen [retransmitAll, -retransmitAll_spec]
    rename_i t eq
    exact ⟨pieces, asked, eq ▸ pending⟩
  | succ n ih =>
    rw [List.range'_succ]
    have step := retransmitOne_pending le pending
    mvcgen [retransmitAll, -retransmitAll_spec, -retransmitOne_spec, step]
    case vc2.succ.post.success gapBegin' =>
      rintro t ⟨pieces', asked', pending'⟩
      rw [Nat.add_comm n, ← Nat.add_assoc]
      exact ih (Nat.le_succ_of_le le) pending' t rfl

/-- The loop, over the whole range. -/
lemma retransmitRange_pending (stored now) {b e} {s s0 : Sys σ ω} (le : b ≤ e)
    (silent : Adds [] [] [] s s0) :
    ⦃fun t => ⌜t = s0⌝⦄ retransmitAll stored now (seqRange b e) none
    ⦃⇓ gapBegin t => ⌜∃ pieces asked, Pending stored now b (e + 1) gapBegin pieces asked s t⌝⦄ := by
  have start : Pending stored now b b none [] [] s s0 :=
    ⟨⟨by simp [offered], rfl, rfl, by simp, .nil⟩, silent, by simp, by simp⟩
  have loop := retransmitAll_pending (e + 1 - b) (Nat.le_refl b) start
  rw [Nat.add_sub_cancel' (Nat.le_succ_of_le le)] at loop
  exact loop

/-- What answers a resend request: nothing where the store cannot read its messages, and otherwise a
tiling of the range, with the calls of `to_app` and `to_admin` that admit and make its pieces. -/
def Answers (b e : Nat) (s t : Sys σ ω) : Prop :=
  match (MessageStore.getMessages b e s.session.store).1 with
  | .error _ => Adds [] [] [] s t
  | .ok stored => ∃ pieces asked,
      Tiling (.ofList stored) (seqRange b e) b (e + 1) pieces asked ∧
      Transmits (s.session.timestamp (Runtime.utcNow s.world).1) pieces asked s t

/-- Replaying a range answers the request. -/
lemma retransmit_answers {b e} (le : b ≤ e) {s0 : Sys σ ω} :
    ⦃fun s => ⌜s = s0⌝⦄ retransmit b e ⦃⇓ _ s => ⌜Answers b e s0 s⌝⦄ := by
  have silent (st) : Adds [] [] [] s0 (s0.stored (.getMessages b e) st) := by
    constructor <;> exact observed_cons ..
  have loop {stored now} {s1 : Sys σ ω} (same : Adds [] [] [] s0 s1) :=
    retransmitRange_pending stored now le same
  mvcgen [retransmit, -retransmitAll_spec, getMessages, storeOp, utcNow, sendGapFill_adds, loop]
  case vc1.same t eq ms read =>
    subst eq
    constructor <;> exact observed_cons ..
  case vc2.h_1.post.success.h_1.post.success s eq ms read gap gb pends u pending _ t =>
    rintro ⟨fill, filled, genuine, fills⟩
    subst eq
    obtain ⟨pieces, asked, pending⟩ := pending
    rw [Answers, read]
    refine ⟨_, asked, pending.tiling.fill filled genuine (pending.gap gb rfl) pending.last, ?_⟩
    have noted : Adds [] [] [] u (u.called (.compute [.fillEnd e]) u.world) :=
      .called u (.compute [.fillEnd e]) u.world
    have transmits : Transmits (s.session.timestamp (Runtime.utcNow s.world).1) pieces asked s u :=
      pending.transmits
    simpa [Transmits, Piece.raw, Piece.gapFill, List.filterMap_cons] using
      (transmits.trans noted).trans fills
  case vc3.h_1.post.success.h_2 s eq ms read gap none t pending =>
    subst eq
    obtain ⟨pieces, asked, pending⟩ := pending
    rw [Answers, read]
    exact ⟨pieces, asked, pending.tiling, pending.transmits⟩
  case vc4.h_2 s eq err failed =>
    subst eq
    rw [Answers, failed]
    exact silent _

/-! ## Resends -/

/-- What is handed to `transmit` for a range, whatever the store holds and the application answers, tiles the
range exactly when every number from `2 ^ 63 - 1` on is that of a message that goes out, so that no gap fill
ends at `2 ^ 63` or above. Nothing is handed on when the store cannot read its messages. -/
theorem retransmit_tiles_iff {b e} (le : b ≤ e) (bound : e < 2 ^ 64) (s : Sys σ ω) :
    (∀ err, (MessageStore.getMessages b e s.session.store).1 = .error err →
      Adds [] [] [] s ((retransmit b e).run s).2) ∧
    ∀ stored, (MessageStore.getMessages b e s.session.store).1 = .ok stored → ∃ asked,
      AsksApp (.ofList stored) (s.session.timestamp (Runtime.utcNow s.world).1) b e asked s
        ((retransmit b e).run s).2 ∧
      ((∃ pieces, Retransmits b e asked pieces s ((retransmit b e).run s).2) ↔
        ∀ n, b ≤ n → n ≤ e → 2 ^ 63 - 1 ≤ n → Released asked n) := by
  have answers : Answers b e s ((retransmit b e).run s).2 := retransmit_answers le s rfl
  unfold Answers at answers
  constructor
  · intro err failed
    rwa [failed] at answers
  · intro stored read
    rw [read] at answers
    obtain ⟨pieces, asked, tiling, sends⟩ := answers
    exact ⟨asked, tiling.asks sends, tiling.retransmits_iff sends bound⟩

/-- Whether a gap fill was made since that has no NewSeqNo to read. -/
def fillsUnread (s t : Sys σ ω) : Bool :=
  ((observed Event.toAdminCall t.trace).drop (observed Event.toAdminCall s.trace).length).any
    fun x => (x.1.bodyU64 Tags.newSeqNo).isNone

omit [Chrono] [MessageStore σ] [Application ω] [Runtime ω] in
/-- With such a gap fill nothing is tiled. -/
lemma not_retransmits {b e} {s t : Sys σ ω} (unread : fillsUnread s t = true) (asked pieces) :
    ¬ Retransmits b e asked pieces s t := by
  intro sends
  rw [fillsUnread, sends.fills, List.drop_left, List.any_eq_true] at unread
  obtain ⟨⟨m, sent⟩, mem, none⟩ := unread
  obtain ⟨g, h, mem⟩ := mem_gapFills.mp mem
  have fill : IsGapFill g h m := sends.genuine _ mem
  simp [fill.newSeqNo] at none

end Resend

namespace Script

/-- A session that sent its Logon and two orders. The application lets the first one go out again, and not
the second one. -/
def twoOrders : Sys MemoryStore Script :=
  play acceptor { toApp := [true, true, true, false] }
    [.attach, .inbound (fromPeer MsgType.logon 1).toBytes, .send plainOrder, .send plainOrder]

/-- The numbers of the gap fills made since a Logon was sent, as they are read. -/
def fillNumbers (s : Sys MemoryStore Script) : List (Option Nat × Option Nat) :=
  ((observed Event.toAdminCall s.trace).drop 1).map
    fun x => (x.1.seqNum.toOption, x.1.bodyU64 Tags.newSeqNo)

/-- The Logon is filled, the first order sent again, and the second one filled. -/
theorem retransmit_tiles_iff_twoOrders :
    letI := epochDay
    let replayed := ((retransmit 1 3).run twoOrders).2
    (∃ stored asked pieces,
      AsksApp stored (twoOrders.session.timestamp (Runtime.utcNow twoOrders.world).1) 1 3 asked twoOrders replayed ∧
      Retransmits 1 3 asked pieces twoOrders replayed) ∧
    ((observed Event.toAppCall replayed.trace).drop 2).map (·.2.isSome) = [true, false] ∧
    fillNumbers replayed = [(some 1, some 2), (some 3, some 4)] := by
  let := epochDay
  refine ⟨?_, by decide +kernel, by decide +kernel⟩
  have replayed := @retransmit_tiles_iff MemoryStore Script epochDay _ _ _ 1 3 (by decide) (by decide) twoOrders
  obtain ⟨asked, asks, tiles⟩ := replayed.2 (MemoryStore.range twoOrders.session.store.messages 1 3) rfl
  have small : ∀ n, 1 ≤ n → n ≤ 3 → 2 ^ 63 - 1 ≤ n → Released asked n := by
    intro n _ high large
    omega
  obtain ⟨pieces, sent⟩ := tiles.mpr small
  exact ⟨_, asked, pieces, asks, sent⟩

/-- A session whose next number was set to `2 ^ 63 + 5`. -/
def farAhead : Sys MemoryStore Script :=
  play acceptor {}
    [.attach, .inbound (fromPeer MsgType.logon 1).toBytes, .setSeqNums (some 9223372036854775813) none]

/-- The gap fill for the numbers from `2 ^ 63 + 1` to `2 ^ 63 + 4` is written with negative numbers, and
nothing tiles the range. -/
theorem not_retransmits_farAhead :
    letI := epochDay
    let replayed := ((retransmit (2 ^ 63 + 1) (2 ^ 63 + 4)).run farAhead).2
    ((observed Event.toAdminCall replayed.trace).drop 1).map
      (fun x => (x.1.header.getRaw Tags.msgSeqNum, x.1.body.getRaw Tags.newSeqNo)) =
        [(some (ascii "-9223372036854775807"), some (ascii "-9223372036854775803"))] ∧
    ∀ asked pieces, ¬ Retransmits (2 ^ 63 + 1) (2 ^ 63 + 4) asked pieces farAhead replayed := by
  let := epochDay
  exact ⟨by decide +kernel, not_retransmits (by decide +kernel)⟩

end Script

end QuickFix
