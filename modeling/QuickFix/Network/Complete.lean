import QuickFix.Network.Order
import QuickFix.Delivery.Skipped
import QuickFix.Delivery.Refused

/-!
# Nothing is lost

Between two boundaries the next target number moves up over the numbers one by one as messages are
counted, and a SequenceReset moves it over several at once. So each number below it was delivered or
passed over, and never both: what the application gets is what the other side accepted, but for the
numbers that are still to come and those that were passed over. And a number is passed over for a reason:
a SequenceReset, a message that is refused, an entry that `drain_stash` only counts, or session control.
-/

namespace QuickFix

set_option linter.unusedSectionVars false

open Session MessageStore

section Lists

variable {σ : Type} [MessageStore σ]

/-- Whether a call moves the next target number over a number that was not delivered. -/
def Call.passesOver (n : Nat) (c : Call σ) (earlier : List (Call σ)) : Bool :=
  match c.event with
  | .setTarget .sequenceReset m (.ok _) => decide (c.nextTarget ≤ n ∧ n < m)
  | .incrTarget (.ok _) => decide (c.nextTarget = n) && !delivering earlier
  | _ => false

/-- Whether a number was counted without a delivery, or skipped. -/
def passedOver (n : Nat) : List (Call σ) → Bool
  | [] => false
  | c :: cs => c.passesOver n cs || passedOver n cs

/-- What passes over a number is a SequenceReset to a higher one, or counts it without a delivery. -/
lemma Call.passesOver_cases {n} {c : Call σ} {cs} (h : c.passesOver n cs = true) :
    (∃ m, c.event = .setTarget .sequenceReset m (.ok ()) ∧ c.nextTarget ≤ n ∧ n < m) ∨
      c.event = .incrTarget (.ok ()) ∧ c.nextTarget = n ∧ delivering cs = false := by
  unfold passesOver at h
  split at h
  case h_1 m _ ev => exact .inl ⟨m, ev, by simpa using h⟩
  case h_2 ev => exact .inr ⟨ev, by simpa using h⟩
  case h_3 => cases h

/-- A number that was passed over was so at some call. -/
lemma exists_passesOver {n} {cs : List (Call σ)} (h : passedOver n cs = true) :
    ∃ c rest, c :: rest <:+ cs ∧ c.passesOver n rest = true := by
  induction cs with
  | nil => cases h
  | cons c cs ih =>
    rcases Bool.or_eq_true_iff.mp h with here | before
    · exact ⟨c, cs, List.suffix_rfl, here⟩
    · obtain ⟨d, rest, suf, passes⟩ := ih before
      exact ⟨d, rest, suf.trans (List.suffix_cons c cs), passes⟩

variable [LawfulStore σ]

/-- A history without a boundary, in which no operation failed and no count ran over. -/
structure Ongoing (start : σ) (cs : List (Call σ)) (st : σ) : Prop where
  valid : LawfulStore.Valid start
  linked : Linked start cs st
  orderly : Along Orderly cs
  clean : ∀ c ∈ cs, c.event.failed = false
  inside : ∀ c ∈ cs, boundary c = false
  room : ∀ c ∈ cs, c.wrapsTarget = false

variable {start st : σ} {c : Call σ} {cs : List (Call σ)}

/-- What goes on went on before its latest call. -/
lemma Ongoing.before (h : Ongoing start (c :: cs) st) : Ongoing start cs c.session.store where
  valid := h.valid
  linked := h.linked.2
  orderly := h.orderly.2
  clean d mem := h.clean d (List.mem_cons_of_mem c mem)
  inside d mem := h.inside d (List.mem_cons_of_mem c mem)
  room d mem := h.room d (List.mem_cons_of_mem c mem)

/-- The latest call moves the store as its event says. -/
lemma Ongoing.moves (h : Ongoing start (c :: cs) st) :
    c.event.Moves (view c.session.store) (view st) :=
  (h.linked.1.moves (h.linked.2.valid h.valid).1).2

/-- No call moves the next number down. -/
lemma Ongoing.mono (h : Ongoing start (c :: cs) st) : c.nextTarget ≤ nextTargetSeqNum st :=
  nextTarget_mono h.orderly.1 (h.inside c List.mem_cons_self) (h.room c List.mem_cons_self) h.moves

/-- The next number has not fallen below the first one. -/
lemma Ongoing.from_start (h : Ongoing start cs st) : nextTargetSeqNum start ≤ nextTargetSeqNum st := by
  induction cs generalizing st with
  | nil => exact (congrArg nextTargetSeqNum (h.linked : st = start)).symm.le
  | cons c cs ih => exact (ih h.before).trans h.mono

/-- Every call was made at the first number or above. -/
lemma Ongoing.start_le (h : Ongoing start cs st) {d} (mem : d ∈ cs) :
    nextTargetSeqNum start ≤ d.nextTarget := by
  induction cs generalizing st with
  | nil => cases mem
  | cons c cs ih =>
    rcases List.mem_cons.mp mem with rfl | mem
    · exact h.before.from_start
    · exact ih h.before mem

/-- What was delivered is counted, or was delivered by the latest call. -/
lemma Ongoing.delivered_le (h : Ongoing start cs st) {d} (mem : d ∈ cs) (gives : d.event.delivers = true) :
    cs.head? = some d ∨ d.nextTarget < nextTargetSeqNum st := by
  have all := since_all h.inside
  exact (since_le h.valid h.linked h.orderly h.clean h.room d (all.symm ▸ mem)).2 gives

/-- The next target number moves up by counting, and by a SequenceReset. -/
lemma Ongoing.moved (h : Ongoing start (c :: cs) st) {n} (low : c.nextTarget ≤ n)
    (high : n < nextTargetSeqNum st) :
    (∃ m, c.event = .setTarget .sequenceReset m (.ok ()) ∧ n < m) ∨
      c.event = .incrTarget (.ok ()) ∧ c.nextTarget = n := by
  have moves := h.moves
  have done := h.clean c List.mem_cons_self
  have inside := h.inside c List.mem_cons_self
  have stays (same : view st = view c.session.store) : False := by
    have same : nextTargetSeqNum st = c.nextTarget := congrArg StoreView.nextTarget same
    omega
  obtain ⟨session, event⟩ := c
  cases event with
  | incrTarget res =>
    cases res with
    | error e => cases done
    | ok _ =>
      have room := Call.room_of_incr rfl (h.room _ List.mem_cons_self)
      have up : nextTargetSeqNum st = nextTargetSeqNum session.store + 1 :=
        (congrArg StoreView.nextTarget moves).trans (incremented_eq room)
      exact .inr ⟨rfl, by dsimp only [Call.nextTarget] at low ⊢; omega⟩
  | setTarget setter m res =>
    cases res with
    | error e => cases done
    | ok _ =>
      cases setter with
      | command => cases inside
      | sequenceReset =>
        have up : nextTargetSeqNum st = m := congrArg StoreView.nextTarget moves
        exact .inl ⟨m, rfl, up ▸ high⟩
  | incrSender res | setSender n res =>
    have same : nextTargetSeqNum st = nextTargetSeqNum session.store :=
      moves.elim (congrArg StoreView.nextTarget) (congrArg StoreView.nextTarget)
    dsimp only [Call.nextTarget] at low
    omega
  | save k raw res =>
    have same : nextTargetSeqNum st = nextTargetSeqNum session.store := moves.1
    dsimp only [Call.nextTarget] at low
    omega
  | refresh | reset => cases inside
  | _ => exact (stays moves).elim

/-- What a number was passed over at is below the next one. -/
lemma Ongoing.passed_lt (h : Ongoing start cs st) {n} (passed : passedOver n cs = true) :
    n < nextTargetSeqNum st := by
  induction cs generalizing st with
  | nil => cases passed
  | cons c cs ih =>
    rcases Bool.or_eq_true_iff.mp passed with here | before
    · have moves := h.moves
      rcases Call.passesOver_cases here with ⟨m, ev, -, lt⟩ | ⟨ev, same, -⟩
      · rw [ev] at moves
        have up : nextTargetSeqNum st = m := congrArg StoreView.nextTarget moves
        exact up ▸ lt
      · rw [ev] at moves
        have room := Call.room_of_incr ev (h.room c List.mem_cons_self)
        have up : nextTargetSeqNum st = c.nextTarget + 1 :=
          (congrArg StoreView.nextTarget moves).trans (incremented_eq room)
        omega
    · exact (ih h.before before).trans_le h.mono

/-- What was delivered was not passed over. -/
lemma Ongoing.not_passed (h : Ongoing start cs st) {d} (mem : d ∈ cs) (gives : d.event.delivers = true) :
    passedOver d.nextTarget cs = false := by
  induction cs generalizing st with
  | nil => cases mem
  | cons c cs ih =>
    apply Bool.eq_false_iff.mpr
    intro passed
    rcases List.mem_cons.mp mem with rfl | mem
    · -- nothing passes over a number at a delivery, and what was passed over before is lower
      rcases Bool.or_eq_true_iff.mp passed with here | before
      · rcases Call.passesOver_cases here with ⟨m, ev, -⟩ | ⟨ev, -⟩
        · rw [ev] at gives
          cases gives
        · rw [ev] at gives
          cases gives
      · exact (h.before.passed_lt before).false
    · rcases Bool.or_eq_true_iff.mp passed with here | before
      · have counted := h.before.delivered_le mem gives
        rcases Call.passesOver_cases here with ⟨m, ev, le, -⟩ | ⟨ev, same, none⟩
        · rcases counted with head | lt
          · obtain ⟨res, ev'⟩ := h.orderly.1.counted d head gives
            rw [ev] at ev'
            cases ev'
          · exact (lt.trans_le le).false
        · rcases counted with head | lt
          · rw [delivering, head] at none
            exact Bool.false_ne_true (none.symm.trans gives)
          · exact (same ▸ lt).false
      · exact Bool.false_ne_true ((ih h.before mem).symm.trans before)

/-- A number that was reached was delivered, unless it was passed over. -/
lemma Ongoing.reached (h : Ongoing start cs st) {n} (low : nextTargetSeqNum start ≤ n)
    (high : n < nextTargetSeqNum st) (kept : passedOver n cs = false) :
    ∃ d ∈ cs, d.event.delivers = true ∧ d.nextTarget = n := by
  induction cs generalizing st with
  | nil =>
    have same : st = start := h.linked
    rw [same] at high
    omega
  | cons c cs ih =>
    obtain ⟨here, before⟩ := Bool.or_eq_false_iff.mp kept
    by_cases old : n < c.nextTarget
    · obtain ⟨d, mem, found⟩ := ih h.before old before
      exact ⟨d, List.mem_cons_of_mem c mem, found⟩
    have low : c.nextTarget ≤ n := Nat.le_of_not_lt old
    rcases h.moved low high with ⟨m, ev, lt⟩ | ⟨ev, same⟩
    · simp [Call.passesOver, ev, low, lt] at here
    · -- it is counted, so the call before delivers it
      have gives : delivering cs = true := by simpa [Call.passesOver, ev, same] using here
      cases cs with
      | nil => cases gives
      | cons d rest =>
        have gives : d.event.delivers = true := gives
        refine ⟨d, by simp, gives, ?_⟩
        have effect := h.linked.2.1
        cases ev' : d.event with
        | fromApp msg answer =>
          rw [ev'] at effect
          have kept : c.session.store = d.session.store := effect
          rw [Call.nextTarget, ← kept]
          exact same
        | _ => simp [ev', Event.delivers] at gives

end Lists

/-! ## Entries of the stash -/

section Entries

variable {σ ω : Type} [Chrono] [MessageStore σ] [Application ω] [Runtime ω]

/-- While an entry of the stash is worked on, its number is counted only, and it is one that is dropped. -/
def CountsEntry (c : Call σ) (earlier : List (Call σ)) : Prop :=
  ∀ res seq raw, c.event = .incrTarget res → handled earlier = some (.entry seq raw) →
    seq = c.nextTarget ∧ DropsQueued raw

/-- A call that is no count counts no entry. -/
lemma CountsEntry.of_quiet {c : Call σ} {cs} (quiet : ∀ res, c.event ≠ .incrTarget res) :
    CountsEntry c cs :=
  fun res _ _ ev => absurd ev (quiet res)

/-- What was answered since is still worked on. -/
lemma SentSince.taken {origin msg c} {s : Sys σ ω} (h : SentSince origin msg c s) :
    handled s.trace = some (.message origin msg) := by
  obtain ⟨recent, rest, tr, log, item⟩ := h.log
  rw [tr, handled_append log.sends, handled, h.passed]
  exact item

/-- What justifies a count while an entry is worked on is that entry. -/
lemma Counted.of_entry {s : Sys σ ω} {seq raw} (why : Counted s)
    (item : handled s.trace = some (.entry seq raw)) : seq = s.nextTarget ∧ DropsQueued raw := by
  cases why with
  | entry item' same drops =>
    obtain ⟨rfl, rfl⟩ := Item.entry.inj (Option.some.inj (item.symm.trans item'))
    exact ⟨same, drops⟩
  | inSequence item' =>
    rw [item'] at item
    cases item
  | version taken =>
    obtain ⟨c, rest, tr, ev, -⟩ := taken
    rw [tr, handled, ev] at item
    cases item
  | refused answered =>
    obtain ⟨c, rest, origin, tr, ev, -, item'⟩ := answered
    rw [tr, handled, ev] at item
    cases item'.symm.trans item
  | logout since' | testRequest since' | logon since' =>
    cases since'.taken.symm.trans item

/-- An act of a handler keeps that. -/
lemma HandleAct.countsEntry {resets} {s t : Sys σ ω} (act : HandleAct resets s t)
    (h : Along CountsEntry s.trace) : Along CountsEntry t.trace := by
  cases act with
  | send act =>
    obtain ⟨recent, tr, sends⟩ := act.trace
    rw [tr]
    exact h.append fun c mem _ => .of_quiet (Event.ne_incrTarget (sends c mem).1)
  | receivingReset | endingResets | logon | supersede => exact h
  | deliver answer w taken =>
    refine ⟨fun res seq raw ev item => ?_, .of_quiet (by simp), h⟩
    obtain ⟨c, rest, tr, ev', -⟩ := taken
    have item : handled s.trace = some (.entry seq raw) := item
    rw [tr, handled, ev'] at item
    cases item
  | stashAndExpect => exact ⟨.of_quiet (by simp), .of_quiet (by simp), .of_quiet (by simp), h⟩
  | incrTarget why => exact ⟨fun res seq raw ev item => why.of_entry item, h⟩
  | _ => exact ⟨.of_quiet (by simp), h⟩

/-- Every act keeps that. -/
lemma Act.countsEntry {s t : Sys σ ω} (act : Act s t) (h : Along CountsEntry s.trace) :
    Along CountsEntry t.trace := by
  cases act with
  | handle act => exact act.countsEntry h
  | send act =>
    obtain ⟨recent, tr, sends⟩ := act.trace
    rw [tr]
    exact h.append fun c mem _ => .of_quiet (Event.ne_incrTarget (sends c mem).1)
  | ask => exact h
  | cut _ left =>
    obtain ⟨recent, tr, sends⟩ := left.trace
    rw [tr]
    exact h.append fun c mem _ => .of_quiet (Event.ne_incrTarget (sends c mem).1)
  | endLogout now _ left =>
    obtain ⟨recent, tr, sends⟩ := left.trace
    rw [tr]
    apply Along.append
    · exact ⟨.of_quiet (by simp), h⟩
    · exact fun c mem _ => .of_quiet (Event.ne_incrTarget (sends c mem).1)
  | _ => exact ⟨.of_quiet (by simp), h⟩

end Entries

/-! ## Both sides -/

section Complete

variable {σ ω σ' ω' : Type} [Chrono]
variable [MessageStore σ] [Application ω] [Runtime ω] [MessageStore σ'] [Application ω'] [Runtime ω']
variable [FailStopStore σ] [FaithfulStore σ] [LawfulStore σ']
variable {a : Party σ ω} {b : Party σ' ω'} {is js : List Input}

/-- Whether a content was reached by the receiver's numbering and not passed over. -/
def arrives (b : Party σ' ω') (js : List Input) (x : Content) : Bool :=
  decide (nextTargetSeqNum b.store ≤ x.seq ∧ x.seq < (b.after js).nextTarget) &&
    !passedOver x.seq (b.after js).trace

/-- In every run each message is counted when it was delivered. -/
lemma settled_after : Settled (b.after js).trace :=
  ran_keeps (I := fun s => Settled s.trace) Act.settled ⟨trivial, by simp [Sys.init]⟩

/-- The history of a receiver that counts goes on. -/
lemma Counting.ongoing (h : Counting b js) :
    Ongoing b.store (b.after js).trace (b.after js).session.store where
  valid := h.valid
  linked := linked_ran
  orderly := settled_after.along
  clean := h.reliable
  inside := h.onward
  room := h.room

/-- A message is delivered under its number. -/
lemma seq_of_delivered {c : Call σ'} {msg answer} (mem : c ∈ (b.after js).trace)
    (ev : c.event = .fromApp msg answer) : msg.content.seq = c.nextTarget := by
  have settled : Settled (b.after js).trace := settled_after
  obtain ⟨rest, -, orderly⟩ := settled.along.of_mem mem
  rw [Message.content, orderly.number msg answer ev]
  rfl

/-- A content was delivered when a call delivered a message with it. -/
lemma mem_deliveredContents {x : Content} {cs : List (Call σ')} :
    x ∈ deliveredContents cs ↔ ∃ c ∈ cs, ∃ msg answer, c.event = .fromApp msg answer ∧ x = msg.content := by
  rw [deliveredContents, observed, List.mem_reverse, List.mem_filterMap]
  constructor
  · rintro ⟨c, mem, given⟩
    obtain ⟨msg, answer, ev, same⟩ := Event.given_eq_some given
    exact ⟨c, mem, msg, answer, ev, same⟩
  · rintro ⟨c, mem, msg, answer, ev, rfl⟩
    exact ⟨c, mem, by rw [ev]; rfl⟩

/-- What is delivered was reached and not passed over. -/
lemma Counting.arrives (h : Counting b js) {x} (mem : x ∈ deliveredContents (b.after js).trace) :
    arrives b js x = true := by
  obtain ⟨c, here, msg, answer, ev, rfl⟩ := mem_deliveredContents.mp mem
  have gives : c.event.delivers = true := by rw [ev]; rfl
  have low := h.ongoing.start_le here
  have high : c.nextTarget < (b.after js).nextTarget := by
    rcases h.ongoing.delivered_le here gives with head | lt
    · exact absurd (settled_after.counted c head) (by simp [gives])
    · exact lt
  rw [QuickFix.arrives, seq_of_delivered here ev, h.ongoing.not_passed here gives]
  simp [low, high]

/-- What is delivered was accepted. -/
lemma accepted_of_delivered (format : ∀ t : UtcTimestamp, soh ∉ encode t) (joined : Joined a b is js)
    (sender : Sender a is) (numbering : Numbering a is) {x}
    (mem : x ∈ deliveredContents (b.after js).trace) : x ∈ acceptedContents (a.after is).trace := by
  obtain ⟨c, here, msg, answer, ev, rfl⟩ := mem_deliveredContents.mp mem
  refine (stored_of_delivered ?_ here ev).accepted numbering.reliable
  exact fun raw arrived => sender.tells format (joined.wrote arrived)

/-- What was accepted is known by its number. -/
lemma Numbering.unique (numbering : Numbering a is) (sender : Sender a is) {x y : Content}
    (memx : x ∈ acceptedContents (a.after is).trace) (memy : y ∈ acceptedContents (a.after is).trace)
    (same : x.seq = y.seq) : x = y := by
  have sorted := accepted_sorted sender.valid linked_ran sender.plain.emitted numbering.onward
  exact Service.eq_of_key_eq sorted memx memy same

/-- What was accepted is delivered once its number was reached, unless that was passed over. -/
lemma delivered_of_reached (format : ∀ t : UtcTimestamp, soh ∉ encode t) (joined : Joined a b is js)
    (sender : Sender a is) (numbering : Numbering a is) (counting : Counting b js) {x : Content}
    (mem : x ∈ acceptedContents (a.after is).trace) (low : nextTargetSeqNum b.store ≤ x.seq)
    (high : x.seq < (b.after js).nextTarget) (kept : passedOver x.seq (b.after js).trace = false) :
    x ∈ deliveredContents (b.after js).trace := by
  obtain ⟨d, here, gives, same⟩ := counting.ongoing.reached low high kept
  cases ev : d.event with
  | fromApp msg answer =>
    have given : msg.content ∈ deliveredContents (b.after js).trace :=
      mem_deliveredContents.mpr ⟨d, here, msg, answer, ev, rfl⟩
    -- what was delivered was accepted, and under the number only one content was
    have known := accepted_of_delivered format joined sender numbering given
    rw [numbering.unique sender mem known (same.symm.trans (seq_of_delivered here ev).symm)]
    exact given
  | _ => simp [ev, Event.delivers] at gives

/-- However the two sides are interleaved, and whatever the network loses, repeats or reorders: while no
side starts its numbers anew, the application of the receiver gets what that of the sender accepted, all of
it and in that order, up to the next number, but for the numbers that were skipped or counted without a
delivery. -/
theorem peers_complete (format : ∀ t : UtcTimestamp, soh ∉ encode t) (joined : Joined a b is js)
    (sender : Sender a is) (numbering : Numbering a is) (counting : Counting b js) :
    deliveredContents (b.after js).trace =
      (acceptedContents (a.after is).trace).filter (arrives b js) := by
  have accepted := accepted_sorted sender.valid linked_ran sender.plain.emitted numbering.onward
  have ordered : Along InOrder (b.after js).trace :=
    inOrder_of_orderly counting.valid linked_ran settled_after.along counting.reliable counting.room
  apply Service.eq_filter_of_pairwise (delivered_sorted ordered counting.onward) accepted
  intro x
  constructor
  · intro mem
    exact ⟨accepted_of_delivered format joined sender numbering mem, counting.arrives mem⟩
  · rintro ⟨mem, kept⟩
    simp only [arrives, Bool.and_eq_true, decide_eq_true_eq, Bool.not_eq_true'] at kept
    exact delivered_of_reached format joined sender numbering counting mem kept.1.1 kept.1.2 kept.2

/-! ## What is missing -/

/-- The item that is worked on is a message, or its bytes. -/
def Item.Holds (msg : Message) : Item → Prop
  | .message _ m => m = msg
  | .entry _ raw => Message.parse raw true = .ok msg

/-- A number was counted in a history, while an item was worked on. -/
structure CountedWith (n : Nat) (item : Item) (c : Call σ') (earlier cs : List (Call σ')) : Prop where
  suf : c :: earlier <:+ cs
  ev : c.event = .incrTarget (.ok ())
  here : c.nextTarget = n
  taken : handled earlier = some item

/-- What became of an accepted content that was reached and not delivered. -/
inductive Forgone (x : Content) (cs : List (Call σ')) : Prop
  /-- A SequenceReset skipped its number. -/
  | skipped {c earlier n} (suf : c :: earlier <:+ cs) (ev : c.event = .setTarget .sequenceReset n (.ok ()))
      (low : c.nextTarget ≤ x.seq) (high : x.seq < n)
  /-- It came and was counted without a delivery, and while it was still worked on, the Reject that answers
  it, or a Logout, was handed to its callback. -/
  | refused {c d earlier later origin msg} (counted : CountedWith x.seq (.message origin msg) c earlier later)
      (none : delivering earlier = false) (same : msg.content = x) (suf : d :: later <:+ cs)
      (still : handled later = some (.message origin msg)) (refuses : d.refuses msg)
  /-- Its bytes came into sequence in the stash, and were counted and dropped, as they read like session
  control. -/
  | dropped {c earlier raw msg} (counted : CountedWith x.seq (.entry x.seq raw) c earlier cs)
      (parsed : Message.parse raw true = .ok msg) (same : msg.content = x) (reads : queuedAdmin raw = true)
  /-- A message of session control came under its number. -/
  | replaced {c earlier item msg} (counted : CountedWith x.seq item c earlier cs) (holds : item.Holds msg)
      (admin : msg.isAdmin = true) (number : msg.seqNum = .ok x.seq)

/-- What is counted was handled under its number. -/
lemma counted_after (counting : Counting b js) (steps : (b.after js).Stepwise) :
    Along CountsHandled (b.after js).trace := by
  have kept := ran_keeps_along (I := fun s => Keeping b.store s ∧ Along CountsHandled s.trace)
    (fun act steps h => ⟨act.keeping h.1, act.countsHandled h.1 counting.valid steps h.2⟩)
    ⟨⟨rfl, fun entry => by simp [Sys.init, Session.spawn] at entry, by simp [Sys.init]⟩, trivial⟩ steps
  exact kept.2

/-- A message with the number of an accepted content is that content, or session control. -/
lemma admin_or_same (format : ∀ t : UtcTimestamp, soh ∉ encode t) (joined : Joined a b is js)
    (sender : Sender a is) (numbering : Numbering a is) {x : Content} {raw} {msg : Message}
    (mem : x ∈ acceptedContents (a.after is).trace) (arrived : Arrives js raw)
    (parsed : Message.parse raw true = .ok msg) (number : msg.seqNum = .ok x.seq) :
    msg.isAdmin = true ∨ msg.content = x := by
  obtain ⟨m, legible, rfl, stored⟩ := sender.tells format (joined.wrote arrived)
  obtain ⟨type, same⟩ := legible.parsed parsed
  cases admin : msg.isAdmin with
  | true => exact .inl rfl
  | false =>
    have known := (stored (type ▸ admin)).accepted numbering.reliable
    have seq : m.content.seq = x.seq := by
      rw [← same, Message.content, number]
      rfl
    exact .inr (same.trans (numbering.unique sender known mem seq))

/-- An entry of the stash is counted only under its number, and when it reads like session control. -/
lemma entry_reads {c : Call σ'} {rest seq raw msg res} (suf : c :: rest <:+ (b.after js).trace)
    (counted : c.event = .incrTarget res) (taken : handled rest = some (.entry seq raw))
    (parsed : Message.parse raw true = .ok msg) : seq = c.nextTarget ∧ queuedAdmin raw = true := by
  have kept : Along CountsEntry (b.after js).trace :=
    ran_keeps (I := fun s => Along CountsEntry s.trace) Act.countsEntry trivial
  obtain ⟨same, queued | unread⟩ := along_iff.mp kept c rest suf res seq raw counted taken
  · exact ⟨same, queued⟩
  · exact absurd (Message.parse_unvalidated parsed) (unread msg)

/-- What is counted while an accepted content is due is that content, or session control. -/
lemma item_holds (format : ∀ t : UtcTimestamp, soh ∉ encode t) (joined : Joined a b is js)
    (sender : Sender a is) (numbering : Numbering a is) {x : Content} {c : Call σ'} {rest item}
    (mem : x ∈ acceptedContents (a.after is).trace) (suf : c :: rest <:+ (b.after js).trace) {res}
    (counted : c.event = .incrTarget res) (here : c.nextTarget = x.seq)
    (taken : handled rest = some item) (own : item.Numbered c.nextTarget) :
    ∃ msg, item.Holds msg ∧ msg.seqNum = .ok x.seq ∧ (msg.isAdmin = true ∨ msg.content = x) := by
  have intact : ∀ raw, Arrives js raw → Intact raw := by
    intro raw arrived
    obtain ⟨m, legible, rfl, -⟩ := sender.tells format (joined.wrote arrived)
    exact legible.intact
  have before : rest <:+ (b.after js).trace := (List.suffix_cons c rest).trans suf
  cases item with
  | message origin msg =>
    obtain ⟨d, mem', ev⟩ := exists_process taken
    obtain ⟨raw, arrived, parsed⟩ := ((drawing_ran intact).drawn d (before.subset mem')).message origin msg ev
    have number : msg.seqNum = .ok x.seq := here ▸ own
    exact ⟨msg, rfl, number, admin_or_same format joined sender numbering mem arrived parsed number⟩
  | entry seq raw =>
    obtain ⟨d, mem', ev⟩ := exists_unstash taken
    have arrived := ((drawing_ran intact).drawn d (before.subset mem')).entry seq raw ev
    obtain ⟨msg, parsed, -⟩ := intact raw arrived
    -- the entry was filed under the number that is counted
    obtain ⟨same, -⟩ := entry_reads suf counted taken parsed
    obtain ⟨filed, -⟩ := (keeping_ran.taken d (before.subset mem')).filed ev
    have number : msg.seqNum = .ok x.seq := by
      rw [filed.seqNum (Message.parse_unvalidated parsed), same, here]
    exact ⟨msg, parsed, number, admin_or_same format joined sender numbering mem arrived parsed number⟩

/-- When what is counted was handled under its number, an accepted content that was reached and not
delivered was skipped by a SequenceReset; or it came, was counted and is refused; or it came into sequence in
the stash and was dropped there; or a message of session control came in its place. -/
theorem peers_missing (format : ∀ t : UtcTimestamp, soh ∉ encode t) (joined : Joined a b is js)
    (sender : Sender a is) (numbering : Numbering a is) (counting : Counting b js)
    (steps : (b.after js).Stepwise) {x : Content} (mem : x ∈ acceptedContents (a.after is).trace)
    (low : nextTargetSeqNum b.store ≤ x.seq) (high : x.seq < (b.after js).nextTarget)
    (missing : x ∉ deliveredContents (b.after js).trace) : Forgone x (b.after js).trace := by
  have passed : passedOver x.seq (b.after js).trace = true := by
    by_contra none
    exact missing (delivered_of_reached format joined sender numbering counting mem low high
      (Bool.eq_false_iff.mpr none))
  obtain ⟨c, rest, suf, here⟩ := exists_passesOver passed
  rcases Call.passesOver_cases here with ⟨n, ev, le, lt⟩ | ⟨ev, same, none⟩
  · exact .skipped suf ev le lt
  obtain ⟨item, taken, own⟩ := along_iff.mp (counted_after counting steps) c rest suf _ ev
  obtain ⟨msg, holds, number, known⟩ := item_holds format joined sender numbering mem suf ev same taken own
  cases admin : msg.isAdmin with
  | true => exact .replaced ⟨suf, ev, same, taken⟩ holds admin number
  | false =>
    have said : msg.content = x := known.resolve_left (by simp [admin])
    cases item with
    | message origin m =>
      obtain rfl : m = msg := holds
      obtain ⟨d, later, more, after, still, refuses⟩ := refused_of_counted suf ev none taken admin
      exact .refused ⟨after, ev, same, taken⟩ none said more still refuses
    | entry seq raw =>
      obtain ⟨own, reads⟩ := entry_reads suf ev taken holds
      obtain rfl : seq = x.seq := own.trans same
      exact .dropped ⟨suf, ev, same, taken⟩ holds said reads

end Complete

namespace Script

attribute [local instance] epochDay

/-- What the application of `S` sent is what that of `T` got. -/
theorem peers_complete_recovered :
    deliveredContents (buyer.after recovered).trace =
        (acceptedContents (seller.after asked).trace).filter (arrives buyer recovered) ∧
      (deliveredContents (buyer.after recovered).trace).map Content.seq = [2, 3] :=
  ⟨peers_complete (fun t => plain_formatDay t.precision t.time) joined_recovered sender_asked
    ⟨by decide +kernel, by decide +kernel⟩ ⟨MemoryStore.valid_empty 0, by decide +kernel, by decide +kernel, by decide +kernel⟩,
    by decide +kernel⟩

/-- A dictionary without messages. -/
def noMessages : DataDictionary where
  beginString := localId.beginString
  fieldsByTag := []
  headerTags := []
  headerRequired := []
  trailerTags := []
  trailerRequired := []
  messages := []

/-- A session of `T` whose dictionary knows no application message. -/
def strict : Party MemoryStore Script := { buyer with dictionary := some noMessages }

/-- The first message arrives. -/
def refused : List Input := dialed ++ [carry seller answered 0] ++ [carry seller ordered 1]

/-- What the first message says. -/
def firstOrder : Content := { seq := 2, msgType := ascii "D", body := plainOrder.body }

/-- The frames of `S` reach the session. -/
lemma joined_refused : Joined seller strict ordered refused := by
  have first : Joined seller strict [] ([] ++ dialed) := .right .start (by simp [Input.frames])
  have attached : Joined seller strict ([] ++ [.attach]) dialed := .left first
  have second : Joined seller strict ordered dialed := .left (.left (.left attached))
  exact .right (.right second (by decide +kernel)) (by decide +kernel)

/-- What `S` sent comes back from its bytes. -/
lemma sender_ordered : Sender seller ordered := sender_asked.before

/-- The first message is not delivered, as it was refused. -/
theorem peers_missing_refused : Forgone firstOrder (strict.after refused).trace :=
  peers_missing (fun t => plain_formatDay t.precision t.time) joined_refused sender_ordered
    ⟨by decide +kernel, by decide +kernel⟩ ⟨MemoryStore.valid_empty 0, by decide +kernel, by decide +kernel, by decide +kernel⟩
    (by decide +kernel) (by decide +kernel) (by decide +kernel) (by decide +kernel) (by decide +kernel)

end Script

end QuickFix
