import QuickFix.Recovery.Epochs

/-!
# Gaps are asked for

A session that keeps messages in its stash waits for what is below them. A range is recorded with the
first entry, and dropped once its own end is passed, whatever was stashed above it meanwhile. In runs
where nothing is stashed any more when a range is dropped, and nothing when a numbering starts, the range
that is outstanding covers the next number as long as there is something in the stash (`gaps_covered`).
-/

namespace QuickFix

set_option linter.unusedSectionVars false

open Session Relation MessageStore

section Calls

variable {σ : Type} [MessageStore σ]

/-- A range is outstanding that the next number lies in. -/
def Outstanding (x : Session σ) : Prop :=
  ∃ b fullEnd chunkEnd, x.resendRange = some (b, fullEnd, chunkEnd) ∧
    b ≤ nextTargetSeqNum x.store ∧ nextTargetSeqNum x.store ≤ chunkEnd ∧ chunkEnd ≤ fullEnd

/-- When a frame has been dealt with on a connection and something is in the stash, the gap below it is
asked for. -/
def GapCovered (c : Call σ) : Prop :=
  c.event = .done → c.session.isConnected = true → c.session.stash ≠ ∅ → Outstanding c.session

/-- Whether a limited resend request stays in the range of `u64`. -/
def Computation.requestRoom (x : Session σ) : Computation → Bool
  | .request .. => x.RequestRoom
  | _ => true

/-- Whether a call leaves no gap behind: a range is dropped with nothing in the stash, a connection or a
numbering starts with nothing stashed and nothing outstanding, the number is not set by command, and it
leaves room for counting and for the limit of a resend request. -/
def leavesNoGap (c : Call σ) : Bool :=
  match c.event with
  | .satisfied => c.session.stash.isEmpty
  | .attach | .refresh _ => c.session.stash.isEmpty && c.session.resendRange.isNone
  | .setTarget .command .. => false
  | .incrTarget _ => !c.wrapsTarget
  | .compute what => what.all (·.requestRoom c.session)
  | _ => resetsClear c

end Calls

section Runs

variable {σ ω : Type} [Chrono] [MessageStore σ] [Application ω] [Runtime ω]

/-- A session with something in its stash has a range outstanding, which begins at the next number or
below it. It covers that number unless it was passed by the frame that is dealt with. -/
structure Covering (s : Sys σ ω) : Prop where
  stash : ∀ {k : Nat} {raw}, s.session.stash[k]? = some raw → s.session.resendRange.isSome = true
  range : ∀ {b fullEnd chunkEnd}, s.session.resendRange = some (b, fullEnd, chunkEnd) →
    b ≤ s.nextTarget ∧ chunkEnd ≤ fullEnd
  current : stale s.trace = false → s.session.outbound = true →
    ∀ {b fullEnd chunkEnd}, s.session.resendRange = some (b, fullEnd, chunkEnd) → s.nextTarget ≤ chunkEnd
  idle : handled s.trace = none → stale s.trace = false
  along : Along (fun c _ => GapCovered c) s.trace

/-- What changes neither the stash nor the range nor the number. -/
lemma Covering.same {s t : Sys σ ω} (h : Covering s)
    (stales : stale t.trace = stale s.trace) (item : handled t.trace = none → handled s.trace = none)
    (along : Along (fun c _ => GapCovered c) t.trace)
    (stash : ∀ {k : Nat} {raw}, t.session.stash[k]? = some raw → s.session.stash[k]? = some raw)
    (range : t.session.resendRange = s.session.resendRange) (number : t.nextTarget = s.nextTarget)
    (outbound : t.session.outbound = s.session.outbound) : Covering t where
  stash := fun entry => by
    rw [range]
    exact h.stash (stash entry)
  range := by
    rw [range, number]
    exact h.range
  current := by
    rw [range, number, stales, outbound]
    exact h.current
  idle := fun free => stales.trans (h.idle (item free))
  along := along

/-- A call that is not the end of a frame covers what was covered. -/
lemma gapCovered_cons {c : Call σ} {cs : List (Call σ)} (h : Along (fun c _ => GapCovered c) cs)
    (other : c.event ≠ .done) : Along (fun c _ => GapCovered c) (c :: cs) :=
  ⟨fun ev => absurd ev other, h⟩

/-- A sending call covers every gap. -/
lemma GapCovered.of_isSend {c : Call σ} (send : c.event.isSend = true) : GapCovered c := by
  intro ev
  rw [ev] at send
  cases send

/-- A connection that is given up leaves nothing to cover. -/
lemma Covering.givenUp {s t : Sys σ ω} (along : Along (fun c _ => GapCovered c) s.trace)
    (idle : handled s.trace = none → stale s.trace = false) (left : GivenUp s t) : Covering t := by
  obtain ⟨recent, tr, sends⟩ := left.trace
  have sends : ∀ c ∈ recent, c.event.isSend = true := fun c mem => (sends c mem).1
  have detached : t.session.detached = t.session := left.isDetached
  have none : t.session.resendRange = none := by
    rw [← detached]
    rfl
  refine ⟨fun entry => absurd entry left.stash, fun set => ?_, fun _ _ _ _ _ set => ?_, ?_, ?_⟩
  · rw [none] at set
    cases set
  · rw [none] at set
    cases set
  · rw [tr, handled_append sends, stale_append sends]
    exact idle
  · rw [tr]
    exact along.append fun c mem _ => .of_isSend (sends c mem)

/-- Where nothing is stashed and nothing outstanding, the number may change. -/
lemma Covering.restart {s t : Sys σ ω} {e : Event} (h : Covering s)
    (tr : t.trace = ⟨s.session, e⟩ :: s.trace) (empty : s.session.stash.isEmpty = true)
    (none : s.session.resendRange.isNone = true) (stales : stale t.trace = stale s.trace)
    (item : handled t.trace = handled s.trace) (other : e ≠ .done)
    (stash : t.session.stash = s.session.stash) (range : t.session.resendRange = s.session.resendRange) :
    Covering t := by
  have none : t.session.resendRange = .none := by
    rw [range]
    exact Option.isNone_iff_eq_none.mp none
  refine ⟨fun entry => ?_, fun set => ?_, fun _ _ _ _ _ set => ?_, ?_, ?_⟩
  · rw [stash, Std.ExtTreeMap.isEmpty_iff.mp empty] at entry
    simp at entry
  · rw [none] at set
    cases set
  · rw [none] at set
    cases set
  · rw [item, stales]
    exact h.idle
  · rw [tr]
    exact gapCovered_cons h.along other

variable [LawfulStore σ]

/-- An act of the outbound half leaves the number, but for a connection that is given up. -/
lemma SendAct.covering {fresh} {s t : Sys σ ω} (act : SendAct fresh s t)
    (valid : LawfulStore.Valid s.session.store) (h : Covering s) : Covering t := by
  have along {e : Event} (send : e.isSend = true) :
      Along (fun c _ => GapCovered c) (⟨s.session, e⟩ :: s.trace) :=
    ⟨.of_isSend send, h.along⟩
  cases act with
  | quiet | adopt | logon => exact h.same rfl id h.along id rfl rfl rfl
  | announce => exact h.same rfl id (gapCovered_cons (along rfl) (by simp)) id rfl rfl rfl
  | cut _ _ left => exact .givenUp h.along h.idle left
  | @save seq raw =>
    refine h.same rfl id (along rfl) id rfl ?_ rfl
    exact Event.Effect.nextTarget_send (e := .save seq raw _) rfl valid rfl (by simp)
  | incrSender =>
    refine h.same rfl id (along rfl) id rfl ?_ rfl
    exact Event.Effect.nextTarget_send (e := .incrSender _) rfl valid rfl (by simp)
  | getMessages b e =>
    refine h.same rfl id (along rfl) id rfl ?_ rfl
    exact Event.Effect.nextTarget_send (e := .getMessages b e) rfl valid rfl (by simp)
  | _ => exact h.same rfl id (along rfl) id rfl rfl rfl

/-- The number moves up for the frame that is dealt with. -/
lemma Covering.moved {s t : Sys σ ω} {e : Event} (h : Covering s)
    (tr : t.trace = ⟨s.session, e⟩ :: s.trace) (up : s.nextTarget ≤ t.nextTarget)
    (stales : stale t.trace = true) (item : handled t.trace ≠ none) (other : e ≠ .done)
    (stash : t.session.stash = s.session.stash) (range : t.session.resendRange = s.session.resendRange) :
    Covering t where
  stash := by
    rw [stash, range]
    exact h.stash
  range := fun set => by
    rw [range] at set
    exact ⟨(h.range set).1.trans up, (h.range set).2⟩
  current := fun fresh => by
    rw [stales] at fresh
    cases fresh
  idle := fun free => absurd free item
  along := by
    rw [tr]
    exact gapCovered_cons h.along other

/-- The next number is counted for the frame that is dealt with, and leaves room for that. -/
lemma Covering.counted {s : Sys σ ω} (h : Covering s) (valid : LawfulStore.Valid s.session.store)
    (item : handled s.trace ≠ none)
    (gap : Along (fun c _ => leavesNoGap c = true) s.counted.trace) : Covering s.counted := by
  refine h.moved rfl ?_ rfl item (by simp) rfl rfl
  have moves := (LawfulStore.incrTarget s.session.store valid).done.2
  have room : s.nextTarget + 1 < 2 ^ 64 := Call.room_of_incr rfl (by simpa [leavesNoGap] using gap.1)
  refine moves.elim (fun same => ?_) fun next => ?_
  · exact (congrArg StoreView.nextTarget same).ge
  · have next := (congrArg StoreView.nextTarget next).trans (incremented_eq room)
    exact (Nat.le_succ _).trans next.ge

/-- What is counted is counted for a frame. -/
lemma Counted.item {s : Sys σ ω} (why : Counted s) : handled s.trace ≠ none := by
  have answered {origin msg c} (since' : SentSince origin msg c s) : handled s.trace ≠ none := by
    obtain ⟨recent, rest, tr, log, item⟩ := since'.log
    rw [tr, handled_append log.sends, handled, since'.passed, item]
    exact Option.some_ne_none _
  cases why with
  | entry item | inSequence item =>
    rw [item]
    exact Option.some_ne_none _
  | version taken =>
    obtain ⟨c, rest, tr, ev, -⟩ := taken
    rw [tr, handled, ev]
    exact Option.some_ne_none _
  | refused answered =>
    obtain ⟨c, rest, origin, tr, ev, -, item⟩ := answered
    rw [tr, handled, ev, item]
    exact Option.some_ne_none _
  | logout since' | testRequest since' | logon since' => exact answered since'

/-- A range is recorded that covers the next number. -/
lemma Covering.expecting {s : Sys σ ω} {fullEnd chunkEnd}
    (along : Along (fun c _ => GapCovered c) s.trace)
    (chunk : s.nextTarget ≤ chunkEnd ∧ chunkEnd ≤ fullEnd) :
    Covering (s.expecting s.nextTarget fullEnd chunkEnd) where
  stash := fun _ => rfl
  range := fun set => by
    cases set
    exact ⟨le_refl _, chunk.2⟩
  current := fun _ _ _ _ _ set => by
    cases set
    exact chunk.1
  idle := fun _ => rfl
  along := gapCovered_cons along (by simp)

/-- A handler that leaves no gap keeps the gap covered. -/
lemma HandleAct.covering {resets} {s t : Sys σ ω} (act : HandleAct resets s t)
    (valid : LawfulStore.Valid s.session.store) (gap : Along (fun c _ => leavesNoGap c = true) t.trace)
    (h : Covering s) : Covering t := by
  have along {e : Event} (other : e ≠ .done) :
      Along (fun c _ => GapCovered c) (⟨s.session, e⟩ :: s.trace) := gapCovered_cons h.along other
  cases act with
  | send act => exact act.covering valid h
  | receivingReset | endingResets | logon => exact h.same rfl id h.along id rfl rfl rfl
  | reset site now due prep asked =>
    obtain ⟨empty, none⟩ := empty_of_resetsClear gap.1 (.inl (asked (.ok ())).site)
    exact h.restart rfl empty none rfl rfl (by simp) rfl rfl
  | refresh now =>
    obtain ⟨empty, none⟩ := Bool.and_eq_true_iff.mp gap.1
    exact h.restart rfl empty none rfl rfl (by simp) rfl rfl
  | @deliver origin msg answer w taken =>
    have item : handled s.trace ≠ none := by
      obtain ⟨c, rest, tr, ev, -⟩ := taken
      rw [tr, handled, ev]
      exact Option.some_ne_none _
    have called : Covering (s.called (.fromApp msg answer) w) :=
      h.same rfl id (along (by simp)) id rfl rfl rfl
    exact called.counted valid item gap
  | incrTarget why => exact h.counted valid why.item gap
  | moveTarget n item bound up =>
    refine h.moved rfl ?_ rfl (item ▸ Option.some_ne_none _) (by simp) rfl rfl
    have moves := (LawfulStore.setTarget n bound s.session.store valid).done.2
    refine moves.elim (fun same => ?_) fun set => ?_
    · exact (congrArg StoreView.nextTarget same).ge
    · exact up.le.trans (congrArg StoreView.nextTarget set).ge
  | supersede n =>
    exact h.same rfl id h.along (fun entry => (getElem?_superseding.mp entry).1) rfl rfl rfl
  | stashOnly item number high outstanding =>
    exact ⟨fun _ => outstanding, h.range, h.current, h.idle, along (by simp)⟩
  | stashAndExpect item number high recovers why chunk covers =>
    refine .expecting (gapCovered_cons (along (by simp)) (by simp)) ⟨covers fun asked => ?_, chunk⟩
    have room := List.all_eq_true.mp gap.2.1 _ asked
    exact of_decide_eq_true (p := (s.stashing _ _ _).session.RequestRoom) room
  | nextChunk range passed chunk covers asked =>
    obtain ⟨rest, tr⟩ := asked
    have room := gap.2
    rw [tr] at room
    have room := List.all_eq_true.mp room.1 _ List.mem_cons_self
    exact .expecting h.along ⟨covers (of_decide_eq_true room), chunk⟩
  | satisfied range passed =>
    have empty : s.session.stash.isEmpty = true := gap.1
    refine ⟨fun entry => ?_, fun set => (by cases set), fun _ _ _ _ _ set => (by cases set), h.idle,
      along (by simp)⟩
    have entry : s.session.stash[_]? = some _ := entry
    rw [Std.ExtTreeMap.isEmpty_iff.mp empty] at entry
    simp at entry
  | _ => exact h.same rfl id (along (by simp)) id rfl rfl rfl

/-- When a frame has been dealt with on a connection, the range that is outstanding covers the next
number. -/
lemma Covering.checked {s : Sys σ ω} (h : Covering s) (why : handled s.trace = none ∨ Checked s)
    (connected : s.session.outbound = true) {b fullEnd chunkEnd}
    (set : s.session.resendRange = some (b, fullEnd, chunkEnd)) : s.nextTarget ≤ chunkEnd := by
  rcases why with free | checked
  · exact h.current (h.idle free) connected set
  · cases checked with
    | gone off =>
      rw [off] at connected
      cases connected
    | recorded fresh => exact h.current fresh connected set
    | needed covers => exact covers _ _ _ set

/-- Every act that leaves no gap keeps the gap covered. -/
lemma Act.covering {s t : Sys σ ω} (act : Act s t) (valid : LawfulStore.Valid s.session.store)
    (gap : Along (fun c _ => leavesNoGap c = true) t.trace) (h : Covering s) : Covering t := by
  have along {e : Event} (other : e ≠ .done) :
      Along (fun c _ => GapCovered c) (⟨s.session, e⟩ :: s.trace) := gapCovered_cons h.along other
  cases act with
  | handle act => exact act.covering valid gap h
  | send act => exact act.covering valid h
  | ask => exact h.same rfl id h.along id rfl rfl rfl
  | attach =>
    obtain ⟨empty, none⟩ := Bool.and_eq_true_iff.mp gap.1
    exact h.restart rfl empty none rfl rfl (by simp) rfl rfl
  | cut _ left => exact .givenUp h.along h.idle left
  | @endLogout _ now _ left =>
    have ended : Along (fun c _ => GapCovered c) (s.stored
        (.reset .logout (MessageStore.reset now s.session.store).1)
        (MessageStore.reset now s.session.store).2).trace := along (by simp)
    exact .givenUp ended h.idle left
  | reset site now idle =>
    obtain ⟨empty, none⟩ := empty_of_resetsClear gap.1 (reset_idle idle)
    exact h.restart rfl empty none rfl rfl (by simp) rfl rfl
  | refresh now =>
    obtain ⟨empty, none⟩ := Bool.and_eq_true_iff.mp gap.1
    exact h.restart rfl empty none rfl rfl (by simp) rfl rfl
  | setSender n bound =>
    refine h.same rfl id (along (by simp)) id rfl ?_ rfl
    refine (LawfulStore.setSender n bound s.session.store valid).done.2.elim ?_ ?_
    · exact congrArg StoreView.nextTarget
    · exact congrArg StoreView.nextTarget
  | setTarget n =>
    have never : false = true := gap.1
    cases never
  | receive => exact h.same rfl nofun (along (by simp)) id rfl rfl rfl
  | @unstash seq raw number entry _ =>
    refine h.same rfl nofun (along (by simp)) (fun kept => ?_) rfl rfl rfl
    have kept : (s.session.stash.erase seq)[_]? = some _ := kept
    rw [SeqMap.get_erase] at kept
    split at kept
    case isTrue => cases kept
    case isFalse => exact kept
  | replay => exact h.same rfl nofun (along (by simp)) id rfl rfl rfl
  | done why _ =>
    refine ⟨h.stash, h.range, fun _ => h.checked why, fun _ => rfl, fun _ connected stashed => ?_, h.along⟩
    obtain ⟨k, raw, entry⟩ := SeqMap.exists_of_ne_empty stashed
    obtain ⟨⟨b, fullEnd, chunkEnd⟩, set⟩ := Option.isSome_iff_exists.mp (h.stash entry)
    exact ⟨b, fullEnd, chunkEnd, set, (h.range set).1, h.checked why connected set, (h.range set).2⟩

/-- A system that left no gap behind. -/
def Sys.LeavesNoGap (s : Sys σ ω) : Prop := Along (fun c _ => leavesNoGap c = true) s.trace

instance (s : Sys σ ω) : Decidable s.LeavesNoGap := inferInstanceAs (Decidable (Along _ _))

/-- A system that had its gaps covered whenever it was done with a frame. -/
structure Sys.CoversGaps (s : Sys σ ω) : Prop where
  along : Along (fun c _ => GapCovered c) s.trace

/-- Along every run that leaves no gap behind, a connected session that is done with a frame and has
something in its stash has a range outstanding that covers the next number. -/
theorem gaps_covered (cfg : SessionConfig) (dictionary adminDictionary : Option DataDictionary)
    (store : σ) (now : Nat) (world : ω) (inputs : List Input) (valid : LawfulStore.Valid store)
    (gap : (Sys.ran cfg dictionary adminDictionary store now world inputs).LeavesNoGap) :
    (Sys.ran cfg dictionary adminDictionary store now world inputs).CoversGaps := by
  have kept := ran_keeps_along (I := fun s => s.Linked store ∧ Covering s)
    (fun act gap h => ⟨act.linked h.1, act.covering (h.1.valid valid).1 gap h.2⟩)
    ⟨rfl, ⟨fun entry => by simp [Sys.init, Session.spawn] at entry, nofun, nofun, fun _ => rfl, trivial⟩⟩
    gap
  exact ⟨kept.2.along⟩

end Runs

/-- Whether a frame was done with on a connection, with something in the stash and no range
outstanding. -/
def waitsInVain {σ : Type} (cs : List (Call σ)) : Bool :=
  cs.any fun c =>
    match c.event with
    | .done => c.session.outbound && !c.session.stash.isEmpty && c.session.resendRange.isNone
    | _ => false

/-- A system that waited in vain did not have its gaps covered. -/
lemma not_coversGaps {σ ω : Type} [MessageStore σ] {s : Sys σ ω} (h : waitsInVain s.trace = true) :
    ¬ s.CoversGaps := by
  intro covers
  obtain ⟨c, mem, waits⟩ := List.any_eq_true.mp h
  obtain ⟨-, -, covered⟩ := covers.along.of_mem mem
  split at waits
  case h_1 done =>
    simp only [Bool.and_eq_true, Bool.not_eq_true'] at waits
    obtain ⟨⟨connected, stashed⟩, none⟩ := waits
    have nonempty : c.session.stash ≠ ∅ := fun empty => by simp [empty] at stashed
    obtain ⟨b, fullEnd, chunkEnd, set, -⟩ := covered done connected nonempty
    simp [set] at none
  case h_2 => cases waits

namespace Script

/-- Two messages are missing, and come after the one above them. -/
def oneGap : List Input :=
  [.attach, .inbound (fromPeer MsgType.logon 1).toBytes, .inbound (fromPeer (ascii "D") 4).toBytes,
    .inbound (fromPeer (ascii "D") 2).toBytes, .inbound (fromPeer (ascii "D") 3).toBytes]

/-- A single gap is covered until it is filled. -/
theorem gaps_covered_oneGap : (play acceptor {} oneGap).CoversGaps :=
  letI := epochDay
  gaps_covered acceptor none none ({ creationTime := 0 } : MemoryStore) 0 ({} : Script) oneGap
    (MemoryStore.valid_empty 0) (by decide +kernel)

/-- While a gap is being filled a message arrives above another one. -/
def twoGaps : List Input :=
  [.attach, .inbound (fromPeer MsgType.logon 1).toBytes, .inbound (fromPeer (ascii "D") 3).toBytes,
    .inbound (fromPeer (ascii "D") 5).toBytes, .inbound (fromPeer (ascii "D") 2).toBytes]

/-- Once the first gap is filled, the message above the second one waits with nothing requested. -/
theorem not_coversGaps_twoGaps : ¬ (play acceptor {} twoGaps).CoversGaps :=
  not_coversGaps (by decide +kernel)

end Script

end QuickFix
