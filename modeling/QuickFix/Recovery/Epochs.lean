import QuickFix.Session.Script
import QuickFix.Steps.Kept

/-!
# Epochs of the numbering

A reset of the store starts a new numbering. The stash and the range that is outstanding belong to the
session, and only a disconnect clears them. In runs that reset the store when there is nothing stashed
and nothing outstanding, or right before they disconnect, epochs do not mix (`epochs_apart`).
-/

namespace QuickFix

set_option linter.unusedSectionVars false

open Session Relation

section Calls

variable {σ : Type}

/-- Whether the store is reset at a call. -/
def Call.resets (c : Call σ) : Bool :=
  match c.event with
  | .reset .. => true
  | _ => false

/-- The bytes were stashed since the last reset. -/
def StashedSince (raw : Bytes) (cs : List (Call σ)) : Prop :=
  ∃ d ∈ since Call.resets cs, ∃ seq msg recovery, d.event = .stash seq msg recovery ∧ raw = msg.toBytes

/-- The range was recorded since the last reset. -/
def ExpectedSince (range : Nat × Nat × Nat) (cs : List (Call σ)) : Prop :=
  ∃ d ∈ since Call.resets cs, d.event = .expect range.1 range.2.1 range.2.2

/-- The message was stashed since the last reset. -/
def ReplayedSince (msg : Message) (cs : List (Call σ)) : Prop :=
  ∃ raw, Message.parse raw false = .ok msg ∧ StashedSince raw cs

/-- What comes from the stash was stashed since the last reset, and a range that keeps a request back
was recorded since. -/
structure OneEpoch (c : Call σ) (earlier : List (Call σ)) : Prop where
  /-- An entry is taken out of the stash. -/
  unstashed : ∀ seq raw, c.event = .unstash seq raw → StashedSince raw earlier
  /-- A message of the stash is taken up. -/
  replayed : ∀ msg, c.event = .process .stash msg → ReplayedSince msg earlier
  /-- A message of the stash is handed to the application. -/
  handed : ∀ msg answer item, c.event = .fromApp msg answer ∨ c.event = .fromAdmin msg answer →
    handled earlier = some (.message .stash item) → ReplayedSince msg earlier
  /-- A request is kept back. -/
  suppressed : ∀ seq msg, c.event = .stash seq msg .suppressed →
    ∃ range, c.session.resendRange = some range ∧ ExpectedSince range earlier

/-- Whether the store is reset with nothing stashed and nothing outstanding, or for a Logout on a
connection, which is given up next. -/
def resetsClear (c : Call σ) : Bool :=
  match c.event with
  | .reset site _ => (decide (site = .logout) && (c.session.outbound || c.session.inbound)) ||
      (c.session.stash.isEmpty && c.session.resendRange.isNone)
  | _ => true

/-- Whether an event takes something from the stash, hands it on, or keeps a request back. -/
def Event.draws : Event → Bool
  | .unstash .. | .process .stash _ | .fromApp .. | .fromAdmin .. | .stash _ _ .suppressed => true
  | _ => false

/-- Other calls belong to one epoch. -/
lemma OneEpoch.of_quiet {c : Call σ} {cs} (quiet : c.event.draws = false) : OneEpoch c cs where
  unstashed := fun seq raw ev => by simp [ev, Event.draws] at quiet
  replayed := fun msg ev => by simp [ev, Event.draws] at quiet
  handed := fun msg answer item ev => by rcases ev with ev | ev <;> simp [ev, Event.draws] at quiet
  suppressed := fun seq msg ev => by simp [ev, Event.draws] at quiet

/-- A sending call draws on nothing. -/
lemma Event.draws_of_isSend {e : Event} (send : e.isSend = true) : e.draws = false := by
  unfold Event.draws
  split
  case h_6 => rfl
  all_goals cases send

/-- A call that resets nothing is one of the epoch. -/
lemma since_resets {c : Call σ} {cs} (none : c.resets = false) :
    since Call.resets (c :: cs) = c :: since Call.resets cs := by
  rw [since_cons, none]
  rfl

/-- What was stashed since stays so when nothing is reset. -/
lemma StashedSince.cons {raw} {c : Call σ} {cs} (h : StashedSince raw cs) (none : c.resets = false) :
    StashedSince raw (c :: cs) := by
  obtain ⟨d, mem, stashed⟩ := h
  exact ⟨d, by rw [since_resets none]; exact List.mem_cons_of_mem c mem, stashed⟩

/-- So does a range that was recorded since. -/
lemma ExpectedSince.cons {range} {c : Call σ} {cs} (h : ExpectedSince range cs) (none : c.resets = false) :
    ExpectedSince range (c :: cs) := by
  obtain ⟨d, mem, expected⟩ := h
  exact ⟨d, by rw [since_resets none]; exact List.mem_cons_of_mem c mem, expected⟩

/-- So does a message that was replayed since. -/
lemma ReplayedSince.cons {msg} {c : Call σ} {cs} (h : ReplayedSince msg cs) (none : c.resets = false) :
    ReplayedSince msg (c :: cs) := by
  obtain ⟨raw, parsed, stashed⟩ := h
  exact ⟨raw, parsed, stashed.cons none⟩

end Calls

section Runs

variable {σ ω : Type} [Chrono] [MessageStore σ] [Application ω] [Runtime ω]

/-- What is stashed and outstanding is of the epoch, and so was what came from the stash. -/
structure InEpoch (s : Sys σ ω) : Prop where
  stash : ∀ {k : Nat} {raw}, s.session.stash[k]? = some raw → StashedSince raw s.trace
  range : ∀ {range}, s.session.resendRange = some range → ExpectedSince range s.trace
  along : Along OneEpoch s.trace

/-- What changes neither the stash nor the range keeps the epoch. -/
lemma InEpoch.same {s t : Sys σ ω} (h : InEpoch s) (tr : t.trace = s.trace)
    (stash : ∀ {k : Nat} {raw}, t.session.stash[k]? = some raw → s.session.stash[k]? = some raw)
    (range : ∀ {range}, t.session.resendRange = some range → s.session.resendRange = some range) :
    InEpoch t := by
  refine ⟨fun entry => ?_, fun set => ?_, ?_⟩
  · rw [tr]
    exact h.stash (stash entry)
  · rw [tr]
    exact h.range (range set)
  · rw [tr]
    exact h.along

/-- A call that resets nothing keeps the epoch. -/
lemma InEpoch.called {s t : Sys σ ω} {e : Event} (h : InEpoch s)
    (tr : t.trace = ⟨s.session, e⟩ :: s.trace) (none : (⟨s.session, e⟩ : Call σ).resets = false)
    (one : OneEpoch ⟨s.session, e⟩ s.trace)
    (stash : ∀ {k : Nat} {raw}, t.session.stash[k]? = some raw → s.session.stash[k]? = some raw)
    (range : ∀ {range}, t.session.resendRange = some range → s.session.resendRange = some range) :
    InEpoch t := by
  refine ⟨fun entry => ?_, fun set => ?_, ?_⟩
  · rw [tr]
    exact (h.stash (stash entry)).cons none
  · rw [tr]
    exact (h.range (range set)).cons none
  · rw [tr]
    exact ⟨one, h.along⟩

/-- So does a call that has nothing to do with the stash. -/
lemma InEpoch.quiet {s t : Sys σ ω} {e : Event} (h : InEpoch s)
    (tr : t.trace = ⟨s.session, e⟩ :: s.trace) (none : (⟨s.session, e⟩ : Call σ).resets = false)
    (quiet : e.draws = false) (stash : t.session.stash = s.session.stash)
    (range : t.session.resendRange = s.session.resendRange) : InEpoch t := by
  refine h.called tr none (.of_quiet quiet) ?_ ?_
  · rw [stash]
    exact id
  · rw [range]
    exact id

/-- A session with nothing stashed and nothing outstanding starts an epoch. -/
lemma InEpoch.start {t : Sys σ ω} (along : Along OneEpoch t.trace)
    (stash : ∀ k : Nat, t.session.stash[k]? = none) (range : t.session.resendRange = none) :
    InEpoch t := by
  refine ⟨fun {k raw} entry => ?_, fun set => ?_, along⟩
  · rw [stash k] at entry
    cases entry
  · rw [range] at set
    cases set

/-- A connection that is given up starts an epoch. -/
lemma InEpoch.givenUp {s t : Sys σ ω} (along : Along OneEpoch s.trace) (left : GivenUp s t) :
    InEpoch t := by
  obtain ⟨recent, tr, sends⟩ := left.trace
  have detached : t.session.detached = t.session := left.isDetached
  refine .start ?_ (fun k => ?_) ?_
  · rw [tr]
    exact along.append fun c mem _ => .of_quiet (Event.draws_of_isSend (sends c mem).1)
  · rw [← detached]
    simp [Session.detached]
  · rw [← detached]
    rfl

/-- A reset that is clear, and not the one of a Logout on a connection, finds nothing stashed and nothing
outstanding. -/
lemma empty_of_resetsClear {s : Sys σ ω} {site res}
    (clear : resetsClear ⟨s.session, .reset site res⟩ = true) (idle : site ≠ .logout ∨ ¬ s.Connected) :
    s.session.stash.isEmpty = true ∧ s.session.resendRange.isNone = true := by
  rw [resetsClear, Bool.or_eq_true, Bool.and_eq_true, decide_eq_true_eq, Bool.or_eq_true] at clear
  rcases clear with ⟨logout, on⟩ | empty
  · rcases idle with other | gone
    · exact absurd logout other
    · exact absurd on gone
  · exact Bool.and_eq_true_iff.mp empty

/-- A reset with nothing stashed and nothing outstanding starts an epoch. -/
lemma InEpoch.reset {s : Sys σ ω} (h : InEpoch s) (site now)
    (clear : resetsClear ⟨s.session, .reset site (MessageStore.reset now s.session.store).1⟩ = true)
    (idle : site ≠ .logout ∨ ¬ s.Connected) : InEpoch
      (s.stored (.reset site (MessageStore.reset now s.session.store).1)
        (MessageStore.reset now s.session.store).2) := by
  have empty := empty_of_resetsClear clear idle
  refine .start ⟨.of_quiet rfl, h.along⟩ (fun k => ?_) (Option.isNone_iff_eq_none.mp empty.2)
  show s.session.stash[k]? = none
  rw [Std.ExtTreeMap.isEmpty_iff.mp empty.1]
  simp

/-- Sending keeps the epoch. -/
lemma SendAct.inEpoch {fresh} {s t : Sys σ ω} (act : SendAct fresh s t) (h : InEpoch s) : InEpoch t := by
  cases act with
  | quiet | adopt | logon => exact h.same rfl id id
  | @announce line m _ now w =>
    have noted : InEpoch (s.called (.log line) w) := h.quiet rfl rfl rfl rfl rfl
    exact noted.quiet rfl rfl rfl rfl rfl
  | cut _ _ left => exact .givenUp h.along left
  | _ => exact h.quiet rfl rfl rfl rfl rfl

/-- A message of the stash that was taken up was stashed in the epoch. -/
lemma InEpoch.taken {s : Sys σ ω} {msg} (h : InEpoch s) (taken : TakenUp .stash msg s) :
    ReplayedSince msg s.trace := by
  obtain ⟨c, rest, tr, ev, -⟩ := taken
  have along := h.along
  rw [tr] at along ⊢
  exact (along.1.replayed msg ev).cons (by simp [Call.resets, ev])

/-- A message is handed to the application. -/
lemma InEpoch.handed {s t : Sys σ ω} {e : Event} {msg answer origin} (h : InEpoch s)
    (tr : t.trace = ⟨s.session, e⟩ :: s.trace) (ev : e = .fromApp msg answer ∨ e = .fromAdmin msg answer)
    (item : handled s.trace = some (.message origin msg))
    (taken : origin = .stash → TakenUp origin msg s) (stash : t.session.stash = s.session.stash)
    (range : t.session.resendRange = s.session.resendRange) : InEpoch t := by
  refine h.called tr ?_ ⟨?_, ?_, ?_, ?_⟩ ?_ ?_
  · rcases ev with rfl | rfl <;> rfl
  · rcases ev with rfl | rfl <;> simp
  · rcases ev with rfl | rfl <;> simp
  · intro msg' answer' _ ev' item'
    cases item.symm.trans item'
    have same : msg' = msg := by
      rcases ev with rfl | rfl <;> rcases ev' with ev' | ev' <;> cases ev' <;> rfl
    rw [same]
    exact h.taken (taken rfl)
  · rcases ev with rfl | rfl <;> simp
  · rw [stash]
    exact id
  · rw [range]
    exact id

/-- A message is stashed. -/
lemma InEpoch.stashing {s : Sys σ ω} {seq msg recovery} (h : InEpoch s)
    (outstanding : recovery = .suppressed → s.session.resendRange.isSome = true) :
    InEpoch (s.stashing seq msg recovery) := by
  refine ⟨fun {k raw} entry => ?_, fun set => (h.range set).cons rfl, ⟨⟨?_, ?_, ?_, ?_⟩, h.along⟩⟩
  · have entry : (s.session.stash.insert seq msg.toBytes)[k]? = some raw := entry
    rw [SeqMap.get_insert] at entry
    split at entry
    case isTrue =>
      cases entry
      exact ⟨_, by rw [Sys.stashing]; exact List.mem_cons_self, seq, msg, recovery, rfl, rfl⟩
    case isFalse => exact (h.stash entry).cons rfl
  · simp
  · simp
  · simp
  · rintro seq' msg' ⟨rfl, rfl, rfl⟩
    obtain ⟨range, set⟩ := Option.isSome_iff_exists.mp (outstanding rfl)
    exact ⟨range, set, h.range set⟩

/-- A range is recorded. -/
lemma InEpoch.expecting {s : Sys σ ω} {b fullEnd chunkEnd} (h : InEpoch s) :
    InEpoch (s.expecting b fullEnd chunkEnd) := by
  refine ⟨fun entry => (h.stash entry).cons rfl, fun set => ?_, .of_quiet rfl, h.along⟩
  cases set
  exact ⟨_, List.mem_cons_self, rfl⟩

/-- A reset between frames is not the one of a Logout on a connection. -/
lemma reset_idle {s : Sys σ ω} {site : ResetSite} (idle : site = .attach ∨ site = .schedule ∨
    site = .logout ∧ s.session.outbound = false ∧ s.session.inbound = false) :
    site ≠ .logout ∨ ¬ s.Connected := by
  rcases idle with rfl | rfl | ⟨-, outbound, inbound⟩
  · exact .inl nofun
  · exact .inl nofun
  · refine .inr fun on => ?_
    rw [Sys.Connected, outbound, inbound] at on
    simp at on

/-- A reset for a Logon is not the one of a Logout. -/
lemma Asked.site {msg : Message} {x : Session σ} {site res} (asked : Asked msg x (.reset site res)) :
    site ≠ .logout := by
  cases asked with
  | resetFlag | logon => nofun

/-- A handler keeps the epoch, or starts one. -/
lemma HandleAct.inEpoch {resets} {start : σ} {s t : Sys σ ω} (act : HandleAct resets s t)
    (keeping : Keeping start s) (clear : Along (fun c _ => resetsClear c = true) t.trace)
    (h : InEpoch s) : InEpoch t := by
  cases act with
  | send act => exact act.inEpoch h
  | receivingReset | endingResets | logon => exact h.same rfl id id
  | reset site now due prep asked =>
    exact h.reset site now clear.1 (.inl (asked (.ok ())).site)
  | @fromAdmin origin msg answer w item admin direct =>
    refine h.handed rfl (.inr rfl) item (fun replay => direct.resolve_right fun type => ?_) rfl rfl
    subst replay
    obtain ⟨c, mem, ev⟩ := exists_process item
    exact ((keeping.taken c mem).replayed ev).2.1 type
  | @deliver origin msg answer w taken app number =>
    have item : handled s.trace = some (.message origin msg) := by
      obtain ⟨c, rest, tr, ev, -⟩ := taken
      rw [tr, handled, ev]
    have called : InEpoch (s.called (.fromApp msg answer) w) :=
      h.handed rfl (.inl rfl) item (fun _ => taken) rfl rfl
    exact called.quiet rfl rfl rfl rfl rfl
  | supersede n => exact h.same rfl (fun entry => (getElem?_superseding.mp entry).1) id
  | stashOnly item number high outstanding => exact h.stashing fun _ => outstanding
  | @stashAndExpect _ msg seq recovery what chunkEnd item number high recovers =>
    have stashed : InEpoch (s.stashing seq msg recovery) := h.stashing fun same => absurd same recovers
    have computed : InEpoch ((s.stashing seq msg recovery).called (.compute what) s.world) :=
      stashed.quiet rfl rfl rfl rfl rfl
    exact computed.expecting
  | nextChunk => exact h.expecting
  | satisfied =>
    exact h.called rfl rfl (.of_quiet rfl) id (fun set => by cases set)
  | _ => exact h.quiet rfl rfl rfl rfl rfl

/-- Every act keeps the epoch, or starts one. -/
lemma Act.inEpoch {start : σ} {s t : Sys σ ω} (act : Act s t) (keeping : Keeping start s)
    (clear : Along (fun c _ => resetsClear c = true) t.trace) (h : InEpoch s) : InEpoch t := by
  cases act with
  | handle act => exact act.inEpoch keeping clear h
  | send act => exact act.inEpoch h
  | ask => exact h.same rfl id id
  | cut _ left => exact .givenUp h.along left
  | endLogout now _ left =>
    have ended : Along OneEpoch (s.stored (.reset .logout (MessageStore.reset now s.session.store).1)
        (MessageStore.reset now s.session.store).2).trace :=
      ⟨.of_quiet rfl, h.along⟩
    exact .givenUp ended left
  | reset site now idle => exact h.reset site now clear.1 (reset_idle idle)
  | @unstash seq raw number entry =>
    refine h.called rfl rfl ⟨?_, ?_, ?_, ?_⟩ (fun kept => ?_) id
    · rintro _ _ ⟨rfl, rfl⟩
      exact h.stash entry
    · simp
    · simp
    · simp
    · have kept : (s.session.stash.erase seq)[_]? = some _ := kept
      rw [SeqMap.get_erase] at kept
      split at kept
      case isTrue => cases kept
      case isFalse => exact kept
  | @replay seq raw msg c last item same parsed =>
    refine h.called rfl rfl ⟨?_, ?_, ?_, ?_⟩ id id
    · simp
    · rintro _ ⟨rfl, rfl⟩
      obtain ⟨rest, tr⟩ := List.head?_eq_some_iff.mp last
      have along := h.along
      rw [tr] at along ⊢
      exact ⟨raw, parsed, (along.1.unstashed seq raw item).cons (by simp [Call.resets, item])⟩
    · simp
    · simp
  | _ => exact h.quiet rfl rfl rfl rfl rfl

/-- A system that reset its store when there was nothing stashed and nothing outstanding, or right before
it disconnected. -/
def Sys.ResetsClear (s : Sys σ ω) : Prop := Along (fun c _ => resetsClear c = true) s.trace

instance (s : Sys σ ω) : Decidable s.ResetsClear := inferInstanceAs (Decidable (Along _ _))

/-- A system in which epochs do not mix. -/
structure Sys.EpochsApart (s : Sys σ ω) : Prop where
  along : Along OneEpoch s.trace

/-- Along every run of such resets, what is taken from the stash and handed to the application was
stashed since the last reset, and a range that keeps a request back was recorded since. -/
theorem epochs_apart (cfg : SessionConfig) (dictionary adminDictionary : Option DataDictionary)
    (store : σ) (now : Nat) (world : ω) (inputs : List Input)
    (clear : (Sys.ran cfg dictionary adminDictionary store now world inputs).ResetsClear) :
    (Sys.ran cfg dictionary adminDictionary store now world inputs).EpochsApart := by
  have start : Keeping store (.init cfg dictionary adminDictionary store now world : Sys σ ω) :=
    ⟨rfl, fun entry => by simp [Sys.init, Session.spawn] at entry, by simp [Sys.init]⟩
  have kept := ran_keeps_along (I := fun s => Keeping store s ∧ InEpoch s)
    (fun act clear h => ⟨act.keeping h.1, act.inEpoch h.1 clear h.2⟩)
    ⟨start, .start trivial (by simp [Sys.init, Session.spawn]) rfl⟩ clear
  exact ⟨kept.2.along⟩

end Runs

/-- Whether a message is stashed at a call. -/
def Call.stashes {σ : Type} (c : Call σ) : Bool :=
  match c.event with
  | .stash .. => true
  | _ => false

/-- Whether a message of the stash is handed to the application although nothing was stashed since the
last reset. -/
def handsOld {σ : Type} : List (Call σ) → Bool
  | [] => false
  | c :: cs =>
    (match c.event, handled cs with
      | .fromApp .., some (.message .stash _) => (since Call.resets cs).all fun d => !d.stashes
      | _, _ => false) || handsOld cs

/-- Where an old message was handed on, epochs mixed. -/
lemma not_oneEpoch {σ : Type} {cs : List (Call σ)} (h : handsOld cs = true) : ¬ Along OneEpoch cs := by
  intro along
  induction cs with
  | nil => cases h
  | cons c cs ih =>
    rw [handsOld, Bool.or_eq_true] at h
    rcases h with here | later
    · split at here
      case h_1 msg answer item ev taken =>
        obtain ⟨raw, -, d, mem, seq, msg', recovery, stashed, -⟩ :=
          along.1.handed msg answer item (.inl ev) taken
        have other := List.all_eq_true.mp here d mem
        simp [Call.stashes, stashed] at other
      case h_2 => cases here
    · exact ih later along.2

/-- A system that handed an old message on. -/
lemma not_epochsApart {σ ω : Type} {s : Sys σ ω} (h : handsOld s.trace = true) : ¬ s.EpochsApart :=
  fun apart => not_oneEpoch h apart.along

namespace Script

/-- A Logon that resets the numbering. -/
def resetLogon : Message := (fromPeer MsgType.logon 1).set Tags.resetSeqNumFlag true

/-- The peer logs on with a reset, and its messages come out of order. -/
def resetFirst : List Input :=
  [.attach, .inbound resetLogon.toBytes, .inbound (fromPeer (ascii "D") 3).toBytes,
    .inbound (fromPeer (ascii "D") 2).toBytes]

/-- What is stashed after a reset is delivered after it. -/
theorem epochs_apart_resetFirst : (play acceptor {} resetFirst).EpochsApart :=
  letI := epochDay
  epochs_apart acceptor none none ({ creationTime := 0 } : MemoryStore) 0 ({} : Script) resetFirst
    (by decide +kernel)

/-- The peer resets the numbering while one of its messages waits in the stash. -/
def resetLater : List Input :=
  [.attach, .inbound resetLogon.toBytes, .inbound (fromPeer (ascii "D") 3).toBytes,
    .inbound resetLogon.toBytes, .inbound (fromPeer (ascii "D") 2).toBytes]

/-- A message that was stashed before a reset is handed to the application after it. -/
theorem not_epochsApart_resetLater : ¬ (play acceptor {} resetLater).EpochsApart :=
  not_epochsApart (by decide +kernel)

end Script

end QuickFix
