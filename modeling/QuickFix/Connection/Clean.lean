import QuickFix.Steps.Kept
import QuickFix.Session.Script

/-!
# Nothing is left of a connection

Between frames, a session without a connection has kept nothing of the last one. A connection that is
lost in the middle of a handler is given up at once, but the handler goes on: it may start a logout,
stash a message or count one on the session that was just cleaned. And giving up the connection does
not forget that the last message came from the stash. In runs where neither happens, what is
disconnected is clean.
-/

namespace QuickFix

set_option linter.unusedSectionVars false

namespace Event

/-- Whether an event moves a counter on. -/
def advances : Event → Bool
  | .incrTarget _ | .setTarget .sequenceReset .. | .incrSender _ | .save .. => true
  | _ => false

end Event

section Calls

variable {σ : Type}

/-- Whether a counter was moved on for a frame since the reset of the last disconnect. -/
def advanced : List (Call σ) → Bool
  | [] => false
  | c :: cs =>
    match c.event with
    | .reset .disconnect _ => false
    | e => (e.advances && (handled cs).isSome) || advanced cs

/-- Whether the frame that is dealt with has lost its connection. -/
def lost (cs : List (Call σ)) : Bool := broken cs && (handled cs).isSome

/-- Whether a call does nothing that stays behind without a connection: none is given up after a
message from the stash, and for a frame that has lost it no logout is started and nothing stashed, nor
counted on a store that was reset. -/
def harmless (c : Call σ) (earlier : List (Call σ)) : Bool :=
  match c.event with
  | .log .disconnecting => !c.session.lastProcessedWasQueued
  | .log .initiatedLogout | .stash .. => !lost earlier
  | e => !(e.advances && c.session.cfg.resetOnDisconnect && lost earlier)

/-- A counter that is moved on is harmless, unless the store was reset for a connection that is lost. -/
lemma harmless_of_advances {c : Call σ} {earlier} (moves : c.event.advances = true) :
    harmless c earlier = !(c.session.cfg.resetOnDisconnect && lost earlier) := by
  unfold harmless
  split
  case h_1 ev | h_2 ev | h_3 ev => simp [ev, Event.advances] at moves
  case h_4 => rw [moves, Bool.true_and]

/-- A call that moves no counter on for a frame advances nothing. -/
lemma advanced_cons {c : Call σ} {cs} (h : advanced cs = false)
    (still : c.event.advances = true → handled cs = none) : advanced (c :: cs) = false := by
  unfold advanced
  split
  case h_1 => rfl
  case h_2 e _ =>
    rw [h, Bool.or_false, Bool.and_eq_false_iff]
    cases moves : c.event.advances with
    | false => exact .inl rfl
    | true =>
      rw [still moves]
      exact .inr rfl

end Calls

section Runs

variable {σ ω : Type} [Chrono] [MessageStore σ] [Application ω] [Runtime ω]

/-- Nothing is left of a connection: neither its state, nor, where the store was reset for it, a number
that was counted since. -/
structure Clean (s : Sys σ ω) : Prop where
  detached : s.session.IsDetached
  queued : s.session.lastProcessedWasQueued = false
  reset : s.session.cfg.resetOnDisconnect = true → advanced s.trace = false

/-- A session without a connection is clean, and messages were taken up on a connection only. -/
structure Tidy (s : Sys σ ω) : Prop where
  clean : ¬ s.Connected → Clean s
  taken : ∀ c ∈ s.trace, c.event.takesUp = true →
    c.session.outbound = true ∨ c.session.inbound = true

/-- A session that has the connection of the message it took up has one. -/
lemma Tidy.connected {s : Sys σ ω} (h : Tidy s) (same : Undisturbed s) : s.Connected := by
  obtain ⟨c, mem, ⟨origin, msg, ev, -⟩, inbound, outbound⟩ := same
  unfold Sys.Connected
  rw [inbound, outbound]
  apply h.taken c mem
  rw [ev]
  rfl

/-- On a connection there is nothing to be clean about. -/
lemma Tidy.on {s t : Sys σ ω} (h : Tidy s) (connected : t.Connected) (same : t.trace = s.trace) :
    Tidy t := by
  refine ⟨fun gone => absurd connected gone, ?_⟩
  rw [same]
  exact h.taken

/-- What a detached session keeps. -/
lemma Tidy.keep {s t : Sys σ ω} (h : Tidy s) (tr : t.trace = s.trace)
    (cfg : t.session.cfg = s.session.cfg) (on : s.Connected → t.Connected)
    (detached : s.session.IsDetached → t.session.IsDetached)
    (queued : s.session.lastProcessedWasQueued = false → t.session.lastProcessedWasQueued = false) :
    Tidy t := by
  constructor
  · intro gone
    obtain ⟨isDetached, notQueued, reset⟩ := h.clean fun connected => gone (on connected)
    refine ⟨detached isDetached, queued notQueued, ?_⟩
    rw [tr, cfg]
    exact reset
  · rw [tr]
    exact h.taken

/-- What a call keeps, when it takes nothing up and moves no counter on for a frame without a
connection. -/
lemma Tidy.call {s t : Sys σ ω} {e : Event} (h : Tidy s) (tr : t.trace = ⟨s.session, e⟩ :: s.trace)
    (same : t.session = { s.session with store := t.session.store }) (quiet : e.takesUp = false)
    (still : ¬ s.Connected → e.advances = true → s.session.cfg.resetOnDisconnect = true →
      handled s.trace = none) : Tidy t := by
  constructor
  · intro gone
    have gone' : ¬ s.Connected := by
      intro connected
      apply gone
      rw [Sys.Connected, same]
      exact connected
    obtain ⟨detached, queued, reset⟩ := h.clean gone'
    refine ⟨?_, ?_, ?_⟩
    · have detached : s.session.detached = s.session := detached
      rw [same]
      exact congrArg (fun x : Session σ => { x with store := t.session.store }) detached
    · rw [same]
      exact queued
    · intro flag
      rw [same] at flag
      rw [tr]
      exact advanced_cons (reset flag) fun moves => still gone' moves flag
  · rw [tr]
    intro c mem takes
    cases mem with
    | head => simp [quiet] at takes
    | tail _ mem => exact h.taken c mem takes

/-- A connection that is given up leaves nothing behind. -/
lemma Cut.tidy {s t : Sys σ ω} (cut : Cut s t) (h : Tidy s) (harm : Along (harmless · ·) t.trace) :
    Tidy t := by
  have taken : ∀ c ∈ t.trace, c.event.takesUp = true →
      c.session.outbound = true ∨ c.session.inbound = true := by
    intro c mem takes
    cases cut with
    | kept =>
      cases mem with
      | head => cases takes
      | tail _ mem => exact h.taken c mem takes
    | reset =>
      cases mem with
      | head => cases takes
      | tail _ mem =>
        cases mem with
        | head => cases takes
        | tail _ mem => exact h.taken c mem takes
  refine ⟨fun _ => ⟨cut.isDetached, ?_, ?_⟩, taken⟩
  · cases cut with
    | kept =>
      have queued : (!s.session.lastProcessedWasQueued) = true := harm.1
      exact (Bool.not_eq_true' _).mp queued
    | reset =>
      have queued : (!s.session.lastProcessedWasQueued) = true := harm.2.1
      exact (Bool.not_eq_true' _).mp queued
  · intro flag
    cases cut with
    | kept off =>
      have flag : s.session.cfg.resetOnDisconnect = true := flag
      rw [off] at flag
      cases flag
    | reset => rfl

/-- Giving up the connection leaves nothing of it behind, when that does no harm. -/
lemma GivenUp.tidy {s t : Sys σ ω} (left : GivenUp s t) (h : Tidy s)
    (harm : Along (harmless · ·) t.trace) : Tidy t := by
  cases left with
  | silent _ cut => exact cut.tidy h harm
  | told _ cut => exact (cut.tidy h harm.2).call rfl rfl rfl (by simp [Event.advances])

/-- What leaves a detached session detached does so with this one. -/
lemma Session.IsDetached.of {s : Session σ} (h : s.IsDetached) (f : Session σ → Session σ)
    (keeps : (f s.detached).IsDetached) : (f s).IsDetached := by
  have same : s.detached = s := h
  rw [same] at keeps
  exact keeps

/-- Superseding messages leaves an empty stash empty. -/
lemma Session.IsDetached.superseding {s : Session σ} (h : s.IsDetached) (n : Nat) :
    (s.superseding n).IsDetached := by
  apply h.of (Session.superseding n)
  have empty : (∅ : SeqMap Bytes).filter (fun k _ => decide (n ≤ k)) = ∅ :=
    SeqMap.eq_empty fun j => by simp
  show (s.detached.superseding n).detached = s.detached.superseding n
  unfold Session.superseding Session.detached
  simp only [empty]

/-- What a call on a connection keeps, when it takes nothing up. -/
lemma Tidy.online {s t : Sys σ ω} {c : Call σ} (h : Tidy s) (connected : t.Connected)
    (tr : t.trace = c :: s.trace) (quiet : c.event.takesUp = false) : Tidy t := by
  refine ⟨fun gone => absurd connected gone, ?_⟩
  rw [tr]
  intro d mem takes
  cases mem with
  | head => simp [quiet] at takes
  | tail _ mem => exact h.taken d mem takes

/-- Where a session without a connection can be: between frames, or in one that lost it. -/
def Stranded (s : Sys σ ω) : Prop :=
  ¬ s.Connected → handled s.trace = none ∨ lost s.trace = true

/-- A session that is live is in a frame it can be in. -/
lemma Live.stranded {s : Sys σ ω} (live : Live s) : Stranded s := by
  intro gone
  have gone := live.resolve_left gone
  cases item : handled s.trace with
  | none => exact .inl rfl
  | some item' =>
    refine .inr ?_
    rw [lost, gone, item]
    rfl

/-- A harmless call does not move a counter on for a frame that lost its connection. -/
lemma Stranded.still {s : Sys σ ω} {e : Event} (h : Stranded s) (moves : e.advances = true)
    (harm : harmless ⟨s.session, e⟩ s.trace = true) (gone : ¬ s.Connected) (_ : e.advances = true)
    (flag : s.session.cfg.resetOnDisconnect = true) : handled s.trace = none := by
  rcases h gone with idle | isLost
  · exact idle
  · rw [harmless_of_advances moves, flag, isLost] at harm
    cases harm

/-- Acts of the outbound half leave nothing behind. -/
lemma SendAct.tidy {s t : Sys σ ω} (act : SendAct true s t) (h : Tidy s) (stranded : Stranded s)
    (harm : Along (harmless · ·) t.trace) : Tidy t := by
  cases act with
  | quiet w lastSent lastReceived counter seq queued pending count queue _ =>
    refine h.keep rfl rfl id ?_ ?_
    · intro detached
      rcases count with rfl | rfl
      · exact detached.of (fun x => { x with
          lastSent := lastSent
          lastReceived := lastReceived
          testRequestCounter := 0
          lastReceivedSeq := seq
          lastProcessedWasQueued := queued
          pendingLogon := pending }) rfl
      · exact detached.of (fun x => { x with
          lastSent := lastSent
          lastReceived := lastReceived
          lastReceivedSeq := seq
          lastProcessedWasQueued := queued
          pendingLogon := pending }) rfl
    · intro notQueued
      rcases queue with rfl | rfl
      · rfl
      · exact notQueued
  | @adopt _ hbi =>
    exact h.keep rfl rfl id (fun detached => detached.of ({ · with heartBtInt := hbi }) rfl) id
  | logon sentReset connected =>
    have on : s.Connected := connected.elim .inl h.connected
    exact h.on on rfl
  | logout why =>
    by_cases on : s.Connected
    · exact h.online on rfl rfl
    · have kept : (!lost s.trace) = true := harm.1
      rcases why with item | outbound | loggedOn
      · rcases stranded on with idle | isLost
        · exact absurd idle item
        · rw [isLost] at kept
          cases kept
      · exact absurd (.inl outbound) on
      · have detached : s.session.detached = s.session := (h.clean on).detached
        rw [← detached] at loggedOn
        cases loggedOn
  | save => exact h.call rfl rfl rfl (stranded.still rfl harm.1)
  | incrSender => exact h.call rfl rfl rfl (stranded.still rfl harm.1)
  | cut _ _ left => exact left.tidy h harm
  | @announce line _ _ _ w =>
    have noted : Tidy (s.called (.log line) w) := h.call rfl rfl rfl (by simp [Event.advances])
    exact noted.call rfl rfl rfl (by simp [Event.advances])
  | _ => exact h.call rfl rfl rfl (by simp [Event.advances])

/-- A message is not stashed for a frame that lost its connection. -/
lemma Stranded.connected {s : Sys σ ω} {item seq msg recovery} (h : Stranded s)
    (handling : handled s.trace = some item)
    (harm : harmless ⟨s.session, .stash seq msg recovery⟩ s.trace = true) : s.Connected := by
  by_contra gone
  have kept : (!lost s.trace) = true := harm
  rcases h gone with idle | isLost
  · rw [handling] at idle
    cases idle
  · rw [isLost] at kept
    cases kept

/-- A session that expects a resend has a connection. -/
lemma Tidy.expecting {s : Sys σ ω} {range} (h : Tidy s)
    (outstanding : s.session.resendRange = some range) : s.Connected := by
  by_contra gone
  have detached : s.session.detached = s.session := (h.clean gone).detached
  rw [← detached] at outstanding
  cases outstanding

/-- Acts of the handlers leave nothing behind. -/
lemma HandleAct.tidy {resets} {s t : Sys σ ω} (act : HandleAct resets s t) (h : Tidy s) (stranded : Stranded s)
    (harm : Along (harmless · ·) t.trace) : Tidy t := by
  cases act with
  | send act => exact act.tidy h stranded harm
  | receivingReset same => exact h.on (h.connected same) rfl
  | endingResets => exact h.keep rfl rfl id (fun detached => detached.of Session.endingResets rfl) id
  | @deliver origin msg answer w taken app =>
    have called : Tidy (s.called (.fromApp msg answer) w) :=
      h.call rfl rfl rfl (by simp [Event.advances])
    have stranded : Stranded (s.called (.fromApp msg answer) w) := stranded
    exact called.call rfl rfl rfl (stranded.still rfl harm.1)
  | logon _ _ _ _ same => exact h.on (h.connected same) rfl
  | incrTarget => exact h.call rfl rfl rfl (stranded.still rfl harm.1)
  | moveTarget => exact h.call rfl rfl rfl (stranded.still rfl harm.1)
  | supersede n => exact h.keep rfl rfl id (·.superseding n) id
  | stashOnly item => exact h.online (stranded.connected item harm.1) rfl rfl
  | @stashAndExpect _ msg seq recovery what chunkEnd item =>
    have on := stranded.connected item harm.2.2.1
    have stashed : Tidy (s.stashing seq msg recovery) := h.online on rfl rfl
    have computed : Tidy ((s.stashing seq msg recovery).called (.compute what) s.world) :=
      stashed.online on rfl rfl
    exact computed.online on rfl rfl
  | nextChunk range => exact h.online (h.expecting range) rfl rfl
  | satisfied range => exact h.online (h.expecting range) rfl rfl
  | _ => exact h.call rfl rfl rfl (by simp [Event.advances])

/-- An entry of the stash is taken out on a connection. -/
lemma Tidy.stashed {s : Sys σ ω} {seq : Nat} {raw} (h : Tidy s)
    (entry : s.session.stash[seq]? = some raw) : s.Connected := by
  by_contra gone
  have detached : s.session.detached = s.session := (h.clean gone).detached
  rw [← detached] at entry
  simp [Session.detached] at entry

/-- What is taken up on a connection leaves nothing behind. -/
lemma Tidy.take {s t : Sys σ ω} {e : Event} (h : Tidy s) (on : s.Connected) (connected : t.Connected)
    (tr : t.trace = ⟨s.session, e⟩ :: s.trace) : Tidy t := by
  refine ⟨fun gone => absurd connected gone, ?_⟩
  rw [tr]
  intro c mem takes
  cases mem with
  | head => exact on
  | tail _ mem => exact h.taken c mem takes

/-- Every act leaves nothing behind. -/
lemma Act.tidy {s t : Sys σ ω} (act : Act s t) (h : Tidy s) (harm : Along (harmless · ·) t.trace) :
    Tidy t := by
  cases act with
  | handle act live => exact act.tidy h live.stranded harm
  | send act idle => exact act.tidy h (fun _ => .inl idle) harm
  | attach => exact h.online (.inl rfl) rfl rfl
  | ask connected => exact h.on (.inl connected) rfl
  | cut _ left => exact left.tidy h harm
  | endLogout now _ left =>
    have ended : Tidy (s.stored (.reset .logout (MessageStore.reset now s.session.store).1)
        (MessageStore.reset now s.session.store).2) :=
      h.call rfl rfl rfl (by simp [Event.advances])
    exact left.tidy ended harm
  | receive _ connected _ => exact h.take connected connected rfl
  | unstash _ entry _ => exact h.take (h.stashed entry) (h.stashed entry) rfl
  | @replay seq raw msg c last item same =>
    have on : s.Connected := by
      unfold Sys.Connected
      rw [same.1, same.2]
      apply h.taken c (List.mem_of_mem_head? last)
      rw [item]
      rfl
    exact h.take on on rfl
  | _ => exact h.call rfl rfl rfl (by simp [Event.advances])

/-- Every call was harmless. -/
def Sys.Harmless (s : Sys σ ω) : Prop := Along (harmless · ·) s.trace

instance (s : Sys σ ω) : Decidable s.Harmless := inferInstanceAs (Decidable (Along _ _))

/-- Along every run of harmless calls, a session without a connection is clean. -/
theorem disconnected_clean (cfg : SessionConfig) (dictionary adminDictionary : Option DataDictionary)
    (store : σ) (now : Nat) (world : ω) (inputs : List Input)
    (harm : (Sys.ran cfg dictionary adminDictionary store now world inputs).Harmless)
    (gone : ¬ (Sys.ran cfg dictionary adminDictionary store now world inputs).Connected) :
    Clean (Sys.ran cfg dictionary adminDictionary store now world inputs) := by
  have tidy : Tidy (Sys.ran cfg dictionary adminDictionary store now world inputs) := by
    refine ran_keeps_along (fun act harm h => act.tidy h harm) ?_ harm
    exact ⟨fun _ => ⟨rfl, rfl, fun _ => rfl⟩, by simp [Sys.init]⟩
  exact tidy.clean gone

end Runs

/-- A session that starts a logout without a connection is not clean. -/
lemma not_clean {σ ω : Type} {s : Sys σ ω} (gone : ¬ s.Connected) (logout : s.session.sentLogout = true) :
    ¬ (¬ s.Connected → Clean s) := by
  intro clean
  have detached : s.session.detached = s.session := (clean gone).detached
  rw [← detached] at logout
  cases logout

/-- The write task is gone when a TestRequest is answered. -/
def Script.lostAnswer : List Input :=
  [.attach, .inbound (fromPeer MsgType.logon 1).toBytes,
    .inbound (fromPeer MsgType.testRequest 2).toBytes]

/-- A connection that is lost while a TestRequest is answered leaves nothing behind. -/
theorem disconnected_clean_lostAnswer :
    Clean (Script.play Script.acceptor { sends := [true, false] } Script.lostAnswer) :=
  letI := epochDay
  disconnected_clean Script.acceptor none none ({ creationTime := 0 } : MemoryStore) 0
    ({ sends := [true, false] } : Script) Script.lostAnswer (by decide +kernel) (by decide +kernel)

/-- The write task is gone when a message with a wrong CompID is rejected. -/
def Script.lostReject : List Input :=
  [.attach, .inbound (fromPeer MsgType.logon 1).toBytes,
    .inbound ((fromPeer MsgType.heartbeat 2).setHeader Tags.senderCompId (ascii "X")).toBytes]

/-- A connection that is lost while a message is rejected leaves a pending logout behind. -/
theorem not_clean_lostReject :
    ¬ (¬ (Script.play Script.acceptor { sends := [true, false] } Script.lostReject).Connected →
      Clean (Script.play Script.acceptor { sends := [true, false] } Script.lostReject)) :=
  not_clean (by decide +kernel) (by decide +kernel)

end QuickFix
