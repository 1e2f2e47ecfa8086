import QuickFix.Session.Script
import QuickFix.Steps.Kept

/-!
# No number is skipped

Every message that is handled is counted under its own number, so a number that was passed is one that
was handled. Four sites count without looking at the number: the refusal of another version, the two
refusals of the application that count, and the answer to a Logout. And where the store is reset for a
connection that is lost to a failed write, the message that is being answered is counted on the new
numbering. In runs where these meet the next number only, none is skipped (`counts_handled`).
-/

namespace QuickFix

set_option linter.unusedSectionVars false

open Session Relation MessageStore

section Calls

variable {σ : Type} [MessageStore σ]

/-- The inbound message that is worked on has the number. -/
def Item.Numbered (n : Nat) : Item → Prop
  | .message _ msg => msg.seqNum = .ok n
  | .entry _ raw => ∃ msg : Message, raw = msg.toBytes ∧ msg.seqNum = .ok n

/-- A number is counted while the message with that number is worked on. -/
def CountsHandled (c : Call σ) (earlier : List (Call σ)) : Prop :=
  ∀ res, c.event = .incrTarget res → ∃ item, handled earlier = some item ∧ item.Numbered c.nextTarget

/-- Whether a message has the next number. -/
def Call.awaits (c : Call σ) (msg : Message) : Bool := decide (msg.seqNum.toOption = some c.nextTarget)

/-- Whether a Logon, a TestRequest or a Logout is worked on: these are answered before they count. -/
def answering (cs : List (Call σ)) : Bool :=
  match handled cs with
  | some (.message _ msg) => [MsgType.logon, MsgType.testRequest, MsgType.logout].contains msg.msgTypeOrDefault
  | _ => false

/-- Whether the store was reset for a lost connection since a message was taken up. -/
def restarted : List (Call σ) → Bool
  | [] => false
  | c :: cs =>
    match c.event with
    | .process .. | .done => false
    | .reset .disconnect _ => true
    | _ => restarted cs

/-- Whether a call leaves no number out: a message of another version, one that the application refuses
in a way that counts it, and a Logout that passes are in sequence, and a message that is answered counts
on the numbering it came in. -/
def stepwise (c : Call σ) (earlier : List (Call σ)) : Bool :=
  match c.event with
  | .process _ msg =>
    decide (msg.header.getRaw Tags.beginString = some c.session.cfg.sessionId.beginString) || c.awaits msg
  | .fromAdmin msg (.error (.rejectLogon _)) => c.awaits msg
  | .fromAdmin msg (.error .unsupportedMessageType) => c.awaits msg
  | .fromAdmin msg (.ok _) => decide (msg.msgTypeOrDefault ≠ MsgType.logout) || c.awaits msg
  | .incrTarget _ => !(answering earlier && restarted earlier)
  | _ => true

/-- A message that is awaited has the next number. -/
lemma Call.seqNum_of_awaits {c : Call σ} {msg} (h : c.awaits msg = true) :
    msg.seqNum = .ok c.nextTarget := by
  have number : msg.seqNum.toOption = some c.nextTarget := by simpa [Call.awaits] using h
  cases found : msg.seqNum with
  | ok n =>
    rw [found] at number
    cases number
    rfl
  | error e =>
    rw [found] at number
    cases number

/-- An entry that is worked on was taken out of the stash. -/
lemma exists_unstash {seq raw} {cs : List (Call σ)} (item : handled cs = some (.entry seq raw)) :
    ∃ c ∈ cs, c.event = .unstash seq raw := by
  induction cs with
  | nil => cases item
  | cons c cs ih =>
    rw [handled] at item
    split at item
    case h_1 | h_3 => cases item
    case h_2 ev =>
      cases item
      exact ⟨c, List.mem_cons_self, ev⟩
    case h_4 =>
      obtain ⟨d, mem, ev⟩ := ih item
      exact ⟨d, List.mem_cons_of_mem c mem, ev⟩

/-- A reset while sending is one for a lost connection. -/
lemma restarted_sends {recent cs : List (Call σ)} {d} (sends : ∀ d ∈ recent, d.event.isSend = true)
    (mem : d ∈ recent) {site res} (reset : d.event = .reset site res) :
    restarted (recent ++ cs) = true := by
  induction recent with
  | nil => cases mem
  | cons c recent ih =>
    obtain ⟨here, later⟩ := List.forall_mem_cons.mp sends
    rw [List.cons_append, restarted]
    split
    case h_1 ev | h_2 ev =>
      rw [ev] at here
      cases here
    case h_3 => rfl
    case h_4 other =>
      cases mem with
      | head =>
        rw [reset] at here
        cases site with
        | disconnect => exact absurd reset (other res)
        | _ => cases here
      | tail _ mem => exact ih later mem

variable [LawfulStore σ]

/-- What is sent after a call leaves the next target number of that call, but for a reset. -/
lemma nextTarget_sends {start st : σ} {c : Call σ} {recent rest} (valid : LawfulStore.Valid start)
    (linked : Linked start (recent ++ c :: rest) st)
    (passed : ∃ msg answer, c.event = .fromAdmin msg answer)
    (sends : ∀ d ∈ recent, d.event.isSend = true)
    (noReset : ∀ d ∈ recent, ∀ site res, d.event ≠ .reset site res) :
    nextTargetSeqNum st = c.nextTarget := by
  induction recent generalizing st with
  | nil =>
    obtain ⟨msg, answer, ev⟩ := passed
    have same := linked.1
    rw [ev] at same
    exact congrArg nextTargetSeqNum same
  | cons d recent ih =>
    obtain ⟨here, later⟩ := List.forall_mem_cons.mp sends
    obtain ⟨none, noReset⟩ := List.forall_mem_cons.mp noReset
    have kept := linked.1.nextTarget_send (linked.2.valid valid).1 here none
    exact kept.trans (ih linked.2 later noReset)

end Calls

section Runs

variable {σ ω : Type} [Chrono] [MessageStore σ] [Application ω] [Runtime ω]

/-- A call that counts nothing. -/
lemma CountsHandled.of_quiet {c : Call σ} {cs} (quiet : ∀ res, c.event ≠ .incrTarget res) :
    CountsHandled c cs :=
  fun res ev => absurd ev (quiet res)

/-- Sending counts nothing. -/
lemma Event.ne_incrTarget {e : Event} (send : e.isSend = true) (res) : e ≠ .incrTarget res := by
  intro ev
  rw [ev] at send
  cases send

variable [LawfulStore σ]

/-- A message that has been answered is counted on the numbering it came in. -/
lemma SentSince.nextTarget {start : σ} {s : Sys σ ω} {origin msg c} (since' : SentSince origin msg c s)
    (valid : LawfulStore.Valid start) (linked : s.Linked start)
    (answers : [MsgType.logon, MsgType.testRequest, MsgType.logout].contains msg.msgTypeOrDefault = true)
    (steps : stepwise ⟨s.session, .incrTarget (MessageStore.incrNextTargetSeqNum s.session.store).1⟩
      s.trace = true) : handled s.trace = some (.message origin msg) ∧ s.nextTarget = c.nextTarget := by
  obtain ⟨recent, rest, tr, log, item⟩ := since'.log
  have taken : handled s.trace = some (.message origin msg) := by
    rw [tr, handled_append log.sends, handled, since'.passed]
    exact item
  refine ⟨taken, ?_⟩
  rw [Sys.Linked, tr] at linked
  apply nextTarget_sends valid linked ⟨msg, _, since'.passed⟩ log.sends
  intro d mem site res ev
  have lost : restarted s.trace = true := by
    rw [tr]
    exact restarted_sends log.sends mem ev
  have answered : answering s.trace = true := by
    rw [answering, taken]
    exact answers
  have steps : (!(answering s.trace && restarted s.trace)) = true := steps
  rw [answered, lost] at steps
  cases steps

/-- What justifies a count is in sequence. -/
lemma Counted.numbered {start : σ} {s : Sys σ ω} (why : Counted s) (keeping : Keeping start s)
    (valid : LawfulStore.Valid start) (past : ∀ c rest, c :: rest <:+ s.trace → stepwise c rest = true)
    (steps : stepwise ⟨s.session, .incrTarget (MessageStore.incrNextTargetSeqNum s.session.store).1⟩
      s.trace = true) : ∃ item, handled s.trace = some item ∧ item.Numbered s.nextTarget := by
  cases why with
  | entry item same _ =>
    obtain ⟨c, mem, ev⟩ := exists_unstash item
    obtain ⟨msg, -, -, eq, -, number⟩ := ((keeping.taken c mem).filed ev).1
    exact ⟨_, item, msg, eq, same ▸ number⟩
  | inSequence item number => exact ⟨_, item, number⟩
  | version taken other =>
    obtain ⟨c, rest, tr, ev, _, _, fresh⟩ := taken
    have here := past c rest (tr ▸ List.suffix_rfl)
    rw [fresh] at other
    rw [stepwise, ev] at here
    have number := Call.seqNum_of_awaits (by simpa [other] using here)
    refine ⟨_, by rw [tr, handled, ev], ?_⟩
    rw [Sys.nextTarget, fresh]
    exact number
  | @refused msg answer answered refusal =>
    obtain ⟨c, rest, origin, tr, ev, same, item⟩ := answered
    have here := past c rest (tr ▸ List.suffix_rfl)
    have number : msg.seqNum = .ok c.nextTarget := by
      apply Call.seqNum_of_awaits
      rcases refusal with ⟨reason, rfl⟩ | rfl
      · rw [stepwise, ev] at here
        exact here
      · rw [stepwise, ev] at here
        exact here
    refine ⟨_, by rw [tr, handled, ev]; exact item, ?_⟩
    rw [Sys.nextTarget, ← same]
    exact number
  | @logout origin msg c since' type =>
    obtain ⟨item, same⟩ := since'.nextTarget valid keeping.linked (by rw [type]; decide) steps
    obtain ⟨recent, rest, tr, -, -⟩ := since'.log
    have here := past c rest (tr ▸ List.suffix_append recent _)
    rw [stepwise, since'.passed] at here
    have number := Call.seqNum_of_awaits (by simpa [type] using here)
    exact ⟨_, item, number.trans (congrArg _ same.symm)⟩
  | testRequest since' type number =>
    obtain ⟨item, same⟩ := since'.nextTarget valid keeping.linked (by rw [type]; decide) steps
    exact ⟨_, item, number.trans (congrArg _ same.symm)⟩
  | logon since' type number least most =>
    obtain ⟨item, same⟩ := since'.nextTarget valid keeping.linked (by rw [type]; decide) steps
    refine ⟨_, item, number.trans (congrArg _ ?_)⟩
    exact Nat.le_antisymm most (same ▸ least)

/-- What is counted by an act was handled. -/
lemma HandleAct.countsHandled {resets} {start : σ} {s t : Sys σ ω} (act : HandleAct resets s t)
    (keeping : Keeping start s) (valid : LawfulStore.Valid start)
    (steps : Along (stepwise · ·) t.trace) (h : Along CountsHandled s.trace) :
    Along CountsHandled t.trace := by
  cases act with
  | send act =>
    obtain ⟨recent, tr, sends⟩ := act.trace
    rw [tr]
    exact h.append fun c mem _ => .of_quiet (Event.ne_incrTarget (sends c mem).1)
  | receivingReset | endingResets | logon | supersede => exact h
  | @deliver origin msg answer w taken app number =>
    have called : Along CountsHandled (s.called (.fromApp msg answer) w).trace :=
      ⟨.of_quiet (by simp), h⟩
    refine ⟨fun res ev => ⟨.message origin msg, ?_, number⟩, called⟩
    obtain ⟨c, rest, tr, ev, -⟩ := taken
    show handled s.trace = _
    rw [tr, handled, ev]
  | stashAndExpect =>
    exact ⟨.of_quiet (by simp), .of_quiet (by simp), .of_quiet (by simp), h⟩
  | incrTarget why =>
    have past := along_iff.mp steps.2
    exact ⟨fun res ev => why.numbered keeping valid past steps.1, h⟩
  | _ => exact ⟨.of_quiet (by simp), h⟩

/-- What is counted by an act was handled. -/
lemma Act.countsHandled {start : σ} {s t : Sys σ ω} (act : Act s t) (keeping : Keeping start s)
    (valid : LawfulStore.Valid start) (steps : Along (stepwise · ·) t.trace)
    (h : Along CountsHandled s.trace) : Along CountsHandled t.trace := by
  cases act with
  | handle act => exact act.countsHandled keeping valid steps h
  | send act =>
    obtain ⟨recent, tr, sends⟩ := act.trace
    rw [tr]
    exact h.append fun c mem _ => .of_quiet (Event.ne_incrTarget (sends c mem).1)
  | ask => exact h
  | cut _ left =>
    obtain ⟨recent, tr, sends⟩ := left.trace
    rw [tr]
    exact h.append fun c mem _ => .of_quiet (Event.ne_incrTarget (sends c mem).1)
  | endLogout now _ left =>
    obtain ⟨recent, tr, sends⟩ := left.trace
    rw [tr]
    apply Along.append
    · exact ⟨.of_quiet (by simp), h⟩
    · exact fun c mem _ => .of_quiet (Event.ne_incrTarget (sends c mem).1)
  | _ => exact ⟨.of_quiet (by simp), h⟩

/-- A system whose steps leave no number out. -/
def Sys.Stepwise (s : Sys σ ω) : Prop := Along (stepwise · ·) s.trace

instance (s : Sys σ ω) : Decidable s.Stepwise := inferInstanceAs (Decidable (Along _ _))

/-- A system that counted the numbers of the messages it handled. -/
structure Sys.SkipsNothing (s : Sys σ ω) : Prop where
  along : Along CountsHandled s.trace

/-- Along every run of such steps, each number that is counted is the one of the message that is
handled, or dropped from the stash. -/
theorem counts_handled (cfg : SessionConfig) (dictionary adminDictionary : Option DataDictionary)
    (store : σ) (now : Nat) (world : ω) (inputs : List Input) (valid : LawfulStore.Valid store)
    (steps : (Sys.ran cfg dictionary adminDictionary store now world inputs).Stepwise) :
    (Sys.ran cfg dictionary adminDictionary store now world inputs).SkipsNothing := by
  have start : Keeping store (.init cfg dictionary adminDictionary store now world : Sys σ ω) :=
    ⟨rfl, fun entry => by simp [Sys.init, Session.spawn] at entry, by simp [Sys.init]⟩
  have kept := ran_keeps_along (I := fun s => Keeping store s ∧ Along CountsHandled s.trace)
    (fun act steps h => ⟨act.keeping h.1, act.countsHandled h.1 valid steps h.2⟩)
    ⟨start, trivial⟩ steps
  exact ⟨kept.2⟩

end Runs

/-- Whether a number was counted for a message with another one. -/
def skips {σ : Type} [MessageStore σ] : List (Call σ) → Bool
  | [] => false
  | c :: cs =>
    (match c.event, handled cs with
      | .incrTarget _, some (.message _ msg) => !c.awaits msg
      | _, _ => false) || skips cs

/-- Where a number was skipped, what was counted was not handled. -/
lemma not_countsHandled {σ : Type} [MessageStore σ] {cs : List (Call σ)} (h : skips cs = true) :
    ¬ Along CountsHandled cs := by
  intro along
  induction cs with
  | nil => cases h
  | cons c cs ih =>
    rw [skips, Bool.or_eq_true] at h
    rcases h with here | later
    · split at here
      case h_1 res origin msg ev item =>
        obtain ⟨item', item'', number⟩ := along.1 res ev
        cases item.symm.trans item''
        have number : msg.seqNum = .ok c.nextTarget := number
        simp [Call.awaits, number, Except.toOption] at here
      case h_2 => cases here
    · exact ih later along.2

/-- A system that skipped a number. -/
lemma not_skipsNothing {σ ω : Type} [MessageStore σ] {s : Sys σ ω} (h : skips s.trace = true) :
    ¬ s.SkipsNothing :=
  fun nothing => not_countsHandled h nothing.along

/-- A visit in which every message is in sequence. -/
def Script.inSequence : List Input :=
  [.attach, .inbound (fromPeer MsgType.logon 1).toBytes,
    .inbound (fromPeer MsgType.testRequest 2).toBytes, .inbound (fromPeer MsgType.logout 3).toBytes]

/-- When every message is in sequence, no number is skipped. -/
theorem counts_handled_inSequence :
    (Script.play Script.acceptor {} Script.inSequence).SkipsNothing :=
  letI := epochDay
  counts_handled Script.acceptor none none ({ creationTime := 0 } : MemoryStore) 0 ({} : Script)
    Script.inSequence (MemoryStore.valid_empty 0) (by decide +kernel)

/-- The peer logs out with a number far above the next one. -/
def Script.farLogout : List Input :=
  [.attach, .inbound (fromPeer MsgType.logon 1).toBytes, .inbound (fromPeer MsgType.logout 7).toBytes]

/-- A Logout with a higher number is counted under the next one. -/
theorem not_countsHandled_farLogout :
    ¬ (Script.play Script.acceptor {} Script.farLogout).SkipsNothing :=
  not_skipsNothing (by decide +kernel)

end QuickFix
