import QuickFix.Steps.History
import QuickFix.Session.Script

/-!
# ResetSeqNumFlag

A Logon that carries ResetSeqNumFlag=Y because the counters are at their start, or that answers one
that does, is numbered 1 and sent on a store that was just reset; and a Logon of the peer that answers
our own reset resets the store for no second time. SendResetSeqNumFlag makes no promise about the
counters: it sends the flag on every Logon of our own.
-/

namespace QuickFix

set_option linter.unusedSectionVars false

open MessageStore

namespace Event

/-- Whether a Logon is announced. -/
def announces : Event → Bool
  | .log (.initiatedLogon _) | .log (.respondingToLogon _) => true
  | _ => false

/-- Whether a message is taken up. -/
def isProcess : Event → Bool
  | .process .. => true
  | _ => false

/-- Whether the sender number may come back to its start while messages are stored: it is set by
command, the store is reloaded, or a message could not be stored properly. -/
def disturbs : Event → Bool
  | .setSender .. | .refresh _ | .save _ _ (.error _) => true
  | _ => false

end Event

/-- So it may when it runs past the end of its range. -/
def Call.disturbs {σ : Type} [MessageStore σ] (c : Call σ) : Bool := c.event.disturbs || c.wrapsSender

/-- The call at which a message was taken up last. -/
def lastTaken {σ : Type} (cs : List (Call σ)) : Option (Call σ) := cs.find? (·.event.isProcess)

section Calls

variable {σ : Type} [Chrono] [MessageStore σ]

/-- What is asked of the store takes no message up. -/
lemma Asked.not_isProcess {msg} {x : Session σ} {e : Event} (h : Asked msg x e) :
    e.isProcess = false := by
  cases h <;> rfl

/-- The Logon was taken up last when nothing was done since but what it asks for. -/
lemma lastTaken_asked {origin msg} {p : Call σ} {recent rest : List (Call σ)}
    (taken : p.event = .process origin msg) (asked : ∀ d ∈ recent, Asked msg p.session d.event) :
    lastTaken (recent ++ p :: rest) = some p := by
  have none : recent.find? (·.event.isProcess) = none := by
    rw [List.find?_eq_none]
    intro d mem
    simp [(asked d mem).not_isProcess]
  rw [lastTaken, List.find?_append, none]
  simp [taken, Event.isProcess]

/-- A Logon that is announced is filled and shown to the application next. -/
def ShownNext (c : Call σ) (earlier : List (Call σ)) : Prop :=
  ∀ d rest, earlier = d :: rest → d.event.announces = true →
    ∃ line logon now m', d.event = .log line ∧ Announced d.session rest line logon ∧
      c = ⟨d.session, .toAdmin (d.session.filledHeader now logon.fresh) m'⟩

/-- A reset for a Logon was asked for by the Logon taken up last. -/
def AskedFor (c : Call σ) (earlier : List (Call σ)) : Prop :=
  ∀ site res, c.event = .reset site res → site = .resetFlag ∨ site = .logon →
    ∃ p origin msg, lastTaken earlier = some p ∧ p.event = .process origin msg ∧
      Asked msg p.session c.event

/-- What is known about the Logons of a history without looking at the store. -/
structure Announces (cs : List (Call σ)) : Prop where
  along : Along (fun c earlier => ShownNext c earlier ∧ AskedFor c earlier) cs
  head : ∀ c, cs.head? = some c → c.event.announces = false

/-- Nothing is announced at the start. -/
lemma announces_nil : Announces ([] : List (Call σ)) := ⟨trivial, by simp⟩

/-- A call that announces nothing keeps that. -/
lemma Announces.cons {c : Call σ} {cs} (h : Announces cs) (quiet : c.event.announces = false)
    (asked : AskedFor c cs) : Announces (c :: cs) := by
  refine ⟨⟨⟨fun d rest split announces => ?_, asked⟩, h.along⟩, fun d head => ?_⟩
  · have last := h.head d (by rw [split]; rfl)
    rw [last] at announces
    cases announces
  · cases head
    exact quiet

/-- A reset elsewhere is not asked for by a Logon. -/
lemma askedFor_elsewhere {c : Call σ} {cs}
    (elsewhere : ∀ site res, c.event = .reset site res → site ≠ .resetFlag ∧ site ≠ .logon) :
    AskedFor c cs := by
  intro site res ev atLogon
  obtain ⟨notFlag, notLogon⟩ := elsewhere site res ev
  exact (atLogon.elim notFlag notLogon).elim

/-- A call that has nothing to do with Logons keeps that. -/
lemma Announces.other {c : Call σ} {cs} (h : Announces cs) (quiet : c.event.announces = false)
    (elsewhere : ∀ site res, c.event = .reset site res → site ≠ .resetFlag ∧ site ≠ .logon) :
    Announces (c :: cs) :=
  h.cons quiet (askedFor_elsewhere elsewhere)

/-- After an announcement comes another call. -/
lemma Announces.next {d : Call σ} {rest cs} (h : Announces cs) (suf : d :: rest <:+ cs)
    (announces : d.event.announces = true) : ∃ c, c :: d :: rest <:+ cs ∧ ShownNext c (d :: rest) := by
  obtain ⟨later, rfl⟩ := suf
  rcases List.eq_nil_or_concat later with rfl | ⟨later, c, rfl⟩
  · have last := h.head d rfl
    rw [last] at announces
    cases announces
  · have suf : c :: d :: rest <:+ later.concat c ++ d :: rest := ⟨later, by simp⟩
    exact ⟨c, suf, (along_iff.mp h.along c _ suf).1⟩

end Calls

/-! ## The store -/

/-- A store whose next sender number is at its start holds no message. -/
def StoreView.Bare (v : StoreView) : Prop :=
  1 ≤ v.nextSender ∧ (v.nextSender = 1 → ∀ k, v.messages k = none)

/-- What does not disturb the store leaves it bare at its start. -/
lemma Event.Moves.bare {e : Event} {v v' : StoreView} (h : e.Moves v v')
    (quiet : e.disturbs = false) (bare : v.Bare)
    (room : e.mayTake = true → v.nextSender + 1 < 2 ^ 64) : v'.Bare := by
  have past (taken : e.mayTake = true) (moved : v'.nextSender = incremented v.nextSender) : 1 < v'.nextSender := by
    rw [moved, incremented_eq (room taken)]
    exact Nat.lt_add_of_pos_left bare.1
  cases e with
  | incrSender res =>
    refine Done.elim h (fun same => same ▸ bare) fun moved => ?_
    have past := past rfl (congrArg StoreView.nextSender moved)
    exact ⟨past.le, fun start => absurd start past.ne'⟩
  | incrTarget res => exact Done.elim h (fun same => same ▸ bare) fun moved => moved ▸ bare
  | setTarget _ n res => exact Done.elim h (fun same => same ▸ bare) fun moved => moved ▸ bare
  | save n raw res =>
    cases res with
    | ok _ =>
      have past := past rfl h.2.2.1
      exact ⟨past.le, fun start => absurd start past.ne'⟩
    | error e => cases quiet
  | setSender | refresh => cases quiet
  | reset site res =>
    refine Done.elim h (fun same => same ▸ bare) fun moved => ?_
    subst moved
    exact ⟨le_refl 1, fun _ _ => rfl⟩
  | _ => exact (h : v' = v) ▸ bare

section Store

variable {σ : Type} [Chrono] [MessageStore σ] [LawfulStore σ]

/-- Calls that do not disturb the store leave it bare at its start. -/
lemma Linked.bare {start st : σ} {cs : List (Call σ)} (h : Linked start cs st)
    (valid : LawfulStore.Valid start) (bare : (view start).Bare)
    (quiet : ∀ c ∈ cs, c.disturbs = false) : (view st).Bare := by
  induction cs generalizing st with
  | nil => exact (h : st = start) ▸ bare
  | cons c cs ih =>
    have before := ih h.2 fun d mem => quiet d (List.mem_cons_of_mem _ mem)
    have moves := (h.1.moves (h.2.valid valid).1).2
    obtain ⟨calm, room⟩ := Bool.or_eq_false_iff.mp (quiet c List.mem_cons_self)
    exact moves.bare calm before (Call.room_of_take · room)

/-- After a reset that a Logon asked for with ResetSeqNumFlag, the store is at its start. -/
lemma Linked.renewed {start st : σ} {msg} {p : Call σ} {recent rest : List (Call σ)}
    (h : Linked start (recent ++ p :: rest) st) (valid : LawfulStore.Valid start)
    (asked : ∀ d ∈ recent, Asked msg p.session d.event)
    (noReload : p.session.cfg.refreshOnLogon = false)
    (reset : ∃ d ∈ recent, d.event = .reset .resetFlag (.ok ())) :
    view st = ⟨1, 1, fun _ => none⟩ := by
  induction recent generalizing st with
  | nil =>
    obtain ⟨d, mem, -⟩ := reset
    cases mem
  | cons c recent ih =>
    have moves := (h.1.moves (h.2.valid valid).1).2
    have last := asked c List.mem_cons_self
    have before (done : ∃ d ∈ recent, d.event = .reset .resetFlag (.ok ())) :=
      ih h.2 (fun d mem => asked d (List.mem_cons_of_mem _ mem)) done
    cases ev : c.event with
    | reset site res =>
      rw [ev] at moves
      cases res with
      | ok _ => exact moves
      | error e =>
        obtain ⟨d, mem, done⟩ := reset
        cases mem with
        | head =>
          rw [ev] at done
          cases done
        | tail _ mem =>
          have moves : Done (.error e) (view c.session.store) (view st) _ := moves
          exact moves.elim (fun same => same.trans (before ⟨d, mem, done⟩)) id
    | refresh res =>
      rw [ev] at last
      cases last with
      | refresh _ setting =>
        rw [noReload] at setting
        cases setting
    | _ =>
      rw [ev] at last
      cases last

end Store

section Runs

variable {σ ω : Type} [Chrono] [MessageStore σ] [Application ω] [Runtime ω]

/-- Giving up the connection announces nothing. -/
lemma GivenUp.announces {s t : Sys σ ω} (left : GivenUp s t) (h : Announces s.trace) :
    Announces t.trace := by
  have noted : Announces (⟨s.session, .log .disconnecting⟩ :: s.trace) := h.other rfl (by simp)
  refine left.elim (P := fun t => Announces t.trace) (fun cut => ?_) fun _ h => h.other rfl (by simp)
  cases cut with
  | kept => exact noted
  | reset => exact noted.other rfl (by simp)

/-- The outbound half shows a Logon right after it announced it. -/
lemma SendAct.announces {fresh} {s t : Sys σ ω} (act : SendAct fresh s t)
    (h : Announces s.trace) : Announces t.trace := by
  cases act with
  | quiet | adopt | logon => exact h
  | cut _ _ left => exact left.announces h
  | @announce line logon isFresh now w own =>
    refine ⟨⟨⟨?_, askedFor_elsewhere (by simp)⟩, ⟨?_, askedFor_elsewhere (by simp)⟩, h.along⟩, ?_⟩
    · intro d rest split _
      cases split
      exact ⟨line, logon, now, _, rfl, own, rfl⟩
    · intro d rest split announces
      have last := h.head d (by rw [split]; rfl)
      rw [last] at announces
      cases announces
    · intro d head
      cases head
      rfl
  | _ => exact h.other rfl (by simp)

/-- The handlers reset for a Logon what it asks for. -/
lemma HandleAct.announces {resets} {s t : Sys σ ω} (act : HandleAct resets s t)
    (h : Announces s.trace) : Announces t.trace := by
  cases act with
  | send act => exact act.announces h
  | receivingReset | endingResets | logon | supersede => exact h
  | @reset origin msg p site now due prep asked =>
    refine h.cons rfl fun site' res ev _ => ?_
    obtain ⟨recent, rest, trace, all⟩ := prep.log
    exact ⟨p, origin, msg, by rw [trace, lastTaken_asked prep.taken all], prep.taken, asked _⟩
  | deliver => exact (h.other rfl (by simp)).other rfl (by simp)
  | stashAndExpect => exact ((h.other rfl (by simp)).other rfl (by simp)).other rfl (by simp)
  | _ => exact h.other rfl (by simp)

/-- Every act shows a Logon right after it announced it, and resets for a Logon what it asks for. -/
lemma Act.announces {s t : Sys σ ω} (act : Act s t) (h : Announces s.trace) :
    Announces t.trace := by
  cases act with
  | handle act => exact act.announces h
  | send act => exact act.announces h
  | ask => exact h
  | cut _ left => exact left.announces h
  | endLogout _ _ left => exact left.announces (h.other rfl (by simp))
  | reset site now idle =>
    refine h.cons rfl (askedFor_elsewhere ?_)
    rintro _ _ ⟨⟩
    rcases idle with rfl | rfl | ⟨rfl, -⟩ <;> exact ⟨nofun, nofun⟩
  | _ => exact h.other rfl (by simp)

/-! ## Runs -/

variable [LawfulStore σ]

/-- What is promised of a Logon that starts a logon exchange. -/
def InitiatedTruthfully (d : Call σ) (rest : List (Call σ)) (m : Message) : Prop :=
  m.bodyFlag Tags.resetSeqNumFlag = true → d.session.cfg.sendResetSeqNumFlag = false →
    m.header.getRaw Tags.msgSeqNum = some (ascii "1") ∧ d.nextSender = 1 ∧ d.nextTarget = 1 ∧
      ((∀ c ∈ rest, c.disturbs = false) → ∀ k, LawfulStore.messages d.session.store k = none)

/-- What is promised of a Logon that answers the one taken up last. -/
def RespondedTruthfully (d : Call σ) (rest : List (Call σ)) (m : Message) : Prop :=
  ∃ p origin msg, lastTaken rest = some p ∧ p.event = .process origin msg ∧
    (msg.bodyFlag Tags.resetSeqNumFlag = true → p.session.sentReset = false →
      p.session.cfg.refreshOnLogon = false →
        m.header.getRaw Tags.msgSeqNum = some (ascii "1") ∧
          view d.session.store = ⟨1, 1, fun _ => none⟩)

/-- The Logons of a session are truthful about resets. -/
structure Sys.TruthfulResets (s : Sys σ ω) : Prop where
  initiated : ∀ d rest logon, d :: rest <:+ s.trace → d.event = .log (.initiatedLogon logon) →
    ∃ m m', ⟨d.session, .toAdmin m m'⟩ :: d :: rest <:+ s.trace ∧ InitiatedTruthfully d rest m
  responded : ∀ d rest logon, d :: rest <:+ s.trace → d.event = .log (.respondingToLogon logon) →
    ∃ m m', ⟨d.session, .toAdmin m m'⟩ :: d :: rest <:+ s.trace ∧ RespondedTruthfully d rest m
  /-- A reset for a Logon is for none that answers our own. -/
  echoed : ∀ d rest site res, d :: rest <:+ s.trace → d.event = .reset site res →
    site = .resetFlag ∨ site = .logon →
      ∃ p origin msg, lastTaken rest = some p ∧ p.event = .process origin msg ∧
        ¬ (msg.bodyFlag Tags.resetSeqNumFlag = true ∧ p.session.sentReset = true)

/-- The flag of a Logon is the one it was given. -/
lemma Session.bodyFlag_logonMessage (x : Session σ) (reset next) :
    (x.logonMessage reset next).bodyFlag Tags.resetSeqNumFlag = reset := by
  unfold logonMessage
  cases reset <;> cases x.cfg.defaultApplVerId <;> cases x.sendNextExpected <;>
    simp +decide [Message.bodyFlag, Message.set, Message.setFlag, Message.setOption, Message.withType]

/-- The Logon that starts a logon exchange asks for a reset only at the start of both counters, unless
it always does. -/
lemma Session.logonRequest_flag {x : Session σ}
    (flag : x.logonRequest.bodyFlag Tags.resetSeqNumFlag = true)
    (free : x.cfg.sendResetSeqNumFlag = false) :
    nextSenderSeqNum x.store = 1 ∧ nextTargetSeqNum x.store = 1 := by
  rw [logonRequest, bodyFlag_logonMessage, shouldReset, free] at flag
  simp only [Bool.false_or, Bool.and_eq_true, decide_eq_true_eq] at flag
  exact ⟨flag.1.2, flag.2⟩

/-- A message that is filled when the next sender number is 1 is numbered 1. -/
lemma Session.numbered_one {x : Session σ} (now) (m : Message) (start : nextSenderSeqNum x.store = 1) :
    (x.filledHeader now m).header.getRaw Tags.msgSeqNum = some (ascii "1") := by
  rw [msgSeqNum_filledHeader, start]
  decide

/-- The Logons of every run are truthful about resets. -/
theorem logons_truthful (cfg : SessionConfig) (dictionary adminDictionary : Option DataDictionary)
    (store : σ) (now : Nat) (world : ω) (inputs : List Input) (valid : LawfulStore.Valid store)
    (bare : (view store).Bare) :
    (Sys.ran cfg dictionary adminDictionary store now world inputs).TruthfulResets := by
  have shown : Announces (Sys.ran cfg dictionary adminDictionary store now world inputs).trace :=
    ran_keeps (I := fun s => Announces s.trace) Act.announces announces_nil
  have linked : (Sys.ran cfg dictionary adminDictionary store now world inputs).Linked store :=
    linked_ran
  constructor
  case initiated =>
    intro d rest logon suf ev
    obtain ⟨c, suf', next⟩ := shown.next suf (by rw [ev]; rfl)
    obtain ⟨line, logon', now, m', ev', own, rfl⟩ := next d rest rfl (by rw [ev]; rfl)
    rw [ev] at ev'
    cases ev'
    cases own with
    | initiated =>
      refine ⟨_, m', suf', fun flag free => ?_⟩
      rw [Message.bodyFlag, Session.body_filledHeader] at flag
      obtain ⟨sender, target⟩ := Session.logonRequest_flag flag free
      refine ⟨Session.numbered_one _ _ sender, sender, target, fun quiet k => ?_⟩
      exact ((linked.of_suffix suf).bare valid bare quiet).2 sender k
  case responded =>
    intro d rest logon suf ev
    obtain ⟨c, suf', next⟩ := shown.next suf (by rw [ev]; rfl)
    obtain ⟨line, logon', now, m', ev', own, rfl⟩ := next d rest rfl (by rw [ev]; rfl)
    rw [ev] at ev'
    cases ev'
    cases own with
    | @responding msg e what older computed passed =>
      obtain ⟨c, p, older, rfl, answered, ⟨origin, taken⟩, recent, rest, rfl, asked, done⟩ := passed
      refine ⟨_, m', suf', p, origin, msg, ?_, taken, fun flag own noReload => ?_⟩
      · rw [lastTaken, List.find?_cons, computed, List.find?_cons, answered]
        exact lastTaken_asked taken asked
      · have start := linked.of_suffix suf
        have renewed := start.2.2.renewed valid asked noReload (done flag own)
        have first := start.1
        have second := start.2.1
        rw [computed] at first
        rw [answered] at second
        have here : view d.session.store = ⟨1, 1, fun _ => none⟩ := by
          rw [show d.session.store = _ from first, show e.session.store = _ from second, renewed]
        exact ⟨Session.numbered_one _ _ (congrArg StoreView.nextSender here), here⟩
  case echoed =>
    intro d rest site res suf ev atLogon
    obtain ⟨p, origin, msg, last, taken, asked⟩ :=
      (along_iff.mp shown.along d rest suf).2 site res ev atLogon
    refine ⟨p, origin, msg, last, taken, fun ⟨flag, own⟩ => ?_⟩
    rw [ev] at asked
    cases asked with
    | resetFlag _ notOwn =>
      rw [own] at notOwn
      cases notOwn
    | logon _ _ _ noFlag =>
      rw [flag] at noFlag
      cases noFlag

end Runs

namespace Script

/-- A Logon of the peer that asks for a reset. -/
def resettingLogon : Bytes :=
  ((fromPeer MsgType.logon 1).set Tags.resetSeqNumFlag true).toBytes

/-- An acceptor that reports the next number it expects. -/
def expecting : SessionConfig := { acceptor with sendNextExpectedMsgSeqNum := true }

/-- An order is stored; such a Logon comes, the connection is lost, and it comes again. -/
def resetTwice : List Input :=
  [.send plainOrder, .attach, .inbound resettingLogon, .closed, .attach, .inbound resettingLogon]

/-- Whether a Logon is answered by one that carries ResetSeqNumFlag=Y. -/
def answersReset : Event → Bool
  | .log (.respondingToLogon logon) => logon.bodyFlag Tags.resetSeqNumFlag
  | _ => false

/-- Both are answered with ResetSeqNumFlag=Y, truthfully. -/
theorem logons_truthful_resetTwice :
    letI := epochDay
    ((play expecting {} resetTwice).trace.filter (answersReset ·.event)).length = 2 ∧
      (play expecting {} resetTwice).TruthfulResets :=
  letI := epochDay
  ⟨by decide +kernel,
    logons_truthful expecting none none ({ creationTime := 0 } : MemoryStore) 0 ({} : Script) resetTwice
      (MemoryStore.valid_empty 0) ⟨le_refl 1, fun _ _ => rfl⟩⟩

end Script

/-- Every Logon with ResetSeqNumFlag=Y that is stored and handed on is numbered 1. -/
structure Sys.FlagsFirst {σ ω : Type} (s : Sys σ ω) : Prop where
  all : ∀ c d e rest raw n raw' res m m', c :: d :: e :: rest <:+ s.trace →
    c.event = .transmit raw → d.event = .save n raw' res → e.event = .toAdmin m m' →
      m'.msgTypeOrDefault = MsgType.logon → m'.bodyFlag Tags.resetSeqNumFlag = true → n = 1

/-- Whether the last Logon was handed on with ResetSeqNumFlag=Y under another number. -/
def flaggedLater {σ : Type} : List (Call σ) → Bool
  | _ :: c :: d :: e :: _ =>
    match c.event, d.event, e.event with
    | .transmit _, .save n .., .toAdmin _ m =>
      decide (m.msgTypeOrDefault = MsgType.logon) && m.bodyFlag Tags.resetSeqNumFlag && decide (n ≠ 1)
    | _, _, _ => false
  | _ => false

/-- A Logon that carries the flag under another number does not carry it under the first. -/
lemma not_flagsFirst {σ ω : Type} {s : Sys σ ω} (h : flaggedLater s.trace = true) :
    ¬ s.FlagsFirst := by
  intro first
  unfold flaggedLater at h
  split at h
  case h_1 w c d e rest trace =>
    split at h
    case h_1 raw n raw' res m m' transmit save callback =>
      simp only [Bool.and_eq_true, decide_eq_true_eq] at h
      have suf : c :: d :: e :: rest <:+ s.trace := by
        rw [trace]
        exact List.suffix_cons _ _
      exact h.2 (first.all c d e rest _ _ _ _ _ _ suf transmit save callback h.1.1 h.1.2)
    case h_2 => cases h
  case h_2 => cases h

/-- With SendResetSeqNumFlag, a Logon carries ResetSeqNumFlag=Y under number 2: nothing was reset. -/
theorem not_flagsFirst_sendFlag :
    ¬ (Script.play { Script.initiator with sendResetSeqNumFlag := true } {}
      [.send (.withType (ascii "D")), .attach]).FlagsFirst :=
  not_flagsFirst (by decide +kernel)

end QuickFix
