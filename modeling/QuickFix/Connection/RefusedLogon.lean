import QuickFix.Sending.ResetFlag

/-!
# What a Logon does to the store

A Logon is verified after the resets and reloads it asks for, so a refused Logon wipes the store when
it asks for that: with ResetSeqNumFlag=Y, or of an acceptor with ResetOnLogon or RefreshOnLogon. Any
other Logon, refused or not, leaves the messages in the store and the next sender number where they
are, but for what is sent.
-/

namespace QuickFix

set_option mvcgen.warning false
set_option linter.unusedSectionVars false

open Std.Do MessageStore

/-- Whether stored messages may go, or the next sender number down. -/
def Event.wipes : Event → Bool
  | .reset .. | .refresh _ | .setSender .. => true
  | _ => false

/-! ## Stores that keep their messages -/

section Store

variable {σ : Type} [MessageStore σ] [LawfulStore σ]

/-- In the states `Retains`, saving a message drops no other one. -/
class RetainingStore (σ : Type) [MessageStore σ] [LawfulStore σ] where
  Retains : σ → Prop
  retains : ∀ (e : Event) st st', Retains st → e.Effect st st' → Retains st'
  save : ∀ n raw st, Retains st → ∀ k r, k ≠ n → LawfulStore.messages st k = some r →
    LawfulStore.messages (saveMessage n raw st).2 k = some r

namespace MemoryStore

/-- Counting keeps the capacity. -/
lemma capacity_incrNextSenderSeqNum (st : MemoryStore) :
    (incrNextSenderSeqNum st).2.capacity = st.capacity := rfl

/-- Counting keeps the capacity. -/
lemma capacity_incrNextTargetSeqNum (st : MemoryStore) :
    (incrNextTargetSeqNum st).2.capacity = st.capacity := rfl

/-- Without a capacity nothing is trimmed. -/
lemma trim_unbounded {st : MemoryStore} (kept : st.capacity = none) : trim st = st := by
  rw [trim, kept]

/-- A memory store without a capacity keeps its messages. -/
instance : RetainingStore MemoryStore where
  Retains st := st.capacity = none
  retains e st st' kept effect := by
    cases e with
    | incrSender res =>
      have after := congrArg Prod.snd (show incrNextSenderSeqNum st = (res, st') from effect)
      rw [← show _ = st' from after, capacity_incrNextSenderSeqNum, kept]
    | incrTarget res =>
      have after := congrArg Prod.snd (show incrNextTargetSeqNum st = (res, st') from effect)
      rw [← show _ = st' from after, capacity_incrNextTargetSeqNum, kept]
    | setSender n res => exact congrArg MemoryStore.capacity (Prod.mk.inj effect.2).2 ▸ kept
    | setTarget setter n res => exact congrArg MemoryStore.capacity (Prod.mk.inj effect.2).2 ▸ kept
    | save n raw res =>
      have after := congrArg Prod.snd (show saveMessageAndIncr n raw st = (res, st') from effect)
      rw [← show _ = st' from after]
      simp only [saveMessageAndIncr, saveMessage]
      have unbounded : ({ st with messages := st.messages.insert n raw } : MemoryStore).capacity =
          none := kept
      rw [capacity_incrNextSenderSeqNum, trim_unbounded unbounded, unbounded]
    | getMessages b e => exact congrArg MemoryStore.capacity (show st = st' from effect) ▸ kept
    | refresh res =>
      obtain ⟨now, effect⟩ := effect
      exact congrArg MemoryStore.capacity (Prod.mk.inj effect).2 ▸ kept
    | reset site res =>
      obtain ⟨now, effect⟩ := effect
      exact congrArg MemoryStore.capacity (Prod.mk.inj effect).2 ▸ kept
    | _ => exact (show st' = st from effect) ▸ kept
  save n raw st kept k r ne held := by
    have unbounded : ({ st with messages := st.messages.insert n raw } : MemoryStore).capacity =
        none := kept
    simp only [saveMessage]
    rw [trim_unbounded unbounded]
    show (st.messages.insert n raw)[k]? = some r
    rw [SeqMap.get_insert, if_neg (Ne.symm ne)]
    exact held

end MemoryStore

/-- What a message is worth after calls: it is still there, unless it was saved anew. -/
def KeptOrSaved (recent : List (Call σ)) (st st' : σ) : Prop :=
  ∀ k r, LawfulStore.messages st k = some r → LawfulStore.messages st' k = some r ∨
    ∃ c ∈ recent, ∃ raw res, c.event = .save k raw res

variable [RetainingStore σ]

/-- Saving a message and counting it drops no other one. -/
lemma saveMessageAndIncr_keeps {n raw} {st : σ} (valid : LawfulStore.Valid st)
    (retains : RetainingStore.Retains st) {k r} (ne : k ≠ n)
    (held : LawfulStore.messages st k = some r) :
    LawfulStore.messages (saveMessageAndIncr n raw st).2 k = some r := by
  have saved := RetainingStore.save n raw st retains k r ne held
  have valid := (LawfulStore.save n raw st valid).1
  unfold saveMessageAndIncr
  split
  case h_1 e st' same =>
    rw [same] at saved
    exact saved
  case h_2 st' same =>
    rw [same] at saved valid
    obtain ⟨-, counted⟩ := (LawfulStore.incrSender st' valid).done
    have messages : (view (incrNextSenderSeqNum st').2).messages = (view st').messages :=
      counted.elim (congrArg StoreView.messages) (congrArg StoreView.messages)
    exact (congrFun messages k).trans saved

/-- An event that does not wipe the store lowers no number, but past the end of its range, and drops no
message. -/
lemma Event.Effect.keeps {e : Event} {st st' : σ} (h : e.Effect st st')
    (valid : LawfulStore.Valid st) (retains : RetainingStore.Retains st) (quiet : e.wipes = false) :
    ((e.mayTake = true → nextSenderSeqNum st + 1 < 2 ^ 64) →
      nextSenderSeqNum st ≤ nextSenderSeqNum st') ∧
      ∀ k r, LawfulStore.messages st k = some r → LawfulStore.messages st' k = some r ∨
        ∃ raw res, e = .save k raw res := by
  have moves := (h.moves valid).2
  have one (room : nextSenderSeqNum st + 1 < 2 ^ 64)
      (moved : nextSenderSeqNum st' = incremented (nextSenderSeqNum st)) :
      nextSenderSeqNum st ≤ nextSenderSeqNum st' := by
    rw [moved, incremented_eq room]
    exact Nat.le_succ _
  have same (v : view st' = view st) :
      ((e.mayTake = true → nextSenderSeqNum st + 1 < 2 ^ 64) →
        nextSenderSeqNum st ≤ nextSenderSeqNum st') ∧
      ∀ k r, LawfulStore.messages st k = some r → LawfulStore.messages st' k = some r ∨
        ∃ raw res, e = .save k raw res :=
    ⟨fun _ => (congrArg StoreView.nextSender v).ge, fun k r held =>
      .inl ((congrFun (congrArg StoreView.messages v) k).trans held)⟩
  cases e with
  | incrSender res =>
    refine Done.elim moves same fun v => ⟨?_, fun k r held => .inl ?_⟩
    · exact fun room => one (room rfl) (congrArg StoreView.nextSender v)
    · exact (congrFun (congrArg StoreView.messages v) k).trans held
  | incrTarget res | setTarget _ n res =>
    refine Done.elim moves same fun v => ⟨?_, fun k r held => .inl ?_⟩
    · exact fun _ => (congrArg StoreView.nextSender v).ge
    · exact (congrFun (congrArg StoreView.messages v) k).trans held
  | save n raw res =>
    refine ⟨fun room => ?_, fun k r held => ?_⟩
    · have moved := moves.2.2
      cases res with
      | ok _ => exact one (room rfl) moved.1
      | error e => exact moved.elim Eq.ge (one (room rfl))
    · by_cases own : k = n
      · exact .inr ⟨raw, res, by rw [own]⟩
      · have after := congrArg Prod.snd (show saveMessageAndIncr n raw st = (res, st') from h)
        rw [← show _ = st' from after]
        exact .inl (saveMessageAndIncr_keeps valid retains own held)
  | setSender | refresh | reset => cases quiet
  | _ => exact same moves

/-- Calls that do not wipe the store lower no number, but past the end of its range, and drop no
message. -/
lemma Linked.keeps {start st : σ} {cs : List (Call σ)} (h : Linked start cs st)
    (valid : LawfulStore.Valid start) (retains : RetainingStore.Retains start)
    (quiet : ∀ c ∈ cs, c.event.wipes = false) :
    ((∀ c ∈ cs, c.wrapsSender = false) → nextSenderSeqNum start ≤ nextSenderSeqNum st) ∧
      KeptOrSaved cs start st := by
  suffices RetainingStore.Retains st ∧
      ((∀ c ∈ cs, c.wrapsSender = false) → nextSenderSeqNum start ≤ nextSenderSeqNum st) ∧
        KeptOrSaved cs start st from this.2
  induction cs generalizing st with
  | nil =>
    cases (h : st = start)
    exact ⟨retains, fun _ => le_refl _, fun k r held => .inl held⟩
  | cons c cs ih =>
    obtain ⟨before, le, kept⟩ := ih h.2 fun d mem => quiet d (List.mem_cons_of_mem _ mem)
    obtain ⟨le', kept'⟩ := h.1.keeps (h.2.valid valid).1 before (quiet c List.mem_cons_self)
    refine ⟨RetainingStore.retains _ _ _ before h.1, fun room => ?_, fun k r held => ?_⟩
    · have here := le' fun taken => Call.room_of_take taken (room c List.mem_cons_self)
      exact (le fun d mem => room d (List.mem_cons_of_mem _ mem)).trans here
    rcases kept k r held with held | ⟨d, mem, raw, res, ev⟩
    · rcases kept' k r held with held | ⟨raw, res, ev⟩
      · exact .inl held
      · exact .inr ⟨c, List.mem_cons_self, raw, res, ev⟩
    · exact .inr ⟨d, List.mem_cons_of_mem _ mem, raw, res, ev⟩

end Store

/-! ## Handling a Logon -/

section Handling

variable {σ ω : Type} [Chrono] [MessageStore σ] [Application ω] [Runtime ω]

/-- What may wipe the store while a Logon is handled: what it asks for, or the setting to reset when
the connection is lost. -/
def MayWipe (msg : Message) (x : Session σ) (c : Call σ) : Prop :=
  Asked msg x c.event ∨
    c.session.cfg.resetOnDisconnect = true ∧ ∃ res, c.event = .reset .disconnect res

/-- The calls take nothing up, and wipe the store only where they may. -/
def Sparing (msg : Message) (x : Session σ) (recent : List (Call σ)) : Prop :=
  ∀ c ∈ recent, c.event.isProcess = false ∧ (c.event.wipes = true → MayWipe msg x c)

/-- No calls wipe nothing. -/
lemma sparing_nil {msg} {x : Session σ} : Sparing msg x [] := List.forall_mem_nil _

/-- Sending wipes the store only when the connection is lost. -/
lemma SendAct.sparing {msg} {x : Session σ} {fresh} {s t : Sys σ ω} (act : SendAct fresh s t) :
    ∃ recent, t.trace = recent ++ s.trace ∧ Sparing msg x recent := by
  obtain ⟨recent, trace, sends⟩ := act.trace
  refine ⟨recent, trace, fun c mem => ?_⟩
  obtain ⟨isSend, resets⟩ := sends c mem
  cases ev : c.event with
  | reset site res =>
    refine ⟨rfl, fun _ => .inr ⟨(resets site res ev).1, res, ?_⟩⟩
    rw [ev] at isSend
    cases site with
    | disconnect => exact ev
    | _ => cases isSend
  | process | setSender | refresh =>
    rw [ev] at isSend
    cases isSend
  | _ => exact ⟨rfl, nofun⟩

/-- A handler wipes the store only where the Logon taken up last asks for it, or when the connection
is lost. -/
lemma HandleAct.sparing {resets origin msg p} {s t : Sys σ ω} (act : HandleAct resets s t)
    (last : lastTaken s.trace = some p) (taken : p.event = .process origin msg) :
    ∃ recent, t.trace = recent ++ s.trace ∧ Sparing msg p.session recent := by
  have asks {origin' msg' p' e} (prep : Preparing origin' msg' p' s)
      (asked : Asked msg' p'.session e) : Asked msg p.session e := by
    obtain ⟨recent, rest, trace, all⟩ := prep.log
    obtain rfl : p' = p := by
      rw [trace, lastTaken_asked prep.taken all] at last
      exact Option.some.inj last
    cases prep.taken.symm.trans taken
    exact asked
  cases act with
  | send act => exact act.sparing
  | receivingReset | endingResets | logon | supersede => exact ⟨[], rfl, sparing_nil⟩
  | reset site now due prep asked =>
    exact ⟨[_], rfl, List.forall_mem_singleton.mpr ⟨rfl, fun _ => .inl (asks prep (asked _))⟩⟩
  | refresh now due prep asked =>
    exact ⟨[_], rfl, List.forall_mem_singleton.mpr ⟨rfl, fun _ => .inl (asks prep (asked _))⟩⟩
  | deliver => exact ⟨[_, _], rfl, by simp [Sparing, Event.isProcess, Event.wipes]⟩
  | stashAndExpect => exact ⟨[_, _, _], rfl, by simp [Sparing, Event.isProcess, Event.wipes]⟩
  | _ => exact ⟨[_], rfl, by simp [Sparing, Event.isProcess, Event.wipes]⟩

/-- What takes nothing up leaves what was taken up last. -/
lemma Sparing.lastTaken {msg} {x : Session σ} {recent rest : List (Call σ)}
    (h : Sparing msg x recent) : lastTaken (recent ++ rest) = lastTaken rest := by
  have none : recent.find? (·.event.isProcess) = none := by
    rw [List.find?_eq_none]
    intro d mem
    simp [(h d mem).1]
  rw [QuickFix.lastTaken, List.find?_append, none]
  rfl

/-- Handling a message wipes the store only where the Logon asks for it, or when the connection is
lost. -/
lemma Handles.sparing {origin msg p} {s t : Sys σ ω} (run : Handles s t)
    (last : lastTaken s.trace = some p) (taken : p.event = .process origin msg) :
    ∃ recent, Leads recent s t ∧ Sparing msg p.session recent := by
  induction run with
  | refl => exact ⟨[], ⟨rfl, rfl⟩, sparing_nil⟩
  | @tail t u _ act ih =>
    obtain ⟨recent, leads, sparing⟩ := ih
    obtain ⟨more, leads'⟩ := act.leads
    obtain ⟨more', trace, sparing'⟩ :=
      act.sparing (by rw [leads.1, sparing.lastTaken, last]) taken
    obtain rfl : more = more' := List.append_cancel_right (leads'.1.symm.trans trace)
    exact ⟨_, leads.trans leads', List.forall_mem_append.mpr ⟨sparing', sparing⟩⟩

/-- The system after a Logon was taken up and handled. -/
def Sys.handlingLogon (origin : Origin) (msg : Message) (s : Sys σ ω) : Sys σ ω :=
  (s.called (.process origin msg) s.world).after (Session.handleLogon msg).run

variable [LawfulStore σ] [RetainingStore σ]

/-- Whatever may have wiped the store was asked for by the Logon or by the settings. Without that, every
message is still there, and the next sender number has not decreased unless it ran past the end of its
range. -/
structure Spared (msg : Message) (recent : List (Call σ)) (s t : Sys σ ω) : Prop where
  wiped : ∀ c ∈ recent, c.event.wipes = true → MayWipe msg s.session c
  kept : (∀ c ∈ recent, c.event.wipes = false) →
    ((∀ c ∈ recent, c.wrapsSender = false) → s.nextSender ≤ t.nextSender) ∧
      KeptOrSaved recent s.session.store t.session.store

/-- A Logon that is handled, refused or not, spares the store unless it or the settings ask for a reset
or a reload. -/
theorem handleLogon_spares (origin : Origin) (msg : Message) (s : Sys σ ω)
    (valid : LawfulStore.Valid s.session.store) (retains : RetainingStore.Retains s.session.store)
    (type : msg.msgTypeOrDefault = MsgType.logon) :
    ∃ recent, (s.handlingLogon origin msg).trace =
        recent ++ ⟨s.session, .process origin msg⟩ :: s.trace ∧
      Spared msg recent s (s.handlingLogon origin msg) := by
  have handles {s0 : Sys σ ω} (up : TakenUp origin msg s0) :
      ⦃fun s => ⌜s = s0⌝⦄ (Session.handleLogon msg).run ⦃⇓ _ s => ⌜Handles s0 s⌝⦄ := by
    have handle := handleLogon_spec up type
    mvcgen [handle]
  have run : Handles (s.called (.process origin msg) s.world) (s.handlingLogon origin msg) :=
    handles (takenUp_called s origin msg) _ rfl
  obtain ⟨recent, leads, sparing⟩ := run.sparing rfl rfl
  refine ⟨recent, leads.1, fun c mem => (sparing c mem).2, fun quiet => ?_⟩
  exact leads.2.keeps valid retains quiet

end Handling

namespace Script

/-- A Logon of somebody else. -/
def strangersLogon : Message :=
  (fromPeer MsgType.logon 1).setHeader Tags.senderCompId (ascii "X")

/-- An acceptor that has stored an order and is connected again. -/
def holding : Sys MemoryStore Script := play acceptor {} [.send plainOrder, .attach]

/-- A Logon of somebody else is refused; the store keeps the order and its number. -/
theorem handleLogon_spares_stranger :
    letI := epochDay
    (holding.handlingLogon .wire strangersLogon).session.receivedLogon = false ∧
      ∃ recent, (holding.handlingLogon .wire strangersLogon).trace =
          recent ++ ⟨holding.session, .process .wire strangersLogon⟩ :: holding.trace ∧
        Spared strangersLogon recent holding (holding.handlingLogon .wire strangersLogon) := by
  let := epochDay
  have valid : LawfulStore.Valid holding.session.store := ⟨by decide +kernel, by decide +kernel⟩
  have type : strangersLogon.msgTypeOrDefault = MsgType.logon := by decide
  exact ⟨by decide +kernel, handleLogon_spares .wire strangersLogon holding valid rfl type⟩

end Script

section Refusal

variable {σ ω : Type} [Chrono] [MessageStore σ] [Application ω] [Runtime ω]

/-- When the Logon is refused, the next sender number has not decreased. -/
structure Sys.KeepsWhenRefused (msg : Message) (s : Sys σ ω) : Prop where
  kept : (s.handlingLogon .wire msg).session.receivedLogon = false →
    s.nextSender ≤ (s.handlingLogon .wire msg).nextSender

/-- Whether the Logon is refused and the next sender number decreased. -/
def wipedByRefused (msg : Message) (s : Sys σ ω) : Bool :=
  !(s.handlingLogon .wire msg).session.receivedLogon &&
    decide ((s.handlingLogon .wire msg).nextSender < s.nextSender)

/-- A number that decreased was not kept. -/
lemma not_keepsWhenRefused {msg} {s : Sys σ ω} (h : wipedByRefused msg s = true) :
    ¬ s.KeepsWhenRefused msg := by
  intro keeps
  simp only [wipedByRefused, Bool.and_eq_true, Bool.not_eq_true', decide_eq_true_eq] at h
  exact absurd (keeps.kept h.1) (Nat.not_le.mpr h.2)

end Refusal

/-- A Logon of somebody else with ResetSeqNumFlag=Y is refused, after the store was reset. -/
theorem not_keepsWhenRefused_stranger :
    letI := epochDay
    ¬ (Script.play Script.acceptor {} [.setSeqNums (some 5) none, .attach]).KeepsWhenRefused
      (Script.strangersLogon.set Tags.resetSeqNumFlag true) :=
  letI := epochDay
  not_keepsWhenRefused (by decide +kernel)

end QuickFix
