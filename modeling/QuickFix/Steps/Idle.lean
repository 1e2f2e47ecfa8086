import QuickFix.Steps.Run

/-!
# Sessions without a connection

Both sides of a connection come and go together. A session that has none gets one by an attached
connection only, and writes nothing before.
-/

namespace QuickFix

set_option mvcgen.warning false
set_option linter.unusedSectionVars false

open Std.Do Session

variable {σ ω : Type} [Chrono] [MessageStore σ] [Application ω] [Runtime ω]

/-! ## The sides of a connection -/

/-- Both sides of a connection are there, or none. -/
def Sided (s : Sys σ ω) : Prop := s.session.inbound = s.session.outbound

/-- Giving up the connection takes both of its sides. -/
lemma GivenUp.sided {s t : Sys σ ω} (h : GivenUp s t) : Sided t := by
  apply h.elim
  · intro u cut
    cases cut <;> rfl
  · intro u _ sided
    exact sided

/-- Every act keeps the sides together. -/
lemma Act.sided {s t : Sys σ ω} (act : Act s t) (h : Sided s) : Sided t := by
  cases act with
  | handle act =>
    cases act with
    | send act =>
      cases act with
      | cut _ _ left => exact left.sided
      | _ => exact h
    | _ => exact h
  | send act =>
    cases act with
    | cut _ _ left => exact left.sided
    | _ => exact h
  | attach => rfl
  | cut _ left | endLogout _ _ left => exact left.sided
  | _ => exact h

/-- In every run the sides of the connection come and go together. -/
lemma sided_ran {cfg : SessionConfig} {dictionary adminDictionary : Option DataDictionary} {store : σ}
    {now : Nat} {world : ω} {inputs : List Input} :
    Sided (.ran cfg dictionary adminDictionary store now world inputs) := ran_keeps Act.sided rfl

/-! ## Without a connection -/

/-- Whether an event hands bytes to the write task. -/
def Event.handsOver : Event → Bool
  | .write .. => true
  | _ => false

/-- The session has no connection, and wrote nothing since its trace was `earlier`. -/
structure Unplugged (earlier : List (Call σ)) (s : Sys σ ω) : Prop where
  outbound : s.session.outbound = false
  inbound : s.session.inbound = false
  silent : ∃ recent, s.trace = recent ++ earlier ∧ ∀ c ∈ recent, c.event.handsOver = false

variable {earlier : List (Call σ)} {s t : Sys σ ω}

/-- A session that is unplugged is not connected. -/
lemma Unplugged.off (h : Unplugged earlier s) : ¬ s.Connected := by
  simp [Sys.Connected, h.outbound, h.inbound]

/-- One more call that hands nothing over. -/
lemma Unplugged.cons {c} (h : Unplugged earlier s) (outbound : t.session.outbound = s.session.outbound)
    (inbound : t.session.inbound = s.session.inbound) (trace : t.trace = c :: s.trace)
    (quiet : c.event.handsOver = false) : Unplugged earlier t := by
  obtain ⟨recent, tr, silent⟩ := h.silent
  exact ⟨outbound.trans h.outbound, inbound.trans h.inbound, c :: recent, by rw [trace, tr]; rfl,
    List.forall_mem_cons.mpr ⟨quiet, silent⟩⟩

/-- One more store operation. -/
lemma unplugged_stored {e} {st : σ} (h : Unplugged earlier s) (quiet : e.handsOver = false := by rfl) :
    Unplugged earlier (s.stored e st) := h.cons rfl rfl rfl quiet

/-- One more call that hands nothing over, without an operation on the store. -/
lemma unplugged_called {e} {w : ω} (h : Unplugged earlier s) (quiet : e.handsOver = false := by rfl) :
    Unplugged earlier (s.called e w) := h.cons rfl rfl rfl quiet

/-- An update that leaves the connection alone. -/
lemma unplugged_updated {f : Session σ → Session σ} (h : Unplugged earlier s)
    (outbound : ∀ x, (f x).outbound = x.outbound := by intro _; rfl)
    (inbound : ∀ x, (f x).inbound = x.inbound := by intro _; rfl) : Unplugged earlier (s.updated f) :=
  ⟨(outbound _).trans h.outbound, (inbound _).trans h.inbound, h.silent⟩

/-- Reading a clock leaves the connection alone. -/
lemma unplugged_clock {w : ω} (h : Unplugged earlier s) :
    Unplugged earlier (Sys.mk s.session w s.trace) := ⟨h.outbound, h.inbound, h.silent⟩

/-- An act of the outbound half hands nothing over. -/
lemma SendAct.unplugged {fresh} (act : SendAct fresh s t) (h : Unplugged earlier s) :
    Unplugged earlier t := by
  cases act with
  | quiet | adopt | logon => exact ⟨h.outbound, h.inbound, h.silent⟩
  | logout => exact unplugged_updated (unplugged_called h)
  | announce => exact unplugged_called (unplugged_called h)
  | write _ connected => simp [h.outbound] at connected
  | cut _ connected => exact absurd connected h.off
  | _ => exact h.cons rfl rfl rfl rfl

/-- Neither does a run of the outbound half. -/
lemma Sends.unplugged (run : Sends s t) (h : Unplugged earlier s) : Unplugged earlier t :=
  runs_keep SendAct.unplugged run h

/-- Dropping the connection hands nothing over. -/
lemma Dropped.unplugged (drop : Dropped s t) (h : Unplugged earlier s) : Unplugged earlier t := by
  cases drop with
  | idle => exact h
  | cut connected => exact absurd connected h.off

/-- Sending a message hands nothing over. -/
@[local spec] lemma sendMessage_unplugged {msg} :
    ⦃fun (s : Sys σ ω) => ⌜Unplugged earlier s⌝⦄ sendMessage msg
    ⦃post⟨fun _ s => ⌜Unplugged earlier s⌝, fun _ s => ⌜Unplugged earlier s⌝⟩⦄ := by
  mvcgen
  all_goals exact fun sent => Sends.unplugged sent ‹_›

/-- Neither does disconnecting. -/
@[local spec] lemma disconnect_unplugged :
    ⦃fun (s : Sys σ ω) => ⌜Unplugged earlier s⌝⦄ disconnect ⦃⇓ _ s => ⌜Unplugged earlier s⌝⦄ := by
  mvcgen [disconnect_spec]
  exact fun drop => Dropped.unplugged drop ‹_›

/-- Neither does logging out. -/
@[local spec] lemma logOut_unplugged {reason} :
    ⦃fun (s : Sys σ ω) => ⌜Unplugged earlier s⌝⦄ logOut reason ⦃⇓ _ s => ⌜Unplugged earlier s⌝⦄ := by
  mvcgen [logOut, initiateLogout, -sendMessage_spec]
  all_goals apply_rules [unplugged_updated, unplugged_called]

/-- Neither does logging on. -/
@[local spec] lemma logOn_unplugged :
    ⦃fun (s : Sys σ ω) => ⌜Unplugged earlier s⌝⦄ logOn ⦃⇓ _ s => ⌜Unplugged earlier s⌝⦄ := by
  mvcgen [logOn, sendLogon, -sendMessage_spec]
  all_goals apply_rules [unplugged_updated, unplugged_called]

/-- Neither does setting the numbers. -/
@[local spec] lemma onSetSeqNums_unplugged {sender target} :
    ⦃fun (s : Sys σ ω) => ⌜Unplugged earlier s⌝⦄ onSetSeqNums sender target
    ⦃⇓ _ s => ⌜Unplugged earlier s⌝⦄ := by
  mvcgen [onSetSeqNums, setNextSenderSeqNum, setNextTargetSeqNum, storeOp]
  all_goals apply_rules [unplugged_stored]

/-- No frame comes without a connection. -/
@[local spec] lemma onInbound_unplugged {raw} :
    ⦃fun (s : Sys σ ω) => ⌜Unplugged earlier s ∧ s.Connected⌝⦄ onInbound raw
    ⦃⇓ _ s => ⌜Unplugged earlier s⌝⦄ := by
  intro s off
  exact absurd off.2 off.1.off

/-- Neither does waiting for a Logout. -/
@[local spec] lemma awaitLogout_unplugged {deadline frames} :
    ⦃fun (s : Sys σ ω) => ⌜Unplugged earlier s⌝⦄ awaitLogout deadline frames
    ⦃⇓ _ s => ⌜Unplugged earlier s⌝⦄ := by
  induction frames with
  | nil => mvcgen [awaitLogout]
  | cons raw frames ih =>
    mvcgen [awaitLogout, instantNow, ih]
    case vc2.cons.isTrue.pre off waiting => exact ⟨unplugged_clock off, .inl waiting.1⟩
    all_goals apply_rules [unplugged_clock]

/-- Neither does stopping. -/
@[local spec] lemma onStop_unplugged {frames} :
    ⦃fun (s : Sys σ ω) => ⌜Unplugged earlier s⌝⦄ onStop frames ⦃⇓ _ s => ⌜Unplugged earlier s⌝⦄ := by
  mvcgen [onStop, instantNow]
  all_goals apply_rules [unplugged_clock]

/-- Neither does a look at the schedule. -/
@[local spec] lemma onScheduleTick_unplugged :
    ⦃fun (s : Sys σ ω) => ⌜Unplugged earlier s⌝⦄ onScheduleTick ⦃⇓ _ s => ⌜Unplugged earlier s⌝⦄ := by
  mvcgen [onScheduleTick, leave, storeReset, storeOp, utcNow]
  all_goals apply_rules [unplugged_stored, unplugged_clock, unplugged_updated]

/-- Without a connection, only an attached one makes a difference to that. -/
lemma step_unplugged {input} (other : input ≠ .attach) :
    ⦃fun (s : Sys σ ω) => ⌜Unplugged earlier s⌝⦄ step input ⦃⇓ _ s => ⌜Unplugged earlier s⌝⦄ := by
  mvcgen [step, onLogoutCommand, -sendMessage_spec]
  case vc8.h_7.isTrue off _ _ side => exact ⟨off, .inr side⟩
  case vc13.h_10.isTrue off _ due =>
    -- no deadline is set
    simp [nextProtocolDeadline, isConnected, off.outbound] at due

end QuickFix
