import QuickFix.Connection.Paired

/-!
# Who reaches the application

The logon state lets an application message pass once a Logon of the peer was accepted, or once this
side has sent a Logout. So whatever comes before the Logon, an application message is handed to
`from_app` only when a Logon of the connection has passed its callback, or a Logout is pending
(`delivered_authenticated`).
-/

namespace QuickFix

set_option linter.unusedSectionVars false

open Session Relation

section Calls

variable {σ : Type}

/-- Whether a connection is attached at a call. -/
def Call.attaches (c : Call σ) : Bool :=
  match c.event with
  | .attach => true
  | _ => false

/-- Whether a Logon of the peer passes its callback at a call. -/
def Call.passesLogon (c : Call σ) : Bool :=
  match c.event with
  | .fromAdmin msg (.ok _) => decide (msg.msgTypeOrDefault = MsgType.logon)
  | _ => false

/-- A Logon of the peer passed its callback on the connection. -/
def LogonSeen (cs : List (Call σ)) : Prop := ∃ d ∈ since Call.attaches cs, d.passesLogon = true

/-- The Logon of the peer was accepted on the connection. -/
def Admitted (c : Call σ) (earlier : List (Call σ)) : Prop :=
  c.session.receivedLogon = true ∧ LogonSeen earlier

/-- A message is delivered when the Logon of the peer was accepted on the connection. -/
def DeliversAdmitted (c : Call σ) (earlier : List (Call σ)) : Prop :=
  ∀ msg answer, c.event = .fromApp msg answer → Admitted c earlier

/-- A message is delivered when the Logon of the peer was accepted on the connection, or a Logout of
ours is pending. -/
def Authenticated (c : Call σ) (earlier : List (Call σ)) : Prop :=
  ∀ msg answer, c.event = .fromApp msg answer → Admitted c earlier ∨ c.session.sentLogout = true

/-- A Logon stays seen on its connection. -/
lemma LogonSeen.append {r cs : List (Call σ)} (h : LogonSeen cs)
    (stays : ∀ c ∈ r, c.attaches = false) : LogonSeen (r ++ cs) := by
  induction r with
  | nil => exact h
  | cons c r ih =>
    obtain ⟨here, later⟩ := List.forall_mem_cons.mp stays
    obtain ⟨d, mem, passes⟩ := ih later
    refine ⟨d, ?_, passes⟩
    rw [List.cons_append, since_cons, here]
    exact List.mem_cons_of_mem c mem

/-- Whether an event begins a connection or delivers an application message. -/
def Event.admits : Event → Bool
  | .attach | .fromApp .. => true
  | _ => false

/-- A call that delivers nothing. -/
lemma Authenticated.of_quiet {c : Call σ} {cs} (quiet : c.event.admits = false) :
    Authenticated c cs := by
  intro msg answer ev
  rw [ev] at quiet
  cases quiet

end Calls

section Runs

variable {σ ω : Type} [Chrono] [MessageStore σ] [Application ω] [Runtime ω]

/-- Where the Logon of the peer was accepted it was seen, and what was delivered was authenticated. -/
structure Vouched (s : Sys σ ω) : Prop where
  seen : s.session.receivedLogon = true → LogonSeen s.trace
  along : Along Authenticated s.trace

/-- Calls that neither attach nor deliver vouch for what they did before. -/
lemma Vouched.keep {s t : Sys σ ω} {r} (h : Vouched s) (tr : t.trace = r ++ s.trace)
    (quiet : ∀ c ∈ r, c.event.admits = false)
    (logon : t.session.receivedLogon = true → s.session.receivedLogon = true) : Vouched t where
  seen := fun received => by
    rw [tr]
    apply (h.seen (logon received)).append
    intro c mem
    have here := quiet c mem
    cases ev : c.event <;> simp_all [Call.attaches, Event.admits]
  along := by
    rw [tr]
    exact h.along.append fun c mem _ => .of_quiet (quiet c mem)

/-- A connection that is given up. -/
lemma Vouched.givenUp {s t : Sys σ ω} (h : Vouched s) (left : GivenUp s t) : Vouched t := by
  obtain ⟨recent, tr, sends⟩ := left.trace
  apply h.keep tr
  · intro c mem
    have send := (sends c mem).1
    cases ev : c.event <;> simp_all [Event.isSend, Event.admits]
  · intro received
    have detached : t.session.detached = t.session := left.isDetached
    rw [← detached] at received
    cases received

/-- An act of the outbound half keeps the session vouched for. -/
lemma SendAct.vouched {fresh} {s t : Sys σ ω} (act : SendAct fresh s t) (h : Vouched s) :
    Vouched t := by
  cases act with
  | quiet | adopt | logon => exact h.keep (r := []) rfl (by simp) id
  | announce => exact h.keep (r := [_, _]) rfl (by simp [Event.admits]) id
  | cut _ _ left => exact h.givenUp left
  | _ => exact h.keep (r := [_]) rfl (by simp [Event.admits]) id

/-- The logon state lets an application message pass after the Logon of the peer or our Logout. -/
lemma validLogonState_app {x : Session σ} {msg : Message} (app : msg.isAdmin = false)
    (state : x.validLogonState msg.msgTypeOrDefault = true) :
    x.receivedLogon = true ∨ x.sentLogout = true := by
  have other (mt : Bytes) (admin : MsgType.isAdmin mt = true) : msg.msgTypeOrDefault ≠ mt := by
    intro type
    rw [Message.isAdmin_of_type msg type admin] at app
    cases app
  have logon := other MsgType.logon (by decide)
  have logout := other MsgType.logout (by decide)
  have reset := other MsgType.sequenceReset (by decide)
  have reject := other MsgType.reject (by decide)
  simpa [validLogonState, logon, logout, reset, reject] using state

/-- So does an act of a handler. -/
lemma HandleAct.vouched {resets} {s t : Sys σ ω} (act : HandleAct resets s t) (h : Vouched s) :
    Vouched t := by
  cases act with
  | send act => exact act.vouched h
  | receivingReset | endingResets | supersede => exact h.keep (r := []) rfl (by simp) id
  | stashAndExpect => exact h.keep (r := [_, _, _]) rfl (by simp [Event.admits]) id
  | @logon c rest _ msg trace passed type =>
    -- The call before was the callback that let the Logon pass.
    refine ⟨fun _ => ?_, h.along⟩
    have tr : (s.updated fun x => { x with receivedLogon := true }).trace = c :: rest := trace
    refine ⟨c, ?_, by simp [Call.passesLogon, passed, type]⟩
    rw [tr, since_cons, show c.attaches = false by simp [Call.attaches, passed]]
    exact List.mem_cons_self
  | @deliver _ msg answer w taken app number state =>
    have called : Vouched (s.called (.fromApp msg answer) w) := by
      refine ⟨fun received => ?_, fun _ _ _ => ?_, h.along⟩
      · exact (h.seen received).append (r := [_]) (by simp [Call.attaches])
      · exact (validLogonState_app app state).imp_left fun received => ⟨received, h.seen received⟩
    exact called.keep (r := [_]) rfl (by simp [Event.admits]) id
  | _ => exact h.keep (r := [_]) rfl (by simp [Event.admits]) id

/-- A session that is attached anew has not accepted a Logon. -/
lemma Coupled.logon {s : Sys σ ω} (h : Coupled s) (idle : s.session.outbound = false) :
    s.session.receivedLogon = false :=
  (Bool.or_eq_false_iff.mp (h.off idle)).1

/-- So does every act of a session that is coupled to its connection. -/
lemma Act.vouched {s t : Sys σ ω} (act : Act s t) (coupled : Coupled s) (h : Vouched s) :
    Vouched t := by
  cases act with
  | handle act => exact act.vouched h
  | send act => exact act.vouched h
  | attach sent received idle =>
    refine ⟨fun logon => ?_, fun _ _ ev => (by cases ev), h.along⟩
    have logon : s.session.receivedLogon = true := logon
    rw [coupled.logon idle] at logon
    cases logon
  | ask => exact h.keep (r := []) rfl (by simp) id
  | cut _ left => exact h.givenUp left
  | endLogout now _ left =>
    have ended : Vouched (s.stored (.reset .logout (MessageStore.reset now s.session.store).1)
        (MessageStore.reset now s.session.store).2) :=
      h.keep (r := [_]) rfl (by simp [Event.admits]) id
    exact ended.givenUp left
  | _ => exact h.keep (r := [_]) rfl (by simp [Event.admits]) id

/-- Along every run an application message is delivered only when a Logon of the peer has passed on
the connection, or a Logout of ours is pending. -/
theorem delivered_authenticated (cfg : SessionConfig)
    (dictionary adminDictionary : Option DataDictionary) (store : σ) (now : Nat) (world : ω)
    (inputs : List Input) :
    Along Authenticated (Sys.ran cfg dictionary adminDictionary store now world inputs).trace := by
  have start : Coupled (.init cfg dictionary adminDictionary store now world : Sys σ ω) ∧
      Keeping store (.init cfg dictionary adminDictionary store now world : Sys σ ω) := by
    refine ⟨⟨rfl, fun _ => rfl, rfl, fun logged => (by cases logged), trivial⟩, rfl, fun entry => ?_,
      by simp [Sys.init]⟩
    simp [Sys.init, Session.spawn] at entry
  have kept : Coupled (.ran cfg dictionary adminDictionary store now world inputs : Sys σ ω) ∧
      Keeping store (.ran cfg dictionary adminDictionary store now world inputs : Sys σ ω) ∧
      Vouched (.ran cfg dictionary adminDictionary store now world inputs : Sys σ ω) := by
    refine ran_keeps (I := fun s => Coupled s ∧ Keeping store s ∧ Vouched s) (fun act h => ?_)
      ⟨start.1, start.2, fun received => (by cases received), trivial⟩
    exact ⟨act.coupled h.2.1 h.1, act.keeping h.2.1, act.vouched h.1 h.2.2⟩
  exact kept.2.2.along

end Runs

/-- Whether an application message was delivered without a Logon of the peer. -/
def deliveredUnknown {σ : Type} (cs : List (Call σ)) : Bool :=
  cs.any fun c =>
    match c.event with
    | .fromApp .. => !c.session.receivedLogon
    | _ => false

/-- What was delivered without a Logon was not admitted. -/
lemma not_deliversAdmitted {σ : Type} {cs : List (Call σ)} (h : deliveredUnknown cs = true) :
    ¬ Along DeliversAdmitted cs := by
  intro along
  obtain ⟨c, mem, unknown⟩ := List.any_eq_true.mp h
  obtain ⟨rest, -, admitted⟩ := along.of_mem mem
  cases ev : c.event with
  | fromApp msg answer =>
    rw [ev, (admitted msg answer ev).1] at unknown
    cases unknown
  | _ =>
    rw [ev] at unknown
    cases unknown

/-- A stranger logs on, and goes on with an application message. -/
def Script.stranger : List Input :=
  [.attach,
    .inbound ((fromPeer MsgType.logon 1).setHeader Tags.senderCompId (ascii "X")).toBytes,
    .inbound (fromPeer (ascii "D") 1).toBytes]

/-- After the Logout that answers a stranger's Logon, an application message reaches the
application. -/
theorem not_deliversAdmitted_stranger :
    ¬ Along DeliversAdmitted (Script.play Script.acceptor {} Script.stranger).trace :=
  not_deliversAdmitted (by decide +kernel)

end QuickFix
