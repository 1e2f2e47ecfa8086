import QuickFix.Steps.Run
import QuickFix.Session.Script

/-!
# The gate of the send path

Before the logon exchange is complete, session control goes out and everything else is numbered and
stored only. The gate of `send_message` also opens for a session that has sent its Logon and waits for
the peer's, so this holds in runs that accept no other message in that time.
-/

namespace QuickFix

set_option linter.unusedSectionVars false

section Calls

variable {σ : Type}

/-- What is handed on at a call is sent again, or is a fresh message that may go out: session control,
or any message once logged on. -/
def HeldBack (c : Call σ) (earlier : List (Call σ)) : Prop :=
  ∀ raw, c.event = .transmit raw → Resent raw earlier ∨
    ∃ d e rest m, earlier = d :: e :: rest ∧ freshMessage d e = some m ∧
      (c.session.isLoggedOn = true ∨ Session.alwaysSent m.msgTypeOrDefault = true)

/-- Whether a message that is accepted between our Logon and the peer's is session control. -/
def patient (d : Call σ) : List (Call σ) → Bool
  | [] => true
  | e :: _ =>
    match freshMessage d e with
    | none => true
    | some m =>
      !e.session.sentLogon || e.session.receivedLogon || Session.alwaysSent m.msgTypeOrDefault

/-- The calls hold back what may not go out yet. -/
def Waits (cs : List (Call σ)) : Prop := Along (patient · ·) cs → Along HeldBack cs

/-- A call that hands nothing on keeps that. -/
lemma Waits.cons {c : Call σ} {cs} (h : Waits cs) (silent : ∀ raw, c.event ≠ .transmit raw) :
    Waits (c :: cs) := by
  intro early
  exact ⟨fun raw ev => absurd ev (silent raw), h early.2⟩

/-- Whether the last message was handed on before the logon exchange was complete, and is not session
control. -/
def handedOnEarly : List (Call σ) → Bool
  | _ :: c :: d :: e :: _ =>
    match c.event, d.event, e.event with
    | .transmit _, .save .., .toApp m (some _) =>
      !c.session.isLoggedOn && !Session.alwaysSent m.msgTypeOrDefault
    | _, _, _ => false
  | _ => false

/-- A message that was handed on early was not held back. -/
lemma not_heldBack {cs : List (Call σ)} (h : handedOnEarly cs = true) : ¬ Along HeldBack cs := by
  intro held
  unfold handedOnEarly at h
  split at h
  case h_1 w c d e rest =>
    split at h
    case h_1 raw seq bytes res m m' transmit save callback =>
      simp only [Bool.and_eq_true, Bool.not_eq_true'] at h
      rcases held.2.1 raw transmit with resent | ⟨d', e', rest', k, same, accepted, out⟩
      · obtain ⟨recent, x, older, k, k', split, fills, ev, -⟩ := resent
        cases recent with
        | nil =>
          cases split
          simp [save] at ev
        | cons y recent =>
          obtain ⟨rfl, -⟩ := List.cons.inj split
          simpa [save, Event.fills] using fills d (by simp)
      · cases same
        rw [freshMessage, callback] at accepted
        split at accepted
        case isTrue =>
          cases accepted
          simp [h] at out
        case isFalse => cases accepted
    case h_2 => cases h
  case h_2 => cases h

end Calls

section Runs

variable {σ ω : Type} [Chrono] [MessageStore σ] [Application ω] [Runtime ω]

/-- What passed the gate may go out in a run that accepts no other message early. -/
lemma Gated.heldBack {s : Sys σ ω} (gate : Gated s) (early : Along (patient · ·) s.trace) :
    ∃ d e rest m, s.trace = d :: e :: rest ∧ freshMessage d e = some m ∧
      (s.session.isLoggedOn = true ∨ Session.alwaysSent m.msgTypeOrDefault = true) := by
  obtain ⟨d, e, rest, m, trace, accepted, passed, received, sent⟩ := gate
  rw [trace] at early
  have early : patient d (e :: rest) = true := early.1
  rw [patient, accepted] at early
  simp only [Bool.or_eq_true, Bool.not_eq_true'] at early
  refine ⟨d, e, rest, m, trace, accepted, ?_⟩
  have loggedOn : s.session.isLoggedOn = e.session.isLoggedOn := by
    rw [Session.isLoggedOn, received, sent]
    rfl
  rcases passed with on | sent | control
  · exact .inl (loggedOn.trans on)
  · rcases early with (unsent | received) | control
    · rw [sent] at unsent
      cases unsent
    · refine .inl (loggedOn.trans ?_)
      rw [Session.isLoggedOn, received, sent]
      rfl
    · exact .inr control
  · exact .inr control

/-- What is handed on was held back as it should be. -/
lemma Transmittable.waits {raw} {s : Sys σ ω} (why : Transmittable true raw s)
    (h : Waits s.trace) : Waits (s.called (.transmit raw) s.world).trace := by
  intro early
  refine ⟨?_, h early.2⟩
  rintro raw ⟨rfl⟩
  cases why with
  | stored _ _ gate => exact .inr (gate.heldBack early.2)
  | volatile _ _ gate => exact .inr (gate.heldBack early.2)
  | resent resent => exact .inl resent

/-- Giving up the connection hands nothing on. -/
lemma GivenUp.waits {s t : Sys σ ω} (left : GivenUp s t) (h : Waits s.trace) : Waits t.trace := by
  refine left.elim (P := fun t => Waits t.trace) (fun cut => ?_) fun _ h => h.cons (by simp)
  cases cut with
  | kept => exact h.cons (by simp)
  | reset => exact (h.cons (by simp)).cons (by simp)

/-- An act of the outbound half holds back what may not go out yet. -/
lemma SendAct.waits {s t : Sys σ ω} (act : SendAct true s t) (h : Waits s.trace) :
    Waits t.trace := by
  cases act with
  | quiet | adopt | logon => exact h
  | transmit raw why => exact why.waits h
  | cut _ _ left => exact left.waits h
  | announce => exact (h.cons (by simp)).cons (by simp)
  | _ => exact h.cons (by simp)

/-- An act of a handler holds back what may not go out yet. -/
lemma HandleAct.waits {resets} {s t : Sys σ ω} (act : HandleAct resets s t) (h : Waits s.trace) :
    Waits t.trace := by
  cases act with
  | send act => exact act.waits h
  | receivingReset | endingResets | logon | supersede => exact h
  | deliver => exact (h.cons (by simp)).cons (by simp)
  | stashAndExpect => exact ((h.cons (by simp)).cons (by simp)).cons (by simp)
  | _ => exact h.cons (by simp)

/-- Every act holds back what may not go out yet. -/
lemma Act.waits {s t : Sys σ ω} (act : Act s t) (h : Waits s.trace) : Waits t.trace := by
  cases act with
  | handle act => exact act.waits h
  | send act => exact act.waits h
  | ask => exact h
  | cut _ left => exact left.waits h
  | endLogout now _ left => exact left.waits (h.cons (by simp))
  | _ => exact h.cons (by simp)

/-- A system held back what it may not hand on yet. -/
structure Sys.HoldsBack (s : Sys σ ω) : Prop where
  along : Along HeldBack s.trace

/-- A system accepted nothing but session control between its Logon and the peer's. -/
def Sys.Patient (s : Sys σ ω) : Prop := Along (patient · ·) s.trace

instance (s : Sys σ ω) : Decidable s.Patient := inferInstanceAs (Decidable (Along _ _))

/-- Along every run in which no other message is accepted between our Logon and the peer's, a fresh
message that is handed on before the logon exchange is complete is a Logon, a Logout, a ResendRequest
or a SequenceReset. -/
theorem heldBack_untilLogon (cfg : SessionConfig) (dictionary adminDictionary : Option DataDictionary)
    (store : σ) (now : Nat) (world : ω) (inputs : List Input)
    (patient : (Sys.ran cfg dictionary adminDictionary store now world inputs).Patient) :
    (Sys.ran cfg dictionary adminDictionary store now world inputs).HoldsBack :=
  ⟨ran_keeps (I := fun s => Waits s.trace) Act.waits (fun _ => trivial) patient⟩

end Runs

/-- A system whose last message was handed on early did not hold it back. -/
lemma not_holdsBack {σ ω : Type} {s : Sys σ ω} (h : handedOnEarly s.trace = true) : ¬ s.HoldsBack :=
  fun held => not_heldBack h held.along

/-- A message is sent once the peer has answered the Logon. -/
def Script.sendLater : List Input :=
  [.attach, .inbound (fromPeer MsgType.logon 1).toBytes, .send (.withType (ascii "D"))]

/-- A message that waits for the logon is held back until then. -/
theorem heldBack_untilLogon_sendLater :
    (Script.play Script.initiator {} Script.sendLater).HoldsBack :=
  letI := epochDay
  heldBack_untilLogon Script.initiator none none ({ creationTime := 0 } : MemoryStore) 0
    ({} : Script) Script.sendLater (by decide +kernel)

/-- A message is sent before the peer has answered the Logon. -/
def Script.sendEarly : List Input := [.attach, .send (.withType (ascii "D"))]

/-- A message that is sent between our Logon and the peer's is handed on at once. -/
theorem not_heldBack_sendEarly :
    ¬ (Script.play Script.initiator {} Script.sendEarly).HoldsBack :=
  not_holdsBack (by decide +kernel)

end QuickFix
