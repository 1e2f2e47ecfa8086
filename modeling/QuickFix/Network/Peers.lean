import QuickFix.Network.Frames
import QuickFix.Resend.Inside
import QuickFix.Lib.Service

/-!
# Two sessions and the network between them

The peers of a connection are two sessions, each with its own settings, store and application. On the way
from the first to the second, the network may lose a frame, hand it on more than once, and change the
order, but it makes up none; what arrives at the first is arbitrary. However the two are interleaved, the
messages the application of the second gets are messages that of the first sent.
-/

namespace QuickFix

set_option linter.unusedSectionVars false

open Session MessageStore Std.Do

/-! ## One side -/

/-- What the session of one side is started with. -/
structure Party (σ ω : Type) where
  cfg : SessionConfig
  dictionary : Option DataDictionary := none
  adminDictionary : Option DataDictionary := none
  store : σ
  now : Nat := 0
  world : ω

section Party

variable {σ ω : Type} [Chrono] [MessageStore σ] [Application ω] [Runtime ω]

/-- The session of a side after the inputs it has woken up for. -/
def Party.after (p : Party σ ω) (inputs : List Input) : Sys σ ω :=
  .ran p.cfg p.dictionary p.adminDictionary p.store p.now p.world inputs

/-- The loop goes on from where it was, unless it has ended. -/
lemma after_append (is js : List Input) (s : Sys σ ω) : s.after (Session.run (is ++ js)) =
    if is.any ends then s.after (Session.run is) else (s.after (Session.run is)).after (Session.run js) := by
  induction is generalizing s with
  | nil => rfl
  | cons input is ih =>
    have head (rest : List Input) : s.after (Session.run (input :: rest)) =
        if ends input then s.after (step input)
        else (s.after (step input)).after (Session.run rest) := by
      cases ended : ends input
      case true => simp [Sys.after, Session.run, ended]
      case false =>
        simp only [Sys.after, Session.run, ended, Bool.not_false, if_true, StateT.run_bind]
        rfl
    rw [List.cons_append, head, head, ih, List.any_cons]
    cases ended : ends input <;> simp

/-- One more input only adds to the history. -/
lemma Party.suffix (p : Party σ ω) (inputs : List Input) (input : Input) :
    (p.after inputs).trace <:+ (p.after (inputs ++ [input])).trace := by
  rw [Party.after, Party.after, Sys.ran, Sys.ran, after_append]
  split
  case isTrue => exact List.suffix_rfl
  case isFalse =>
    have idle : handled (p.after inputs).trace = none := handled_ran
    have ran : ⦃fun s => ⌜s = p.after inputs ∧ handled s.trace = none⌝⦄ Session.run [input]
        ⦃⇓ _ s => ⌜Runs (p.after inputs) s ∧ handled s.trace = none⌝⦄ := run_spec
    obtain ⟨recent, trace, -⟩ := (ran _ ⟨rfl, idle⟩).1.leads
    exact ⟨recent, trace.symm⟩

end Party

/-- A frame was handed to a write task that was there to take it. -/
def Wrote {σ : Type} (raw : Bytes) (trace : List (Call σ)) : Prop :=
  ∃ c ∈ trace, c.event = .write raw true

/-- The frame an event hands to a write task that takes it. -/
def Event.frame : Event → Option Bytes
  | .write raw true => some raw
  | _ => none

/-- The frame of an event is what it wrote. -/
lemma Event.frame_eq_some {e : Event} {raw} : e.frame = some raw ↔ e = .write raw true := by
  unfold frame
  split <;> simp_all

/-- The frames that were written, the earliest first. -/
def writtenFrames {σ : Type} (trace : List (Call σ)) : List Bytes := observed Event.frame trace

/-- What was written is among the frames that were. -/
lemma wrote_iff {σ : Type} {raw} {trace : List (Call σ)} : Wrote raw trace ↔ raw ∈ writtenFrames trace := by
  simp only [Wrote, writtenFrames, observed, List.mem_reverse, List.mem_filterMap, Event.frame_eq_some]

instance {σ : Type} (raw) (trace : List (Call σ)) : Decidable (Wrote raw trace) :=
  decidable_of_iff ((writtenFrames trace).contains raw = true) (by simp [wrote_iff])

/-- What was written stays so as the history goes on. -/
lemma Wrote.of_suffix {σ : Type} {raw} {trace more : List (Call σ)} (h : Wrote raw trace)
    (suf : trace <:+ more) : Wrote raw more := by
  obtain ⟨c, mem, ev⟩ := h
  exact ⟨c, suf.subset mem, ev⟩

/-! ## Both sides -/

section Joined

variable {σ ω σ' ω' : Type} [Chrono]
variable [MessageStore σ] [Application ω] [Runtime ω] [MessageStore σ'] [Application ω'] [Runtime ω']

/-- The inputs of two sides so far, in any interleaving: of the frames that arrive at the second, each was
written by the first before. -/
inductive Joined (a : Party σ ω) (b : Party σ' ω') : List Input → List Input → Prop
  | start : Joined a b [] []
  | left {is js input} (joined : Joined a b is js) : Joined a b (is ++ [input]) js
  | right {is js input} (joined : Joined a b is js)
      (carried : ∀ raw ∈ input.frames, Wrote raw (a.after is).trace) : Joined a b is (js ++ [input])

variable {a : Party σ ω} {b : Party σ' ω'} {is js : List Input}

/-- Every frame that arrived was written by the other side. -/
lemma Joined.wrote (h : Joined a b is js) {raw} (arrived : Arrives js raw) :
    Wrote raw (a.after is).trace := by
  induction h with
  | start =>
    obtain ⟨input, mem, -⟩ := arrived
    cases mem
  | left _ ih => exact (ih arrived).of_suffix (a.suffix _ _)
  | right _ carried ih =>
    obtain ⟨input, mem, frame⟩ := arrived
    rcases List.mem_append.mp mem with old | new
    · exact ih ⟨input, old, frame⟩
    · rw [List.mem_singleton.mp new] at frame
      exact carried raw frame

/-! ## What is delivered was sent -/

/-- A side that stores what it sends in a store that was empty, and whose application sees to it that
what goes out comes back from its bytes. -/
structure Sender [LawfulStore σ] (a : Party σ ω) (is : List Input) : Prop where
  leaves : LeavesNumber ω
  persist : a.cfg.persistMessages = true
  valid : LawfulStore.Valid a.store
  empty : ∀ k, LawfulStore.messages a.store k = none
  careful : ∀ c ∈ (a.after is).trace, Careful c

variable [LawfulStore σ]

/-- The history of a sender holds no surprises. -/
lemma Sender.plain (h : Sender a is) : Plain (Arrives is) a.store (a.after is).trace where
  sited := sited_ran
  emitted := (ran_keeps (I := Emits) (Act.emits h.leaves) ⟨h.persist, trivial⟩).along
  careful := h.careful
  linked := ⟨_, linked_ran⟩

/-- A sender was one before its latest input. -/
lemma Sender.before {input} (h : Sender a (is ++ [input])) : Sender a is where
  leaves := h.leaves
  persist := h.persist
  valid := h.valid
  empty := h.empty
  careful c mem := h.careful c ((a.suffix is input).subset mem)

variable [FaithfulStore σ]

/-- What a sender reads back from its store under a number is a message with that number. -/
lemma Sender.readsNumbered (h : Sender a is) : ReadsNumbered (a.after is).session.store := by
  intro b e stored read n raw mem m parsed
  have linked : Linked a.store (a.after is).trace (a.after is).session.store := linked_ran
  have held := FaithfulStore.get_stored b e _ stored (linked.valid h.valid).1 read (n, raw) mem
  obtain ⟨c, rest, res, suf, ev⟩ := saved_of_stored linked h.valid h.empty held
  have valid := (linked.valid h.valid).2 c (suf.subset List.mem_cons_self)
  exact numbered_saved (h.plain.of_suffix suf) ev (LawfulStore.bounded _ valid).1 parsed

/-- What a side wrote says what its application accepted. -/
lemma Sender.tells (format : ∀ t : UtcTimestamp, soh ∉ encode t) (h : Sender a is) {raw}
    (wrote : Wrote raw (a.after is).trace) : Tells raw (a.after is).trace := by
  obtain ⟨c, mem, ev⟩ := wrote
  obtain ⟨later, rest, tr⟩ := List.append_of_mem mem
  have suf : c :: rest <:+ (a.after is).trace := ⟨later, tr.symm⟩
  have told := tells_written format (h.plain.of_suffix suf) h.valid h.empty ev
  exact told.of_suffix ((List.suffix_cons c rest).trans suf)

omit [MessageStore σ] [Application ω] [Runtime ω] [LawfulStore σ] [FaithfulStore σ] in
/-- When the frames that arrive tell what was stored, so does what is delivered. -/
lemma stored_of_delivered {trace : List (Call σ)} (told : ∀ raw, Arrives js raw → Tells raw trace)
    {c msg answer}
    (mem : c ∈ (b.after js).trace) (ev : c.event = .fromApp msg answer) : Stored msg.content trace := by
  have intact : ∀ raw, Arrives js raw → Intact raw := by
    intro raw arrived
    obtain ⟨m, legible, rfl, -⟩ := told raw arrived
    exact legible.intact
  obtain ⟨app, d, mem', origin, taken⟩ := delivered_ran c mem msg answer ev
  obtain ⟨raw, arrived, parsed⟩ := ((drawing_ran intact).drawn d mem').message origin msg taken
  obtain ⟨m, legible, rfl, stored⟩ := told raw arrived
  obtain ⟨type, same⟩ := legible.parsed parsed
  rw [same]
  exact stored (type ▸ app)

/-- Whatever the network loses, repeats or reorders: an application message that is delivered has the
number, the type and the body of a message that the application of the other side accepted and that was
stored under that number. -/
theorem delivered_was_sent (format : ∀ t : UtcTimestamp, soh ∉ encode t) (joined : Joined a b is js)
    (sender : Sender a is) : ∀ c ∈ (b.after js).trace, ∀ msg answer, c.event = .fromApp msg answer →
      Stored msg.content (a.after is).trace := by
  intro c mem msg answer ev
  apply stored_of_delivered ?_ mem ev
  intro raw arrived
  exact sender.tells format (joined.wrote arrived)

end Joined

namespace Script

attribute [local instance] epochDay

/-- The session of `S`. -/
def seller : Party MemoryStore Script := { cfg := acceptor, store := { creationTime := 0 }, world := {} }

/-- The session of its counterparty `T`. -/
def buyer : Party MemoryStore Script where
  cfg := { initiator with
    sessionId := { localId with senderCompId := localId.targetCompId, targetCompId := localId.senderCompId } }
  store := { creationTime := 0 }
  world := {}

/-- The frame a side has written after its inputs, by its place. -/
def carry (p : Party MemoryStore Script) (inputs : List Input) (i : Nat) : Input :=
  .inbound ((writtenFrames (p.after inputs).trace).getD i [])

/-- `T` logs on. -/
def dialed : List Input := [.attach]

/-- `S` answers. -/
def answered : List Input := [.attach] ++ [carry buyer dialed 0]

/-- `S` sends two messages. -/
def ordered : List Input := answered ++ [.send plainOrder] ++ [.send plainOrder]

/-- Of these only the second one arrives. -/
def missing : List Input := dialed ++ [carry seller answered 0] ++ [carry seller ordered 2]

/-- `S` is asked for the first one. -/
def asked : List Input := ordered ++ [carry buyer missing 1]

/-- Both arrive, the second one once more. -/
def recovered : List Input := missing ++ [carry seller asked 3] ++ [carry seller asked 4]

/-- The two lists of inputs belong together. -/
lemma joined_recovered : Joined seller buyer asked recovered := by
  have first : Joined seller buyer [] ([] ++ dialed) := .right .start (by simp [Input.frames])
  have attached : Joined seller buyer ([] ++ [.attach]) dialed := .left first
  have second : Joined seller buyer ordered dialed := .left (.left (.left attached))
  have third : Joined seller buyer ordered missing :=
    .right (.right second (by decide +kernel)) (by decide +kernel)
  have fourth : Joined seller buyer asked missing := .left third
  exact .right (.right fourth (by decide +kernel)) (by decide +kernel)

/-- What `S` sent, and sent again, comes back from its bytes. -/
lemma sender_asked : Sender seller asked where
  leaves := leavesNumber
  persist := rfl
  valid := MemoryStore.valid_empty 0
  empty _ := by simp [seller, LawfulStore.messages]
  careful := by decide +kernel

/-- What `T` got, two messages, is what `S` sent. -/
theorem delivered_was_sent_recovered :
    ((buyer.after recovered).trace.filter (·.event.delivers)).length = 2 ∧
      ∀ c ∈ (buyer.after recovered).trace, ∀ msg answer, c.event = .fromApp msg answer →
        Stored msg.content (seller.after asked).trace :=
  ⟨by decide +kernel,
    delivered_was_sent (fun t => plain_formatDay t.precision t.time) joined_recovered sender_asked⟩

end Script

end QuickFix
