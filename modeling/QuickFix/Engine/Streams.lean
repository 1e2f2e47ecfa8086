import QuickFix.Engine.Connections

/-!
# The stream of a connection

Whatever its tasks do in which order, no frame of a connection is lost and none overtakes another: what
was received is what its session took, what is on its way, and what is not framed yet. That holds from the
identification of the connection on, through the relay.
-/

namespace QuickFix

set_option linter.unusedSectionVars false

/-! ## Framing -/

/-- The frames of a stream. -/
def framesOf (stream : Bytes) : List Bytes := (framer.drain stream).1

/-- A longer stream has more frames. -/
lemma framesOf_append (stream more : Bytes) : framesOf stream <+: framesOf (stream ++ more) := by
  rw [framesOf, framesOf, framer.drain_append]
  exact List.prefix_append _ _

/-! ## Connections -/

namespace ConnStage

/-- The session a connection is for. -/
def key : ConnStage → Option SessionKey
  | .polling key .. | .offered key | .held key => some key
  | .identifying | .gone _ => none

/-- Whether the connection has not been given to its session. -/
def isEarly : ConnStage → Bool
  | .identifying | .polling .. => true
  | .offered _ | .held _ | .gone _ => false

/-- Whether no session has had the connection. -/
def isNew : ConnStage → Bool
  | .identifying | .polling .. | .offered _ => true
  | .held _ | .gone _ => false

end ConnStage

namespace Conn

/-- The connection was dialed for the session, or names it in its first message. -/
def Names (accepts : Nat → SessionKey → Bool) (conn : Conn) (key : SessionKey) : Prop :=
  match conn.socket with
  | .accepted port => accepts port key = true ∧
      ∃ first, (framesOf conn.received).head? = some first ∧ firstKey first = .ok key
  | .dialed key' => key' = key

/-- The first message, while it is with the task that identifies the connection. -/
def pending (conn : Conn) : List Bytes :=
  match conn.stage with
  | .polling _ first _ => [first]
  | _ => []

/-- No frame is lost, and none changes places: what was received is taken, on its way, or not framed
yet. -/
def Whole (conn : Conn) : Prop :=
  framer.drain conn.received =
    (conn.taken ++ conn.pending ++ conn.relay ++ conn.inbound ++ (framer.drain conn.buf).1,
      (framer.drain conn.buf).2)

/-- What holds of a connection at any time. -/
structure Sound (accepts : Nat → SessionKey → Bool) (conn : Conn) : Prop where
  whole : (∀ why, conn.stage ≠ .gone why) → conn.Whole
  taken : conn.taken <+: framesOf conn.received
  names : ∀ key, conn.stage.key = some key → conn.Names accepts key
  early : conn.stage.isEarly = true →
    conn.inbound = [] ∧ conn.relay = [] ∧ ∃ port, conn.socket = .accepted port
  direct : ∀ key, conn.socket = .dialed key → conn.relay = []
  unseen : conn.stage.isNew = true → conn.taken = [] ∧ conn.written = []

variable {accepts : Nat → SessionKey → Bool} {conn : Conn} {key : SessionKey}

/-- A connection names one session. -/
lemma Names.unique {key'} (h : conn.Names accepts key) (h' : conn.Names accepts key') : key = key' := by
  cases socket : conn.socket with
  | accepted port =>
    simp only [Names, socket] at h h'
    obtain ⟨-, first, head, named⟩ := h
    obtain ⟨-, first', head', named'⟩ := h'
    obtain rfl : first = first' := Option.some.inj (head.symm.trans head')
    exact Except.ok.inj (named.symm.trans named')
  | dialed _ =>
    simp only [Names, socket] at h h'
    exact h.symm.trans h'

/-- What a connection names does not change when more is received. -/
lemma Names.mono {conn' : Conn} (h : conn.Names accepts key) (socket : conn'.socket = conn.socket)
    (received : conn.received <+: conn'.received) : conn'.Names accepts key := by
  unfold Names at h ⊢
  rw [socket]
  obtain ⟨more, received⟩ := received
  split at h
  case h_1 port _ =>
    obtain ⟨known, first, head, named⟩ := h
    obtain ⟨later, frames⟩ := framesOf_append conn.received more
    refine ⟨known, first, ?_, named⟩
    rw [← received, ← frames, List.head?_append, head]
    rfl
  case h_2 => exact h

/-- What was taken is a beginning of the frames that were received. -/
lemma Whole.taken (h : conn.Whole) : conn.taken <+: framesOf conn.received := by
  rw [framesOf, h]
  simp only [List.append_assoc]
  exact List.prefix_append _ _

/-- A connection goes on, in no way that its session could tell. -/
structure Onward (conn conn' : Conn) : Prop where
  socket : conn'.socket = conn.socket
  received : conn.received <+: conn'.received
  taken : conn'.taken = conn.taken
  written : conn'.written = conn.written
  held : ∀ key, conn'.stage = .held key ↔ conn.stage = .held key
  gone : ∀ why, conn.stage = .gone why → conn'.stage = .gone why

/-- What goes onward in two steps goes onward. -/
lemma Onward.trans {conn' conn'' : Conn} (h : Onward conn conn') (h' : Onward conn' conn'') :
    Onward conn conn'' where
  socket := h'.socket.trans h.socket
  received := h.received.trans h'.received
  taken := h'.taken.trans h.taken
  written := h'.written.trans h.written
  held key := (h'.held key).trans (h.held key)
  gone why gone := h'.gone why (h.gone why gone)

/-- What its own tasks leave of a connection. -/
structure Inert (conn conn' : Conn) : Prop extends Onward conn conn' where
  offered : ∀ key, conn.stage = .offered key → conn'.stage = .offered key

/-- What changes nothing is inert. -/
lemma Inert.refl (conn : Conn) : Inert conn conn :=
  ⟨⟨rfl, List.prefix_rfl, rfl, rfl, fun _ => .rfl, fun _ => id⟩, fun _ => id⟩

/-- A connection is dropped before it is offered. -/
lemma inert_early {conn' : Conn} (early : conn.stage.isEarly = true)
    (later : ∀ key, conn'.stage ≠ .held key) (socket : conn'.socket = conn.socket)
    (received : conn.received <+: conn'.received) (taken : conn'.taken = conn.taken)
    (written : conn'.written = conn.written) : Inert conn conn' := by
  refine ⟨⟨socket, received, taken, written, fun key => ?_, fun why gone => ?_⟩, fun key offered => ?_⟩
  · constructor
    · exact fun held => absurd held (later key)
    · intro held
      simp [held, ConnStage.isEarly] at early
  · simp [gone, ConnStage.isEarly] at early
  · simp [offered, ConnStage.isEarly] at early

/-- A connection that is over is sound when what was taken and relayed is. -/
lemma sound_over {why} (taken : conn.taken <+: framesOf conn.received)
    (direct : ∀ key, conn.socket = .dialed key → conn.relay = []) : (conn.close why).Sound accepts where
  whole alive := absurd rfl (alive why)
  taken := taken
  names key is := by simp [Conn.close, ConnStage.key] at is
  early early := by simp [Conn.close, ConnStage.isEarly] at early
  direct := direct
  unseen new := by simp [Conn.close, ConnStage.isNew] at new

/-- Closing keeps a connection sound. -/
lemma Sound.close {why} (h : conn.Sound accepts) : (conn.close why).Sound accepts :=
  sound_over h.taken h.direct

/-- A connection that was just accepted is sound. -/
lemma sound_accepted (port : Nat) :
    Sound accepts { socket := .accepted port, stage := .identifying } where
  whole _ := by
    have empty : framer.drain [] = ([], []) := Framer.drain_waiting (extractFrame_error rfl)
    simp [Whole, pending, empty]
  taken := List.nil_prefix
  names := by simp [ConnStage.key]
  early _ := ⟨rfl, rfl, port, rfl⟩
  direct := nofun
  unseen _ := ⟨rfl, rfl⟩

/-- A connection that was just dialled is sound. -/
lemma sound_dialed (key : SessionKey) : Sound accepts { socket := .dialed key, stage := .offered key } where
  whole _ := by
    have empty : framer.drain [] = ([], []) := Framer.drain_waiting (extractFrame_error rfl)
    simp [Whole, pending, empty]
  taken := List.nil_prefix
  names := by simp [ConnStage.key, Names]
  early := nofun
  direct _ _ := rfl
  unseen _ := ⟨rfl, rfl⟩

/-- Reading goes on. -/
lemma Whole.readTask (h : conn.Whole) (data : Bytes) :
    ({ conn with received := conn.received ++ data, buf := conn.buf ++ data }.readTask).Whole := by
  unfold Whole at h ⊢
  simp only [Conn.readTask, pending] at h ⊢
  rw [framer.drain_append, h, framer.drain_append conn.buf, Framer.drain_rest]
  simp only [List.append_assoc, List.append_nil]

/-- Before the first message is found, what was received is what is not framed yet. -/
lemma Sound.unframed (h : conn.Sound accepts) (stage : conn.stage = .identifying) (data : Bytes) :
    framer.drain (conn.received ++ data) = framer.drain (conn.buf ++ data) := by
  obtain ⟨inbound, relay, -⟩ := h.early (by rw [stage]; rfl)
  have same : framer.drain conn.received = framer.drain conn.buf := by
    have whole : conn.Whole := h.whole (by simp [stage])
    rw [Whole, (h.unseen (by rw [stage]; rfl)).1, inbound, relay, pending, stage] at whole
    exact whole
  rw [framer.drain_append, framer.drain_append conn.buf, same]

/-- Looking for the first frame keeps a connection sound. -/
lemma Sound.identify {port data} (h : conn.Sound accepts) (stage : conn.stage = .identifying)
    (socket : conn.socket = .accepted port) :
    ({ conn with received := conn.received ++ data, buf := conn.buf ++ data }.identify
      (accepts port)).Sound accepts ∧
    Inert conn ({ conn with received := conn.received ++ data, buf := conn.buf ++ data }.identify
      (accepts port)) := by
  have stream := h.unframed stage data
  have early : conn.stage.isEarly = true := by rw [stage]; rfl
  obtain ⟨inbound, relay, -⟩ := h.early early
  obtain ⟨taken, written⟩ := h.unseen (by rw [stage]; rfl)
  have nothing (conn' : Conn) (same : conn'.taken = conn.taken) : conn'.taken <+: framesOf conn'.received := by
    rw [same, taken]
    exact List.nil_prefix
  have grows : conn.received <+: conn.received ++ data := List.prefix_append _ _
  unfold Conn.identify
  split
  case h_1 rest found =>
    have drained : framer.drain (conn.buf ++ data) = ([], rest) := Framer.drain_waiting found
    have again := Framer.drain_rest (F := framer) (conn.buf ++ data)
    rw [drained] at again
    constructor
    · constructor
      · intro _
        simp [Whole, pending, stage, stream, drained, again, taken, inbound, relay]
      · exact nothing _ rfl
      · simp [ConnStage.key, stage]
      · exact fun _ => ⟨inbound, relay, port, socket⟩
      · exact h.direct
      · exact fun _ => ⟨taken, written⟩
    · exact inert_early early (by simp [stage]) rfl grows rfl rfl
  case h_2 first rest found =>
    have drained : framer.drain (conn.buf ++ data) =
        (first :: (framer.drain rest).1, (framer.drain rest).2) := Framer.drain_found found
    have closed (why) : ({ conn with received := conn.received ++ data, buf := rest }.close
        why).Sound accepts := sound_over (nothing _ rfl) h.direct
    split
    case h_1 why _ => exact ⟨closed why, inert_early early nofun rfl grows rfl rfl⟩
    case h_2 key named =>
      split
      case isTrue known =>
        constructor
        · constructor
          · intro _
            simp [Whole, pending, stream, drained, taken, inbound, relay]
          · exact nothing _ rfl
          · rintro _ ⟨⟩
            simp only [Names, socket]
            exact ⟨known, first, by rw [framesOf, stream, drained]; rfl, named⟩
          · exact fun _ => ⟨inbound, relay, port, socket⟩
          · exact h.direct
          · exact fun _ => ⟨taken, written⟩
        · exact inert_early early nofun rfl grows rfl rfl
      case isFalse => exact ⟨closed _, inert_early early nofun rfl grows rfl rfl⟩

/-- Receiving bytes keeps a connection sound, and is inert. -/
lemma Sound.arrive {data} (h : conn.Sound accepts) :
    (conn.arrive accepts data).Sound accepts ∧ Inert conn (conn.arrive accepts data) := by
  have grows : conn.received <+: conn.received ++ data := List.prefix_append _ _
  -- where it is read, what was read is handed on
  have read (alive : ∀ why, conn.stage ≠ .gone why) (late : conn.stage.isEarly = false) :
      ({ conn with received := conn.received ++ data, buf := conn.buf ++ data }.readTask).Sound accepts ∧
      Inert conn { conn with received := conn.received ++ data, buf := conn.buf ++ data }.readTask := by
    have whole := (h.whole alive).readTask data
    constructor
    · constructor
      · exact fun _ => whole
      · exact whole.taken
      · exact fun key is => (h.names key is).mono rfl grows
      · intro early
        exact absurd (late.symm.trans early) Bool.false_ne_true
      · exact h.direct
      · exact h.unseen
    · exact ⟨⟨rfl, grows, rfl, rfl, fun _ => .rfl, fun _ => id⟩, fun _ => id⟩
  unfold Conn.arrive
  split
  case h_1 stage socket => exact h.identify stage socket
  case h_2 stage => exact read (by simp [stage]) (by rw [stage]; rfl)
  case h_3 stage => exact read (by simp [stage]) (by rw [stage]; rfl)
  case h_4 => exact ⟨h, .refl conn⟩

/-- So does the end of the stream. -/
lemma Sound.endOfFile (h : conn.Sound accepts) :
    conn.endOfFile.Sound accepts ∧ Inert conn conn.endOfFile := by
  have ended : ({ conn with eof := true } : Conn).Sound accepts ∧ Inert conn { conn with eof := true } :=
    ⟨⟨h.whole, h.taken, h.names, h.early, h.direct, h.unseen⟩,
      ⟨⟨rfl, List.prefix_rfl, rfl, rfl, fun _ => .rfl, fun _ => id⟩, fun _ => id⟩⟩
  unfold Conn.endOfFile
  split
  case h_1 stage =>
    exact ⟨h.close, inert_early (by rw [stage]; rfl) nofun rfl List.prefix_rfl rfl rfl⟩
  case h_2 | h_3 => exact ended
  case h_4 => exact ⟨h, .refl conn⟩

/-- So does giving up. -/
lemma Sound.giveUp (h : conn.Sound accepts) : conn.giveUp.Sound accepts ∧ Inert conn conn.giveUp := by
  unfold Conn.giveUp
  split
  case h_1 stage | h_2 stage =>
    exact ⟨h.close, inert_early (by rw [stage]; rfl) nofun rfl List.prefix_rfl rfl rfl⟩
  case h_3 => exact ⟨h, .refl conn⟩

/-- The wait for the session goes on. -/
lemma Sound.poll {first poll poll'} (h : conn.Sound accepts) (stage : conn.stage = .polling key first poll) :
    ({ conn with stage := .polling key first poll' } : Conn).Sound accepts ∧
      Inert conn { conn with stage := .polling key first poll' } := by
  have early : conn.stage.isEarly = true := by rw [stage]; rfl
  have whole : conn.Whole := h.whole (by simp [stage])
  refine ⟨⟨fun _ => ?_, h.taken, ?_, fun _ => h.early early, h.direct, fun _ => h.unseen (by rw [stage]; rfl)⟩,
    inert_early early nofun rfl List.prefix_rfl rfl rfl⟩
  · rw [Whole, pending, stage] at whole
    exact whole
  · intro key' is
    exact h.names key' (by rw [stage]; exact is)

/-- So does the answer of the session. -/
lemma Sound.answered {connected} (h : conn.Sound accepts) :
    (conn.answered connected).Sound accepts ∧ Inert conn (conn.answered connected) := by
  unfold Conn.answered
  split
  case h_1 stage => exact h.poll stage
  case h_2 => exact ⟨h, .refl conn⟩

/-- So does going without an answer. -/
lemma Sound.unanswered (h : conn.Sound accepts) :
    conn.unanswered.Sound accepts ∧ Inert conn conn.unanswered := by
  unfold Conn.unanswered
  split
  case h_1 stage =>
    exact ⟨h.close, inert_early (by rw [stage]; rfl) nofun rfl List.prefix_rfl rfl rfl⟩
  case h_2 => exact ⟨h, .refl conn⟩

/-- So does spawning the tasks of the connection. -/
lemma Sound.spawnTasks {first poll} (h : conn.Sound accepts) (stage : conn.stage = .polling key first poll) :
    (conn.spawnTasks key first).Sound accepts ∧ Inert conn (conn.spawnTasks key first) := by
  have early : conn.stage.isEarly = true := by rw [stage]; rfl
  obtain ⟨inbound, relay, port, socket⟩ := h.early early
  obtain ⟨taken, written⟩ := h.unseen (by rw [stage]; rfl)
  have whole : conn.Whole := h.whole (by simp [stage])
  rw [Whole, pending, stage, taken, inbound, relay] at whole
  constructor
  · constructor
    · intro _
      simp only [Conn.spawnTasks, Conn.readTask, Whole, pending, taken, inbound, Framer.drain_rest]
      simpa using whole
    · simp [Conn.spawnTasks, Conn.readTask, taken]
    · rintro _ ⟨⟩
      exact h.names key (by rw [stage]; rfl)
    · intro early
      cases early
    · intro key dialed
      have dialed : conn.socket = .dialed key := dialed
      cases socket.symm.trans dialed
    · exact fun _ => ⟨taken, written⟩
  · exact inert_early early nofun rfl List.prefix_rfl rfl rfl

/-- So does forwarding a frame. -/
lemma Sound.forward (h : conn.Sound accepts) : conn.forward.Sound accepts ∧ Inert conn conn.forward := by
  unfold Conn.forward
  split
  case h_1 port raw rest socket inbound =>
    have late : conn.stage.isEarly = false := by
      by_contra early
      simp [(h.early ((Bool.not_eq_false _).mp early)).1] at inbound
    constructor
    · constructor
      · intro alive
        have whole := h.whole alive
        rw [Whole, inbound] at whole
        simpa [Whole, pending] using whole
      · exact h.taken
      · exact h.names
      · intro early
        exact absurd (late.symm.trans early) Bool.false_ne_true
      · intro key dialed
        cases socket.symm.trans dialed
      · exact h.unseen
    · exact ⟨⟨rfl, List.prefix_rfl, rfl, rfl, fun _ => .rfl, fun _ => id⟩, fun _ => id⟩
  case h_2 => exact ⟨h, .refl conn⟩

/-- Taking frames leaves the connection where it stands. -/
@[simp] lemma take_stage (n : Nat) : (conn.take n).stage = conn.stage := by
  unfold take
  split <;> rfl

/-- Taking frames keeps the socket. -/
@[simp] lemma take_socket (n : Nat) : (conn.take n).socket = conn.socket := by
  unfold take
  split <;> rfl

/-- Taking frames keeps what was received. -/
@[simp] lemma take_received (n : Nat) : (conn.take n).received = conn.received := by
  unfold take
  split <;> rfl

/-- The frames that were taken. -/
@[simp] lemma take_taken (n : Nat) : (conn.take n).taken = conn.taken ++ conn.channel.take n := by
  unfold take channel
  split <;> rfl

/-- Taking frames writes nothing. -/
@[simp] lemma take_written (n : Nat) : (conn.take n).written = conn.written := by
  unfold take
  split <;> rfl

section Served

variable (conn) (n : Nat) (frames : List Bytes) (connected : Bool)

/-- A connection that was served is gone once its session is. -/
@[simp] lemma served_stage :
    (conn.served n frames connected).stage = if connected then conn.stage else .gone none := by
  cases connected <;> simp [served, close]

/-- Serving keeps the socket. -/
@[simp] lemma served_socket : (conn.served n frames connected).socket = conn.socket := by
  cases connected <;> simp [served, close]

/-- Serving keeps what was received. -/
@[simp] lemma served_received : (conn.served n frames connected).received = conn.received := by
  cases connected <;> simp [served, close]

/-- The frames a session was served. -/
@[simp] lemma served_taken : (conn.served n frames connected).taken = conn.taken ++ conn.channel.take n := by
  cases connected <;> simp [served, close]

/-- The frames a session wrote when it was served. -/
@[simp] lemma served_written : (conn.served n frames connected).written = conn.written ++ frames := by
  cases connected <;> simp [served, close]

end Served

/-- Frames are taken in the order in which they were received. -/
lemma Whole.take {n} (h : conn.Whole) (direct : ∀ key, conn.socket = .dialed key → conn.relay = [])
    (stage : conn.stage = .held key) : (conn.take n).Whole := by
  unfold Whole pending at h ⊢
  rw [stage] at h
  rw [take_stage, stage, take_received, h]
  cases socket : conn.socket with
  | accepted port => simp [Conn.take, socket, List.append_assoc]
  | dialed key' => simp [Conn.take, socket, direct key' socket, List.append_assoc]

/-- Serving a connection that is held keeps it sound. -/
lemma Sound.served {n frames connected} (h : conn.Sound accepts) (stage : conn.stage = .held key) :
    (conn.served n frames connected).Sound accepts := by
  have whole : (conn.take n).Whole := (h.whole (by simp [stage])).take h.direct stage
  have direct (key') (dialed : (conn.take n).socket = .dialed key') : (conn.take n).relay = [] := by
    have dialed : conn.socket = .dialed key' := (take_socket n).symm.trans dialed
    simp [Conn.take, dialed, h.direct key' dialed]
  cases connected with
  | false => exact @sound_over _ { conn.take n with written := _ } _ whole.taken direct
  | true =>
    constructor
    · exact fun _ => whole
    · exact whole.taken
    · intro key' is
      have is : conn.stage.key = some key' := by rw [← is, served_stage]; rfl
      exact (h.names key' is).mono (served_socket ..) (by rw [served_received])
    · simp [stage, ConnStage.isEarly]
    · exact direct
    · simp [stage, ConnStage.isNew]

end Conn

end QuickFix
