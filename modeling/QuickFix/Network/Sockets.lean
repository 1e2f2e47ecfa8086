import QuickFix.Engine.Attachment
import QuickFix.Network.Order

/-!
# Two engines and the sockets between them

The network of two sessions is made of sockets: what is received on a connection is a front part of the
bytes that were written into its other end, however it is cut, and connections come and go. Where every
connection that names a session has the session of its counterparty at the other end, what the frames of
the one engine carry to the other is a network as the sessions need it: the engines deliver what was sent.
-/

namespace QuickFix

set_option linter.unusedSectionVars false

open Session

/-! ## Connections only grow -/

namespace Conn

/-- More was received on a connection and written to it. -/
structure Grows (conn conn' : Conn) : Prop where
  socket : conn'.socket = conn.socket
  received : conn.received <+: conn'.received
  written : conn.written <+: conn'.written

variable {conn conn' : Conn}

/-- A connection grows when its bytes stay. -/
lemma Grows.of_same (socket : conn'.socket = conn.socket) (received : conn'.received = conn.received)
    (written : conn'.written = conn.written) : Grows conn conn' :=
  ⟨socket, by rw [received], by rw [written]⟩

/-- A connection that does not change grows. -/
lemma Grows.refl (conn : Conn) : Grows conn conn := .of_same rfl rfl rfl

/-- What grows in two steps grows. -/
lemma Grows.trans {conn''} (h : Grows conn conn') (h' : Grows conn' conn'') : Grows conn conn'' :=
  ⟨h'.socket.trans h.socket, h.received.trans h'.received, h.written.trans h'.written⟩

/-- Looking for the first frame grows. -/
lemma grows_identify (known) : Grows conn (conn.identify known) := by
  unfold identify
  split
  case h_1 => exact .of_same rfl rfl rfl
  case h_2 =>
    split
    case h_1 => exact .of_same rfl rfl rfl
    case h_2 => split <;> exact .of_same rfl rfl rfl

/-- So does receiving bytes. -/
lemma grows_arrive (accepts data) : Grows conn (conn.arrive accepts data) := by
  have read : Grows conn { conn with received := conn.received ++ data, buf := conn.buf ++ data } :=
    ⟨rfl, List.prefix_append _ _, List.prefix_rfl⟩
  unfold arrive
  split
  case h_1 => exact read.trans (grows_identify _)
  case h_2 | h_3 => exact read.trans (.of_same rfl rfl rfl)
  case h_4 => exact .refl conn

/-- So does the end of the stream. -/
lemma grows_endOfFile : Grows conn conn.endOfFile := by
  unfold endOfFile
  split <;> exact .of_same rfl rfl rfl

/-- So does giving up. -/
lemma grows_giveUp : Grows conn conn.giveUp := by
  unfold giveUp
  split <;> exact .of_same rfl rfl rfl

/-- So does the answer of the session. -/
lemma grows_answered (connected) : Grows conn (conn.answered connected) := by
  unfold answered
  split <;> exact .of_same rfl rfl rfl

/-- So does going without an answer. -/
lemma grows_unanswered : Grows conn conn.unanswered := by
  unfold unanswered
  split <;> exact .of_same rfl rfl rfl

/-- So does forwarding a frame. -/
lemma grows_forward : Grows conn conn.forward := by
  unfold forward
  split <;> exact .of_same rfl rfl rfl

/-- So does serving. -/
lemma grows_served (n frames connected) : Grows conn (conn.served n frames connected) :=
  ⟨served_socket .., by rw [served_received], by rw [served_written]; exact List.prefix_append _ _⟩

end Conn

namespace Engine

/-- Connections stay where they are, and more was received on them and written to them; sessions go on. -/
structure Extends (e e' : Engine) : Prop where
  conns : ∀ (c : Nat) (conn : Conn), e.conns[c]? = some conn →
    ∃ conn', e'.conns[c]? = some conn' ∧ conn.Grows conn'
  inputs : ∀ key, (e.slots key).inputs <+: (e'.slots key).inputs

variable {e e' : Engine} {key : SessionKey} {c : Nat}

/-- An engine extends itself. -/
lemma Extends.refl (e : Engine) : Extends e e :=
  ⟨fun _ conn here => ⟨conn, here, .refl conn⟩, fun _ => List.prefix_rfl⟩

/-- What extends in two steps extends. -/
lemma Extends.trans {e''} (h : Extends e e') (h' : Extends e' e'') : Extends e e'' := by
  refine ⟨fun c conn here => ?_, fun key => (h.inputs key).trans (h'.inputs key)⟩
  obtain ⟨conn', here', grows⟩ := h.conns c conn here
  obtain ⟨conn'', here'', grows'⟩ := h'.conns c conn' here'
  exact ⟨conn'', here'', grows.trans grows'⟩

/-- A connection that grows extends the engine. -/
lemma extends_onConn {f : Conn → Conn} (grows : ∀ conn : Conn, conn.Grows (f conn)) :
    Extends e (e.onConn c f) := by
  refine ⟨fun i conn here => ?_, fun _ => List.prefix_rfl⟩
  rw [getElem?_onConn, here]
  split
  case isTrue => exact ⟨f conn, rfl, grows conn⟩
  case isFalse => exact ⟨conn, rfl, .refl conn⟩

/-- So it does after other steps. -/
lemma Extends.onConn {f : Conn → Conn} (h : Extends e e') (grows : ∀ conn : Conn, conn.Grows (f conn)) :
    Extends e (e'.onConn c f) := h.trans (extends_onConn grows)

/-- A slot whose inputs go on extends the engine. -/
lemma Extends.onSlot {f : Slot → Slot} (h : Extends e e')
    (onward : (e'.slots key).inputs <+: (f (e'.slots key)).inputs := by exact List.prefix_rfl) :
    Extends e (e'.onSlot key f) := by
  apply h.trans
  refine ⟨fun c conn here => ⟨conn, here, .refl conn⟩, fun key' => ?_⟩
  by_cases own : key' = key
  · rw [own, slots_onSlot]
    exact onward
  · rw [slots_onSlot_ne _ own]

/-- A new connection extends the engine. -/
lemma extends_opening (conn : Conn) : Extends e (e.opening conn) :=
  ⟨fun _ conn' here => ⟨conn', opening_old here, .refl conn'⟩, fun _ => List.prefix_rfl⟩

variable {σ ω : Type} [Chrono] [MessageStore σ] [Application ω] [Runtime ω] {reg : Registry σ ω}

/-- Feeding a session extends the engine. -/
lemma Extends.feed {link : Option Nat} {n input} (h : Extends e e') :
    Extends e (e'.feed reg key link n input) := by
  unfold Engine.feed
  split
  case h_1 => exact h.onSlot (List.prefix_append _ _)
  case h_2 => exact (h.onSlot (List.prefix_append _ _)).onConn fun _ => Conn.grows_served ..

/-- Serving a command extends the engine. -/
lemma Extends.serveCommand {n command} (h : Extends e e') :
    Extends e (e'.serveCommand reg key n command) := by
  apply h.trans
  cases command with
  | request r =>
    cases r with
    | send | logout | setSeqNums | stop => exact .feed (.refl _)
  | attach c =>
    change Extends e' (e'.serveAttach reg key c)
    unfold serveAttach
    split
    case isTrue => exact .feed (extends_onConn fun _ => .of_same rfl rfl rfl)
    case isFalse => exact .feed (.onConn (.onSlot (.refl _)) fun _ => .of_same rfl rfl rfl)
  | status c => exact extends_onConn fun _ => Conn.grows_answered _

/-- Discarding a command extends the engine. -/
lemma Extends.discard {command} (h : Extends e e') : Extends e (e'.discard command) := by
  apply h.trans
  cases command with
  | request => exact .refl _
  | attach => exact extends_onConn fun _ => .of_same rfl rfl rfl
  | status => exact extends_onConn fun _ => Conn.grows_unanswered

/-- Every move extends the engine. -/
lemma extends_step (move : Move) : Extends e (e.step reg move) := by
  cases move with
  | accept port =>
    unfold Engine.step
    dsimp only
    split
    case isTrue => exact extends_opening _
    case isFalse => exact .refl e
  | dial key =>
    unfold Engine.step
    dsimp only
    split
    case isTrue => exact .onSlot (extends_opening _)
    case isFalse => exact .refl e
  | arrive c data => exact extends_onConn fun _ => Conn.grows_arrive ..
  | endOfFile c => exact extends_onConn fun _ => Conn.grows_endOfFile
  | giveUp c => exact extends_onConn fun _ => Conn.grows_giveUp
  | forward c => exact extends_onConn fun _ => Conn.grows_forward
  | ask c =>
    unfold Engine.step
    dsimp only
    split
    case h_3 => exact .refl e
    all_goals
      split
      · exact .onSlot (extends_onConn fun _ => .of_same rfl rfl rfl)
      · exact extends_onConn fun _ => .of_same rfl rfl rfl
  | offer c =>
    unfold Engine.step
    dsimp only
    split
    case h_1 =>
      split
      case isTrue => exact .onSlot (extends_onConn fun _ => .of_same rfl rfl rfl)
      case isFalse => exact extends_onConn fun _ => .of_same rfl rfl rfl
    case h_2 => exact .refl e
  | serve key n =>
    unfold Engine.step
    dsimp only
    split
    case h_1 => exact .refl e
    case h_2 =>
      split
      case isTrue => exact .serveCommand (.onSlot (.refl e))
      case isFalse => exact .discard (.onSlot (.refl e))
  | take key =>
    unfold Engine.step
    dsimp only
    split
    case h_1 => exact .refl e
    case h_2 => exact .feed (.refl e)
  | hangUp key =>
    unfold Engine.step
    dsimp only
    split
    case h_1 =>
      split
      case isTrue => exact .feed (.refl e)
      case isFalse => exact .refl e
    case h_2 => exact .refl e
  | request key r =>
    unfold Engine.step
    dsimp only
    split
    case isTrue => exact .onSlot (.refl e)
    case isFalse => exact .refl e
  | scheduleTick key | protocolTimer key | abandon key =>
    unfold Engine.step
    dsimp only
    split
    case isTrue => exact .feed (.refl e)
    case isFalse => exact .refl e
  | stop => exact ⟨(Extends.refl e).conns, (Extends.refl e).inputs⟩

variable (reg)

/-- The latest move is made last. -/
lemma ran_snoc (moves : List Move) (move : Move) :
    ran reg (moves ++ [move]) = (ran reg moves).step reg move := by
  rw [ran, ran, List.foldl_append]
  rfl

/-- Runs extend the engines of their beginnings. -/
lemma extends_ran (moves : List Move) (move : Move) :
    Extends (ran reg moves) (ran reg (moves ++ [move])) := by
  rw [ran_snoc]
  exact extends_step move

variable {reg}

/-- What was received on a connection. -/
def received (e : Engine) (c : Nat) : Bytes := (e.conns[c]?.map Conn.received).getD []

/-- The bytes that were written to a connection. -/
def sent (e : Engine) (c : Nat) : Bytes := ((e.conns[c]?.map Conn.written).getD []).flatten

/-- What was sent on a connection is a beginning of what is. -/
lemma Extends.sent (h : Extends e e') (c : Nat) : e.sent c <+: e'.sent c := by
  rw [Engine.sent, Engine.sent]
  cases here : e.conns[c]? with
  | none => exact List.nil_prefix
  | some conn =>
    obtain ⟨conn', here', grows⟩ := h.conns c conn here
    obtain ⟨more, written⟩ := grows.written
    rw [here']
    simp [← written]

end Engine

/-! ## Frames -/

/-- Messages that are written one after the other come out as they are. -/
lemma framesOf_flatten {raws : List Bytes} (legible : ∀ raw ∈ raws, ∃ m : Message, m.Legible ∧ raw = m.toBytes) :
    framesOf raws.flatten = raws := by
  obtain ⟨ms, all, rfl⟩ : ∃ ms : List Message, (∀ m ∈ ms, m.Legible) ∧ raws = ms.map Message.toBytes := by
    induction raws with
    | nil => exact ⟨[], by simp, rfl⟩
    | cons raw raws ih =>
      obtain ⟨⟨m, here, rfl⟩, rest⟩ := List.forall_mem_cons.mp legible
      obtain ⟨ms, all, rfl⟩ := ih rest
      exact ⟨m :: ms, List.forall_mem_cons.mpr ⟨here, all⟩, rfl⟩
  have plain (m : Message) (mem : m ∈ ms) (v) (set : m.header.getRaw Tags.beginString = some v) : soh ∉ v := by
    have begins := (all m mem).sendable.begins
    rwa [Message.beginBytes, set] at begins
  have drained := @drain_serialized (ms.map fun m => ([], m)) (by simp +decide)
    (by simpa using plain) (by simpa using fun m mem => (all m mem).fits)
  rw [framesOf, ← List.flatMap_def]
  simpa [List.flatMap_map, Function.comp_def] using congrArg Prod.fst drained

/-- A front part of a stream has the first frames. -/
lemma framesOf_initial {xs ys : Bytes} (front : xs <+: ys) : framesOf xs <+: framesOf ys := by
  obtain ⟨more, rfl⟩ := front
  exact framesOf_append xs more

/-! ## Sockets -/

section Wired

variable {σ ω σ' ω' : Type} [Chrono]
variable [MessageStore σ] [Application ω] [Runtime ω] [MessageStore σ'] [Application ω'] [Runtime ω']
variable {reg : Registry σ ω} {reg' : Registry σ' ω'} {plug : Nat → Nat → Prop} {key key' : SessionKey}

/-- The moves of two engines so far, in any interleaving. Where a connection of the first and one of the
second are the ends of one socket, what the second received on it is a front part of what the first wrote
to it; everything else the two receive is arbitrary. -/
inductive Wired (reg : Registry σ ω) (reg' : Registry σ' ω') (plug : Nat → Nat → Prop) :
    List Move → List Move → Prop
  | start : Wired reg reg' plug [] []
  | left {ms ns m} (wired : Wired reg reg' plug ms ns) : Wired reg reg' plug (ms ++ [m]) ns
  | right {ms ns m} (wired : Wired reg reg' plug ms ns) (carried : ∀ c d, plug c d →
      (Engine.ran reg' (ns ++ [m])).received d <+: (Engine.ran reg ms).sent c) :
      Wired reg reg' plug ms (ns ++ [m])

/-- Every connection that names the session of the second engine has a connection of this session of the
first at its other end. -/
def Partners (reg : Registry σ ω) (reg' : Registry σ' ω') (plug : Nat → Nat → Prop) (key key' : SessionKey)
    (e e' : Engine) : Prop :=
  ∀ (d : Nat) (conn : Conn), e'.conns[d]? = some conn → conn.Names reg'.accepts key' →
    ∃ c, plug c d ∧ ∀ conn', e.conns[c]? = some conn' → ∀ named, conn'.Names reg.accepts named → named = key

/-- What was received on a connection was written to its other end. -/
lemma Wired.carried {ms ns} (h : Wired reg reg' plug ms ns) {c d} (ends : plug c d) :
    (Engine.ran reg' ns).received d <+: (Engine.ran reg ms).sent c := by
  induction h with
  | start => exact List.nil_prefix
  | left _ ih => exact ih.trans ((Engine.extends_ran _ _ _).sent c)
  | right _ carried => exact carried c d ends

/-- Engines that were partners earlier on the left. -/
lemma Partners.of_left {e₁ e₂ e' : Engine} (h : Partners reg reg' plug key key' e₂ e') (more : e₁.Extends e₂) :
    Partners reg reg' plug key key' e₁ e' := by
  intro d conn here names
  obtain ⟨c, ends, own⟩ := h d conn here names
  refine ⟨c, ends, fun conn' here' named names' => ?_⟩
  obtain ⟨conn'', here'', grows⟩ := more.conns c conn' here'
  exact own conn'' here'' named (names'.mono grows.socket grows.received)

/-- Engines that were partners earlier on the right. -/
lemma Partners.of_right {e e₁ e₂ : Engine} (h : Partners reg reg' plug key key' e e₂) (more : e₁.Extends e₂) :
    Partners reg reg' plug key key' e e₁ := by
  intro d conn here names
  obtain ⟨conn', here', grows⟩ := more.conns d conn here
  exact h d conn' here' (names.mono grows.socket grows.received)

/-- A connection that names one session only was written to by it. -/
lemma Engine.Tidy.written {e : Engine} (h : e.Tidy reg) {c : Nat} {conn : Conn} (here : e.conns[c]? = some conn)
    (own : ∀ named, conn.Names reg.accepts named → named = key) {raw} (mem : raw ∈ conn.written) :
    raw ∈ reg.frames key (e.slots key).inputs := by
  obtain ⟨named, link⟩ := h.seen c conn here (List.ne_nil_of_mem mem)
  obtain ⟨conn', here', names, -⟩ := h.own named c link
  obtain rfl : conn = conn' := Option.some.inj (here.symm.trans here')
  obtain rfl := own named names
  rw [h.wrote, Engine.along, List.mem_flatMap]
  exact ⟨c, List.mem_reverse.mpr link, by rw [here]; exact mem⟩

/-- A frame a session got was received on a connection that names it. -/
lemma Engine.Tidy.arrived {e : Engine} (h : e.Tidy reg) {input raw} (mem : input ∈ (e.slots key).inputs)
    (frame : raw ∈ input.frames) : ∃ (c : Nat) (conn : Conn), e.conns[c]? = some conn ∧ conn.Names reg.accepts key ∧
      raw ∈ framesOf conn.received := by
  have taken : raw ∈ (e.slots key).inputs.flatMap Input.frames := List.mem_flatMap.mpr ⟨input, mem, frame⟩
  rw [h.took, Engine.along, List.mem_flatMap] at taken
  obtain ⟨c, link, taken⟩ := taken
  obtain ⟨conn, here, names, -⟩ := h.own key c (List.mem_reverse.mp link)
  rw [here] at taken
  exact ⟨c, conn, here, names, (h.sound c conn here).taken.subset taken⟩

/-- What a session of the second engine gets, its counterparty in the first one has written. -/
lemma Wired.wrote {ms ns} (wired : Wired reg reg' plug ms ns)
    (partners : Partners reg reg' plug key key' (Engine.ran reg ms) (Engine.ran reg' ns))
    (legible : ∀ raw ∈ reg.frames key ((Engine.ran reg ms).slots key).inputs,
      ∃ m : Message, m.Legible ∧ raw = m.toBytes) {input raw}
    (mem : input ∈ ((Engine.ran reg' ns).slots key').inputs) (frame : raw ∈ input.frames) :
    raw ∈ reg.frames key ((Engine.ran reg ms).slots key).inputs := by
  have sound := Engine.sound_ran reg ms
  obtain ⟨d, conn, here, names, received⟩ := (Engine.sound_ran reg' ns).arrived mem frame
  obtain ⟨c, ends, own⟩ := partners d conn here names
  have carried : conn.received <+: (Engine.ran reg ms).sent c := by
    have carried := wired.carried ends
    rw [Engine.received, here] at carried
    exact carried
  have sent := (framesOf_initial carried).subset received
  rw [Engine.sent] at sent
  cases other : (Engine.ran reg ms).conns[c]? with
  | none =>
    have empty : framesOf [] = [] := @framesOf_flatten [] (by simp)
    simp [other, empty] at sent
  | some conn' =>
    have written {raw} (mem : raw ∈ conn'.written) := sound.written other (own conn' other) mem
    simp only [other, Option.map_some, Option.getD_some] at sent
    rw [framesOf_flatten fun raw mem => legible raw (written mem)] at sent
    exact written sent

/-! ## Delivery -/

/-- The first side goes on. -/
lemma Joined.lefts {a : Party σ ω} {b : Party σ' ω'} {is js} (h : Joined a b is js) (more : List Input) :
    Joined a b (is ++ more) js := by
  induction more generalizing is with
  | nil => exact (List.append_nil is).symm ▸ h
  | cons input more ih =>
    rw [List.append_cons]
    exact ih h.left

/-- The second side goes on with what the first one wrote. -/
lemma Joined.rights {a : Party σ ω} {b : Party σ' ω'} {is js more} (h : Joined a b is js)
    (carried : ∀ input ∈ more, ∀ raw ∈ input.frames, Wrote raw (a.after is).trace) :
    Joined a b is (js ++ more) := by
  induction more generalizing js with
  | nil => exact (List.append_nil js).symm ▸ h
  | cons input more ih =>
    obtain ⟨here, rest⟩ := List.forall_mem_cons.mp carried
    rw [List.append_cons]
    exact ih (h.right here) rest

/-- A sender was one before its latest inputs. -/
lemma Sender.of_append [LawfulStore σ] {a : Party σ ω} {is more} (h : Sender a (is ++ more)) : Sender a is := by
  induction more generalizing is with
  | nil => exact (List.append_nil is) ▸ h
  | cons input more ih =>
    rw [List.append_cons] at h
    exact (ih h).before

variable [LawfulStore σ] [FaithfulStore σ]

/-- Sockets are a network of the two sessions. -/
lemma Wired.joined (format : ∀ t : UtcTimestamp, soh ∉ encode t) {ms ns} (wired : Wired reg reg' plug ms ns)
    (partners : Partners reg reg' plug key key' (Engine.ran reg ms) (Engine.ran reg' ns)) {a}
    (entry : reg key = some a) (sender : Sender a.party ((Engine.ran reg ms).slots key).inputs)
    (b : Party σ' ω') : Joined a.party b ((Engine.ran reg ms).slots key).inputs
      ((Engine.ran reg' ns).slots key').inputs := by
  induction wired with
  | start => exact .start
  | @left ms ns m wired ih =>
    have more := Engine.extends_ran reg ms m
    obtain ⟨inputs, same⟩ := more.inputs key
    rw [← same] at sender ⊢
    exact (ih (partners.of_left more) sender.of_append).lefts inputs
  | @right ms ns m wired carried ih =>
    have more := Engine.extends_ran reg' ns m
    obtain ⟨inputs, same⟩ := more.inputs key'
    have frames : reg.frames key ((Engine.ran reg ms).slots key).inputs =
        writtenFrames (a.party.after ((Engine.ran reg ms).slots key).inputs).trace := by
      rw [Registry.frames, entry]
    rw [← same]
    apply (ih (partners.of_right more) sender).rights
    intro input mem raw frame
    rw [wrote_iff, ← frames]
    apply (Wired.right wired carried).wrote partners (fun raw mem => ?_) (same ▸ List.mem_append_right _ mem) frame
    rw [frames, ← wrote_iff] at mem
    obtain ⟨m, legible, bytes, -⟩ := sender.tells format mem
    exact ⟨m, legible, bytes⟩

end Wired

section Delivery

variable {σ ω σ' ω' : Type} [Chrono]
variable [MessageStore σ] [Application ω] [Runtime ω] [MessageStore σ'] [Application ω'] [Runtime ω']
variable [FailStopStore σ] [FaithfulStore σ] [LawfulStore σ']
variable {reg : Registry σ ω} {reg' : Registry σ' ω'} {plug : Nat → Nat → Prop} {key key' : SessionKey}

/-- However the tasks of two engines take turns, and whatever else the engines are connected to: where the
connections that name a session of the second have a session of the first at their other end, what is
delivered to the application of the one was sent by the application of the other; and while neither starts
its numbers anew, it is delivered in the order in which it was accepted, and nothing twice. -/
theorem sockets_deliver (format : ∀ t : UtcTimestamp, soh ∉ encode t) {ms ns}
    (wired : Wired reg reg' plug ms ns)
    (partners : Partners reg reg' plug key key' (Engine.ran reg ms) (Engine.ran reg' ns)) {a}
    (entry : reg key = some a) (sender : Sender a.party ((Engine.ran reg ms).slots key).inputs) :
    ∀ b, reg' key' = some b →
      let sent := (a.party.after ((Engine.ran reg ms).slots key).inputs).trace
      let got := (b.party.after ((Engine.ran reg' ns).slots key').inputs).trace
      (∀ c ∈ got, ∀ msg answer, c.event = .fromApp msg answer → Stored msg.content sent) ∧
      (Numbering a.party ((Engine.ran reg ms).slots key).inputs →
        Counting b.party ((Engine.ran reg' ns).slots key').inputs →
        (deliveredContents got).Sublist (acceptedContents sent)) := by
  intro b _
  have joined := wired.joined format partners entry sender b.party
  refine ⟨fun c mem msg answer ev => ?_, fun numbering counting => ?_⟩
  · exact stored_of_delivered (fun raw arrived => sender.tells format (joined.wrote arrived)) mem ev
  · have start : Service.Sound Content.seq ({} : Service Content) := ⟨.nil, .nil, by simp⟩
    exact ((reaches_service format joined sender numbering counting).sound start).sublist

end Delivery

namespace Script

attribute [local instance] epochDay

/-- The session of `S`. -/
def sellerKey : SessionKey := keyOf seller.cfg.sessionId

/-- The session of `T`. -/
def buyerKey : SessionKey := keyOf buyer.cfg.sessionId

/-- The engine of `S` listens. -/
def sellers : Registry MemoryStore Script :=
  fun key => if key = sellerKey then some { party := seller, port := 5001 } else none

/-- The engine of `T` dials. -/
def buyers : Registry MemoryStore Script := fun key => if key = buyerKey then some { party := buyer } else none

/-- `T` has a connection and logs on. -/
def dialing : List Move := [.dial buyerKey, .serve buyerKey 0]

/-- The bytes of its Logon. -/
def greeting : Bytes := (Engine.ran buyers dialing).sent 0

/-- `S` reads them in two pieces, is given the connection, answers and sends a message. -/
def selling : List Move :=
  [.accept 5001, .arrive 0 (greeting.take 7), .arrive 0 (greeting.drop 7), .ask 0, .serve sellerKey 0,
    .offer 0, .serve sellerKey 0, .forward 0, .take sellerKey, .request sellerKey (.send plainOrder),
    .serve sellerKey 0]

/-- What `S` wrote. -/
def stream : Bytes := (Engine.ran sellers selling).sent 0

/-- `T` reads that in two pieces. -/
def buying : List Move :=
  dialing ++ [.arrive 0 (stream.take 100)] ++ [.arrive 0 (stream.drop 100)] ++ [.take buyerKey] ++
    [.take buyerKey]

/-- There is one socket. -/
def onlySocket (c d : Nat) : Prop := c = 0 ∧ d = 0

/-- The sockets carry what they were sent. -/
lemma wired_buying : Wired sellers buyers onlySocket selling buying := by
  have sold (ms ms' : List Move) (ns) (h : Wired sellers buyers onlySocket ms ns) :
      Wired sellers buyers onlySocket (ms ++ ms') ns := by
    induction ms' generalizing ms with
    | nil => exact (List.append_nil ms).symm ▸ h
    | cons m ms' ih =>
      rw [List.append_cons]
      exact ih _ h.left
  have dialed : Wired sellers buyers onlySocket [] ([] ++ [.dial buyerKey] ++ [.serve buyerKey 0]) := by
    apply Wired.right (.right .start ?_) ?_
    all_goals
      rintro _ _ ⟨rfl, rfl⟩
      decide +kernel
  have ready : Wired sellers buyers onlySocket selling dialing := sold [] selling _ dialed
  apply Wired.right (.right (.right (.right ready ?_) ?_) ?_) ?_
  all_goals
    rintro _ _ ⟨rfl, rfl⟩
    decide +kernel

/-- The two engines are partners. -/
lemma partners_buying : Partners sellers buyers onlySocket sellerKey buyerKey (Engine.ran sellers selling)
    (Engine.ran buyers buying) := by
  intro d conn here _
  have first : d = 0 := by
    have bound := (List.getElem?_eq_some_iff.mp here).1
    have one : (Engine.ran buyers buying).conns.length = 1 := by decide +kernel
    omega
  refine ⟨0, ⟨rfl, first⟩, fun conn' here' named names => ?_⟩
  have link : 0 ∈ ((Engine.ran sellers selling).slots sellerKey).links := by decide +kernel
  obtain ⟨conn₂, same, own, -⟩ := (Engine.sound_ran sellers selling).own sellerKey 0 link
  obtain rfl : conn' = conn₂ := Option.some.inj (here'.symm.trans same)
  exact names.unique own

/-- What `S` sent over its socket comes back from its bytes. -/
lemma sender_selling : Sender seller ((Engine.ran sellers selling).slots sellerKey).inputs where
  leaves := leavesNumber
  persist := rfl
  valid := MemoryStore.valid_empty 0
  empty _ := by simp [seller, LawfulStore.messages]
  careful := by decide +kernel

/-- `T` gets what `S` sent. -/
theorem sockets_deliver_buying :
    let sent := (seller.after ((Engine.ran sellers selling).slots sellerKey).inputs).trace
    let got := (buyer.after ((Engine.ran buyers buying).slots buyerKey).inputs).trace
    (∀ c ∈ got, ∀ msg answer, c.event = .fromApp msg answer → Stored msg.content sent) ∧
      (deliveredContents got).Sublist (acceptedContents sent) ∧
      (deliveredContents got).map Content.seq = [2] :=
  have delivered := sockets_deliver (fun t => plain_formatDay t.precision t.time) wired_buying
    partners_buying rfl sender_selling _ rfl
  ⟨delivered.1, delivered.2 ⟨by decide +kernel, by decide +kernel⟩
    ⟨MemoryStore.valid_empty 0, by decide +kernel, by decide +kernel, by decide +kernel⟩, by decide +kernel⟩

end Script

end QuickFix
