import QuickFix.Engine.Invariant
import QuickFix.Session.Script

/-!
# One connection at a time

In every run of the engine a session has one connection at most, and a connection is with one session at
most: the one it was dialed for, or the one its first message names. What a session takes is, one
connection after the other, the frames at the front of what was received on it, and what it writes goes to
the connection it has.
-/

namespace QuickFix

set_option linter.unusedSectionVars false

namespace Engine

variable {σ ω : Type} [Chrono] [MessageStore σ] [Application ω] [Runtime ω]
variable {reg : Registry σ ω} {e e' : Engine} {key : SessionKey} {c : Nat}

/-! ## A session is given a connection -/

/-- A connection that is taken off the channel is offered no longer. -/
lemma Sound.pop {commands} (h : Sound reg e) (head : (e.slots key).commands = .attach c :: commands) :
    Sound reg (e.onSlot key ({ · with commands := commands })) ∧ e.stage c = some (.offered key) ∧
      ∀ key', c ∉ (e.onSlot key ({ · with commands := commands })).offers key' := by
  have offers : e.offers key = c :: commands.filterMap Command.offer := by
    rw [Engine.offers, head]
    rfl
  have offered : e.stage c = some (.offered key) := h.offered key c (by simp [offers])
  refine ⟨?_, offered, fun key' mem => ?_⟩
  · apply h.onSlot rfl rfl
    rw [offers]
    exact List.sublist_cons_self _ _
  · by_cases own : key' = key
    · rw [own, Engine.offers, slots_onSlot] at mem
      have distinct := h.distinct key
      rw [offers] at distinct
      exact (List.nodup_cons.mp distinct).1 mem
    · rw [Engine.offers, slots_onSlot_ne _ own] at mem
      have other : e.stage c = some (.offered key') := h.offered key' c mem
      exact own (ConnStage.offered.inj (Option.some.inj (other.symm.trans offered)))

/-- A connection that was offered, and is not offered any more, is dropped. -/
lemma Sound.drop {why} (h : Sound reg e) (offered : e.stage c = some (.offered key))
    (gone : ∀ key', c ∉ e.offers key') : Sound reg (e.onConn c (·.close why)) := by
  obtain ⟨conn, here, stage⟩ := stage_eq.mp offered
  have onward : conn.Onward (conn.close why) :=
    ⟨rfl, List.prefix_rfl, rfl, rfl, by simp [stage, Conn.close], by simp [stage]⟩
  apply h.follow (follows_onConn fun conn' here' => ?_) (sound_onConn h.toTidy fun conn' here' => ?_) h.distinct
  · intro key' i mem
    have other : i ≠ c := fun same => gone key' (same ▸ mem)
    rw [Engine.stage, getElem?_onConn, if_neg other.symm]
    exact h.offered key' i mem
  · obtain rfl : conn = conn' := Option.some.inj (here.symm.trans here')
    exact onward
  · exact (h.sound c conn' here').close

/-- The other sessions keep their slot. -/
lemma slots_holding_ne {key'} (ne : key' ≠ key) : (e.holding key c).slots key' = e.slots key' := by
  simp [Engine.holding, slots_onSlot_ne _ ne]

/-- The connection is the latest of the session. -/
lemma links_holding : ((e.holding key c).slots key).links = c :: (e.slots key).links := by simp [Engine.holding]

/-- No session gets an input. -/
lemma inputs_holding (key') : ((e.holding key c).slots key').inputs = (e.slots key').inputs := by
  by_cases own : key' = key
  · simp [Engine.holding, own]
  · rw [slots_holding_ne own]

/-- No session loses an offer. -/
lemma offers_holding (key') : (e.holding key c).offers key' = e.offers key' := by
  by_cases own : key' = key
  · simp [Engine.holding, own, offers]
  · rw [offers, slots_holding_ne own, offers]

/-- Only the connection that is held changes. -/
lemma conns_holding (i : Nat) : (e.holding key c).conns[i]? =
    if c = i then e.conns[i]?.map fun conn => { conn with stage := .held key } else e.conns[i]? := by
  rw [Engine.holding, getElem?_onConn, conns_onSlot]

/-- The other connections stay where they are. -/
lemma stage_holding_ne {i : Nat} (ne : i ≠ c) : (e.holding key c).stage i = e.stage i := by
  rw [stage, stage, conns_holding, if_neg ne.symm]

/-- The connection that was offered is new to every session. -/
lemma Tidy.new (h : Tidy reg e) (offered : e.stage c = some (.offered key)) (key') :
    c ∉ (e.slots key').links := by
  intro mem
  obtain ⟨conn, here, -, stage⟩ := h.own key' c mem
  obtain ⟨conn', here', stage'⟩ := stage_eq.mp offered
  obtain rfl : conn = conn' := Option.some.inj (here.symm.trans here')
  simp [stage'] at stage

/-- Holding a connection that was offered, and is offered no more, keeps order. -/
lemma Tidy.holding (h : Tidy reg e) (offered : e.stage c = some (.offered key))
    (gone : ∀ key', c ∉ e.offers key') : Tidy reg (e.holding key c) := by
  obtain ⟨conn, here, stage⟩ := stage_eq.mp offered
  have others (i) (ne : i ≠ c) : (e.holding key c).conns[i]? = e.conns[i]? := by
    rw [conns_holding, if_neg ne.symm]
  have here' : (e.holding key c).conns[c]? = some { conn with stage := .held key } := by
    rw [conns_holding, if_pos rfl, here]
    rfl
  have sound := h.sound c conn here
  have names : conn.Names reg.accepts key := sound.names key (by rw [stage]; rfl)
  obtain ⟨taken, written⟩ := sound.unseen (by rw [stage]; rfl)
  -- nothing was taken or written on it yet
  have along {what : Conn → List Bytes} (nothing : what { conn with stage := .held key } = []) (key') :
      (e.holding key c).along what key' = e.along what key' := by
    by_cases own : key' = key
    · rw [own, Engine.along, Engine.along, links_holding, List.reverse_cons, List.flatMap_append]
      have old : (e.slots key).links.reverse.flatMap
          (fun i => ((e.holding key c).conns[i]?.map what).getD []) =
          (e.slots key).links.reverse.flatMap (fun i => (e.conns[i]?.map what).getD []) := by
        apply List.flatMap_congr
        intro i mem
        rw [others i]
        rintro rfl
        exact h.new offered key (List.mem_reverse.mp mem)
      rw [old]
      simp [here', nothing]
    · exact along_same (by rw [slots_holding_ne own]) others (h.new offered key')
  constructor
  case sound =>
    intro i conn' at'
    by_cases same : i = c
    · rw [same, here'] at at'
      rw [← Option.some.inj at']
      refine ⟨fun _ => ?_, sound.taken, ?_, ?_, sound.direct, ?_⟩
      · have whole : conn.Whole := sound.whole (by simp [stage])
        rw [Conn.Whole, Conn.pending, stage] at whole
        exact whole
      · rintro _ ⟨⟩
        exact names
      · intro early
        cases early
      · intro new
        cases new
    · exact h.sound i conn' (others i same ▸ at')
  case distinct =>
    intro key'
    rw [offers_holding]
    exact h.distinct key'
  case offered =>
    intro key' i mem
    rw [offers_holding] at mem
    rw [stage_holding_ne fun same : i = c => gone key' (same ▸ mem)]
    exact h.offered key' i mem
  case once =>
    intro key'
    by_cases own : key' = key
    · rw [own, links_holding]
      exact List.nodup_cons.mpr ⟨h.new offered key, h.once key⟩
    · rw [slots_holding_ne own]
      exact h.once key'
  case own =>
    intro key' i mem
    have old (mem : i ∈ (e.slots key').links) : ∃ conn, (e.holding key c).conns[i]? = some conn ∧
        conn.Names reg.accepts key' ∧ (conn.stage = .held key' ∨ ∃ why, conn.stage = .gone why) := by
      rw [others i fun same => h.new offered key' (same ▸ mem)]
      exact h.own key' i mem
    by_cases own : key' = key
    · rw [own, links_holding] at mem
      cases List.mem_cons.mp mem with
      | inl same =>
        subst same own
        exact ⟨_, here', names, .inl rfl⟩
      | inr mem => exact old (own ▸ mem)
    · rw [slots_holding_ne own] at mem
      exact old mem
  case seen =>
    intro i conn' at' some
    by_cases same : i = c
    · exact ⟨key, by rw [links_holding, same]; exact List.mem_cons_self⟩
    · obtain ⟨key', mem⟩ := h.seen i conn' (others i same ▸ at') some
      refine ⟨key', ?_⟩
      by_cases own : key' = key
      · rw [own, links_holding]
        exact List.mem_cons_of_mem _ (own ▸ mem)
      · rw [slots_holding_ne own]
        exact mem
  case took =>
    intro key'
    rw [inputs_holding, along taken]
    exact h.took key'
  case wrote =>
    intro key'
    rw [inputs_holding, along written]
    exact h.wrote key'

/-- A connection that was offered, and is not offered any more, is held for the session. -/
lemma Sound.hold (h : Sound reg e) (offered : e.stage c = some (.offered key))
    (gone : ∀ key', c ∉ e.offers key') (off : reg.connected key (e.slots key).inputs = false) :
    Holding reg (e.holding key c) key c where
  toTidy := h.toTidy.holding offered gone
  head := by rw [links_holding]; rfl
  mine i := by
    by_cases same : i = c
    · obtain ⟨conn, here, -⟩ := stage_eq.mp offered
      rw [same, Engine.stage, conns_holding, if_pos rfl, here]
      simp
    · rw [stage_holding_ne same, (h.matched key).held, Engine.link, off]
      simp [same]
  others key' ne := by
    have slots : (e.holding key c).slots key' = e.slots key' := slots_holding_ne ne
    constructor
    case held =>
      intro i
      rw [Engine.link, slots]
      by_cases same : i = c
      · obtain ⟨conn, here, -⟩ := stage_eq.mp offered
        have free : e.link reg key' ≠ some i := by
          rw [same, ne_eq, ← (h.matched key').held, offered]
          simp
        rw [same, Engine.stage, conns_holding, if_pos rfl, here]
        simpa [Ne.symm ne, Engine.link, same] using free
      · rw [stage_holding_ne same]
        exact (h.matched key').held i
    case linked =>
      rw [slots]
      exact (h.matched key').linked

/-- Attaching a connection that was offered keeps the invariant. -/
lemma Sound.serveAttach (h : Sound reg e) (offered : e.stage c = some (.offered key))
    (gone : ∀ key', c ∉ e.offers key') : Sound reg (e.serveAttach reg key c) := by
  unfold Engine.serveAttach
  split
  case isTrue on =>
    apply (h.drop offered gone).wake ?_ rfl
    intro _
    exact (h.drop offered gone).connected.mp on
  case isFalse off =>
    apply (h.hold offered gone ((Bool.not_eq_true _).mp off)).sound_feed
    intro conn _
    rw [List.take_zero]
    rfl

/-! ## Connections are opened -/

/-- A new connection follows, when no session holds it. -/
lemma follows_opening {conn : Conn} (stage : ∀ key, conn.stage ≠ .held key) (written : conn.written = []) :
    Follows e (e.opening conn) where
  inputs _ := rfl
  links _ := rfl
  conns c conn' here := ⟨conn', opening_old here, (Conn.Inert.refl conn').toOnward⟩
  held c key held := by
    obtain ⟨conn', here, is⟩ := stage_eq.mp held
    cases getElem?_opening here with
    | inl old => exact stage_eq.mpr ⟨conn', old, is⟩
    | inr new =>
      rw [new.2] at is
      exact absurd is (stage key)
  known c conn' here := by
    cases getElem?_opening here with
    | inl old => exact .inr ⟨conn', old⟩
    | inr new => exact .inl (new.2 ▸ written)

/-- A new connection joins sound ones. -/
lemma sound_opening {conn : Conn} (h : Tidy reg e) (new : conn.Sound reg.accepts) (i : Nat) (conn' : Conn)
    (here : (e.opening conn).conns[i]? = some conn') : conn'.Sound reg.accepts := by
  cases getElem?_opening here with
  | inl old => exact h.sound i conn' old
  | inr last => exact last.2 ▸ new

/-- The connections there were stay where they are. -/
lemma stage_opening {conn : Conn} {stage : ConnStage} (here : e.stage c = some stage) :
    (e.opening conn).stage c = some stage := by
  obtain ⟨conn', old, is⟩ := stage_eq.mp here
  exact stage_eq.mpr ⟨conn', opening_old old, is⟩

/-- Accepting a connection keeps the invariant. -/
lemma Sound.accept {port} (h : Sound reg e) :
    Sound reg (e.opening { socket := .accepted port, stage := .identifying }) := by
  apply h.follow (follows_opening (by simp) rfl) (sound_opening h.toTidy (Conn.sound_accepted port)) h.distinct
  exact fun key i mem => stage_opening (h.offered key i mem)

/-- Dialling keeps the invariant. -/
lemma Sound.dial (h : Sound reg e) :
    Sound reg ((e.opening { socket := .dialed key, stage := .offered key }).onSlot key fun slot =>
      { slot.push (.attach e.conns.length) with dialed := some e.conns.length }) := by
  have opened : Follows e (e.opening { socket := .dialed key, stage := .offered key }) :=
    follows_opening (by simp) rfl
  have fresh : e.stage e.conns.length = none := by simp [Engine.stage]
  apply h.offer (c := e.conns.length) (opened.trans (follows_onSlot rfl rfl))
    (sound_opening h.toTidy (Conn.sound_dialed key))
  · simp [fresh]
  · exact stage_eq.mpr ⟨_, opening_new _, rfl⟩
  · exact fun i key offered => stage_opening offered
  · intro key'
    by_cases own : key' = key
    · simp [own, Engine.offers, Slot.push, Command.offer]
    · rw [Engine.offers, slots_onSlot_ne _ own, if_neg own]
      rfl

/-! ## Every move -/

/-- Asking a session whether it is connected keeps the invariant. -/
lemma Sound.ask (h : Sound reg e) : Sound reg (e.step reg (.ask c)) := by
  have asking {key first poll} (stage : e.stage c = some (.polling key first poll)) : Sound reg (
      if e.alive reg key then
        (e.onConn c fun conn => { conn with stage := .polling key first .asked }).onSlot key
          (·.push (.status c))
      else e.onConn c (·.close (some .notRunning))) := by
    have poll (conn) (here : e.conns[c]? = some conn) : conn.stage = .polling key first poll := by
      obtain ⟨conn', here', stage⟩ := stage_eq.mp stage
      obtain rfl : conn = conn' := Option.some.inj (here.symm.trans here')
      exact stage
    split
    case isTrue => exact (h.onConn fun conn here => (h.sound c conn here).poll (poll conn here)).push rfl
    case isFalse =>
      apply h.onConn
      intro conn here
      exact ⟨(h.sound c conn here).close,
        Conn.inert_early (by rw [poll conn here]; rfl) nofun rfl List.prefix_rfl rfl rfl⟩
  unfold step
  dsimp only
  split
  case h_1 stage | h_2 stage => exact asking stage
  case h_3 => exact h

/-- Offering a connection keeps the invariant. -/
lemma Sound.offerTo (h : Sound reg e) : Sound reg (e.step reg (.offer c)) := by
  unfold step
  dsimp only
  split
  case h_2 => exact h
  case h_1 key first stage =>
    obtain ⟨conn, here, polling⟩ := stage_eq.mp stage
    have at_c (conn') (here' : e.conns[c]? = some conn') : conn'.stage = .polling key first .free := by
      obtain rfl : conn = conn' := Option.some.inj (here.symm.trans here')
      exact polling
    have spawned (conn') (here' : e.conns[c]? = some conn') :=
      (h.sound c conn' here').spawnTasks (at_c conn' here')
    split
    case isTrue =>
      have goes : Follows e (e.onConn c (·.spawnTasks key first)) :=
        follows_onConn fun conn' here' => (spawned conn' here').2.toOnward
      apply h.offer (c := c) (goes.trans (follows_onSlot rfl rfl))
        (sound_onConn h.toTidy fun conn' here' => (spawned conn' here').1)
      · simp [stage]
      · exact stage_eq.mpr ⟨conn.spawnTasks key first, by
          rw [conns_onSlot, getElem?_onConn, if_pos rfl, here]; rfl, rfl⟩
      · intro i key' offered
        have other : c ≠ i := by
          rintro rfl
          cases stage.symm.trans offered
        rw [Engine.stage, conns_onSlot, getElem?_onConn, if_neg other]
        exact offered
      · intro key'
        by_cases own : key' = key
        · simp [own, Engine.offers, Slot.push, Command.offer]
        · rw [Engine.offers, slots_onSlot_ne _ own, if_neg own]
          rfl
    case isFalse =>
      apply h.onConn
      intro conn' here'
      exact ⟨(h.sound c conn' here').close,
        Conn.inert_early (by rw [at_c conn' here']; rfl) (by simp [Conn.close]) rfl List.prefix_rfl rfl rfl⟩

/-- Serving a request keeps the invariant. -/
lemma Sound.serveRequest {n r} (h : Sound reg e) : Sound reg (e.serveRequest reg key n r) := by
  cases r with
  | send | logout | setSeqNums => exact h.wake nofun rfl
  | stop =>
    change Sound reg (e.feed reg key (e.link reg key) n (.stop ((e.channel reg key).take n)))
    cases link : e.link reg key with
    | none =>
      apply h.feed_none link (by simp)
      simp [Engine.channel, link, Input.frames]
    | some c =>
      apply (h.holding link).sound_feed
      intro conn here
      simp [Engine.channel, link, here, Input.frames]

/-- Serving what is due keeps the invariant. -/
lemma Sound.serve {n} (h : Sound reg e) : Sound reg (e.step reg (.serve key n)) := by
  unfold step
  dsimp only
  split
  case h_1 => exact h
  case h_2 command commands head =>
    cases command with
    | request r =>
      have popped : Sound reg (e.onSlot key ({ · with commands := commands })) := by
        apply h.onSlot rfl rfl
        rw [Engine.offers, head, List.filterMap_cons_none rfl]
      split
      case isTrue => exact popped.serveRequest
      case isFalse => exact popped
    | attach c =>
      obtain ⟨popped, offered, gone⟩ := h.pop head
      split
      case isTrue => exact popped.serveAttach offered gone
      case isFalse => exact popped.drop offered gone
    | status c =>
      have popped : Sound reg (e.onSlot key ({ · with commands := commands })) := by
        apply h.onSlot rfl rfl
        rw [Engine.offers, head, List.filterMap_cons_none rfl]
      split
      case isTrue => exact popped.onConn fun conn here => (popped.sound c conn here).answered
      case isFalse => exact popped.onConn fun conn here => (popped.sound c conn here).unanswered

/-- Taking a command keeps the invariant. -/
lemma Sound.take (h : Sound reg e) : Sound reg (e.step reg (.take key)) := by
  unfold step
  dsimp only
  split
  case h_1 => exact h
  case h_2 raw rest head =>
    cases link : e.link reg key with
    | none => simp [Engine.channel, link] at head
    | some c =>
      apply (h.holding link).sound_feed
      intro conn here
      have channel : conn.channel = raw :: rest := by simpa [Engine.channel, link, here] using head
      rw [channel]
      rfl

/-- The invariant is kept by every move. -/
lemma Sound.step (h : Sound reg e) (move : Move) : Sound reg (e.step reg move) := by
  cases move with
  | accept port =>
    unfold Engine.step
    dsimp only
    split
    case isTrue => exact h.accept
    case isFalse => exact h
  | dial key =>
    unfold Engine.step
    dsimp only
    split
    case isTrue => exact h.dial
    case isFalse => exact h
  | arrive c data => exact h.onConn fun conn here => (h.sound c conn here).arrive
  | endOfFile c => exact h.onConn fun conn here => (h.sound c conn here).endOfFile
  | giveUp c => exact h.onConn fun conn here => (h.sound c conn here).giveUp
  | forward c => exact h.onConn fun conn here => (h.sound c conn here).forward
  | ask c => exact h.ask
  | offer c => exact h.offerTo
  | request key r =>
    unfold Engine.step
    dsimp only
    split
    case isTrue => exact h.push rfl
    case isFalse => exact h
  | serve key n => exact h.serve
  | take key => exact h.take
  | hangUp key =>
    unfold Engine.step
    dsimp only
    split
    case h_1 =>
      split
      case isTrue => exact h.wake nofun rfl
      case isFalse => exact h
    case h_2 => exact h
  | scheduleTick key | protocolTimer key | abandon key =>
    unfold Engine.step
    dsimp only
    split
    case isTrue => exact h.wake nofun rfl
    case isFalse => exact h
  | stop => exact ⟨⟨h.sound, h.distinct, h.offered, h.once, h.own, h.seen, h.took, h.wrote⟩,
      fun key => ⟨(h.matched key).held, (h.matched key).linked⟩⟩

/-- An engine without connections satisfies the invariant. -/
lemma sound_start : Sound reg {} where
  sound c conn here := by simp at here
  distinct _ := List.nodup_nil
  offered _ _ mem := by simp [Engine.offers] at mem
  once _ := List.nodup_nil
  own _ _ mem := by simp at mem
  seen _ _ here := by simp at here
  took _ := rfl
  wrote _ := Registry.frames_nil
  matched key := by
    constructor
    · intro c
      simp [Engine.stage, Engine.link]
    · intro on
      rw [Registry.connected_nil] at on
      cases on

/-- Every list of moves keeps the invariant. -/
lemma sound_moves {moves : List Move} (h : Sound reg e) : Sound reg (moves.foldl (Engine.step reg) e) := by
  induction moves generalizing e with
  | nil => exact h
  | cons move moves ih => exact ih (h.step move)

/-- Every engine that was reached satisfies the invariant. -/
lemma sound_ran (reg : Registry σ ω) (moves : List Move) : Sound reg (.ran reg moves) :=
  sound_moves sound_start

/-! ## Every run -/

/-- In every run of the engine, a session is connected when it has a connection; a connection is held for
the session that has it, so with one session at most, which it was dialed for or which its first message
names. -/
theorem one_connection (reg : Registry σ ω) (moves : List Move) (key : SessionKey) :
    (reg.connected key ((ran reg moves).slots key).inputs = true ↔
      ∃ c, (ran reg moves).link reg key = some c) ∧
    ∀ c, ((ran reg moves).stage c = some (.held key) ↔ (ran reg moves).link reg key = some c) ∧
      ∀ conn, (ran reg moves).conns[c]? = some conn → conn.stage = .held key →
        conn.Names reg.accepts key := by
  have sound := sound_ran reg moves
  refine ⟨sound.connected, fun c => ⟨(sound.matched key).held c, fun conn here held => ?_⟩⟩
  apply (sound.sound c conn here).names
  rw [held]
  rfl

/-- In every run of the engine, the frames a session takes are, one of its connections after the other,
frames at the front of what was received on a connection that names it; and the frames it writes are, one
connection after the other, what was given to them. -/
theorem session_streams (reg : Registry σ ω) (moves : List Move) (key : SessionKey) :
    (((ran reg moves).slots key).inputs.flatMap Input.frames = (ran reg moves).along Conn.taken key ∧
      reg.frames key ((ran reg moves).slots key).inputs = (ran reg moves).along Conn.written key) ∧
    ((ran reg moves).slots key).links.Nodup ∧
    ∀ c ∈ ((ran reg moves).slots key).links, ∃ conn, (ran reg moves).conns[c]? = some conn ∧
      conn.Names reg.accepts key ∧ conn.taken <+: framesOf conn.received := by
  have sound := sound_ran reg moves
  refine ⟨⟨sound.took key, sound.wrote key⟩, sound.once key, fun c mem => ?_⟩
  obtain ⟨conn, here, names, -⟩ := sound.own key c mem
  exact ⟨conn, here, names, (sound.sound c conn here).taken⟩

example : letI := epochDay
    (ran (fun _ => none : Registry MemoryStore Script) [.accept 5001, .stop, .accept 5001]).conns.length = 1 := by
  decide +kernel

end Engine

end QuickFix
