import QuickFix.Engine.Streams
import QuickFix.Steps.Idle

/-!
# The invariant of the engine

What the tasks of the engine agree on between two moves: a connection is offered to a session once, it is
held for the session that has it, and what the session took and wrote is what its connections received and
were given. Two kinds of moves keep it at once: those the sessions cannot tell, and a session that wakes up.
-/

namespace QuickFix

set_option mvcgen.warning false
set_option linter.unusedSectionVars false

open Std.Do Session

/-! ## Sessions -/

section Party

variable {σ ω : Type} [Chrono] [MessageStore σ] [Application ω] [Runtime ω]

/-- An input that attaches nothing leaves the session unplugged. -/
lemma run_unplugged {earlier : List (Call σ)} {input} (other : input ≠ .attach) :
    ⦃fun (s : Sys σ ω) => ⌜Unplugged earlier s⌝⦄ Session.run [input]
    ⦃⇓ _ s => ⌜Unplugged earlier s⌝⦄ := by
  mvcgen [run, step_unplugged]

/-- The frames of a longer history come after those before. -/
lemma writtenFrames_append {recent earlier : List (Call σ)} :
    writtenFrames (recent ++ earlier) = writtenFrames earlier ++ writtenFrames recent := by
  rw [writtenFrames, writtenFrames, writtenFrames, observed, List.filterMap_append, List.reverse_append]
  rfl

/-- Calls that hand nothing over write no frames. -/
lemma writtenFrames_silent {recent : List (Call σ)} (silent : ∀ c ∈ recent, c.event.handsOver = false) :
    writtenFrames recent = [] := by
  rw [writtenFrames, observed, List.reverse_eq_nil_iff, List.filterMap_eq_nil_iff]
  intro c mem
  cases frame : c.event.frame with
  | none => rfl
  | some raw =>
    have quiet := silent c mem
    rw [Event.frame_eq_some.mp frame] at quiet
    cases quiet

/-- A session without a connection gets one with `attach` only, and writes nothing before. -/
lemma Party.unplugged {p : Party σ ω} {inputs input} (off : (p.after inputs).session.isConnected = false)
    (other : input ≠ .attach) : (p.after (inputs ++ [input])).session.isConnected = false ∧
      writtenFrames (p.after (inputs ++ [input])).trace = writtenFrames (p.after inputs).trace := by
  rw [Party.after, Party.after, Sys.ran, Sys.ran, after_append]
  split
  case isTrue => exact ⟨off, rfl⟩
  case isFalse =>
    have sided : (p.after inputs).session.inbound = (p.after inputs).session.outbound := sided_ran
    have start : Unplugged (p.after inputs).trace (p.after inputs) :=
      ⟨off, sided.trans off, [], rfl, by simp⟩
    have idle : Unplugged (p.after inputs).trace ((p.after inputs).after (Session.run [input])) :=
      run_unplugged other (p.after inputs) start
    obtain ⟨recent, trace, silent⟩ := idle.silent
    refine ⟨idle.outbound, ?_⟩
    change writtenFrames ((p.after inputs).after (Session.run [input])).trace = _
    rw [trace, writtenFrames_append, writtenFrames_silent silent, List.append_nil]
    rfl

end Party

section Registry

variable {σ ω : Type} [Chrono] [MessageStore σ] [Application ω] [Runtime ω] {reg : Registry σ ω}
variable {key : SessionKey} {inputs : List Input} {input : Input}

/-- An input that attaches nothing leaves a session unconnected, and writes nothing. -/
lemma Registry.unplugged (off : reg.connected key inputs = false) (other : input ≠ .attach) :
    reg.connected key (inputs ++ [input]) = false ∧
      reg.frames key (inputs ++ [input]) = reg.frames key inputs := by
  unfold Registry.connected Registry.frames at *
  cases entry : reg key with
  | none => exact ⟨rfl, rfl⟩
  | some entry' =>
    simp only [entry] at off
    exact Party.unplugged off other

/-- What was written stays written. -/
lemma Registry.frames_append (reg : Registry σ ω) (key inputs input) :
    reg.frames key (inputs ++ [input]) =
      reg.frames key inputs ++ (reg.frames key (inputs ++ [input])).drop (reg.frames key inputs).length := by
  unfold Registry.frames
  cases reg key with
  | none => rfl
  | some entry =>
    obtain ⟨recent, trace⟩ := entry.party.suffix inputs input
    simp only
    rw [← trace, writtenFrames_append, List.drop_left]

/-- At the start nothing was written. -/
lemma Registry.frames_nil : reg.frames key [] = [] := by
  unfold Registry.frames
  split <;> rfl

/-- At the start no session is connected. -/
lemma Registry.connected_nil : reg.connected key [] = false := by
  unfold Registry.connected
  split <;> rfl

end Registry

/-! ## The engine -/

/-- The connection a command offers. -/
def Command.offer : Command → Option Nat
  | .attach c => some c
  | _ => none

namespace Engine

/-- The connections that are on their way to a session. -/
def offers (e : Engine) (key : SessionKey) : List Nat := (e.slots key).commands.filterMap Command.offer

/-- What its connections have of a session, one connection after the other. -/
def along (e : Engine) (what : Conn → List Bytes) (key : SessionKey) : List Bytes :=
  (e.slots key).links.reverse.flatMap fun c => (e.conns[c]?.map what).getD []

variable {e e' : Engine} {key : SessionKey} {c : Nat}

/-! ### What is changed -/

/-- A slot is changed, and no connection. -/
@[simp] lemma conns_onSlot (f : Slot → Slot) : (e.onSlot key f).conns = e.conns := rfl

/-- A connection is changed, and no slot. -/
@[simp] lemma slots_onConn (f : Conn → Conn) : (e.onConn c f).slots = e.slots := rfl

/-- A new connection changes no slot. -/
@[simp] lemma slots_opening (conn : Conn) : (e.opening conn).slots = e.slots := rfl

/-- The slot that was changed. -/
@[simp] lemma slots_onSlot (f : Slot → Slot) : (e.onSlot key f).slots key = f (e.slots key) := by
  simp [onSlot]

/-- The slots that were not. -/
lemma slots_onSlot_ne {key'} (f : Slot → Slot) (ne : key' ≠ key) :
    (e.onSlot key f).slots key' = e.slots key' := by
  simp [onSlot, ne]

/-- The connections once one was changed. -/
lemma getElem?_onConn (f : Conn → Conn) (i : Nat) :
    (e.onConn c f).conns[i]? = if c = i then e.conns[i]?.map f else e.conns[i]? := by
  rw [onConn, List.getElem?_modify]
  split <;> simp_all

/-- Where a connection stands. -/
lemma stage_eq {stage : ConnStage} : e.stage c = some stage ↔ ∃ conn, e.conns[c]? = some conn ∧ conn.stage = stage := by
  simp [Engine.stage]

/-- The connections once one was added. -/
lemma getElem?_opening {conn : Conn} {i : Nat} {conn'} (here : (e.opening conn).conns[i]? = some conn') :
    e.conns[i]? = some conn' ∨ i = e.conns.length ∧ conn' = conn := by
  rw [opening, List.getElem?_append] at here
  split at here
  case isTrue => exact .inl here
  case isFalse late =>
    rw [List.getElem?_singleton] at here
    split at here
    case isTrue last => exact .inr ⟨by omega, (Option.some.inj here).symm⟩
    case isFalse => cases here

/-- The connections there were are still there. -/
lemma opening_old {conn : Conn} {i : Nat} {conn'} (here : e.conns[i]? = some conn') :
    (e.opening conn).conns[i]? = some conn' := by
  rw [opening, List.getElem?_append_left (List.getElem?_eq_some_iff.mp here).1, here]

/-- The new connection is the last. -/
lemma opening_new (conn : Conn) : (e.opening conn).conns[e.conns.length]? = some conn := by
  simp [opening]

/-! ### What the tasks agree on -/

variable {σ ω : Type} [Chrono] [MessageStore σ] [Application ω] [Runtime ω]

/-- Connections are sound, are offered to a session once, and were its connections once; it took what
they received, and they were given what it wrote. -/
structure Tidy (reg : Registry σ ω) (e : Engine) : Prop where
  sound : ∀ (c : Nat) (conn : Conn), e.conns[c]? = some conn → conn.Sound reg.accepts
  distinct : ∀ key, (e.offers key).Nodup
  offered : ∀ key, ∀ c ∈ e.offers key, e.stage c = some (.offered key)
  once : ∀ key, (e.slots key).links.Nodup
  own : ∀ key, ∀ c ∈ (e.slots key).links, ∃ conn, e.conns[c]? = some conn ∧
    conn.Names reg.accepts key ∧ (conn.stage = .held key ∨ ∃ why, conn.stage = .gone why)
  seen : ∀ (c : Nat) (conn : Conn), e.conns[c]? = some conn → conn.written ≠ [] →
    ∃ key, c ∈ (e.slots key).links
  took : ∀ key, (e.slots key).inputs.flatMap Input.frames = e.along Conn.taken key
  wrote : ∀ key, reg.frames key (e.slots key).inputs = e.along Conn.written key

/-- A session has the connection that is held for it. -/
structure Matched (reg : Registry σ ω) (e : Engine) (key : SessionKey) : Prop where
  held : ∀ c, e.stage c = some (.held key) ↔ e.link reg key = some c
  linked : reg.connected key (e.slots key).inputs = true → (e.slots key).links ≠ []

/-- The invariant of the engine. -/
structure Sound (reg : Registry σ ω) (e : Engine) : Prop extends Tidy reg e where
  matched : ∀ key, Matched reg e key

variable {reg : Registry σ ω}

/-- What only connections differ in is nothing to the sessions. -/
structure Follows (e e' : Engine) : Prop where
  inputs : ∀ key, (e'.slots key).inputs = (e.slots key).inputs
  links : ∀ key, (e'.slots key).links = (e.slots key).links
  conns : ∀ (c : Nat) conn, e.conns[c]? = some conn → ∃ conn', e'.conns[c]? = some conn' ∧ conn.Onward conn'
  held : ∀ c key, e'.stage c = some (.held key) → e.stage c = some (.held key)
  known : ∀ (c : Nat) (conn' : Conn), e'.conns[c]? = some conn' →
    conn'.written = [] ∨ ∃ conn, e.conns[c]? = some conn

namespace Follows

/-- The connections that follow are held by the same sessions. -/
lemma stage (h : Follows e e') (c key) : e'.stage c = some (.held key) ↔ e.stage c = some (.held key) := by
  constructor
  · exact h.held c key
  · intro held
    obtain ⟨conn, here, stage⟩ := stage_eq.mp held
    obtain ⟨conn', here', inert⟩ := h.conns c conn here
    exact stage_eq.mpr ⟨conn', here', (inert.held key).mpr stage⟩

/-- What is read along the connections of a session is kept. -/
lemma along (h : Follows e e') (own : ∀ c ∈ (e.slots key).links, ∃ conn, e.conns[c]? = some conn)
    {what : Conn → List Bytes} (same : ∀ conn conn', Conn.Onward conn conn' → what conn' = what conn) :
    e'.along what key = e.along what key := by
  rw [Engine.along, Engine.along, h.links]
  apply List.flatMap_congr
  intro c mem
  obtain ⟨conn, here⟩ := own c (List.mem_reverse.mp mem)
  obtain ⟨conn', here', inert⟩ := h.conns c conn here
  rw [here, here', Option.map_some, Option.map_some, same conn conn' inert]

/-- What follows in two steps follows. -/
lemma trans {e''} (h : Follows e e') (h' : Follows e' e'') : Follows e e'' where
  inputs key := (h'.inputs key).trans (h.inputs key)
  links key := (h'.links key).trans (h.links key)
  conns c conn here := by
    obtain ⟨conn', here', onward⟩ := h.conns c conn here
    obtain ⟨conn'', here'', onward'⟩ := h'.conns c conn' here'
    exact ⟨conn'', here'', onward.trans onward'⟩
  held c key held := h.held c key (h'.held c key held)
  known c conn'' here'' := by
    rcases h'.known c conn'' here'' with new | ⟨conn', here'⟩
    · exact .inl new
    · obtain ⟨conn₂, same, onward⟩ := h'.conns c conn' here'
      obtain rfl : conn'' = conn₂ := Option.some.inj (here''.symm.trans same)
      exact (h.known c conn' here').imp_left onward.written.trans

/-- What follows a tidy engine is tidy when its connections are sound and its offers distinct. -/
lemma tidy (h : Follows e e') (tidy : Tidy reg e)
    (sound : ∀ (c : Nat) (conn : Conn), e'.conns[c]? = some conn → conn.Sound reg.accepts)
    (distinct : ∀ key, (e'.offers key).Nodup)
    (offered : ∀ key, ∀ c ∈ e'.offers key, e'.stage c = some (.offered key)) : Tidy reg e' where
  sound := sound
  distinct := distinct
  offered := offered
  once key := h.links key ▸ tidy.once key
  own key c mem := by
    obtain ⟨conn, here, names, stage⟩ := tidy.own key c (h.links key ▸ mem)
    obtain ⟨conn', here', inert⟩ := h.conns c conn here
    refine ⟨conn', here', names.mono inert.socket inert.received, ?_⟩
    exact stage.imp (inert.held key).mpr fun ⟨why, gone⟩ => ⟨why, inert.gone why gone⟩
  seen c conn' here' some := by
    rcases h.known c conn' here' with new | ⟨conn, here⟩
    · exact absurd new some
    · obtain ⟨conn₂, same, onward⟩ := h.conns c conn here
      obtain rfl : conn' = conn₂ := Option.some.inj (here'.symm.trans same)
      obtain ⟨key, mem⟩ := tidy.seen c conn here (onward.written ▸ some)
      exact ⟨key, (h.links key).symm ▸ mem⟩
  took key := by
    rw [h.inputs, tidy.took, h.along (fun c mem => ?_) fun _ _ inert => inert.taken]
    obtain ⟨conn, here, -⟩ := tidy.own key c mem
    exact ⟨conn, here⟩
  wrote key := by
    rw [h.inputs, tidy.wrote, h.along (fun c mem => ?_) fun _ _ inert => inert.written]
    obtain ⟨conn, here, -⟩ := tidy.own key c mem
    exact ⟨conn, here⟩

/-- A session keeps the connection it is linked to. -/
lemma link (h : Follows e e') : e'.link reg key = e.link reg key := by
  rw [Engine.link, Engine.link, h.inputs, h.links]

/-- What a session got and wrote stays matched. -/
lemma matched (h : Follows e e') (matched : Matched reg e key) : Matched reg e' key where
  held c := by rw [h.stage, h.link, matched.held]
  linked connected := by
    rw [h.inputs] at connected
    rw [h.links]
    exact matched.linked connected

end Follows

/-- What follows an engine that satisfies the invariant satisfies it, when its parts do. -/
lemma Sound.follow (h : Sound reg e) (follows : Follows e e')
    (sound : ∀ (c : Nat) (conn : Conn), e'.conns[c]? = some conn → conn.Sound reg.accepts)
    (distinct : ∀ key, (e'.offers key).Nodup)
    (offered : ∀ key, ∀ c ∈ e'.offers key, e'.stage c = some (.offered key)) : Sound reg e' where
  toTidy := follows.tidy h.toTidy sound distinct offered
  matched key := follows.matched (h.matched key)

/-! ### A connection goes on -/

/-- Changing one connection follows, when the connection goes onward. -/
lemma follows_onConn {f : Conn → Conn} (step : ∀ conn, e.conns[c]? = some conn → conn.Onward (f conn)) :
    Follows e (e.onConn c f) where
  inputs _ := rfl
  links _ := rfl
  conns i conn here := by
    rw [getElem?_onConn, here]
    split
    case isTrue same => exact ⟨f conn, rfl, step conn (same ▸ here)⟩
    case isFalse => exact ⟨conn, rfl, (Conn.Inert.refl conn).toOnward⟩
  held i key held := by
    obtain ⟨conn', here, stage⟩ := stage_eq.mp held
    rw [getElem?_onConn] at here
    split at here
    case isTrue same =>
      obtain ⟨conn, before, rfl⟩ := Option.map_eq_some_iff.mp here
      exact stage_eq.mpr ⟨conn, before, ((step conn (same ▸ before)).held key).mp stage⟩
    case isFalse => exact stage_eq.mpr ⟨conn', here, stage⟩
  known i conn' here := by
    rw [getElem?_onConn] at here
    split at here
    case isTrue =>
      obtain ⟨conn, before, -⟩ := Option.map_eq_some_iff.mp here
      exact .inr ⟨conn, before⟩
    case isFalse => exact .inr ⟨conn', here⟩

/-- Changing one connection leaves all sound, when it stays so. -/
lemma sound_onConn {f : Conn → Conn} (h : Tidy reg e)
    (step : ∀ conn, e.conns[c]? = some conn → (f conn).Sound reg.accepts) (i : Nat) (conn : Conn)
    (here : (e.onConn c f).conns[i]? = some conn) : conn.Sound reg.accepts := by
  rw [getElem?_onConn] at here
  split at here
  case isTrue same =>
    obtain ⟨conn', before, rfl⟩ := Option.map_eq_some_iff.mp here
    exact step conn' (same ▸ before)
  case isFalse => exact h.sound i conn here

/-- Changing one connection keeps the invariant, when it stays sound and inert. -/
lemma Sound.onConn {f : Conn → Conn} (h : Sound reg e) (step : ∀ conn, e.conns[c]? = some conn →
    (f conn).Sound reg.accepts ∧ conn.Inert (f conn)) : Sound reg (e.onConn c f) := by
  have follows : Follows e (e.onConn c f) := follows_onConn fun conn here => (step conn here).2.toOnward
  apply h.follow follows (sound_onConn h.toTidy fun conn here => (step conn here).1) h.distinct
  intro key i mem
  obtain ⟨conn, here, stage⟩ := stage_eq.mp (h.offered key i mem)
  apply stage_eq.mpr
  rw [getElem?_onConn, here]
  split
  case isTrue same => exact ⟨f conn, rfl, (step conn (same ▸ here)).2.offered key stage⟩
  case isFalse => exact ⟨conn, rfl, stage⟩

/-! ### Commands -/

/-- Changing a slot follows, when its inputs and its connections stay. -/
lemma follows_onSlot {f : Slot → Slot} (inputs : (f (e.slots key)).inputs = (e.slots key).inputs)
    (links : (f (e.slots key)).links = (e.slots key).links) : Follows e (e.onSlot key f) where
  inputs key' := by
    by_cases same : key' = key
    · rw [same, slots_onSlot, inputs]
    · rw [slots_onSlot_ne f same]
  links key' := by
    by_cases same : key' = key
    · rw [same, slots_onSlot, links]
    · rw [slots_onSlot_ne f same]
  conns c conn here := ⟨conn, here, (Conn.Inert.refl conn).toOnward⟩
  held _ _ := id
  known _ conn here := .inr ⟨conn, here⟩

/-- A command is taken off the channel, or one that offers nothing is put in. -/
lemma Sound.onSlot {f : Slot → Slot} (h : Sound reg e) (inputs : (f (e.slots key)).inputs = (e.slots key).inputs)
    (links : (f (e.slots key)).links = (e.slots key).links)
    (offers : ((f (e.slots key)).commands.filterMap Command.offer).Sublist (e.offers key)) :
    Sound reg (e.onSlot key f) := by
  have sub (key') : ((e.onSlot key f).offers key').Sublist (e.offers key') := by
    by_cases same : key' = key
    · rw [same, Engine.offers, slots_onSlot]
      exact offers
    · rw [Engine.offers, slots_onSlot_ne f same]
      exact .refl _
  apply h.follow (follows_onSlot inputs links) h.sound
  · exact fun key' => (h.distinct key').sublist (sub key')
  · exact fun key' c mem => h.offered key' c ((sub key').subset mem)

/-- A command that offers nothing may be queued. -/
lemma Sound.push {command : Command} (h : Sound reg e) (offers : command.offer = none) :
    Sound reg (e.onSlot key (·.push command)) := by
  apply h.onSlot rfl rfl
  simp [Slot.push, offers, Engine.offers]

/-- A connection that was not offered is. -/
lemma Sound.offer (h : Sound reg e) (follows : Follows e e')
    (sound : ∀ (c : Nat) (conn : Conn), e'.conns[c]? = some conn → conn.Sound reg.accepts)
    (new : ∀ key, e.stage c ≠ some (.offered key)) (offered : e'.stage c = some (.offered key))
    (others : ∀ i, ∀ key, e.stage i = some (.offered key) → e'.stage i = some (.offered key))
    (offers : ∀ key', e'.offers key' = if key' = key then e.offers key ++ [c] else e.offers key') :
    Sound reg e' := by
  apply h.follow follows sound
  · intro key'
    rw [offers]
    split
    case isTrue =>
      apply List.Nodup.append (h.distinct key) (List.nodup_singleton c)
      rw [List.disjoint_singleton]
      exact fun mem => new key (h.offered key c mem)
    case isFalse => exact h.distinct key'
  · intro key' i mem
    rw [offers] at mem
    split at mem
    case isTrue same =>
      rw [same]
      cases List.mem_append.mp mem with
      | inl old => exact others i key (h.offered key i old)
      | inr last => exact List.mem_singleton.mp last ▸ offered
    case isFalse => exact others i key' (h.offered key' i mem)

/-! ### The session wakes up -/

/-- A session has a connection; whether it is connected is open. -/
structure Holding (reg : Registry σ ω) (e : Engine) (key : SessionKey) (c : Nat) : Prop extends Tidy reg e where
  head : (e.slots key).links.head? = some c
  mine : ∀ i, e.stage i = some (.held key) ↔ i = c
  others : ∀ key', key' ≠ key → Matched reg e key'

/-- A session that is linked is connected, to the latest of its connections. -/
lemma link_eq_some (link : e.link reg key = some c) :
    reg.connected key (e.slots key).inputs = true ∧ (e.slots key).links.head? = some c := by
  rw [Engine.link] at link
  split at link
  case isTrue connected => exact ⟨connected, link⟩
  case isFalse => cases link

/-- The connection that a session is linked to is held by it. -/
lemma Sound.holding (h : Sound reg e) (link : e.link reg key = some c) : Holding reg e key c where
  toTidy := h.toTidy
  head := (link_eq_some link).2
  mine i := by
    rw [(h.matched key).held, link]
    constructor
    · exact fun same => (Option.some.inj same).symm
    · exact fun same => same ▸ rfl
  others key' _ := h.matched key'

/-- A session that is connected has a connection. -/
lemma Sound.connected (h : Sound reg e) :
    reg.connected key (e.slots key).inputs = true ↔ ∃ c, e.link reg key = some c := by
  constructor
  · intro connected
    obtain ⟨c, links, cons⟩ := List.exists_cons_of_ne_nil ((h.matched key).linked connected)
    exact ⟨c, by rw [link, if_pos connected, cons]; rfl⟩
  · exact fun ⟨c, link⟩ => (link_eq_some link).1

/-- A session is not concerned by a connection that is not its own. -/
lemma along_same {what : Conn → List Bytes} {key'} (links : (e'.slots key').links = (e.slots key').links)
    (others : ∀ i, i ≠ c → e'.conns[i]? = e.conns[i]?) (free : c ∉ (e.slots key').links) :
    e'.along what key' = e.along what key' := by
  rw [along, along, links]
  apply List.flatMap_congr
  intro i mem
  rw [others i]
  rintro rfl
  exact free (List.mem_reverse.mp mem)

/-- What is done with the latest connection comes last. -/
lemma along_served {what : Conn → List Bytes} {xs} {conn conn' : Conn}
    (links : (e'.slots key).links = (e.slots key).links) (head : (e.slots key).links.head? = some c)
    (once : (e.slots key).links.Nodup) (others : ∀ i, i ≠ c → e'.conns[i]? = e.conns[i]?)
    (here : e.conns[c]? = some conn) (here' : e'.conns[c]? = some conn') (more : what conn' = what conn ++ xs) :
    e'.along what key = e.along what key ++ xs := by
  obtain ⟨earlier, cons⟩ := List.head?_eq_some_iff.mp head
  rw [cons] at once
  rw [along, along, links, cons, List.reverse_cons, List.flatMap_append, List.flatMap_append,
    List.append_assoc]
  congr 1
  · apply List.flatMap_congr
    intro i mem
    rw [others i]
    rintro rfl
    exact (List.nodup_cons.mp once).1 (List.mem_reverse.mp mem)
  · simp [here, here', more]

namespace Holding

variable {n : Nat} {input : Input} {conn : Conn}

/-- The session that is fed gets the input. -/
lemma inputs_feed : ((e.feed reg key (some c) n input).slots key).inputs = (e.slots key).inputs ++ [input] := by
  simp [feed]

/-- The other sessions keep their slot. -/
lemma slots_feed_ne {key'} (ne : key' ≠ key) : (e.feed reg key (some c) n input).slots key' = e.slots key' := by
  simp [feed, slots_onSlot_ne _ ne]

/-- Feeding links no connection. -/
lemma links_feed (key') : ((e.feed reg key (some c) n input).slots key').links = (e.slots key').links := by
  by_cases same : key' = key
  · simp [feed, same]
  · rw [slots_feed_ne same]

/-- Feeding takes no offer. -/
lemma offers_feed (key') : (e.feed reg key (some c) n input).offers key' = e.offers key' := by
  by_cases same : key' = key
  · simp [feed, same, offers]
  · rw [offers, slots_feed_ne same, offers]

/-- The connection of the session that is fed gets what that writes. -/
lemma conns_feed (i : Nat) : (e.feed reg key (some c) n input).conns[i]? =
    if c = i then e.conns[i]?.map (·.served n
      ((reg.frames key ((e.slots key).inputs ++ [input])).drop (reg.frames key (e.slots key).inputs).length)
      (reg.connected key ((e.slots key).inputs ++ [input]))) else e.conns[i]? := by
  rw [feed, getElem?_onConn, conns_onSlot]

/-- The other connections stay where they are. -/
lemma stage_feed_ne {i : Nat} (ne : i ≠ c) : (e.feed reg key (some c) n input).stage i = e.stage i := by
  rw [stage, stage, conns_feed, if_neg ne.symm]

/-- The other sessions stay linked. -/
lemma link_feed_ne {key'} (ne : key' ≠ key) : (e.feed reg key (some c) n input).link reg key' = e.link reg key' := by
  rw [link, link, slots_feed_ne ne]

/-- The connection that is held is where it is held. -/
lemma held_at (h : Holding reg e key c) (here : e.conns[c]? = some conn) : conn.stage = .held key := by
  obtain ⟨conn', here', stage⟩ := stage_eq.mp ((h.mine c).mpr rfl)
  obtain rfl : conn = conn' := Option.some.inj (here.symm.trans here')
  exact stage

/-- Feeding keeps order. -/
lemma tidy_feed (h : Holding reg e key c) (here : e.conns[c]? = some conn)
    (frames : input.frames = conn.channel.take n) : Tidy reg (e.feed reg key (some c) n input) := by
  have held := h.held_at here
  have names : conn.Names reg.accepts key := (h.sound c conn here).names key (by rw [held]; rfl)
  have others (i) (ne : i ≠ c) : (e.feed reg key (some c) n input).conns[i]? = e.conns[i]? := by
    rw [conns_feed, if_neg ne.symm]
  have here' : (e.feed reg key (some c) n input).conns[c]? = _ := conns_feed c
  rw [if_pos rfl, here, Option.map_some] at here'
  -- the connection is among those of this session only
  have free {key'} (ne : key' ≠ key) : c ∉ (e.slots key').links := by
    intro mem
    obtain ⟨conn', same, names', -⟩ := h.own key' c mem
    obtain rfl : conn = conn' := Option.some.inj (here.symm.trans same)
    exact ne (names'.unique names)
  constructor
  case sound =>
    intro i conn' at'
    by_cases same : i = c
    · rw [same, here'] at at'
      rw [← Option.some.inj at']
      exact (h.sound c conn here).served held
    · exact h.sound i conn' (others i same ▸ at')
  case distinct =>
    intro key'
    rw [offers_feed]
    exact h.distinct key'
  case offered =>
    intro key' i mem
    rw [offers_feed] at mem
    have offered := h.offered key' i mem
    rw [stage_feed_ne, offered]
    rintro rfl
    cases ((h.mine i).mpr rfl).symm.trans offered
  case once =>
    intro key'
    rw [links_feed]
    exact h.once key'
  case own =>
    intro key' i mem
    rw [links_feed] at mem
    by_cases same : i = c
    · subst same
      refine ⟨_, here', ?_⟩
      by_cases own : key' = key
      · subst own
        refine ⟨names.mono (Conn.served_socket ..) (by rw [Conn.served_received]), ?_⟩
        rw [Conn.served_stage, held]
        split
        case isTrue => exact .inl rfl
        case isFalse => exact .inr ⟨_, rfl⟩
      · exact absurd mem (free own)
    · rw [others i same]
      exact h.own key' i mem
  case seen =>
    intro i conn' at' some
    by_cases same : i = c
    · exact ⟨key, by rw [links_feed, same]; exact List.mem_of_mem_head? h.head⟩
    · obtain ⟨key', mem⟩ := h.seen i conn' (others i same ▸ at') some
      exact ⟨key', by rw [links_feed]; exact mem⟩
  case took =>
    intro key'
    by_cases own : key' = key
    · subst own
      rw [inputs_feed, List.flatMap_append, h.took,
        along_served (links_feed _) h.head (h.once _) others here here' (Conn.served_taken ..), ← frames]
      simp
    · rw [slots_feed_ne own, h.took, along_same (links_feed _) others (free own)]
  case wrote =>
    intro key'
    by_cases own : key' = key
    · subst own
      rw [inputs_feed, reg.frames_append, h.wrote,
        along_served (links_feed _) h.head (h.once _) others here here' (Conn.served_written ..), h.wrote]
    · rw [slots_feed_ne own, h.wrote, along_same (links_feed _) others (free own)]

/-- Feeding keeps every session matched with its connections. -/
lemma matched_feed (h : Holding reg e key c) (here : e.conns[c]? = some conn) (key') :
    Matched reg (e.feed reg key (some c) n input) key' := by
  have held := h.held_at here
  have stage' : (e.feed reg key (some c) n input).stage c =
      some (if reg.connected key ((e.slots key).inputs ++ [input]) then .held key else .gone none) := by
    rw [stage, conns_feed, if_pos rfl, here, Option.map_some, Option.map_some, Conn.served_stage, held]
  by_cases own : key' = key
  · subst own
    constructor
    case held =>
      intro i
      have link' : (e.feed reg key' (some c) n input).link reg key' =
          if reg.connected key' ((e.slots key').inputs ++ [input]) then some c else none := by
        rw [link, inputs_feed, links_feed, h.head]
      rw [link']
      by_cases same : i = c
      · rw [same, stage']
        split <;> simp
      · rw [stage_feed_ne same, h.mine]
        split <;> simp [same, Ne.symm same]
    case linked =>
      intro _ none
      rw [links_feed] at none
      have head := h.head
      rw [none] at head
      cases head
  · constructor
    case held =>
      intro i
      rw [link_feed_ne own, ← (h.others key' own).held]
      by_cases same : i = c
      · subst same
        rw [stage', (h.mine i).mpr rfl]
        split <;> simp [Ne.symm own]
      · rw [stage_feed_ne same]
    case linked =>
      rw [slots_feed_ne own]
      exact (h.others key' own).linked

/-- The session of a held connection wakes up. -/
lemma sound_feed (h : Holding reg e key c) (frames : ∀ conn, e.conns[c]? = some conn →
    input.frames = conn.channel.take n) : Sound reg (e.feed reg key (some c) n input) := by
  obtain ⟨conn, here, -⟩ := stage_eq.mp ((h.mine c).mpr rfl)
  exact ⟨h.tidy_feed here (frames conn here), h.matched_feed here⟩

end Holding

/-- So does a session without a connection; it goes on without one. -/
lemma Sound.feed_none {input} {n : Nat} (h : Sound reg e) (off : e.link reg key = none) (other : input ≠ .attach)
    (frames : input.frames = []) : Sound reg (e.feed reg key none n input) := by
  have off : reg.connected key (e.slots key).inputs = false := by
    by_contra on
    obtain ⟨c, link⟩ := h.connected.mp ((Bool.not_eq_false _).mp on)
    cases link.symm.trans off
  obtain ⟨still, silent⟩ := Registry.unplugged off other
  have inputs : ((e.feed reg key none n input).slots key).inputs = (e.slots key).inputs ++ [input] := by
    simp [feed]
  have slots (key') (ne : key' ≠ key) : (e.feed reg key none n input).slots key' = e.slots key' := by
    simp [feed, slots_onSlot_ne _ ne]
  have links (key') : ((e.feed reg key none n input).slots key').links = (e.slots key').links := by
    by_cases own : key' = key
    · simp [feed, own]
    · rw [slots key' own]
  have offers (key') : (e.feed reg key none n input).offers key' = e.offers key' := by
    by_cases own : key' = key
    · simp [feed, own, Engine.offers]
    · rw [Engine.offers, slots key' own, Engine.offers]
  have along (what key') : (e.feed reg key none n input).along what key' = e.along what key' := by
    rw [Engine.along, Engine.along, links]
    rfl
  have link (key') : (e.feed reg key none n input).link reg key' = e.link reg key' := by
    by_cases own : key' = key
    · rw [own, Engine.link, Engine.link, inputs, still, off]
      rfl
    · rw [Engine.link, Engine.link, slots key' own]
  constructor
  case toTidy =>
    constructor
    case sound => exact h.sound
    case distinct =>
      intro key'
      rw [offers]
      exact h.distinct key'
    case offered =>
      intro key' c mem
      rw [offers] at mem
      exact h.offered key' c mem
    case once =>
      intro key'
      rw [links]
      exact h.once key'
    case own =>
      intro key' c mem
      rw [links] at mem
      exact h.own key' c mem
    case seen =>
      intro c conn here some
      obtain ⟨key', mem⟩ := h.seen c conn here some
      exact ⟨key', by rw [links]; exact mem⟩
    case took =>
      intro key'
      rw [along]
      by_cases own : key' = key
      · rw [own, inputs, List.flatMap_append, h.took]
        simp [frames]
      · rw [slots key' own, h.took]
    case wrote =>
      intro key'
      rw [along]
      by_cases own : key' = key
      · rw [own, inputs, silent, h.wrote]
      · rw [slots key' own, h.wrote]
  case matched =>
    intro key'
    constructor
    case held =>
      intro c
      rw [link, ← (h.matched key').held]
      rfl
    case linked =>
      intro on
      rw [links]
      by_cases own : key' = key
      · rw [own, inputs, still] at on
        cases on
      · rw [slots key' own] at on
        exact (h.matched key').linked on

/-- An input that is no frame, and no connection for a session without one. -/
lemma Sound.wake {input} (h : Sound reg e) (other : input = .attach → ∃ c, e.link reg key = some c)
    (frames : input.frames = []) : Sound reg (e.wake reg key input) := by
  rw [Engine.wake]
  cases link : e.link reg key with
  | some c => exact (h.holding link).sound_feed fun _ _ => by rw [frames, List.take_zero]
  | none =>
    apply h.feed_none link ?_ frames
    intro attach
    obtain ⟨c, connected⟩ := other attach
    cases link.symm.trans connected

end Engine

end QuickFix
