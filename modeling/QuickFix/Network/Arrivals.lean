import QuickFix.Steps.Sites
import QuickFix.Steps.Kept
import QuickFix.Delivery.Order
import QuickFix.Wire.Accept

/-!
# What a session makes of the frames that arrive

The stash keeps messages as bytes. When every frame that arrives is the one its message is serialized
to, the stash holds frames, and every message that is handled, at once or later, is the parse of a frame
that arrived.
-/

namespace QuickFix

set_option linter.unusedSectionVars false

open Session

/-- A frame that checks out, and that its message is serialized to. -/
def Intact (raw : Bytes) : Prop := ∃ msg, Message.parse raw true = .ok msg ∧ msg.toBytes = raw

/-- However an intact frame is parsed, its message is the same, and is serialized to it. -/
lemma Intact.parsed {raw strict msg} (h : Intact raw) (parsed : Message.parse raw strict = .ok msg) :
    Message.parse raw true = .ok msg ∧ msg.toBytes = raw := by
  obtain ⟨msg', checked, same⟩ := h
  have eq : msg' = msg := by
    cases strict with
    | true => exact Except.ok.inj (checked.symm.trans parsed)
    | false => exact Except.ok.inj ((Message.parse_unvalidated checked).symm.trans parsed)
  subst eq
  exact ⟨checked, same⟩

variable {σ ω : Type} [Chrono] [MessageStore σ] [Application ω] [Runtime ω]

/-- What is said of a call that takes something up: a message is the parse of a frame that arrived, and
an entry of the stash is one. -/
structure Drawn (arrived : Bytes → Prop) (c : Call σ) : Prop where
  message : ∀ origin msg, c.event = .process origin msg →
    ∃ raw, arrived raw ∧ Message.parse raw true = .ok msg
  entry : ∀ seq raw, c.event = .unstash seq raw → arrived raw

/-- A call that takes nothing up draws on nothing. -/
lemma Drawn.of_not {arrived} {c : Call σ} (h : c.event.takesUp = false) : Drawn arrived c := by
  constructor <;> intros <;> simp_all [Event.takesUp]

/-- The stash holds frames that arrived, and what was taken up came from such frames. -/
structure Drawing (arrived : Bytes → Prop) (s : Sys σ ω) : Prop where
  stash : ∀ (k : Nat) raw, s.session.stash[k]? = some raw → arrived raw
  drawn : ∀ c ∈ s.trace, Drawn arrived c

variable {arrived : Bytes → Prop} (intact : ∀ raw, arrived raw → Intact raw)
include intact

/-- An act keeps that, when the calls it makes do. -/
lemma Drawing.act {s t : Sys σ ω} {r} (h : Drawing arrived s) (act : Act s t)
    (tr : t.trace = r ++ s.trace) (drawn : ∀ c ∈ r, Drawn arrived c) : Drawing arrived t where
  stash k raw entry := by
    rcases act.stash entry with old | ⟨origin, msg, item, -, -, rfl⟩
    · exact h.stash k raw old
    · -- what is stashed is serialized to the frame it came in
      obtain ⟨c, mem, ev⟩ := exists_process item
      obtain ⟨raw, known, parsed⟩ := (h.drawn c mem).message origin msg ev
      obtain ⟨-, same⟩ := (intact raw known).parsed parsed
      exact same ▸ known
  drawn := by
    rw [tr]
    exact List.forall_mem_append.mpr ⟨drawn, h.drawn⟩

/-- Every act of a run keeps that. -/
lemma Act.drawing {s t : Sys σ ω} (act : Act s t) (sited : Along (Sited arrived) t.trace)
    (h : Drawing arrived s) : Drawing arrived t := by
  have whole := act
  cases act with
  | handle act =>
    obtain ⟨recent, tr, takes⟩ := act.takes
    exact h.act intact whole tr fun c mem => .of_not (takes c mem)
  | send act =>
    obtain ⟨recent, tr, sends⟩ := act.trace
    exact h.act intact whole tr fun c mem => .of_not (Event.takesUp_of_isSend (sends c mem).1)
  | cut _ left =>
    obtain ⟨recent, tr, sends⟩ := left.trace
    exact h.act intact whole tr fun c mem => .of_not (Event.takesUp_of_isSend (sends c mem).1)
  | @endLogout _ now _ left =>
    obtain ⟨recent, tr, sends⟩ := left.trace
    refine h.act intact (r := recent ++ [_]) whole (by rw [tr]; simp [Sys.stored]; rfl) ?_
    refine List.forall_mem_append.mpr ⟨fun c mem => ?_, fun c mem => ?_⟩
    · exact .of_not (Event.takesUp_of_isSend (sends c mem).1)
    · rw [List.mem_singleton.mp mem]
      exact .of_not rfl
  | ask => exact h.act intact (r := []) whole rfl (by simp)
  | @receive _ _ msg =>
    refine h.act intact (r := [_]) whole rfl (List.forall_mem_singleton.mpr ⟨?_, by simp⟩)
    intro origin msg' ev
    cases ev
    obtain ⟨raw, strict, known, parsed⟩ := sited.1.received msg rfl
    exact ⟨raw, known, ((intact raw known).parsed parsed).1⟩
  | @unstash seq raw number entry =>
    refine h.act intact (r := [_]) whole rfl (List.forall_mem_singleton.mpr ⟨by simp, ?_⟩)
    intro seq' raw' ev
    cases ev
    exact h.stash seq raw entry
  | replay last item same parsed kept =>
    refine h.act intact (r := [_]) whole rfl (List.forall_mem_singleton.mpr ⟨?_, by simp⟩)
    intro origin msg ev
    cases ev
    have known := (h.drawn _ (List.mem_of_mem_head? last)).entry _ _ item
    exact ⟨_, known, ((intact _ known).parsed parsed).1⟩
  | _ => exact h.act intact (r := [_]) whole rfl (List.forall_mem_singleton.mpr (.of_not rfl))

variable {cfg : SessionConfig} {dictionary adminDictionary : Option DataDictionary} {store : σ}
variable {now : Nat} {world : ω} {inputs : List Input}

omit intact

/-- In every run on intact frames, what is stashed is a frame that arrived, and what is handled is the
parse of one. -/
theorem drawing_ran (intact : ∀ raw, Arrives inputs raw → Intact raw) : Drawing (Arrives inputs)
    (Sys.ran cfg dictionary adminDictionary store now world inputs) := by
  refine ran_keeps_along (P := Sited (Arrives inputs)) (Act.drawing intact) ?_ sited_ran
  exact ⟨fun k raw entry => by simp [Sys.init, spawn] at entry, by simp [Sys.init]⟩

/-! ## Delivery -/

/-- Sending delivers nothing. -/
lemma Event.delivers_of_isSend {e : Event} (h : e.isSend = true) : e.delivers = false := by
  cases e <;> simp_all [isSend, delivers]

/-- What a handler delivers is the application message it has just taken up. -/
lemma HandleAct.delivery {resets} {s t : Sys σ ω} (h : HandleAct resets s t) :
    ∃ recent, t.trace = recent ++ s.trace ∧ ∀ c ∈ recent, ∀ msg answer, c.event = .fromApp msg answer →
      msg.isAdmin = false ∧ ∃ d ∈ s.trace, ∃ origin, d.event = .process origin msg := by
  cases h with
  | send act =>
    obtain ⟨recent, tr, sends⟩ := act.trace
    refine ⟨recent, tr, fun c mem msg answer ev => ?_⟩
    have quiet := Event.delivers_of_isSend (sends c mem).1
    simp [ev, Event.delivers] at quiet
  | receivingReset | endingResets | logon | supersede => exact ⟨[], rfl, by simp⟩
  | deliver answer w taken app =>
    obtain ⟨d, rest, tr, ev, -⟩ := taken
    refine ⟨[_, _], rfl, ?_⟩
    simp only [List.forall_mem_cons, List.not_mem_nil, false_implies, implies_true, and_true, reduceCtorEq,
      true_and]
    intro msg answer ev'
    cases ev'
    exact ⟨app, d, by simp [tr], _, ev⟩
  | stashAndExpect => exact ⟨[_, _, _], rfl, by simp⟩
  | _ => exact ⟨[_], rfl, by simp⟩

/-- What was given to `from_app` had been taken up, and is of the application. -/
def Delivered (s : Sys σ ω) : Prop :=
  ∀ c ∈ s.trace, ∀ msg answer, c.event = .fromApp msg answer →
    msg.isAdmin = false ∧ ∃ d ∈ s.trace, ∃ origin, d.event = .process origin msg

/-- More calls that deliver only what was taken up. -/
lemma Delivered.more {s t : Sys σ ω} {r} (h : Delivered s) (tr : t.trace = r ++ s.trace)
    (own : ∀ c ∈ r, ∀ msg answer, c.event = .fromApp msg answer →
      msg.isAdmin = false ∧ ∃ d ∈ s.trace, ∃ origin, d.event = .process origin msg) : Delivered t := by
  intro c mem msg answer ev
  rw [tr] at mem ⊢
  have here := (List.mem_append.mp mem).elim (own c · msg answer ev) (h c · msg answer ev)
  obtain ⟨app, d, mem', taken⟩ := here
  exact ⟨app, d, List.mem_append_right r mem', taken⟩

/-- More calls that deliver nothing. -/
lemma Delivered.quiet {s t : Sys σ ω} {r} (h : Delivered s) (tr : t.trace = r ++ s.trace)
    (own : ∀ c ∈ r, c.event.delivers = false) : Delivered t := by
  refine h.more tr fun c mem msg answer ev => ?_
  have quiet := own c mem
  simp [ev, Event.delivers] at quiet

/-- Every act keeps that. -/
lemma Act.delivered {s t : Sys σ ω} (act : Act s t) (h : Delivered s) : Delivered t := by
  cases act with
  | handle act =>
    obtain ⟨recent, tr, own⟩ := act.delivery
    exact h.more tr own
  | send act =>
    obtain ⟨recent, tr, sends⟩ := act.trace
    exact h.quiet tr fun c mem => Event.delivers_of_isSend (sends c mem).1
  | cut _ left =>
    obtain ⟨recent, tr, sends⟩ := left.trace
    exact h.quiet tr fun c mem => Event.delivers_of_isSend (sends c mem).1
  | @endLogout _ now _ left =>
    obtain ⟨recent, tr, sends⟩ := left.trace
    have reset : Delivered (s.stored (.reset .logout (MessageStore.reset now s.session.store).1)
        (MessageStore.reset now s.session.store).2) := h.quiet (r := [_]) rfl (by simp [Event.delivers])
    exact reset.quiet tr fun c mem => Event.delivers_of_isSend (sends c mem).1
  | ask => exact h.quiet (r := []) rfl (by simp)
  | _ => exact h.quiet (r := [_]) rfl (by simp [Event.delivers])

/-- In every run, what is given to `from_app` was taken up before, and is of the application. -/
theorem delivered_ran : Delivered (Sys.ran cfg dictionary adminDictionary store now world inputs) :=
  ran_keeps Act.delivered (by simp [Delivered, Sys.init])

end QuickFix
