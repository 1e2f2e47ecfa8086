import QuickFix.Steps.Run

/-!
# The store along a history

What each call does to the store. The stores noted in the history of a session form a path: each
call leads from the store it was made in to the store of the next call.
-/

namespace QuickFix

set_option linter.unusedSectionVars false

open Relation MessageStore

/-- What an event does to the store. -/
def Event.Effect {σ : Type} [MessageStore σ] : Event → σ → σ → Prop
  | .incrSender res, st, st' => incrNextSenderSeqNum st = (res, st')
  | .incrTarget res, st, st' => incrNextTargetSeqNum st = (res, st')
  | .setSender n res, st, st' => n < 2 ^ 64 ∧ setNextSenderSeqNum n st = (res, st')
  | .setTarget _ n res, st, st' => n < 2 ^ 64 ∧ setNextTargetSeqNum n st = (res, st')
  | .save n raw res, st, st' => saveMessageAndIncr n raw st = (res, st')
  | .getMessages b e, st, st' => (MessageStore.getMessages b e st).2 = st'
  | .refresh res, st, st' => ∃ now, MessageStore.refresh now st = (res, st')
  | .reset _ res, st, st' => ∃ now, MessageStore.reset now st = (res, st')
  | _, st, st' => st' = st

/-- Whether the event is a store operation that failed. -/
def Event.failed : Event → Bool
  | .incrSender (.error _) | .incrTarget (.error _) | .setSender _ (.error _)
  | .setTarget _ _ (.error _) | .save _ _ (.error _) | .refresh (.error _) | .reset _ (.error _) =>
    true
  | _ => false

/-- Whether the next target number is at the end of its range when a message is counted. -/
def Call.wrapsTarget {σ : Type} [MessageStore σ] (c : Call σ) : Bool :=
  match c.event with
  | .incrTarget _ => 2 ^ 64 ≤ c.nextTarget + 1
  | _ => false

/-- A message that is counted elsewhere leaves room for its number. -/
lemma Call.room_of_incr {σ : Type} [MessageStore σ] {c : Call σ} {res} (ev : c.event = .incrTarget res)
    (room : c.wrapsTarget = false) : c.nextTarget + 1 < 2 ^ 64 := by
  rw [wrapsTarget, ev] at room
  exact Nat.lt_of_not_le (of_decide_eq_false room)

/-- Whether a message takes the next sender number, or tries to. -/
def Event.mayTake : Event → Bool
  | .incrSender _ | .save .. => true
  | _ => false

/-- Whether the next sender number is at the end of its range when a message takes it. -/
def Call.wrapsSender {σ : Type} [MessageStore σ] (c : Call σ) : Bool :=
  c.event.mayTake && decide (2 ^ 64 ≤ c.nextSender + 1)

/-- A message that takes its number elsewhere leaves room for the next one. -/
lemma Call.room_of_take {σ : Type} [MessageStore σ] {c : Call σ} (taken : c.event.mayTake = true)
    (room : c.wrapsSender = false) : c.nextSender + 1 < 2 ^ 64 := by
  rw [wrapsSender, taken, Bool.true_and] at room
  exact Nat.lt_of_not_le (of_decide_eq_false room)

/-- The calls lead from one store to another. -/
def Linked {σ : Type} [MessageStore σ] (start : σ) : List (Call σ) → σ → Prop
  | [], st => st = start
  | c :: cs, st => c.event.Effect c.session.store st ∧ Linked start cs c.session.store

/-- The calls up to one of them lead to the store it was made in. -/
lemma Linked.of_suffix {σ : Type} [MessageStore σ] {start st : σ} {c : Call σ} {rest cs}
    (h : Linked start cs st) (suf : c :: rest <:+ cs) : Linked start rest c.session.store := by
  induction cs generalizing st with
  | nil => simp at suf
  | cons d cs ih =>
    rcases List.suffix_cons_iff.mp suf with same | suf
    · cases same
      exact h.2
    · exact ih h.2 suf

/-! ## Views -/

/-- An operation has its effect when it succeeds, and its effect or none when it fails. -/
def Done (res : Except Error Unit) (v v' : StoreView) (effect : Prop) : Prop :=
  match res with
  | .ok _ => effect
  | .error _ => v' = v ∨ effect

/-- What holds of an effect that may have failed holds when it did and when it did not. -/
lemma Done.elim {res : Except Error Unit} {v v' : StoreView} {effect : Prop} {P : Prop}
    (h : Done res v v' effect) (none : v' = v → P) (done : effect → P) : P := by
  unfold Done at h
  split at h
  · exact done h
  · exact h.elim none done

/-- What an event does to what can be observed of the store. -/
def Event.Moves : Event → StoreView → StoreView → Prop
  | .incrSender res, v, v' => Done res v v' (v' = { v with nextSender := incremented v.nextSender })
  | .incrTarget res, v, v' => Done res v v' (v' = { v with nextTarget := incremented v.nextTarget })
  | .setSender n res, v, v' => Done res v v' (v' = { v with nextSender := n })
  | .setTarget _ n res, v, v' => Done res v v' (v' = { v with nextTarget := n })
  | .save n raw res, v, v' =>
    v'.nextTarget = v.nextTarget ∧
      (∀ k r, v'.messages k = some r → v.messages k = some r ∨ k = n ∧ r = raw) ∧
      match res with
      | .ok _ => v'.nextSender = incremented v.nextSender ∧ ∀ r, v'.messages n = some r → r = raw
      | .error _ => v'.nextSender = v.nextSender ∨ v'.nextSender = incremented v.nextSender
  | .refresh _, _, _ => True
  | .reset _ res, v, v' => Done res v v' (v' = ⟨1, 1, fun _ => none⟩)
  | _, v, v' => v' = v

section Lawful

variable {σ : Type} [MessageStore σ] [LawfulStore σ]

open LawfulStore

/-- What the outcome of an operation says about the views. -/
lemma Outcome.done {st : σ} {effect : StoreView → Prop} {res : Except Error Unit × σ}
    (h : Outcome Valid (viewWith messages) (view st) effect res) :
    Valid res.2 ∧ Done res.1 (view st) (view res.2) (effect (view res.2)) := by
  obtain ⟨valid, out⟩ := h
  refine ⟨valid, ?_⟩
  unfold Done
  split at out <;> simp_all

/-- What saving a message and counting it does. -/
lemma saveMessageAndIncr_moves {n raw} {st : σ} (valid : Valid st) :
    Valid (saveMessageAndIncr n raw st).2 ∧
      (Event.save n raw (saveMessageAndIncr n raw st).1).Moves (view st)
        (view (saveMessageAndIncr n raw st).2) := by
  obtain ⟨valid', out⟩ := LawfulStore.save n raw st valid
  unfold saveMessageAndIncr
  cases saved : saveMessage n raw st with
  | mk res st' =>
    rw [saved] at valid' out
    cases res with
    | error e =>
      refine ⟨valid', ?_⟩
      rcases out with same | ⟨sender, target, stored⟩
      · refine ⟨congrArg StoreView.nextTarget same, fun k r h => .inl ?_, .inl ?_⟩
        · exact (congrFun (congrArg StoreView.messages same) k).symm.trans h
        · exact congrArg StoreView.nextSender same
      · refine ⟨target, fun k r h => ?_, .inl sender⟩
        have := stored k r h
        split at this <;> simp_all
    | ok _ =>
      obtain ⟨sender, target, stored⟩ := out
      have kept : ∀ k r, messages st' k = some r → messages st k = some r ∨ k = n ∧ r = raw := by
        intro k r h
        have := stored k r h
        split at this <;> simp_all
      have own : ∀ r, messages st' n = some r → r = raw := by
        intro r h
        simpa using stored n r h
      obtain ⟨valid'', out⟩ := (LawfulStore.incrSender st' valid').done
      rw [show nextSenderSeqNum st' = nextSenderSeqNum st from sender] at out
      refine ⟨valid'', ?_⟩
      cases counted : (incrNextSenderSeqNum st').1 with
      | ok _ =>
        rw [counted] at out
        have out : view (incrNextSenderSeqNum st').2 = _ := out
        have messages' := congrFun (congrArg StoreView.messages out)
        refine ⟨(congrArg StoreView.nextTarget out).trans target, fun k r h => ?_, ?_, fun r h => ?_⟩
        · exact kept k r ((messages' k).symm.trans h)
        · exact congrArg StoreView.nextSender out
        · exact own r ((messages' n).symm.trans h)
      | error e =>
        rw [counted] at out
        rcases out with out | out
        · have messages' := congrFun (congrArg StoreView.messages out)
          refine ⟨(congrArg StoreView.nextTarget out).trans target, fun k r h => ?_, .inl ?_⟩
          · exact kept k r ((messages' k).symm.trans h)
          · exact (congrArg StoreView.nextSender out).trans sender
        · have messages' := congrFun (congrArg StoreView.messages out)
          refine ⟨(congrArg StoreView.nextTarget out).trans target, fun k r h => ?_, .inr ?_⟩
          · exact kept k r ((messages' k).symm.trans h)
          · exact congrArg StoreView.nextSender out

/-- An event takes a valid store to a valid one, and moves the view as it says. -/
lemma Event.Effect.moves {e : Event} {st st' : σ} (h : e.Effect st st') (valid : Valid st) :
    Valid st' ∧ e.Moves (view st) (view st') := by
  cases e with
  | incrSender res =>
    have out := (LawfulStore.incrSender st valid).done
    rw [show incrNextSenderSeqNum st = (res, st') from h] at out
    exact out
  | incrTarget res =>
    have out := (LawfulStore.incrTarget st valid).done
    rw [show incrNextTargetSeqNum st = (res, st') from h] at out
    exact out
  | setSender n res =>
    have out := (LawfulStore.setSender n h.1 st valid).done
    rw [h.2] at out
    exact out
  | setTarget setter n res =>
    have out := (LawfulStore.setTarget n h.1 st valid).done
    rw [h.2] at out
    exact out
  | save n raw res =>
    have out := @saveMessageAndIncr_moves _ _ _ n raw st valid
    rw [show saveMessageAndIncr n raw st = (res, st') from h] at out
    exact out
  | getMessages b e =>
    obtain ⟨valid', out⟩ := LawfulStore.get b e st valid
    rw [show (MessageStore.getMessages b e st).2 = st' from h] at valid' out
    refine ⟨valid', ?_⟩
    split at out
    · exact out
    · exact out.elim id id
  | refresh res =>
    obtain ⟨now, h⟩ := h
    exact ⟨by simpa [h] using (LawfulStore.refresh now st valid).1, trivial⟩
  | reset site res =>
    obtain ⟨now, h⟩ := h
    have out := (LawfulStore.reset now st valid).done
    rw [h] at out
    exact out
  | _ =>
    cases (h : st' = st)
    exact ⟨valid, rfl⟩

/-- Sending leaves the next target number, but for a reset. -/
lemma Event.Effect.nextTarget_send {e : Event} {st st' : σ} (effect : e.Effect st st') (valid : Valid st)
    (send : e.isSend = true) (noReset : ∀ site res, e ≠ .reset site res) :
    nextTargetSeqNum st' = nextTargetSeqNum st := by
  have moves := (effect.moves valid).2
  cases e with
  | incrSender =>
    apply moves.elim
    · exact congrArg StoreView.nextTarget
    · exact congrArg StoreView.nextTarget
  | save => exact moves.1
  | reset site res => exact absurd rfl (noReset site res)
  | incrTarget | setSender | setTarget | refresh => cases send
  | _ => exact congrArg StoreView.nextTarget moves

/-- All stores of a history are valid when the first one is. -/
lemma Linked.valid {start st : σ} {cs : List (Call σ)} (h : Linked start cs st)
    (valid : Valid start) : Valid st ∧ ∀ c ∈ cs, Valid c.session.store := by
  induction cs generalizing st with
  | nil => exact ⟨(h : st = start) ▸ valid, by simp⟩
  | cons c cs ih =>
    obtain ⟨last, rest⟩ := ih h.2
    exact ⟨(h.1.moves last).1, by simpa using ⟨last, rest⟩⟩

end Lawful

/-! ## Acts -/

section Acts

variable {σ ω : Type} [Chrono] [MessageStore σ] [Application ω] [Runtime ω]

/-- The calls of a system lead to its store. -/
def Sys.Linked (start : σ) (s : Sys σ ω) : Prop :=
  QuickFix.Linked start s.trace s.session.store

/-- No store operation failed so far. -/
def Sys.Reliable (s : Sys σ ω) : Prop := ∀ c ∈ s.trace, c.event.failed = false

instance (s : Sys σ ω) : Decidable s.Reliable := inferInstanceAs (Decidable (∀ _ ∈ _, _))

/-- The next target number was never counted past the end of its range. -/
def Sys.TargetRoom (s : Sys σ ω) : Prop := ∀ c ∈ s.trace, c.wrapsTarget = false

instance (s : Sys σ ω) : Decidable s.TargetRoom := inferInstanceAs (Decidable (∀ _ ∈ _, _))

/-- The calls lead from one system to another. -/
def Leads (recent : List (Call σ)) (s t : Sys σ ω) : Prop :=
  t.trace = recent ++ s.trace ∧ QuickFix.Linked s.session.store recent t.session.store

/-- What follows on calls follows on both. -/
lemma Leads.trans {recent more : List (Call σ)} {s t u : Sys σ ω} (h : Leads recent s t)
    (h' : Leads more t u) : Leads (more ++ recent) s u := by
  refine ⟨by rw [h'.1, h.1, List.append_assoc], ?_⟩
  have last := h'.2
  clear h'
  induction more generalizing u with
  | nil => exact (last : u.session.store = t.session.store) ▸ h.2
  | cons c more ih =>
    exact ⟨last.1, ih (u := { u with session := c.session }) last.2⟩

/-- Giving up the connection continues the path of the stores. -/
lemma GivenUp.leads {s t : Sys σ ω} (left : GivenUp s t) : ∃ recent, Leads recent s t := by
  refine left.elim (P := fun t => ∃ recent, Leads recent s t) (fun cut => ?_) ?_
  · cases cut with
    | kept => exact ⟨[_], rfl, rfl, rfl⟩
    | reset w now => exact ⟨[_, _], rfl, ⟨now, rfl⟩, rfl, rfl⟩
  · rintro u _ ⟨recent, leads⟩
    have told : Leads [⟨u.session, .onLogout⟩] u (u.called .onLogout (Application.onLogout u.world)) :=
      ⟨rfl, rfl, rfl⟩
    exact ⟨_, leads.trans told⟩

/-- An act of the outbound half continues the path of the stores. -/
lemma SendAct.leads {fresh} {s t : Sys σ ω} (act : SendAct fresh s t) :
    ∃ recent, Leads recent s t := by
  cases act with
  | quiet | adopt | logon => exact ⟨[], rfl, rfl⟩
  | cut _ _ left => exact left.leads
  | announce => exact ⟨[_, _], rfl, rfl, rfl, rfl⟩
  | _ => exact ⟨[_], rfl, rfl, rfl⟩

/-- An act of a handler continues the path of the stores. -/
lemma HandleAct.leads {resets} {s t : Sys σ ω} (act : HandleAct resets s t) :
    ∃ recent, Leads recent s t := by
  cases act with
  | send act => exact act.leads
  | receivingReset | endingResets | logon | supersede => exact ⟨[], rfl, rfl⟩
  | reset site now | refresh now => exact ⟨[_], rfl, ⟨now, rfl⟩, rfl⟩
  | moveTarget n item bound => exact ⟨[_], rfl, ⟨bound, rfl⟩, rfl⟩
  | deliver answer w => exact ⟨[_, _], rfl, rfl, rfl, rfl⟩
  | stashAndExpect => exact ⟨[_, _, _], rfl, rfl, rfl, rfl, rfl⟩
  | _ => exact ⟨[_], rfl, rfl, rfl⟩

/-- A reset leads to the store it leaves. -/
lemma leads_reset (s : Sys σ ω) (site now) :
    Leads [⟨s.session, .reset site (MessageStore.reset now s.session.store).1⟩] s
      (s.stored (.reset site (MessageStore.reset now s.session.store).1)
        (MessageStore.reset now s.session.store).2) :=
  ⟨rfl, ⟨now, rfl⟩, rfl⟩

/-- An act continues the path of the stores. -/
lemma Act.leads {s t : Sys σ ω} (act : Act s t) : ∃ recent, Leads recent s t := by
  cases act with
  | handle act => exact act.leads
  | send act => exact act.leads
  | ask => exact ⟨[], rfl, rfl⟩
  | cut _ left => exact left.leads
  | @endLogout _ now _ left =>
    obtain ⟨recent, leads⟩ := left.leads
    exact ⟨_, (leads_reset s .logout now).trans leads⟩
  | refresh now | reset site now => exact ⟨[_], rfl, ⟨now, rfl⟩, rfl⟩
  | setSender n bound | setTarget n bound => exact ⟨[_], rfl, ⟨bound, rfl⟩, rfl⟩
  | _ => exact ⟨[_], rfl, rfl, rfl⟩

/-- Acts continue the path of the stores. -/
lemma Runs.leads {s t : Sys σ ω} (run : Runs s t) : ∃ recent, Leads recent s t := by
  induction run with
  | refl => exact ⟨[], rfl, rfl⟩
  | tail _ act ih =>
    obtain ⟨recent, leads⟩ := ih
    obtain ⟨more, leads'⟩ := act.leads
    exact ⟨_, leads.trans leads'⟩

/-- The stores noted in the history of a run lead from the first one to the last one. -/
theorem linked_ran {cfg dictionary adminDictionary} {store : σ} {now} {world : ω} {inputs} :
    (Sys.ran cfg dictionary adminDictionary store now world inputs).Linked store := by
  obtain ⟨recent, trace, linked⟩ := Runs.leads (runs_ran (σ := σ) (ω := ω))
  have trace : _ = recent ++ [] := trace
  rw [Sys.Linked, trace, List.append_nil]
  exact linked

example : (Script.play Script.acceptor {} [.send Script.plainOrder, .attach]).nextSender = 2 := by decide +kernel

end Acts

end QuickFix
