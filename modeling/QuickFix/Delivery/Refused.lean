import QuickFix.Steps.Kept

/-!
# What is not delivered is refused

In every run, an application message that is counted while it is worked on was handed to the application
right before, or it is refused while it still is: the Reject that answers it, or a Logout, goes to its
callback (`refused_of_counted`).
-/

namespace QuickFix

open Session

section Calls

variable {σ : Type} [Chrono] [MessageStore σ]

/-- Whether the session turns to something else. -/
def Event.turns : Event → Bool
  | .process .. | .unstash .. | .done => true
  | _ => false

/-- The session turns to something else only when what it counted is explained. -/
def TurnsExplained (c : Call σ) (earlier : List (Call σ)) : Prop :=
  c.event.turns = true → Explained earlier

/-- Where the session does not turn to something else, nothing is to be explained. -/
lemma TurnsExplained.of_not {c : Call σ} {cs} (stays : c.event.turns = false) : TurnsExplained c cs := by
  intro turns
  rw [stays] at turns
  cases turns

/-- A sending call does not turn to something else. -/
lemma Event.turns_of_isSend {e : Event} (send : e.isSend = true) : e.turns = false := by
  cases e <;> simp_all [isSend, turns]

/-- A call of an event that does not turn to something else keeps what is worked on. -/
lemma handled_of_stays {c : Call σ} {cs} (stays : c.event.turns = false) : handled (c :: cs) = handled cs := by
  rw [handled]
  split
  case h_1 ev | h_2 ev | h_3 ev => simp [ev, Event.turns] at stays
  case h_4 => rfl

/-- What is owed stays so until it is refused, or the session turns to something else. -/
lemma Owes.later {msg} {c : Call σ} {cs} (owes : Owes msg cs) (stays : c.event.turns = false)
    (kept : ¬ c.refuses msg) : Owes msg (c :: cs) := by
  rw [Owes]
  split
  case h_1 ev | h_2 ev | h_3 ev => simp [ev, Event.turns] at stays
  case h_4 => exact .inr owes
  case h_5 => exact ⟨kept, owes⟩
  case h_6 => exact owes

/-- A message that is counted without being delivered is refused before the session turns to something
else. -/
lemma Owes.refused {origin msg} {start cs : List (Call σ)} (suf : start <:+ cs)
    (turns : Along TurnsExplained cs) (item : handled start = some (.message origin msg))
    (app : msg.isAdmin = false) (owes : Owes msg start) :
    handled cs = some (.message origin msg) ∧ Owes msg cs ∨
      ∃ d earlier, d :: earlier <:+ cs ∧ start <:+ earlier ∧
        handled earlier = some (.message origin msg) ∧ d.refuses msg := by
  induction cs with
  | nil =>
    cases List.suffix_nil.mp suf
    exact .inl ⟨item, owes⟩
  | cons d cs ih =>
    rcases List.suffix_cons_iff.mp suf with rfl | before
    · exact .inl ⟨item, owes⟩
    rcases ih before turns.2 with ⟨still, owes⟩ | ⟨e, earlier, suf, after, found⟩
    · -- the message is still worked on and owed, so the session does not turn away from it here
      have stays : d.event.turns = false := by
        apply Bool.eq_false_iff.mpr
        exact fun turned => turns.1 turned origin msg still app owes
      by_cases refuses : d.refuses msg
      · exact .inr ⟨d, cs, List.suffix_rfl, before, still, refuses⟩
      · exact .inl ⟨(handled_of_stays stays).trans still, owes.later stays refuses⟩
    · exact .inr ⟨e, earlier, suf.trans (List.suffix_cons d cs), after, found⟩

end Calls

section Runs

variable {σ ω : Type} [Chrono] [MessageStore σ] [Application ω] [Runtime ω]

/-- An act of the handlers turns to nothing else. -/
lemma HandleAct.turnsExplained {resets} {s t : Sys σ ω} (act : HandleAct resets s t)
    (h : Along TurnsExplained s.trace) : Along TurnsExplained t.trace := by
  cases act with
  | send act =>
    obtain ⟨recent, tr, sends⟩ := act.trace
    rw [tr]
    exact h.append fun c mem _ => .of_not (Event.turns_of_isSend (sends c mem).1)
  | receivingReset | endingResets | logon | supersede => exact h
  | deliver => exact ⟨.of_not rfl, .of_not rfl, h⟩
  | stashAndExpect => exact ⟨.of_not rfl, .of_not rfl, .of_not rfl, h⟩
  | _ => exact ⟨.of_not rfl, h⟩

/-- Every act turns to something else only when what was counted is explained. -/
lemma Act.turnsExplained {s t : Sys σ ω} (act : Act s t) (h : Along TurnsExplained s.trace) :
    Along TurnsExplained t.trace := by
  cases act with
  | handle act => exact act.turnsExplained h
  | send act =>
    obtain ⟨recent, tr, sends⟩ := act.trace
    rw [tr]
    exact h.append fun c mem _ => .of_not (Event.turns_of_isSend (sends c mem).1)
  | ask => exact h
  | cut _ left =>
    obtain ⟨recent, tr, sends⟩ := left.trace
    rw [tr]
    exact h.append fun c mem _ => .of_not (Event.turns_of_isSend (sends c mem).1)
  | endLogout now _ left =>
    obtain ⟨recent, tr, sends⟩ := left.trace
    rw [tr]
    apply Along.append
    · exact ⟨.of_not rfl, h⟩
    · exact fun c mem _ => .of_not (Event.turns_of_isSend (sends c mem).1)
  | receive _ _ explained | unstash _ _ explained | done _ explained => exact ⟨fun _ => explained, h⟩
  | @replay seq raw msg c last item =>
    -- an entry was just taken out, and nothing is owed for one
    suffices item : handled s.trace = some (.entry seq raw) from ⟨fun _ => .of_entry item, h⟩
    cases tr : s.trace with
    | nil => simp [tr] at last
    | cons d cs =>
      obtain rfl : d = c := by simpa [tr] using last
      rw [handled, item]
  | _ => exact ⟨.of_not rfl, h⟩

variable {cfg : SessionConfig} {dictionary adminDictionary : Option DataDictionary} {store : σ}
variable {now : Nat} {world : ω} {inputs : List Input}

/-- In every run, an application message that is counted without being delivered is refused after that,
while it is still worked on. -/
lemma refused_of_counted {c : Call σ} {rest origin msg}
    (suf : c :: rest <:+ (Sys.ran cfg dictionary adminDictionary store now world inputs).trace)
    (counted : c.event = .incrTarget (.ok ())) (none : delivering rest = false)
    (item : handled rest = some (.message origin msg)) (app : msg.isAdmin = false) :
    ∃ d earlier, d :: earlier <:+ (Sys.ran cfg dictionary adminDictionary store now world inputs).trace ∧
      c :: rest <:+ earlier ∧ handled earlier = some (.message origin msg) ∧ d.refuses msg := by
  have turns : Along TurnsExplained (Sys.ran cfg dictionary adminDictionary store now world inputs).trace :=
    ran_keeps (I := fun s => Along TurnsExplained s.trace) Act.turnsExplained trivial
  have owes : Owes msg (c :: rest) := by
    rw [Owes, counted]
    exact .inl none
  have start : handled (c :: rest) = some (.message origin msg) := by
    rw [handled, counted]
    exact item
  rcases owes.refused suf turns start app with ⟨still, -⟩ | found
  · have idle : handled (Sys.ran cfg dictionary adminDictionary store now world inputs).trace = .none :=
      handled_ran
    rw [idle] at still
    cases still
  · exact found

end Runs

end QuickFix
