import QuickFix.Steps.History
import QuickFix.Wire.Front

/-!
# What is kept for later

Every message that is taken up was parsed, so what the stash has under a number is a serialized message
with that number, and parsed again it has that number still. A Logon is recognized in the stash and is
never taken up from there.
-/

namespace QuickFix

set_option linter.unusedSectionVars false

open Session Relation

/-- Whether an event takes up a message. -/
def Event.takesUp : Event → Bool
  | .process .. | .unstash .. => true
  | _ => false

/-- The bytes are a serialized message with a number. -/
def Filed (seq : Nat) (raw : Bytes) : Prop :=
  ∃ (m : Message) (type number : Bytes), raw = m.toBytes ∧ m.Fronted type number ∧ m.seqNum = .ok seq

/-- A parsed message with a number is filed under it. -/
lemma filed_of_parse {raw strict} {m : Message} {seq} (parsed : Message.parse raw strict = .ok m)
    (own : m.seqNum = .ok seq) : Filed seq m.toBytes := by
  cases read : m.header.getRaw Tags.msgSeqNum with
  | none =>
    rw [Message.seqNum, FieldMap.get, read] at own
    cases own
  | some number =>
    obtain ⟨type, front⟩ := Message.fronted_of_parse parsed read
    exact ⟨m, type, number, rfl, front, own⟩

/-- Parsed again, a filed message has its number. -/
lemma Filed.seqNum {seq raw} {msg : Message} (h : Filed seq raw)
    (parsed : Message.parse raw false = .ok msg) : msg.seqNum = .ok seq := by
  obtain ⟨m, type, number, rfl, front, own⟩ := h
  rw [Message.seqNum, FieldMap.get, (Message.reparse_front front parsed).2]
  rwa [Message.seqNum, FieldMap.get, front.msgSeqNum] at own

/-- A type that does not stand in a filed message is not the one of the message. -/
lemma Filed.msgType {seq raw mt} {msg : Message} (h : Filed seq raw)
    (parsed : Message.parse raw false = .ok msg) (absent : containsField raw (ascii "35=" ++ mt) = false)
    (named : mt ≠ []) : msg.msgTypeOrDefault ≠ mt := by
  obtain ⟨m, type, number, rfl, front, own⟩ := h
  intro same
  have read : msg.msgTypeOrDefault = if utf8Valid type then type else [] := by
    rw [Message.msgTypeOrDefault, Message.msgType, FieldMap.get, (Message.reparse_front front parsed).1]
    by_cases valid : utf8Valid type = true <;> simp [decodeString, valid]
  rw [same] at read
  split at read
  case isTrue =>
    have present := hasWindow_iff.mpr front.type_infix
    rw [← read] at present
    simp [containsField, present] at absent
  case isFalse => exact named read

variable {σ ω : Type} [Chrono] [MessageStore σ] [Application ω] [Runtime ω]

/-! ## What acts take up and keep -/

/-- The message that is handled was taken up. -/
lemma exists_process {origin msg} {cs : List (Call σ)} (item : handled cs = some (.message origin msg)) :
    ∃ c ∈ cs, c.event = .process origin msg := by
  induction cs with
  | nil => cases item
  | cons c cs ih =>
    rw [handled] at item
    split at item
    case h_1 o m ev =>
      cases item
      exact ⟨c, List.mem_cons_self, ev⟩
    case h_2 | h_3 => cases item
    case h_4 =>
      obtain ⟨d, mem, ev⟩ := ih item
      exact ⟨d, List.mem_cons_of_mem c mem, ev⟩

/-- Sending takes nothing up. -/
lemma Event.takesUp_of_isSend {e : Event} (h : e.isSend = true) : e.takesUp = false := by
  cases e <;> simp_all [isSend, takesUp]

/-- An act of a handler takes nothing up. -/
lemma HandleAct.takes {resets} {s t : Sys σ ω} (h : HandleAct resets s t) :
    ∃ recent, t.trace = recent ++ s.trace ∧ ∀ c ∈ recent, c.event.takesUp = false := by
  cases h with
  | send act =>
    obtain ⟨recent, tr, sends⟩ := act.trace
    exact ⟨recent, tr, fun c mem => Event.takesUp_of_isSend (sends c mem).1⟩
  | receivingReset | endingResets | logon | supersede => exact ⟨[], rfl, by simp⟩
  | deliver => exact ⟨[_, _], rfl, by simp [Event.takesUp]⟩
  | stashAndExpect => exact ⟨[_, _, _], rfl, by simp [Event.takesUp]⟩
  | _ => exact ⟨[_], rfl, by simp [Event.takesUp]⟩

/-- A connection that is given up leaves an empty stash. -/
lemma GivenUp.stash {s t : Sys σ ω} (left : GivenUp s t) {k : Nat} {raw} :
    t.session.stash[k]? ≠ some raw := by
  have detached : t.session.detached = t.session := left.isDetached
  rw [← detached]
  simp [Session.detached]

/-- Sending stashes nothing. -/
lemma SendAct.stash {fresh} {s t : Sys σ ω} (h : SendAct fresh s t) {k : Nat} {raw}
    (entry : t.session.stash[k]? = some raw) : s.session.stash[k]? = some raw := by
  cases h with
  | cut _ _ left => exact absurd entry left.stash
  | _ => exact entry

/-- Superseding keeps what has the new number or a higher one. -/
lemma getElem?_superseding {x : Session σ} {n k : Nat} {raw} :
    (x.superseding n).stash[k]? = some raw ↔ x.stash[k]? = some raw ∧ n ≤ k := by
  rw [superseding, Std.ExtTreeMap.getElem?_filter', Option.filter_eq_some_iff, decide_eq_true_iff]

/-- A handler stashes the message that is handled, under its number. -/
lemma HandleAct.stash {resets} {s t : Sys σ ω} (h : HandleAct resets s t) {k : Nat} {raw}
    (entry : t.session.stash[k]? = some raw) : s.session.stash[k]? = some raw ∨
      ∃ origin msg, handled s.trace = some (.message origin msg) ∧ msg.seqNum = .ok k ∧
        s.nextTarget < k ∧ raw = msg.toBytes := by
  have stashed {msg seq} (entry : (s.session.stash.insert seq (Message.toBytes msg))[k]? = some raw) :
      s.session.stash[k]? = some raw ∨ seq = k ∧ raw = msg.toBytes := by
    rw [Std.ExtTreeMap.getElem?_insert] at entry
    split at entry
    case isTrue same =>
      cases entry
      exact .inr ⟨by simpa using same, rfl⟩
    case isFalse => exact .inl entry
  cases h with
  | send act => exact .inl (act.stash entry)
  | supersede n => exact .inl (getElem?_superseding.mp entry).1
  | stashOnly item number high =>
    refine (stashed entry).imp_right ?_
    rintro ⟨rfl, own⟩
    exact ⟨_, _, item, number, high, own⟩
  | stashAndExpect item number high =>
    refine (stashed entry).imp_right ?_
    rintro ⟨rfl, own⟩
    exact ⟨_, _, item, number, high, own⟩
  | _ => exact .inl entry

/-- An act stashes nothing but the message that is handled, under its number. -/
lemma Act.stash {s t : Sys σ ω} (h : Act s t) {k : Nat} {raw}
    (entry : t.session.stash[k]? = some raw) : s.session.stash[k]? = some raw ∨
      ∃ origin msg, handled s.trace = some (.message origin msg) ∧ msg.seqNum = .ok k ∧
        s.nextTarget < k ∧ raw = msg.toBytes := by
  cases h with
  | handle act => exact act.stash entry
  | send act => exact .inl (act.stash entry)
  | cut _ left | endLogout _ _ left => exact absurd entry left.stash
  | @unstash seq =>
    have entry : (s.session.stash.erase seq)[k]? = some raw := entry
    rw [Std.ExtTreeMap.getElem?_erase] at entry
    split at entry
    case isTrue => cases entry
    case isFalse => exact .inl entry
  | _ => exact .inl entry

/-! ## Along a run -/

/-- The calls lead on from a store they led to. -/
lemma Linked.append {start mid st : σ} {recent rest : List (Call σ)} (h : Linked start rest mid)
    (h' : Linked mid recent st) : Linked start (recent ++ rest) st := by
  induction recent generalizing st with
  | nil => exact (h' : st = mid) ▸ h
  | cons c recent ih => exact ⟨h'.1, ih h'.2⟩

/-- An act leads the calls on. -/
lemma Act.linked {start : σ} {s t : Sys σ ω} (act : Act s t) (h : s.Linked start) : t.Linked start := by
  obtain ⟨recent, tr, leads⟩ := act.leads
  rw [Sys.Linked, tr]
  exact Linked.append h leads

/-- What is said of a call that takes something up. -/
structure Taken (c : Call σ) : Prop where
  /-- A message was parsed. -/
  parsed : ∀ {origin msg}, c.event = .process origin msg → ∃ raw strict, Message.parse raw strict = .ok msg
  /-- One of the wire came on a connection. -/
  connected : ∀ {msg}, c.event = .process .wire msg → c.session.outbound = true ∨ c.session.inbound = true
  /-- One of the stash is in sequence, and neither a Logon nor a ResendRequest. -/
  replayed : ∀ {msg}, c.event = .process .stash msg → msg.seqNum = .ok c.nextTarget ∧
    msg.msgTypeOrDefault ≠ MsgType.logon ∧ msg.msgTypeOrDefault ≠ MsgType.resendRequest
  /-- An entry of the stash is the message with the next number. -/
  filed : ∀ {seq raw}, c.event = .unstash seq raw → Filed seq raw ∧ seq = c.nextTarget

/-- What takes nothing up. -/
lemma Taken.of_not {c : Call σ} (h : c.event.takesUp = false) : Taken c := by
  constructor <;> intros <;> simp_all [Event.takesUp]

/-- What is stashed is filed, and what is taken up was. -/
structure Keeping (start : σ) (s : Sys σ ω) : Prop where
  linked : s.Linked start
  filed : ∀ {k : Nat} {raw}, s.session.stash[k]? = some raw → Filed k raw
  taken : ∀ c ∈ s.trace, Taken c

/-- An act keeps that, when the calls it makes do. -/
lemma Keeping.act {start : σ} {s t : Sys σ ω} {r} (h : Keeping start s) (act : Act s t)
    (tr : t.trace = r ++ s.trace) (taken : ∀ c ∈ r, Taken c) : Keeping start t where
  linked := act.linked h.linked
  filed := fun {k raw} entry => by
    cases act.stash entry with
    | inl old => exact h.filed old
    | inr new =>
      obtain ⟨origin, msg, item, number, -, rfl⟩ := new
      obtain ⟨c, mem, ev⟩ := exists_process item
      obtain ⟨raw, strict, parsed⟩ := (h.taken c mem).parsed ev
      exact filed_of_parse parsed number
  taken := by
    rw [tr]
    exact List.forall_mem_append.mpr ⟨taken, h.taken⟩

/-- What is replayed was filed. -/
lemma Keeping.replayed {start : σ} {s : Sys σ ω} {c : Call σ} {seq raw msg} (h : Keeping start s)
    (last : s.trace.head? = some c) (item : c.event = .unstash seq raw)
    (parsed : Message.parse raw false = .ok msg)
    (kept : (containsField raw (ascii "35=A") || containsField raw (ascii "35=2")) = false) :
    Taken (⟨s.session, .process .stash msg⟩ : Call σ) := by
  obtain ⟨rest, tr⟩ := List.head?_eq_some_iff.mp last
  have here := h.taken c (by simp [tr])
  obtain ⟨filed, number⟩ := here.filed item
  have linked := h.linked
  rw [Sys.Linked, tr] at linked
  have same : s.session.store = c.session.store := by
    have effect := linked.1
    rwa [item] at effect
  obtain ⟨logon, resend⟩ := Bool.or_eq_false_iff.mp kept
  refine ⟨fun ev => ?_, fun ev => ?_, fun ev => ?_, fun ev => ?_⟩
  · cases ev
    exact ⟨raw, false, parsed⟩
  · cases ev
  · cases ev
    refine ⟨?_, filed.msgType parsed logon (by decide), filed.msgType parsed resend (by decide)⟩
    rw [filed.seqNum parsed, number, Call.nextTarget, Call.nextTarget, same]
  · cases ev

/-- Every act keeps that. -/
lemma Act.keeping {start : σ} {s t : Sys σ ω} (act : Act s t) (h : Keeping start s) :
    Keeping start t := by
  have whole := act
  cases act with
  | handle act =>
    obtain ⟨recent, tr, takes⟩ := act.takes
    exact h.act whole tr fun c mem => .of_not (takes c mem)
  | send act =>
    obtain ⟨recent, tr, sends⟩ := act.trace
    exact h.act whole tr fun c mem => .of_not (Event.takesUp_of_isSend (sends c mem).1)
  | cut _ left =>
    obtain ⟨recent, tr, sends⟩ := left.trace
    exact h.act whole tr fun c mem => .of_not (Event.takesUp_of_isSend (sends c mem).1)
  | @endLogout _ now _ left =>
    obtain ⟨recent, tr, sends⟩ := left.trace
    refine h.act (r := recent ++ [_]) whole (by rw [tr]; simp [Sys.stored]; rfl) ?_
    refine List.forall_mem_append.mpr ⟨fun c mem => ?_, fun c mem => ?_⟩
    · exact .of_not (Event.takesUp_of_isSend (sends c mem).1)
    · rw [List.mem_singleton.mp mem]
      exact .of_not rfl
  | ask => exact h.act (r := []) whole rfl (by simp)
  | receive parsed connected _ =>
    refine h.act (r := [_]) whole rfl (List.forall_mem_singleton.mpr ?_)
    refine ⟨fun ev => ?_, fun _ => connected, fun ev => ?_, fun ev => ?_⟩ <;> cases ev
    exact ⟨_, _, parsed⟩
  | unstash number entry _ =>
    refine h.act (r := [_]) whole rfl (List.forall_mem_singleton.mpr ?_)
    refine ⟨fun ev => ?_, fun ev => ?_, fun ev => ?_, fun ev => ?_⟩ <;> cases ev
    exact ⟨h.filed entry, number⟩
  | replay last item same parsed kept =>
    exact h.act (r := [_]) whole rfl (List.forall_mem_singleton.mpr (h.replayed last item parsed kept))
  | _ => exact h.act (r := [_]) whole rfl (List.forall_mem_singleton.mpr (.of_not rfl))

variable {cfg : SessionConfig} {dictionary adminDictionary : Option DataDictionary} {store : σ}
variable {now : Nat} {world : ω} {inputs : List Input}

/-- In every run, what is stashed is filed, and what is taken up was. -/
theorem keeping_ran :
    Keeping store (Sys.ran cfg dictionary adminDictionary store now world inputs) := by
  apply ran_keeps Act.keeping
  exact ⟨rfl, fun entry => by simp [Sys.init, spawn] at entry, by simp [Sys.init]⟩

end QuickFix
