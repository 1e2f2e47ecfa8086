import QuickFix.Session.Script
import QuickFix.Steps.History

/-!
# Chunked resend requests

A gap is requested in chunks. Until it is filled the requests ask for ranges that ascend and do not
overlap, each from the next target number on, and none of them asks for more than the first gap
(`requests_partition`).
-/

namespace QuickFix

set_option mvcgen.warning false
set_option linter.unusedSectionVars false

open Std.Do Session Relation

/-- A ResendRequest of the session: what it asks for, and the gap it is a chunk of. -/
structure Request where
  first : Nat
  last : Nat
  fullEnd : Nat

section Calls

variable {σ : Type}

/-- Whether a ResendRequest is computed by the latest call. -/
def asks : List (Call σ) → Bool
  | [] => false
  | c :: _ =>
    match c.event with
    | .compute [.request ..] => true
    | _ => false

/-- The request for which a range is recorded. -/
def requested (c : Call σ) (cs : List (Call σ)) : Option Request :=
  match c.event with
  | .expect b f e => if asks cs then some ⟨b, e, f⟩ else none
  | _ => none

/-- Whether an event leaves no range outstanding. -/
def Event.settles : Event → Bool
  | .satisfied | .log .disconnecting => true
  | _ => false

/-- The requests made since no range was outstanding, the latest first. -/
def requests : List (Call σ) → List Request
  | [] => []
  | c :: cs => if c.event.settles then [] else (requested c cs).toList ++ requests cs

/-- The request that set the range outstanding, if one did. -/
def outstanding : List (Call σ) → Option Request
  | [] => none
  | c :: cs =>
    match c.event with
    | .satisfied | .log .disconnecting => none
    | .expect .. => requested c cs
    | _ => outstanding cs

/-- A request asks for some of the numbers from the next target number on, not for more than are asked
for at once, and not for what was asked for before or what is not in the gap. -/
structure Partitions [MessageStore σ] (c : Call σ) (cs : List (Call σ)) (q : Request) : Prop where
  start : q.first = c.nextTarget
  within : q.first ≤ q.last ∧ q.last ≤ q.fullEnd
  few : q.last - q.first < c.session.cfg.maxMessagesInResendRequest
  ascends : ∀ p ∈ requests cs, p.last < q.first
  inside : ∀ p ∈ requests cs, q.last ≤ p.fullEnd

/-- Whether an event says something about ranges. -/
def Event.ranges : Event → Bool
  | .expect .. | .satisfied | .log .disconnecting => true
  | _ => false

/-- A call that concerns no range settles none. -/
lemma Event.settles_of_ranges {e : Event} (quiet : e.ranges = false) : e.settles = false := by
  unfold Event.ranges at quiet
  unfold Event.settles
  split at quiet <;> simp_all

/-- A call that concerns no range asks for none. -/
lemma requested_of_ranges {c : Call σ} (quiet : c.event.ranges = false) (cs) : requested c cs = none := by
  unfold requested
  split
  case h_1 ev => simp [ev, Event.ranges] at quiet
  case h_2 => rfl

/-- Calls that concern no range keep the requests. -/
lemma requests_append {recent cs : List (Call σ)} (quiet : ∀ c ∈ recent, c.event.ranges = false) :
    requests (recent ++ cs) = requests cs := by
  induction recent with
  | nil => rfl
  | cons c recent ih =>
    obtain ⟨here, later⟩ := List.forall_mem_cons.mp quiet
    rw [List.cons_append, requests, Event.settles_of_ranges here, requested_of_ranges here, ih later]
    rfl

/-- They keep what is outstanding. -/
lemma outstanding_append {recent cs : List (Call σ)} (quiet : ∀ c ∈ recent, c.event.ranges = false) :
    outstanding (recent ++ cs) = outstanding cs := by
  induction recent with
  | nil => rfl
  | cons c recent ih =>
    obtain ⟨here, later⟩ := List.forall_mem_cons.mp quiet
    rw [List.cons_append, outstanding]
    split
    case h_1 ev | h_2 ev | h_3 ev => simp [ev, Event.ranges] at here
    case h_4 => exact ih later

/-- They keep the requests a partition. -/
lemma partitions_append [MessageStore σ] {recent cs : List (Call σ)}
    (quiet : ∀ c ∈ recent, c.event.ranges = false)
    (h : Along (fun c cs => ∀ q ∈ requested c cs, Partitions c cs q) cs) :
    Along (fun c cs => ∀ q ∈ requested c cs, Partitions c cs q) (recent ++ cs) := by
  induction recent with
  | nil => exact h
  | cons c recent ih =>
    obtain ⟨here, later⟩ := List.forall_mem_cons.mp quiet
    exact ⟨by simp [requested_of_ranges here], ih later⟩

end Calls

section Runs

variable {σ ω : Type} [Chrono] [MessageStore σ] [Application ω] [Runtime ω]

/-- A chunk is at most as large as is asked for at once. -/
lemma requestEnd_few {cfg : SessionConfig} (limited : 1 ≤ cfg.maxMessagesInResendRequest) {b e : Nat} :
    (requestEnd cfg b e).2 - b < cfg.maxMessagesInResendRequest := by
  unfold requestEnd
  split
  case h_1 none => omega
  case h_2 =>
    have few := Nat.mod_le (b + cfg.maxMessagesInResendRequest - 1) (2 ^ 64)
    dsimp only [limitEnd]
    omega

/-- A session that asks for chunks, one at a time: what was requested is below what is outstanding, which
is in the gap that was requested first. -/
structure Chunking (s : Sys σ ω) : Prop where
  limited : 1 ≤ s.session.cfg.maxMessagesInResendRequest
  single : s.session.cfg.sendRedundantResendRequests = false
  idle : s.session.resendRange = none → requests s.trace = []
  gap : ∀ b f e, s.session.resendRange = some (b, f, e) →
    e = f ∨ ∀ q ∈ requests s.trace, q.last ≤ e ∧ f ≤ q.fullEnd
  recorded : ∀ q ∈ outstanding s.trace, s.session.resendRange = some (q.first, q.fullEnd, q.last) ∧
    q.first ≤ q.last ∧ q.last ≤ q.fullEnd ∧
    q.last - q.first < s.session.cfg.maxMessagesInResendRequest
  along : Along (fun c cs => ∀ q ∈ requested c cs, Partitions c cs q) s.trace

/-- Other calls keep the chunks. -/
lemma Chunking.keep {s t : Sys σ ω} {r} (h : Chunking s) (tr : t.trace = r ++ s.trace)
    (quiet : ∀ c ∈ r, c.event.ranges = false) (range : t.session.resendRange = s.session.resendRange)
    (cfg : t.session.cfg = s.session.cfg) : Chunking t where
  limited := cfg ▸ h.limited
  single := cfg ▸ h.single
  idle := by
    rw [tr, range, requests_append quiet]
    exact h.idle
  gap := by
    rw [tr, range, requests_append quiet]
    exact h.gap
  recorded := by
    rw [tr, range, cfg, outstanding_append quiet]
    exact h.recorded
  along := by
    rw [tr]
    exact partitions_append quiet h.along

/-- No range is outstanding any more. -/
lemma Chunking.settle {s t : Sys σ ω} {c} (h : Chunking s) (tr : t.trace = c :: s.trace)
    (ev : c.event = .satisfied ∨ c.event = .log .disconnecting) (range : t.session.resendRange = none)
    (cfg : t.session.cfg = s.session.cfg) : Chunking t where
  limited := cfg ▸ h.limited
  single := cfg ▸ h.single
  idle := fun _ => by rcases ev with ev | ev <;> simp [tr, requests, ev, Event.settles]
  gap := fun b f e set => by simp [range] at set
  recorded := fun q set => by rcases ev with ev | ev <;> simp [tr, outstanding, ev] at set
  along := by
    rw [tr]
    refine ⟨fun q set => ?_, h.along⟩
    rcases ev with ev | ev <;> simp [requested, ev] at set

/-- A connection that is given up leaves no range. -/
lemma GivenUp.chunking {s t : Sys σ ω} (left : GivenUp s t) (h : Chunking s) : Chunking t := by
  refine left.elim (P := Chunking) (fun cut => ?_) fun _ told => ?_
  · have noted : Chunking ((s.called (.log .disconnecting) s.world).updated Session.detached) :=
      h.settle rfl (.inr rfl) rfl rfl
    cases cut with
    | kept => exact noted
    | reset => exact noted.keep (r := [_]) rfl (by simp [Event.ranges]) rfl rfl
  · exact told.keep (r := [_]) rfl (by simp [Event.ranges]) rfl rfl

/-- A ResendRequest goes out for what is beyond the earlier ones. -/
lemma Chunking.ask {s : Sys σ ω} {b f e} (h : Chunking s) (due : asks s.trace = true)
    (start : b = s.nextTarget) (within : b ≤ e ∧ e ≤ f)
    (few : e - b < s.session.cfg.maxMessagesInResendRequest)
    (earlier : ∀ p ∈ requests s.trace, p.last < b ∧ f ≤ p.fullEnd) : Chunking (s.expecting b f e) := by
  have here : requested ⟨s.session, .expect b f e⟩ s.trace = some ⟨b, e, f⟩ := by
    rw [requested, due]
    rfl
  have all : requests (s.expecting b f e).trace = ⟨b, e, f⟩ :: requests s.trace := by
    show requests (⟨s.session, .expect b f e⟩ :: s.trace) = _
    rw [requests, here]
    rfl
  refine ⟨h.limited, h.single, nofun, ?_, ?_, ?_, h.along⟩
  · intro b' f' e' range
    cases range
    right
    rw [all]
    refine List.forall_mem_cons.mpr ⟨⟨le_refl e, le_refl f⟩, fun q mem => ?_⟩
    obtain ⟨below, inside⟩ := earlier q mem
    exact ⟨(Nat.le_of_lt below).trans within.1, inside⟩
  · intro q set
    have set : requested ⟨s.session, .expect b f e⟩ s.trace = some q := set
    rw [here] at set
    cases set
    exact ⟨rfl, within.1, within.2, few⟩
  · intro q set
    rw [here] at set
    cases set
    refine ⟨start, within, few, fun p mem => (earlier p mem).1, fun p mem => ?_⟩
    exact within.2.trans (earlier p mem).2

/-- A gap is expected to be filled without a request. -/
lemma Chunking.announce {s : Sys σ ω} {b f} (h : Chunking s) (silent : asks s.trace = false) :
    Chunking (s.expecting b f f) := by
  have here : requested ⟨s.session, .expect b f f⟩ s.trace = none := by
    rw [requested, silent]
    rfl
  refine ⟨h.limited, h.single, nofun, ?_, ?_, ?_, h.along⟩
  · intro b' f' e' range
    cases range
    exact .inl rfl
  · intro q set
    have set : requested ⟨s.session, .expect b f f⟩ s.trace = some q := set
    rw [here] at set
    cases set
  · intro q set
    rw [here] at set
    cases set

/-- Announcing a Logon concerns no range. -/
lemma Announced.ranges {x : Session σ} {trace : List (Call σ)} {line m} (h : Announced x trace line m) :
    (Event.log line).ranges = false := by
  cases h <;> rfl

/-- An act of the outbound half keeps the chunks in order. -/
lemma SendAct.chunking {fresh} {s t : Sys σ ω} (act : SendAct fresh s t) (h : Chunking s) : Chunking t := by
  cases act with
  | quiet | adopt | logon => exact h.keep (r := []) rfl (by simp) rfl rfl
  | @announce line _ _ _ _ own =>
    refine h.keep (r := [_, _]) rfl ?_ rfl rfl
    exact List.forall_mem_cons.mpr ⟨rfl, List.forall_mem_singleton.mpr own.ranges⟩
  | cut _ _ left => exact left.chunking h
  | _ => exact h.keep (r := [_]) rfl (by simp [Event.ranges]) rfl rfl

/-- So does an act of a handler, while there is room for what it asks. -/
lemma HandleAct.chunking {resets} {s t : Sys σ ω} (act : HandleAct resets s t)
    (room : ∀ c ∈ t.trace, c.session.RequestRoom) (h : Chunking s) : Chunking t := by
  cases act with
  | send act => exact act.chunking h
  | receivingReset | endingResets | supersede | logon => exact h.keep (r := []) rfl (by simp) rfl rfl
  | deliver => exact h.keep (r := [_, _]) rfl (by simp [Event.ranges]) rfl rfl
  | @stashAndExpect _ msg seq recovery what e item number high recovers why chunk covers request announce =>
    have stashed : Chunking ((s.stashing seq msg recovery).called (.compute what) s.world) :=
      h.keep (r := [_, _]) rfl (by simp [Event.ranges]) rfl rfl
    cases recovery with
    | suppressed => exact absurd rfl recovers
    | requested =>
      obtain ⟨rfl, rfl, allowed⟩ := request rfl
      -- redundant requests are off, so no range was outstanding
      have idle : s.session.resendRange = none := by
        rw [h.single, Bool.not_false, Bool.and_true] at allowed
        exact Option.isNone_iff_eq_none.mp (by simpa using allowed)
      have none : requests ((s.stashing seq msg .requested).called
          (.compute [.request s.nextTarget seq]) s.world).trace = [] := stashed.idle idle
      have here : s.session.RequestRoom :=
        room ⟨s.session, .stash seq msg .requested⟩ (.tail _ (.tail _ List.mem_cons_self))
      refine stashed.ask rfl rfl ⟨covers fun _ => here, chunk⟩ (requestEnd_few h.limited) ?_
      rw [none]
      simp
    | announced =>
      obtain ⟨rfl, rfl⟩ := announce rfl
      exact stashed.announce rfl
  | @nextChunk b f c e range passed chunk covers asked whole =>
    obtain ⟨rest, tr⟩ := asked
    have due : asks s.trace = true := by rw [tr, asks]
    have first : s.nextTarget ≤ e := covers (room ⟨s.session, .expect _ _ _⟩ List.mem_cons_self)
    have gap := (h.gap b f c range).resolve_left (by omega)
    refine h.ask due rfl ⟨first, chunk⟩ (whole ▸ requestEnd_few h.limited) fun p mem => ?_
    exact ⟨(gap p mem).1.trans_lt passed, (gap p mem).2⟩
  | satisfied => exact h.settle rfl (.inl rfl) rfl rfl
  | _ => exact h.keep (r := [_]) rfl (by simp [Event.ranges]) rfl rfl

/-- So does every act. -/
lemma Act.chunking {s t : Sys σ ω} (act : Act s t) (room : ∀ c ∈ t.trace, c.session.RequestRoom)
    (h : Chunking s) : Chunking t := by
  cases act with
  | handle act => exact act.chunking room h
  | send act => exact act.chunking h
  | ask => exact h.keep (r := []) rfl (by simp) rfl rfl
  | cut _ left => exact left.chunking h
  | endLogout now _ left => exact left.chunking (h.keep (r := [_]) rfl (by simp [Event.ranges]) rfl rfl)
  | _ => exact h.keep (r := [_]) rfl (by simp [Event.ranges]) rfl rfl

/-! ## Messages -/

/-- A ResendRequest for the numbers from `b` to `e`. -/
structure AsksFor (b e : Nat) (m : Message) : Prop where
  msgType : m.header.getRaw Tags.msgType = some MsgType.resendRequest
  beginSeqNo : m.body.getRaw Tags.beginSeqNo = some (encode b)
  endSeqNo : m.body.getRaw Tags.endSeqNo = some (encode e)

/-- A range was recorded for a request, and next the ResendRequest for it was filled and shown to the
application. -/
def Asks (b received : Nat) (s t : Sys σ ω) : Prop :=
  ∃ c m sent, c.event = .toAdmin m sent ∧ AsksFor b (requestEnd s.session.cfg b (received - 1)).2 m ∧
    c :: (s.requesting b received).trace <:+ t.trace

/-- A ResendRequest asks for its range once it is filled in. -/
lemma asksFor_filled (x : Session σ) (now) (b e : Nat) :
    AsksFor b e (x.filledHeader now (resendRequestMessage b e).fresh) := by
  constructor
  · rw [msgType_filledHeader]
    rfl
  · rw [body_filledHeader]
    simp +decide [Message.fresh, resendRequestMessage, Message.set]
  · rw [body_filledHeader]
    simp +decide [Message.fresh, resendRequestMessage, Message.set]

/-- Where chunks are asked for, the ResendRequest asks for the range recorded. -/
lemma sendResendRequest_asks {b received} {s0 : Sys σ ω}
    (limited : 1 ≤ s0.session.cfg.maxMessagesInResendRequest) :
    ⦃fun s => ⌜s = s0⌝⦄ sendResendRequest b received
    ⦃post⟨fun _ s => ⌜Asks b received s0 s⌝, fun _ s => ⌜Asks b received s0 s⌝⟩⦄ := by
  have chunk : (requestEnd s0.session.cfg b (received - 1)).1 =
      (requestEnd s0.session.cfg b (received - 1)).2 := by
    unfold requestEnd
    split
    case h_1 none => omega
    case h_2 => rfl
  have sent {t} (on : SentOn (resendRequestMessage b (requestEnd s0.session.cfg b (received - 1)).1)
      (s0.requesting b received) t) : Asks b received s0 t := by
    obtain ⟨now, w, -, run⟩ := on
    have admin : ((s0.requesting b received).session.filledHeader now (resendRequestMessage b
        (requestEnd s0.session.cfg b (received - 1)).1).fresh).isAdmin = true := by
      rw [isAdmin_filledHeader]
      rfl
    rw [Sys.callingBack, if_pos admin] at run
    have asked := asksFor_filled (s0.requesting b received).session now b
      (requestEnd s0.session.cfg b (received - 1)).1
    exact ⟨_, _, _, rfl, chunk ▸ asked, sends_suffix run⟩
  generalize goal : Asks b received s0 = R
  mvcgen [sendResendRequest, expect, -sendMessage_spec, sendMessage_outcome]
  all_goals
    rename_i s eq _ _ t
    intro on _
    subst goal eq
    exact sent on

/-! ## Histories -/

variable {cfg : SessionConfig} {dictionary adminDictionary : Option DataDictionary} {store : σ}
variable {now : Nat} {world : ω} {inputs : List Input}

/-- In every run of a session that asks for a limited number of messages at once, and for no gap twice,
the requests partition each gap, and a range that a request set is the one asked for. Each of them goes
out as a ResendRequest for its range. The numbers and the limit stay so small that their sum is in the
range of `u64`. -/
theorem requests_partition (limited : 1 ≤ cfg.maxMessagesInResendRequest)
    (single : cfg.sendRedundantResendRequests = false)
    (room : ∀ c ∈ (Sys.ran cfg dictionary adminDictionary store now world inputs).trace,
      c.nextTarget + c.session.cfg.maxMessagesInResendRequest < 2 ^ 64) :
    (∀ q ∈ outstanding (Sys.ran cfg dictionary adminDictionary store now world inputs).trace,
      (Sys.ran cfg dictionary adminDictionary store now world inputs).session.resendRange =
        some (q.first, q.fullEnd, q.last) ∧
      q.first ≤ q.last ∧ q.last ≤ q.fullEnd ∧ q.last - q.first < cfg.maxMessagesInResendRequest) ∧
    Along (fun c cs => ∀ q ∈ requested c cs, Partitions c cs q)
      (Sys.ran cfg dictionary adminDictionary store now world inputs).trace ∧
    ∀ s0 : Sys σ ω, 1 ≤ s0.session.cfg.maxMessagesInResendRequest → ∀ b received,
      ⦃fun s => ⌜s = s0⌝⦄ sendResendRequest b received
      ⦃post⟨fun _ s => ⌜Asks b received s0 s⌝, fun _ s => ⌜Asks b received s0 s⌝⟩⦄ := by
  generalize same : Sys.ran cfg dictionary adminDictionary store now world inputs = s
  have kept : s.session.cfg = cfg ∧ Chunking s := by
    rw [← same]
    apply ran_keeps_along (P := fun c _ => c.session.RequestRoom)
      (I := fun s => s.session.cfg = cfg ∧ Chunking s)
    · intro s t act room h
      refine ⟨act.cfg.trans h.1, act.chunking (fun c mem => ?_) h.2⟩
      obtain ⟨-, -, here⟩ := room.of_mem mem
      exact here
    · exact ⟨rfl, limited, single, fun _ => rfl, nofun, nofun, trivial⟩
    · exact along_iff.mpr fun c rest suffix => .inr (room c (suffix.subset List.mem_cons_self))
  refine ⟨fun q set => ?_, kept.2.along, fun s0 limited b received => sendResendRequest_asks limited⟩
  rw [← kept.1]
  exact kept.2.recorded q set

end Runs

namespace Script

/-- An acceptor that asks for two messages at once. -/
def twoAtOnce : SessionConfig := { acceptor with maxMessagesInResendRequest := 2 }

/-- After the Logon a Heartbeat with number 7 arrives, and the first two of the messages missing. -/
def missingFive : List Input :=
  [.attach, .inbound (fromPeer MsgType.logon 1).toBytes, .inbound (fromPeer MsgType.heartbeat 7).toBytes,
    .inbound (fromPeer MsgType.heartbeat 2).toBytes, .inbound (fromPeer MsgType.heartbeat 3).toBytes]

end Script

/-- The second chunk of the gap is outstanding. -/
theorem requests_partition_missingFive :
    ∃ q ∈ outstanding (Script.play Script.twoAtOnce {} Script.missingFive).trace, q.first = 4 ∧ q.last = 5 ∧
      (Script.play Script.twoAtOnce {} Script.missingFive).session.resendRange =
        some (q.first, q.fullEnd, q.last) := by
  let := epochDay
  unfold Script.play
  obtain ⟨recorded, -⟩ := @requests_partition MemoryStore Script _ _ _ _ Script.twoAtOnce none none
    { creationTime := 0 } 0 {} Script.missingFive (by decide) rfl (by decide +kernel)
  generalize same : Sys.ran Script.twoAtOnce none none ({ creationTime := 0 } : MemoryStore) 0 ({} : Script)
    Script.missingFive = s at *
  have set : (outstanding s.trace).any (fun q => q.first == 4 && q.last == 5) = true := by
    rw [← same]
    decide +kernel
  obtain ⟨q, mem, eq⟩ := (Option.any_eq_true _ _).mp set
  simp only [Bool.and_eq_true, beq_iff_eq] at eq
  exact ⟨q, mem, eq.1, eq.2, (recorded q mem).1⟩

end QuickFix
