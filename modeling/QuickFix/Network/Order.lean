import QuickFix.Network.Peers

/-!
# Delivery refines the service

While no side starts its numbers anew, what the application of one side accepts and what the
application of the other side gets is a run of the delivery service, keyed by the sequence numbers.
-/

namespace QuickFix

set_option linter.unusedSectionVars false

open Session MessageStore

section Lists

variable {σ : Type}

/-- The content that is accepted at a call, the calls before it being known: its message is stored right
after the application let it through. -/
def acceptedAt (c : Call σ) : List (Call σ) → Option Content
  | [] => none
  | d :: _ =>
    match c.event, d.event with
    | .save _ _ (.ok _), .toApp _ (some m) => some (c.session.canonicalized m).content
    | _, _ => none

/-- The contents of the application messages that were accepted, the earliest first. -/
def acceptedContents : List (Call σ) → List Content
  | [] => []
  | c :: cs => acceptedContents cs ++ (acceptedAt c cs).toList

/-- The content of the message an event gives to the application. -/
def Event.given : Event → Option Content
  | .fromApp msg _ => some msg.content
  | _ => none

/-- What is given to the application is the content of its message. -/
lemma Event.given_eq_some {e : Event} {content} (h : e.given = some content) :
    ∃ msg answer, e = .fromApp msg answer ∧ content = msg.content := by
  unfold given at h
  split at h
  case h_1 msg answer => exact ⟨msg, answer, rfl, (Option.some.inj h).symm⟩
  case h_2 => cases h

/-- The contents of the messages that were delivered, the earliest first. -/
def deliveredContents (cs : List (Call σ)) : List Content := observed Event.given cs

/-- What a call accepts is stored under its number. -/
lemma acceptedAt_eq_some {c : Call σ} {cs content} (h : acceptedAt c cs = some content) :
    ∃ d rest n raw m m', cs = d :: rest ∧ c.event = .save n raw (.ok ()) ∧
      d.event = .toApp m (some m') ∧ content = (c.session.canonicalized m').content := by
  cases cs with
  | nil => cases h
  | cons d rest =>
    rw [acceptedAt] at h
    split at h
    case h_1 n raw _ m m' save call =>
      exact ⟨d, rest, n, raw, m, m', rfl, save, call, (Option.some.inj h).symm⟩
    case h_2 => cases h

/-- More calls only add to what was accepted. -/
lemma acceptedContents_suffix {cs ds : List (Call σ)} (suf : cs <:+ ds) :
    ∃ xs, acceptedContents ds = acceptedContents cs ++ xs := by
  obtain ⟨before, rfl⟩ := suf
  induction before with
  | nil => exact ⟨[], (List.append_nil _).symm⟩
  | cons c before ih =>
    obtain ⟨xs, same⟩ := ih
    refine ⟨xs ++ (acceptedAt c (before ++ cs)).toList, ?_⟩
    rw [List.cons_append, acceptedContents, same, List.append_assoc]

/-- More calls only add to what was delivered. -/
lemma deliveredContents_suffix {cs ds : List (Call σ)} (suf : cs <:+ ds) :
    ∃ xs, deliveredContents ds = deliveredContents cs ++ xs := by
  obtain ⟨before, rfl⟩ := suf
  refine ⟨deliveredContents before, ?_⟩
  rw [deliveredContents, deliveredContents, deliveredContents, observed, List.filterMap_append,
    List.reverse_append]
  rfl

/-- Without a failed operation, what was stored was accepted. -/
lemma Stored.accepted {content} {trace : List (Call σ)} (h : Stored content trace)
    (reliable : ∀ c ∈ trace, c.event.failed = false) : content ∈ acceptedContents trace := by
  obtain ⟨c, d, rest, n, raw, res, m, m', suf, save, call, -, rfl⟩ := h
  have own : (c.session.canonicalized m').content ∈ acceptedContents (c :: d :: rest) := by
    have done := reliable c (suf.subset List.mem_cons_self)
    rw [save] at done
    cases res with
    | error e => simp [Event.failed] at done
    | ok _ => simp [acceptedContents, acceptedAt, save, call]
  obtain ⟨xs, same⟩ := acceptedContents_suffix suf
  rw [same]
  exact List.mem_append_left xs own

/-- Without a boundary, all calls are since the last one. -/
lemma since_all {b : Call σ → Bool} {cs : List (Call σ)} (none : ∀ c ∈ cs, b c = false) :
    since b cs = cs := by
  rw [since, List.takeWhile_eq_self_iff]
  intro c mem
  simp [none c mem]

end Lists

section Sorted

variable {σ : Type} [Chrono] [MessageStore σ]

/-- The numbers of accepted contents are among the accepted numbers, in their order. -/
lemma acceptedContents_numbers {cs : List (Call σ)} (emitted : Along Emitted cs) :
    ((acceptedContents cs).map Content.seq).Sublist (acceptedNumbers cs) := by
  induction cs with
  | nil => exact .slnil
  | cons c cs ih =>
    rw [acceptedContents, acceptedNumbers, List.map_append]
    apply (ih emitted.2).append
    cases here : acceptedAt c cs with
    | none => exact List.nil_sublist _
    | some content =>
      obtain ⟨d, rest, n, raw, m, m', rfl, save, call, rfl⟩ := acceptedAt_eq_some here
      obtain ⟨d', k, k', head, call', -, number, -⟩ := emitted.1.saved n raw _ save
      obtain rfl : d = d' := Option.some.inj head
      obtain ⟨-, rfl⟩ : m = k ∧ m' = k' := by simpa [call] using call'
      have seq : (c.session.canonicalized m').content.seq = n := by
        rw [Message.content, number]
        rfl
      simp [save, Event.accepted, seq]

/-- While the outbound numbering goes on, the numbers of accepted contents increase. -/
lemma accepted_sorted [FailStopStore σ] {start st : σ} {cs : List (Call σ)}
    (valid : LawfulStore.Valid start) (linked : Linked start cs st) (emitted : Along Emitted cs)
    (none : ∀ c ∈ cs, restart c = false) :
    (acceptedContents cs).Pairwise (·.seq < ·.seq) := by
  obtain ⟨-, consecutive, -⟩ := sentInOrder_of_emitted valid linked emitted
  have numbers := consecutive.numbers
  rw [since_all none] at numbers
  have sorted : (acceptedNumbers cs).Pairwise (· < ·) := by
    rw [numbers]
    exact List.pairwise_lt_range'
  exact List.pairwise_map.mp (sorted.sublist (acceptedContents_numbers emitted))

/-- While the inbound numbering goes on, the numbers of delivered contents increase. -/
lemma delivered_sorted {cs : List (Call σ)} (ordered : Along InOrder cs)
    (none : ∀ c ∈ cs, boundary c = false) : (deliveredContents cs).Pairwise (·.seq < ·.seq) := by
  have number {c : Call σ} {earlier msg answer} (h : InOrder c earlier) (ev : c.event = .fromApp msg answer) :
      msg.seqNum = .ok msg.content.seq := by
    rw [Message.content, h.number msg answer ev]
    rfl
  induction cs with
  | nil => exact .nil
  | cons c cs ih =>
    obtain ⟨here, rest⟩ := List.forall_mem_cons.mp none
    rw [deliveredContents, observed_cons]
    cases given : c.event.given with
    | none => exact (List.append_nil _).symm ▸ ih ordered.2 rest
    | some content =>
      apply Service.pairwise_snoc (ih ordered.2 rest)
      intro y mem
      obtain ⟨d, mem', given'⟩ := List.mem_filterMap.mp (List.mem_reverse.mp mem)
      obtain ⟨msg, answer, ev, rfl⟩ := Event.given_eq_some given
      obtain ⟨msg', answer', ev', rfl⟩ := Event.given_eq_some given'
      obtain ⟨earlier, -, own⟩ := ordered.2.of_mem mem'
      have since : d ∈ since boundary cs := (since_all rest).symm ▸ mem'
      exact ordered.1.increasing d since msg' msg answer' answer _ _ ev' ev (number own ev')
        (number ordered.1 ev)

end Sorted

/-! ## Refinement -/

section Refinement

variable {σ ω σ' ω' : Type} [Chrono]
variable [MessageStore σ] [Application ω] [Runtime ω] [MessageStore σ'] [Application ω'] [Runtime ω']

/-- What two sides are to the delivery service in the direction from the first to the second. -/
def service (a : Party σ ω) (b : Party σ' ω') (is js : List Input) : Service Content where
  accepted := acceptedContents (a.after is).trace
  delivered := deliveredContents (b.after js).trace

variable {a : Party σ ω} {b : Party σ' ω'} {is js : List Input}

/-- The sender's numbering goes on: its store works, and nothing starts the numbers anew. -/
structure Numbering (a : Party σ ω) (is : List Input) : Prop where
  reliable : (a.after is).Reliable
  onward : ∀ c ∈ (a.after is).trace, restart c = false

/-- The receiver's numbering goes on, and does not run past its end. -/
structure Counting [LawfulStore σ'] (b : Party σ' ω') (js : List Input) : Prop where
  valid : LawfulStore.Valid b.store
  reliable : (b.after js).Reliable
  room : (b.after js).TargetRoom
  onward : ∀ c ∈ (b.after js).trace, boundary c = false

/-- A numbering that goes on went on before. -/
lemma Numbering.before {input} (h : Numbering a (is ++ [input])) : Numbering a is where
  reliable c mem := h.reliable c ((a.suffix is input).subset mem)
  onward c mem := h.onward c ((a.suffix is input).subset mem)

variable [FailStopStore σ] [FaithfulStore σ] [LawfulStore σ']

/-- A receiver that counts counted before. -/
lemma Counting.before {input} (h : Counting b (js ++ [input])) : Counting b js where
  valid := h.valid
  reliable c mem := h.reliable c ((b.suffix js input).subset mem)
  room c mem := h.room c ((b.suffix js input).subset mem)
  onward c mem := h.onward c ((b.suffix js input).subset mem)

/-- Sending on one side and delivery on the other are steps of the service. -/
lemma reaches_service (format : ∀ t : UtcTimestamp, soh ∉ encode t) (joined : Joined a b is js)
    (sender : Sender a is) (numbering : Numbering a is) (counting : Counting b js) :
    Service.Reaches Content.seq {} (service a b is js) := by
  induction joined with
  | start => exact .refl
  | @left is js input joined ih =>
    refine (ih sender.before numbering.before counting).trans ?_
    obtain ⟨xs, same⟩ := acceptedContents_suffix (a.suffix is input)
    have sorted : (acceptedContents (a.after (is ++ [input])).trace).Pairwise (·.seq < ·.seq) :=
      accepted_sorted sender.valid linked_ran sender.plain.emitted numbering.onward
    rw [same] at sorted
    have next : service a b (is ++ [input]) js =
        { service a b is js with accepted := (service a b is js).accepted ++ xs } := by
      rw [service, same]
      rfl
    rw [next]
    exact Service.reaches_accept sorted
  | @right is js input joined carried ih =>
    refine (ih sender numbering counting.before).trans ?_
    obtain ⟨xs, same⟩ := deliveredContents_suffix (b.suffix js input)
    have ordered : Along InOrder (b.after (js ++ [input])).trace := by
      have settled : Settled (b.after (js ++ [input])).trace :=
        ran_keeps (I := fun s => Settled s.trace) Act.settled ⟨trivial, by simp [Sys.init]⟩
      exact inOrder_of_orderly counting.valid linked_ran settled.along counting.reliable counting.room
    have sorted := delivered_sorted ordered counting.onward
    have known : ∀ x ∈ xs, x ∈ acceptedContents (a.after is).trace := by
      intro x mem
      have mem : x ∈ deliveredContents (b.after (js ++ [input])).trace := by
        rw [same]
        exact List.mem_append_right _ mem
      obtain ⟨c, here, given⟩ := List.mem_filterMap.mp (List.mem_reverse.mp mem)
      obtain ⟨msg, answer, ev, rfl⟩ := Event.given_eq_some given
      refine (stored_of_delivered ?_ here ev).accepted numbering.reliable
      exact fun raw arrived => sender.tells format ((Joined.right joined carried).wrote arrived)
    rw [same] at sorted
    have next : service a b is (js ++ [input]) =
        { service a b is js with delivered := (service a b is js).delivered ++ xs } := by
      rw [service, same]
      rfl
    rw [next]
    exact Service.reaches_deliver sorted known

/-- However the two sides are interleaved, and whatever the network loses, repeats or reorders: while no
side starts its numbers anew, sending on one side and delivery on the other refine the delivery service.
So what is delivered is a part of what was accepted, in the order in which it was accepted, and nothing
twice. -/
theorem peers_refine (format : ∀ t : UtcTimestamp, soh ∉ encode t) (joined : Joined a b is js)
    (sender : Sender a is) (numbering : Numbering a is) (counting : Counting b js) :
    Service.Reaches Content.seq {} (service a b is js) ∧
      (deliveredContents (b.after js).trace).Sublist (acceptedContents (a.after is).trace) := by
  have start : Service.Sound Content.seq ({} : Service Content) := ⟨.nil, .nil, by simp⟩
  have reaches := reaches_service format joined sender numbering counting
  exact ⟨reaches, (reaches.sound start).sublist⟩

end Refinement

namespace Script

attribute [local instance] epochDay

/-- The message that came too early and the one that was missing are delivered in order. -/
theorem peers_refine_recovered :
    (Service.Reaches Content.seq {} (service seller buyer asked recovered) ∧
      (deliveredContents (buyer.after recovered).trace).Sublist
        (acceptedContents (seller.after asked).trace)) ∧
      (deliveredContents (buyer.after recovered).trace).map Content.seq = [2, 3] :=
  ⟨peers_refine (fun t => plain_formatDay t.precision t.time) joined_recovered sender_asked
    ⟨by decide +kernel, by decide +kernel⟩
    ⟨MemoryStore.valid_empty 0, by decide +kernel, by decide +kernel, by decide +kernel⟩,
    by decide +kernel⟩

end Script

end QuickFix
