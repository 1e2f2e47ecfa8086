import QuickFix.Network.Arrivals
import QuickFix.Resend.Fidelity
import QuickFix.Sending.Numbering

/-!
# What the frames of a session say

Every frame a session hands to its write task is the serialization of a message its application let
through. A frame of an application message says what the application accepted under that number: it is
stored right before it is written, and what is written again was read back from the store.
-/

namespace QuickFix

set_option linter.unusedSectionVars false

open Session MessageStore

/-! ## Messages -/

/-- What an application message says, whoever sends it and when. -/
structure Content where
  seq : Nat
  msgType : Bytes
  body : FieldMap
  deriving DecidableEq

namespace Message

/-- What a message says; its number is 0 when it has none. -/
def content (m : Message) : Content :=
  { seq := m.seqNum.toOption.getD 0, msgType := m.msgTypeOrDefault, body := m.body }

/-- The content is told by the number, the type and the body. -/
lemma content_eq {m m' : Message} (number : m'.seqNum = m.seqNum) (type : m'.msgType = m.msgType)
    (body : m'.body = m.body) : m'.content = m.content := by
  rw [content, content, number, msgTypeOrDefault, msgTypeOrDefault, type, body]

/-- A message that comes back from its bytes. -/
structure Legible (m : Message) : Prop where
  sendable : m.Sendable
  fits : m.toBytes.length < 2 ^ 63

variable {m : Message}

instance (pending tag value) : Decidable (Delimited pending tag value) := by
  unfold Delimited
  split <;> infer_instance

instance decidableFramed : ∀ pending fs, Decidable (Framed pending fs)
  | _, [] => .isTrue trivial
  | pending, f :: fs =>
    have := decidableFramed (announcedData f.tag f.value) fs
    inferInstanceAs (Decidable (Delimited pending f.tag f.value ∧ Framed _ fs))

instance (m : Message) : Decidable m.Legible :=
  decidable_of_iff ((m.header.contains Tags.msgType = true ∧
      (∀ f ∈ m.header.fields, Tags.isHeaderTag f.tag = true) ∧
      (∀ f ∈ m.body.fields, Tags.isBodyTag f.tag = true) ∧
      (∀ f ∈ m.trailer.fields, Tags.isTrailerTag f.tag = true) ∧
      (∀ f ∈ m.body.fields, -2 ^ 31 ≤ f.tag ∧ f.tag < 2 ^ 31) ∧ soh ∉ m.beginBytes ∧
      Framed none m.innerFields) ∧ m.toBytes.length < 2 ^ 63)
    ⟨fun ⟨⟨type, header, body, trailer, range, begins, framed⟩, fits⟩ =>
      ⟨⟨type, header, body, trailer, range, begins, framed⟩, fits⟩,
    fun ⟨⟨type, header, body, trailer, range, begins, framed⟩, fits⟩ =>
      ⟨⟨type, header, body, trailer, range, begins, framed⟩, fits⟩⟩

/-- What a legible message comes back as. -/
lemma Legible.received (h : m.Legible) : ∃ mt, m.header.getRaw Tags.msgType = some mt ∧
    parse m.toBytes true = .ok (m.received mt) := by
  obtain ⟨mt, type, serial⟩ := h.sendable.serialFields_eq
  exact ⟨mt, type, h.sendable.parse_eq h.fits serial⟩

/-- A legible message is intact. -/
lemma Legible.intact (h : m.Legible) : QuickFix.Intact m.toBytes := by
  obtain ⟨mt, type, parsed⟩ := h.received
  exact ⟨_, parsed, toBytes_received type⟩

/-- A message that comes back is of the same type and says the same. -/
lemma same_received {mt} (type : m.header.getRaw Tags.msgType = some mt) :
    (m.received mt).isAdmin = m.isAdmin ∧ (m.received mt).content = m.content := by
  have type' : (m.received mt).header.getRaw Tags.msgType = m.header.getRaw Tags.msgType := by
    rw [type]
    rfl
  have number : (m.received mt).header.getRaw Tags.msgSeqNum = m.header.getRaw Tags.msgSeqNum :=
    getRaw_serialHeader mt rfl
  refine ⟨by rw [isAdmin, isAdmin, type'], content_eq ?_ ?_ rfl⟩
  · rw [seqNum, seqNum, FieldMap.get, FieldMap.get, number]
  · rw [msgType, msgType, FieldMap.get, FieldMap.get, type']

/-- So is what is parsed from its bytes, however they are checked. -/
lemma Legible.parsed {strict msg} (h : m.Legible) (parsed : parse m.toBytes strict = .ok msg) :
    msg.isAdmin = m.isAdmin ∧ msg.content = m.content := by
  obtain ⟨mt, type, whole⟩ := h.received
  have checked := (h.intact.parsed parsed).1
  obtain rfl : m.received mt = msg := Except.ok.inj (whole.symm.trans checked)
  exact same_received type

variable [Chrono]

/-- What is sent again comes back too, and says the same. -/
lemma Legible.resent {strict p} (format : ∀ t : UtcTimestamp, soh ∉ encode t) (h : m.Legible)
    (parsed : parse m.toBytes strict = .ok p) (now : UtcTimestamp) :
    (p.resent now).Sendable ∧ (p.resent now).content = m.content := by
  obtain ⟨mt, type, whole⟩ := h.received
  obtain rfl : m.received mt = p := Except.ok.inj (whole.symm.trans (h.intact.parsed parsed).1)
  have type' : ((m.received mt).resent now).header.getRaw Tags.msgType = some mt :=
    getRaw_received m mt now rfl (by decide)
  have again := sentAgain_received m type now
  refine ⟨h.sendable.resent type (format now), ?_⟩
  rw [← (same_received type').2]
  exact content_eq again.seqNum again.msgType again.body

end Message

/-! ## The sender's application and store -/

section

variable {σ ω : Type}

/-- What an outgoing callback lets through comes back from its bytes: an admin message stays one, a fresh
application message stays one, in the order of the dictionary, and what is offered to be sent again is
left as it is. -/
def Careful (c : Call σ) : Prop :=
  match c.event with
  | .toAdmin _ m' => m'.isAdmin = true ∧ m'.Legible ∧ (c.session.canonicalized m').Legible
  | .toApp m (some m') =>
    if m.possDup then m' = m ∧ m.toBytes.length < 2 ^ 63
    else m'.isAdmin = false ∧ (c.session.canonicalized m').Legible
  | _ => True

instance (c : Call σ) : Decidable (Careful c) := by
  unfold Careful
  split <;> infer_instance

/-- What `to_admin` lets through comes back from its bytes. -/
lemma Careful.admin {c : Call σ} (h : Careful c) {m m'} (ev : c.event = .toAdmin m m') :
    m'.isAdmin = true ∧ m'.Legible ∧ (c.session.canonicalized m').Legible := by
  rwa [Careful, ev] at h

/-- So does a new message that `to_app` lets through. -/
lemma Careful.fresh {c : Call σ} (h : Careful c) {m m'} (ev : c.event = .toApp m (some m'))
    (fresh : m.possDup = false) : m'.isAdmin = false ∧ (c.session.canonicalized m').Legible := by
  simpa [Careful, ev, fresh] using h

/-- A message that is sent again passes `to_app` untouched. -/
lemma Careful.again {c : Call σ} (h : Careful c) {m m'} (ev : c.event = .toApp m (some m'))
    (dup : m.possDup = true) : m' = m ∧ m.toBytes.length < 2 ^ 63 := by
  simpa [Careful, ev, dup] using h

/-- A store that gives back what was put into it: what is read are the stored messages, and a reload
brings up no others. -/
class FaithfulStore (σ : Type) [MessageStore σ] [LawfulStore σ] : Prop where
  get_stored : ∀ b e (st : σ) l, LawfulStore.Valid st → (getMessages b e st).1 = .ok l →
    ∀ p ∈ l, LawfulStore.messages st p.1 = some p.2
  refresh_stored : ∀ t (st : σ) k r, LawfulStore.Valid st →
    LawfulStore.messages (MessageStore.refresh t st).2 k = some r → LawfulStore.messages st k = some r

instance : FaithfulStore MemoryStore where
  get_stored b e st l _ got p mem := by
    obtain rfl : MemoryStore.range st.messages b e = l := Except.ok.inj got
    exact Std.ExtTreeMap.mem_toList_iff_getElem?_eq_some.mp (List.mem_filter.mp mem).1
  refresh_stored _ _ _ _ _ stored := stored

/-- The application accepted the content, and it was put into the store. -/
def Stored (content : Content) (trace : List (Call σ)) : Prop :=
  ∃ c d rest n raw res m m', c :: d :: rest <:+ trace ∧ c.event = .save n raw res ∧
    d.event = .toApp m (some m') ∧ (c.session.canonicalized m').seqNum = .ok n ∧
    content = (c.session.canonicalized m').content

/-- What was stored stays so as the history goes on. -/
lemma Stored.of_suffix {content} {trace more : List (Call σ)} (h : Stored content trace)
    (suf : trace <:+ more) : Stored content more := by
  obtain ⟨c, d, rest, n, raw, res, m, m', here, facts⟩ := h
  exact ⟨c, d, rest, n, raw, res, m, m', here.trans suf, facts⟩

/-- The bytes are a legible message; when it is of the application, its content was stored. -/
def Tells (raw : Bytes) (trace : List (Call σ)) : Prop :=
  ∃ m : Message, m.Legible ∧ raw = m.toBytes ∧ (m.isAdmin = false → Stored m.content trace)

/-- What bytes tell of the history they tell of a longer one. -/
lemma Tells.of_suffix {raw} {trace more : List (Call σ)} (h : Tells raw trace) (suf : trace <:+ more) :
    Tells raw more := by
  obtain ⟨m, legible, bytes, stored⟩ := h
  exact ⟨m, legible, bytes, fun app => (stored app).of_suffix suf⟩

end

/-! ## Provenance -/

section Store

variable {σ : Type} [MessageStore σ] [LawfulStore σ] [FaithfulStore σ]

/-- What a call adds to the store is what it saves. -/
lemma stored_by {e : Event} {st st' : σ} (effect : e.Effect st st') (valid : LawfulStore.Valid st) {k r}
    (stored : LawfulStore.messages st' k = some r) :
    LawfulStore.messages st k = some r ∨ ∃ res, e = .save k r res := by
  have moves := (effect.moves valid).2
  have same {v} (h : view st' = v) (old : v.messages = LawfulStore.messages st) :
      LawfulStore.messages st k = some r := by
    rw [← old, ← h]
    exact stored
  cases e with
  | incrSender | incrTarget | setSender | setTarget =>
    exact .inl (moves.elim (same · rfl) (same · rfl))
  | save n raw res =>
    rcases moves.2.1 k r stored with old | ⟨rfl, rfl⟩
    · exact .inl old
    · exact .inr ⟨res, rfl⟩
  | refresh res =>
    obtain ⟨now, eq⟩ := effect
    refine .inl (FaithfulStore.refresh_stored now st k r valid ?_)
    rw [eq]
    exact stored
  | reset site res =>
    refine .inl (moves.elim (same · rfl) fun h => ?_)
    have none : LawfulStore.messages st' k = none := congrFun (congrArg StoreView.messages h) k
    rw [none] at stored
    cases stored
  | _ => exact .inl (same moves rfl)

/-- What a store has was saved, when it was empty at first. -/
lemma saved_of_stored {start st : σ} {cs : List (Call σ)} (linked : Linked start cs st)
    (valid : LawfulStore.Valid start) (empty : ∀ k, LawfulStore.messages start k = none) {k r}
    (stored : LawfulStore.messages st k = some r) :
    ∃ c rest res, c :: rest <:+ cs ∧ c.event = .save k r res := by
  induction cs generalizing st with
  | nil =>
    rw [(linked : st = start), empty] at stored
    cases stored
  | cons c cs ih =>
    rcases stored_by linked.1 (linked.2.valid valid).1 stored with old | ⟨res, ev⟩
    · obtain ⟨d, rest, res, suf, ev⟩ := ih linked.2 old
      exact ⟨d, rest, res, suf.trans (List.suffix_cons c cs), ev⟩
    · exact ⟨c, cs, res, List.suffix_rfl, ev⟩

end Store

/-! ## Frames -/

section Frames

variable {σ ω : Type} [Chrono] [MessageStore σ] [Application ω] [Runtime ω]

/-- What is known of the calls of a session with a careful application. -/
structure Plain (arrived : Bytes → Prop) (start : σ) (cs : List (Call σ)) : Prop where
  sited : Along (Sited arrived) cs
  emitted : Along Emitted cs
  careful : ∀ c ∈ cs, Careful c
  linked : ∃ st, Linked start cs st

/-- A history without surprises had none before. -/
lemma Plain.of_suffix {arrived} {start : σ} {cs ds : List (Call σ)} (h : Plain arrived start cs)
    (suf : ds <:+ cs) : Plain arrived start ds where
  sited := h.sited.of_suffix suf
  emitted := h.emitted.of_suffix suf
  careful c mem := h.careful c (suf.subset mem)
  linked := by
    obtain ⟨st, linked⟩ := h.linked
    cases ds with
    | nil => exact ⟨start, rfl⟩
    | cons d ds =>
      obtain ⟨before, rfl⟩ := suf
      clear h
      induction before generalizing st with
      | nil => exact ⟨st, linked⟩
      | cons c before ih => exact ih _ linked.2

variable {arrived : Bytes → Prop} {start : σ} {c : Call σ} {rest : List (Call σ)}

/-- An admin message stays one in the order of the dictionary. -/
lemma isAdmin_canonicalized (x : Session σ) (m : Message) : (x.canonicalized m).isAdmin = m.isAdmin := by
  rw [Message.isAdmin, Message.isAdmin, x.header_canonicalized]

/-- What is saved is what the application let through. -/
lemma tells_saved {n raw res} (h : Plain arrived start (c :: rest)) (ev : c.event = .save n raw res) :
    Tells raw (c :: rest) := by
  obtain ⟨d, before, rfl, same, fresh⟩ := h.sited.1.saved n raw res ev
  obtain ⟨d', m, m', head, call, -, number, rfl⟩ := h.emitted.1.saved n raw res ev
  obtain rfl : d = d' := Option.some.inj head
  have careful := h.careful d (by simp)
  rw [← same] at number ⊢
  rcases call with call | call
  · obtain ⟨admin, -, legible⟩ := careful.admin call
    refine ⟨_, legible, rfl, fun app => ?_⟩
    rw [isAdmin_canonicalized, admin] at app
    cases app
  · obtain ⟨-, legible⟩ := careful.fresh call (fresh m _ call)
    refine ⟨_, legible, rfl, fun _ => ?_⟩
    exact ⟨c, d, before, n, _, res, m, m', List.suffix_rfl, ev, call, same ▸ number, by rw [same]⟩

/-- What is saved under a number has that number when it comes back. -/
lemma numbered_saved {n raw res} (h : Plain arrived start (c :: rest)) (ev : c.event = .save n raw res)
    (bound : nextSenderSeqNum c.session.store < 2 ^ 64) {strict m} (parsed : Message.parse raw strict = .ok m) :
    m.header.getRaw Tags.msgSeqNum = some (encode n) := by
  have out := h.emitted.1.saved n raw res ev
  have left : ∀ d ∈ rest, d.event.LeftNumber := by
    intro d mem
    obtain ⟨earlier, -, emitted⟩ := h.emitted.2.of_mem mem
    exact emitted.left
  obtain ⟨own, -⟩ := out.number left bound
  obtain ⟨d, sent, out, head, call, number, -, rfl⟩ := out
  obtain ⟨before, rfl⟩ := List.head?_eq_some_iff.mp head
  obtain ⟨d', before', eq, same, fresh⟩ := h.sited.1.saved n _ res ev
  cases eq
  have careful := h.careful d (by simp)
  have legible : (c.session.canonicalized out).Legible := by
    rw [← same]
    rcases call with call | call
    · exact (careful.admin call).2.2
    · exact (careful.fresh call (fresh sent _ call)).2
  obtain ⟨mt, -, whole⟩ := legible.received
  obtain rfl : (c.session.canonicalized out).received mt = m :=
    Except.ok.inj (whole.symm.trans (legible.intact.parsed parsed).1)
  have received : ((c.session.canonicalized out).received mt).header.getRaw Tags.msgSeqNum =
      (c.session.canonicalized out).header.getRaw Tags.msgSeqNum := Message.getRaw_serialHeader mt rfl
  rw [received, Session.header_canonicalized, left d List.mem_cons_self sent out call, number, own]

variable [LawfulStore σ] [FaithfulStore σ]

/-- What is read from the store to be sent again says what was saved. -/
lemma tells_again (format : ∀ t : UtcTimestamp, soh ∉ encode t) {m answer}
    (h : Plain arrived start (c :: rest)) (valid : LawfulStore.Valid start)
    (empty : ∀ k, LawfulStore.messages start k = none) (ev : c.event = .toApp m answer)
    (dup : m.possDup = true) : m.Sendable ∧ Stored m.content rest := by
  obtain ⟨-, replayed⟩ := h.sited.1.offered m answer ev
  obtain ⟨d, mem, b, e, l, seq, p, now, read, got, found, rfl⟩ := replayed dup
  obtain ⟨before, earlier, rfl⟩ := List.append_of_mem mem
  have suf : d :: earlier <:+ before ++ d :: earlier := List.suffix_append before _
  obtain ⟨raw, entry, parsed, app⟩ := resendable_eq_some.mp found
  have linked : Linked start earlier d.session.store := by
    obtain ⟨st, linked⟩ := h.linked
    exact linked.of_suffix (suf.trans (List.suffix_cons c _))
  -- the range holds what the store had, and that was saved before
  have stored := FaithfulStore.get_stored b e _ l (linked.valid valid).1 got (seq, raw)
    (SeqMap.mem_of_get_ofList entry)
  obtain ⟨s, before', res, suf', save⟩ := saved_of_stored linked valid empty stored
  have whole : s :: before' <:+ before ++ d :: earlier :=
    suf'.trans ((List.suffix_cons d earlier).trans suf)
  obtain ⟨x, legible, rfl, said⟩ :=
    tells_saved (h.of_suffix (whole.trans (List.suffix_cons c _))) save
  obtain ⟨sendable, same⟩ := legible.resent format parsed now
  have own := said ((legible.parsed parsed).1.symm.trans app)
  exact ⟨sendable, same ▸ own.of_suffix whole⟩

/-- What is handed to the write task is legible, and what it says was stored. -/
lemma tells_written (format : ∀ t : UtcTimestamp, soh ∉ encode t) {raw ok}
    (h : Plain arrived start (c :: rest)) (valid : LawfulStore.Valid start)
    (empty : ∀ k, LawfulStore.messages start k = none) (ev : c.event = .write raw ok) :
    Tells raw rest := by
  obtain ⟨d, head, handed⟩ := h.sited.1.written raw ok ev
  obtain ⟨before, rfl⟩ := List.head?_eq_some_iff.mp head
  have h := h.of_suffix (List.suffix_cons c _)
  rcases h.emitted.1.handed raw handed with
    ⟨s, before', n, rfl, save⟩ | ⟨recent, k, before', m, m', rfl, -, call, dup, rfl⟩
  · have h := h.of_suffix (List.suffix_cons d _)
    exact (tells_saved h save).of_suffix (List.suffix_cons d _)
  · have suf : k :: before' <:+ d :: (recent ++ k :: before') :=
      (List.suffix_append recent _).trans (List.suffix_cons d _)
    have h := h.of_suffix suf
    have careful := h.careful k (by simp)
    rcases call with call | call
    · obtain ⟨admin, legible, -⟩ := careful.admin call
      refine ⟨m', legible, rfl, fun app => ?_⟩
      rw [admin] at app
      cases app
    · obtain ⟨rfl, fits⟩ := careful.again call dup
      obtain ⟨sendable, stored⟩ := tells_again format h valid empty call dup
      exact ⟨_, ⟨sendable, fits⟩, rfl, fun _ =>
        stored.of_suffix ((List.suffix_cons k before').trans suf)⟩

end Frames

end QuickFix
