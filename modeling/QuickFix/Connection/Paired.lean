import QuickFix.Session.Script
import QuickFix.Steps.Kept

/-!
# Logon and logout callbacks pair up

The application is told of a logon on a connection only, and of the logout right when the connection is
given up, where a Logon had come or gone on it. So on every connection on which it was told of a logon it
is told of one logout, at the end (`logon_logout_paired`).
-/

namespace QuickFix

set_option linter.unusedSectionVars false

open Session Relation

section Calls

variable {σ : Type}

/-- Whether the latest connection was given up, or there was none. -/
def parted : List (Call σ) → Bool
  | [] => true
  | c :: cs =>
    match c.event with
    | .log .disconnecting => true
    | .attach => false
    | _ => parted cs

/-- Whether the application was told of a logon on the latest connection, and of no logout since. -/
def loggedIn : List (Call σ) → Bool
  | [] => false
  | c :: cs =>
    match c.event with
    | .onLogon => true
    | .onLogout | .attach => false
    | _ => loggedIn cs

/-- Whether an event bounds a connection, or tells the application of a logon or a logout. -/
def Event.pairs : Event → Bool
  | .log .disconnecting | .attach | .onLogon | .onLogout => true
  | _ => false

/-- A reset on disconnect, right behind the note of it. -/
def ResetsAfter (c : Call σ) (cs : List (Call σ)) : Prop :=
  ∃ cut rest res, cs = cut :: rest ∧ cut.event = .log .disconnecting ∧ c.event = .reset .disconnect res

/-- The application is told of a logon on a connection, and of a logout when the connection is given
up. -/
structure Pairing (c : Call σ) (cs : List (Call σ)) : Prop where
  logon : c.event = .onLogon → parted cs = false
  logout : c.event = .onLogout → ∃ resets cut rest, cs = resets ++ cut :: rest ∧
    (∀ d ∈ resets, ∃ res, d.event = .reset .disconnect res) ∧ resets.length ≤ 1 ∧
    cut.event = .log .disconnecting ∧ parted rest = false
  attach : c.event = .attach → parted cs = true ∧ loggedIn cs = false
  due : loggedIn cs = true → parted cs = true → c.event = .onLogout ∨ ResetsAfter c cs

/-- Calls that pair nothing keep whether the connection was parted with. -/
lemma parted_append {recent cs : List (Call σ)} (quiet : ∀ c ∈ recent, c.event.pairs = false) :
    parted (recent ++ cs) = parted cs := by
  induction recent with
  | nil => rfl
  | cons c recent ih =>
    obtain ⟨here, later⟩ := List.forall_mem_cons.mp quiet
    rw [List.cons_append, parted]
    split
    case h_1 ev | h_2 ev => simp [ev, Event.pairs] at here
    case h_3 => exact ih later

/-- Calls that pair nothing keep whether the application was told of a logon. -/
lemma loggedIn_append {recent cs : List (Call σ)} (quiet : ∀ c ∈ recent, c.event.pairs = false) :
    loggedIn (recent ++ cs) = loggedIn cs := by
  induction recent with
  | nil => rfl
  | cons c recent ih =>
    obtain ⟨here, later⟩ := List.forall_mem_cons.mp quiet
    rw [List.cons_append, loggedIn]
    split
    case h_1 ev | h_2 ev | h_3 ev => simp [ev, Event.pairs] at here
    case h_4 => exact ih later

/-- Other calls are made when no logout is due. -/
lemma Pairing.of_quiet {c : Call σ} {cs} (quiet : c.event.pairs = false)
    (none : loggedIn cs = true → parted cs = false) : Pairing c cs where
  logon := fun ev => by simp [ev, Event.pairs] at quiet
  logout := fun ev => by simp [ev, Event.pairs] at quiet
  attach := fun ev => by simp [ev, Event.pairs] at quiet
  due := fun on left => by simp [none on] at left

/-- Calls that pair nothing keep the pairing. -/
lemma pairing_quiet {recent cs : List (Call σ)} (quiet : ∀ c ∈ recent, c.event.pairs = false)
    (none : loggedIn cs = true → parted cs = false) (h : Along Pairing cs) :
    Along Pairing (recent ++ cs) := by
  induction recent with
  | nil => exact h
  | cons c recent ih =>
    obtain ⟨here, later⟩ := List.forall_mem_cons.mp quiet
    have none' : loggedIn (recent ++ cs) = true → parted (recent ++ cs) = false := by
      rw [loggedIn_append later, parted_append later]
      exact none
    exact ⟨.of_quiet here none', ih later⟩

end Calls

section Runs

variable {σ ω : Type} [Chrono] [MessageStore σ] [Application ω] [Runtime ω]

/-- Whether a Logon came or went on the connection. -/
def Session.loggedOnce (x : Session σ) : Bool := x.receivedLogon || x.sentLogon

/-- A session has both halves of a connection or none, and without one neither a Logon nor a logout
that is due. -/
structure Coupled (s : Sys σ ω) : Prop where
  both : s.session.inbound = s.session.outbound
  off : s.session.outbound = false → s.session.loggedOnce = false
  parted : parted s.trace = !s.session.outbound
  on : loggedIn s.trace = true → s.session.loggedOnce = true
  along : Along Pairing s.trace

/-- A session that is connected can write. -/
lemma Coupled.outbound {s : Sys σ ω} (h : Coupled s) (connected : s.Connected) :
    s.session.outbound = true := by
  rcases connected with on | on
  · exact on
  · exact h.both ▸ on

/-- On a connection that was given up no logout is due. -/
lemma Coupled.none {s : Sys σ ω} (h : Coupled s) (on : loggedIn s.trace = true) :
    QuickFix.parted s.trace = false := by
  rw [h.parted]
  cases out : s.session.outbound with
  | true => rfl
  | false =>
    have flag := h.on on
    rw [h.off out] at flag
    cases flag

/-- Other calls keep the pairs, and a Logon comes or goes on a connection only. -/
lemma Coupled.keep {s t : Sys σ ω} {r} (h : Coupled s) (tr : t.trace = r ++ s.trace)
    (quiet : ∀ c ∈ r, c.event.pairs = false) (inbound : t.session.inbound = s.session.inbound)
    (outbound : t.session.outbound = s.session.outbound)
    (flag : t.session.loggedOnce = s.session.loggedOnce ∨
      t.session.loggedOnce = true ∧ s.session.outbound = true) : Coupled t where
  both := by rw [inbound, outbound, h.both]
  off := fun out => by
    rw [outbound] at out
    rcases flag with same | ⟨-, on⟩
    · exact same.trans (h.off out)
    · rw [out] at on
      cases on
  parted := by rw [tr, parted_append quiet, h.parted, outbound]
  on := fun on => by
    rw [tr, loggedIn_append quiet] at on
    rcases flag with same | ⟨set, -⟩
    · exact same.trans (h.on on)
    · exact set
  along := by
    rw [tr]
    exact pairing_quiet quiet h.none h.along

/-- A connection that is given up. -/
lemma Coupled.givenUp {s t : Sys σ ω} (h : Coupled s) (connected : s.Connected) (left : GivenUp s t) :
    Coupled t := by
  have out := h.outbound connected
  have start : QuickFix.parted s.trace = false := by rw [h.parted, out]; rfl
  have noted : Pairing ⟨s.session, .log .disconnecting⟩ s.trace :=
    ⟨nofun, nofun, nofun, fun _ gone => by simp [start] at gone⟩
  have cut : ∀ {u}, Cut s u → ∃ resets, u.trace = resets ++ ⟨s.session, .log .disconnecting⟩ :: s.trace ∧
      (∀ d ∈ resets, ∃ res, d.event = .reset .disconnect res) ∧ resets.length ≤ 1 ∧
      Along Pairing u.trace ∧ u.session.outbound = false ∧ u.session.inbound = false ∧
      u.session.loggedOnce = false := by
    intro u cut
    cases cut with
    | kept => exact ⟨[], rfl, by simp, by simp, ⟨noted, h.along⟩, rfl, rfl, rfl⟩
    | reset w now flag =>
      refine ⟨[_], rfl, by simp, le_refl 1, ⟨⟨nofun, nofun, nofun, fun _ _ => ?_⟩, noted, h.along⟩, rfl, rfl,
        rfl⟩
      exact .inr ⟨_, _, _, rfl, rfl, rfl⟩
  have gone {resets : List (Call σ)} (only : ∀ d ∈ resets, ∃ res, d.event = .reset .disconnect res) :
      (∀ d ∈ resets, d.event.pairs = false) := by
    intro d mem
    obtain ⟨res, ev⟩ := only d mem
    rw [ev]
    rfl
  cases left with
  | silent off left =>
    obtain ⟨resets, tr, only, -, along, out, inb, flag⟩ := cut left
    refine ⟨by rw [out, inb], fun _ => flag, ?_, fun on => ?_, along⟩
    · rw [tr, parted_append (gone only), out]
      rfl
    · rw [tr, loggedIn_append (gone only)] at on
      have on : loggedIn s.trace = true := on
      have flag := h.on on
      rw [Session.loggedOnce, off] at flag
      cases flag
  | @told u on left =>
    obtain ⟨resets, tr, only, few, along, out, inb, flag⟩ := cut left
    refine ⟨?_, fun _ => flag, ?_, nofun, ⟨nofun, fun _ => ?_, nofun, fun _ _ => .inl rfl⟩, along⟩
    · show u.session.inbound = u.session.outbound
      rw [out, inb]
    · show QuickFix.parted u.trace = !u.session.outbound
      rw [tr, parted_append (gone only), out]
      rfl
    · exact ⟨resets, _, _, tr, only, few, rfl, start⟩

/-- A Logon that is handled is one of the connection. -/
lemma Keeping.connected {start : σ} {s : Sys σ ω} (h : Keeping start s) (same : Undisturbed s) :
    s.Connected := by
  obtain ⟨c, mem, ⟨origin, msg, ev, type⟩, inbound, outbound⟩ := same
  rw [Sys.Connected, inbound, outbound]
  cases origin with
  | wire => exact (h.taken c mem).connected ev
  | stash => exact absurd type ((h.taken c mem).replayed ev).2.1

/-- Announcing a Logon pairs nothing. -/
lemma Announced.pairs {x : Session σ} {trace : List (Call σ)} {line m} (h : Announced x trace line m) :
    (Event.log line).pairs = false := by
  cases h <;> rfl

/-- An act of the outbound half keeps the session coupled to its connection. -/
lemma SendAct.coupled {fresh} {start : σ} {s t : Sys σ ω} (act : SendAct fresh s t)
    (keeping : Keeping start s) (h : Coupled s) : Coupled t := by
  cases act with
  | quiet | adopt => exact h.keep (r := []) rfl (by simp) rfl rfl (.inl rfl)
  | logon sentReset connected =>
    have on := connected.elim id fun same => h.outbound (keeping.connected same)
    exact h.keep (r := []) rfl (by simp) rfl rfl (.inr ⟨Bool.or_true _, on⟩)
  | announce _ _ _ own =>
    refine h.keep (r := [_, _]) rfl ?_ rfl rfl (.inl rfl)
    exact List.forall_mem_cons.mpr ⟨rfl, List.forall_mem_singleton.mpr own.pairs⟩
  | cut failed connected left => exact h.givenUp connected left
  | _ => exact h.keep (r := [_]) rfl (by simp [Event.pairs]) rfl rfl (.inl rfl)

/-- So does an act of a handler. -/
lemma HandleAct.coupled {resets} {start : σ} {s t : Sys σ ω} (act : HandleAct resets s t)
    (keeping : Keeping start s) (h : Coupled s) : Coupled t := by
  cases act with
  | send act => exact act.coupled keeping h
  | receivingReset | endingResets | supersede =>
    exact h.keep (r := []) rfl (by simp) rfl rfl (.inl rfl)
  | logon _ _ _ _ same =>
    have on := h.outbound (keeping.connected same)
    exact h.keep (r := []) rfl (by simp) rfl rfl (.inr ⟨Bool.true_or _, on⟩)
  | deliver => exact h.keep (r := [_, _]) rfl (by simp [Event.pairs]) rfl rfl (.inl rfl)
  | stashAndExpect => exact h.keep (r := [_, _, _]) rfl (by simp [Event.pairs]) rfl rfl (.inl rfl)
  | onLogon loggedOn =>
    have flag : s.session.loggedOnce = true := by
      obtain ⟨received, -⟩ := Bool.and_eq_true_iff.mp loggedOn
      rw [Session.loggedOnce, received, Bool.true_or]
    have on : parted s.trace = false := by
      rw [h.parted]
      cases out : s.session.outbound with
      | true => rfl
      | false =>
        rw [h.off out] at flag
        cases flag
    refine ⟨h.both, h.off, h.parted, fun _ => flag, ⟨fun _ => on, nofun, nofun, fun _ gone => ?_⟩, h.along⟩
    rw [on] at gone
    cases gone
  | _ => exact h.keep (r := [_]) rfl (by simp [Event.pairs]) rfl rfl (.inl rfl)

/-- So does every act. -/
lemma Act.coupled {start : σ} {s t : Sys σ ω} (act : Act s t) (keeping : Keeping start s)
    (h : Coupled s) : Coupled t := by
  cases act with
  | handle act => exact act.coupled keeping h
  | send act => exact act.coupled keeping h
  | attach sent received idle =>
    have gone : parted s.trace = true := by rw [h.parted, idle]; rfl
    have none : loggedIn s.trace = false := by
      by_contra on
      have on := h.none (Bool.eq_true_of_not_eq_false on)
      rw [on] at gone
      cases gone
    refine ⟨rfl, nofun, rfl, nofun, ⟨nofun, nofun, fun _ => ⟨gone, none⟩, fun on => ?_⟩, h.along⟩
    rw [none] at on
    cases on
  | ask => exact h.keep (r := []) rfl (by simp) rfl rfl (.inl rfl)
  | cut connected left => exact h.givenUp connected left
  | endLogout now connected left =>
    have ended : Coupled (s.stored (.reset .logout (MessageStore.reset now s.session.store).1)
        (MessageStore.reset now s.session.store).2) :=
      h.keep (r := [_]) rfl (by simp [Event.pairs]) rfl rfl (.inl rfl)
    exact ended.givenUp connected left
  | _ => exact h.keep (r := [_]) rfl (by simp [Event.pairs]) rfl rfl (.inl rfl)

/-! ## Histories -/

/-- Whether an event ends a connection, tells of that, or begins the next one. -/
def Event.parts : Event → Bool
  | .log .disconnecting | .onLogout | .attach => true
  | _ => false

/-- The last thing the application hears of a connection on which it was told of a logon: nothing yet, or
the logout right when the connection is given up; before the next connection it is told of no logon and
of no further logout. -/
def LoggedOut (later : List (Call σ)) : Prop :=
  (∀ d ∈ later, d.event.parts = false) ∨
    ∃ after out resets cut between, later = after ++ out :: (resets ++ cut :: between) ∧
      out.event = .onLogout ∧ (∀ d ∈ resets, ∃ res, d.event = .reset .disconnect res) ∧
      cut.event = .log .disconnecting ∧ (∀ d ∈ between, d.event.parts = false) ∧
      ∀ newer d older, after = newer ++ d :: older → d.event = .onLogon ∨ d.event = .onLogout →
        ∃ a ∈ older, a.event = .attach

/-- The call after a list of resets and the note before them. -/
lemma ResetsAfter.first {d : Call σ} {resets cs : List (Call σ)} {cut} (h : ResetsAfter d (resets ++ cut :: cs))
    (only : ∀ d ∈ resets, ∃ res, d.event = .reset .disconnect res) : resets = [] := by
  cases resets with
  | nil => rfl
  | cons r resets =>
    obtain ⟨note, rest, -, eq, noted, -⟩ := h
    obtain ⟨res, ev⟩ := only r (List.mem_cons_self)
    rw [List.cons_append, List.cons.injEq] at eq
    rw [eq.1, noted] at ev
    cases ev

/-- What was parted with stays so until the next connection. -/
lemma parted_stays {recent cs : List (Call σ)} (none : ∀ c ∈ recent, c.event ≠ .attach)
    (gone : parted cs = true) : parted (recent ++ cs) = true := by
  induction recent with
  | nil => exact gone
  | cons c recent ih =>
    obtain ⟨here, later⟩ := List.forall_mem_cons.mp none
    rw [List.cons_append, parted]
    split
    case h_1 => rfl
    case h_2 ev => exact absurd ev here
    case h_3 => exact ih later

/-- After a logout the application is told of no logon and of no further logout before the next
connection. -/
lemma no_more {after cs : List (Call σ)} {out : Call σ} (along : Along Pairing (after ++ out :: cs))
    (told : out.event = .onLogout) {newer older : List (Call σ)} {d : Call σ}
    (split : after = newer ++ d :: older) (again : d.event = .onLogon ∨ d.event = .onLogout) :
    ∃ a ∈ older, a.event = .attach := by
  by_contra none
  have none : ∀ a ∈ older, a.event ≠ .attach := fun a mem ev => none ⟨a, mem, ev⟩
  rw [split, List.append_assoc] at along
  have along : Along Pairing (d :: (older ++ out :: cs)) := along.of_suffix (List.suffix_append _ _)
  have before : Along Pairing (out :: cs) := along.2.of_suffix (List.suffix_append _ _)
  have gone : parted (out :: cs) = true := by
    obtain ⟨resets, cut, rest, eq, only, -, noted, -⟩ := before.1.logout told
    rw [parted, told, eq]
    apply parted_stays
    · intro r mem
      obtain ⟨res, ev⟩ := only r mem
      rw [ev]
      nofun
    · rw [parted, noted]
  rcases again with ev | ev
  · have up := along.1.logon ev
    rw [parted_stays none gone] at up
    cases up
  · obtain ⟨resets, cut, rest, eq, only, -, noted, up⟩ := along.1.logout ev
    rcases List.append_eq_append_iff.mp eq with ⟨x, resets_eq, eq⟩ | ⟨x, older_eq, eq⟩
    · cases x with
      | nil =>
        rw [List.nil_append, List.cons.injEq] at eq
        rw [eq.1, noted] at told
        cases told
      | cons y x =>
        rw [List.cons_append, List.cons.injEq] at eq
        obtain ⟨res, ev⟩ := only y (by simp [resets_eq])
        rw [← eq.1, told] at ev
        cases ev
    · cases x with
      | nil =>
        rw [List.nil_append, List.cons.injEq] at eq
        rw [← eq.1, noted] at told
        cases told
      | cons y x =>
        rw [List.cons_append, List.cons.injEq] at eq
        have still : parted rest = true := by
          rw [eq.2]
          exact parted_stays (fun a mem => none a (by simp [older_eq, mem])) gone
        rw [up] at still
        cases still

/-- How a connection goes on from a logon: it is up, it has just been given up, or the application was
told of the logout. -/
inductive Stage (base : List (Call σ)) : List (Call σ) → Prop
  | up {later} (calm : ∀ d ∈ later, d.event.parts = false) (on : loggedIn (later ++ base) = true)
      (linked : parted (later ++ base) = false) : Stage base later
  | left {resets cut between} (only : ∀ d ∈ resets, ∃ res, d.event = .reset .disconnect res)
      (noted : cut.event = .log .disconnecting) (calm : ∀ d ∈ between, d.event.parts = false)
      (on : loggedIn (resets ++ cut :: between ++ base) = true)
      (gone : parted (resets ++ cut :: between ++ base) = true) : Stage base (resets ++ cut :: between)
  | told {after out resets cut between} (told : out.event = .onLogout)
      (only : ∀ d ∈ resets, ∃ res, d.event = .reset .disconnect res)
      (noted : cut.event = .log .disconnecting) (calm : ∀ d ∈ between, d.event.parts = false) :
      Stage base (after ++ out :: (resets ++ cut :: between))

/-- A logon stays so at a call that does not part. -/
lemma loggedIn_cons {d : Call σ} {cs} (calm : d.event.parts = false) (on : loggedIn cs = true) :
    loggedIn (d :: cs) = true := by
  rw [loggedIn]
  split
  case h_1 => rfl
  case h_2 ev | h_3 ev => simp [ev, Event.parts] at calm
  case h_4 => exact on

/-- A call that does not part keeps whether the connection was parted with. -/
lemma parted_cons {d : Call σ} {cs} (calm : d.event.parts = false) :
    parted (d :: cs) = parted cs := by
  rw [parted]
  split
  case h_1 ev | h_2 ev => simp [ev, Event.parts] at calm
  case h_3 => rfl

/-- A connection goes on from a logon call by call. -/
lemma stage {base : List (Call σ)} (on : loggedIn base = true) (linked : parted base = false)
    {later : List (Call σ)} (along : Along Pairing (later ++ base)) : Stage base later := by
  induction later with
  | nil => exact .up (by simp) on linked
  | cons d later ih =>
    have along : Along Pairing (d :: (later ++ base)) := along
    obtain ⟨here, before⟩ := along
    cases ih before with
    | up calm on linked =>
      cases parts : d.event.parts with
      | false =>
        apply Stage.up (List.forall_mem_cons.mpr ⟨parts, calm⟩)
        · exact loggedIn_cons parts on
        · exact (parted_cons parts).trans linked
      | true =>
        have ev : d.event = .log .disconnecting := by
          by_contra other
          have ev : d.event = .onLogout ∨ d.event = .attach := by
            cases ev : d.event <;> simp_all [Event.parts]
          rcases ev with ev | ev
          · obtain ⟨resets, cut, rest, eq, only, -, noted, -⟩ := here.logout ev
            have gone : parted (later ++ base) = true := by
              rw [eq]
              apply parted_stays
              · intro r mem
                obtain ⟨res, ev⟩ := only r mem
                rw [ev]
                nofun
              · rw [parted, noted]
            rw [linked] at gone
            cases gone
          · rw [(here.attach ev).1] at linked
            cases linked
        refine @Stage.left _ _ [] _ _ (by simp) ev calm ?_ ?_
        · simp only [List.nil_append, List.cons_append, loggedIn, ev, on]
        · simp only [List.nil_append, List.cons_append, parted, ev]
    | @left resets cut between only noted calm on gone =>
      rcases here.due on gone with told | reset
      · exact @Stage.told _ _ [] _ _ _ _ told only noted calm
      · rw [List.append_assoc] at reset
        have none : resets = [] := reset.first only
        subst none
        obtain ⟨-, -, res, -, -, ev⟩ := reset
        refine @Stage.left _ _ [d] _ _ (by simp [ev]) noted calm ?_ ?_
        · exact loggedIn_cons (by rw [ev]; rfl) on
        · exact (parted_cons (by rw [ev]; rfl)).trans gone
    | @told after out resets cut between told only noted calm =>
      exact @Stage.told _ _ (d :: after) _ _ _ _ told only noted calm

variable {cfg : SessionConfig} {dictionary adminDictionary : Option DataDictionary} {store : σ}
variable {now : Nat} {world : ω} {inputs : List Input}

/-- In every run the session is coupled to its connection. -/
lemma coupled_ran : Coupled (Sys.ran cfg dictionary adminDictionary store now world inputs) := by
  have both : Keeping store (Sys.ran cfg dictionary adminDictionary store now world inputs) ∧
      Coupled (Sys.ran cfg dictionary adminDictionary store now world inputs) := by
    apply ran_keeps (I := fun s => Keeping store s ∧ Coupled s)
    · exact fun act h => ⟨act.keeping h.1, act.coupled h.1 h.2⟩
    · refine ⟨⟨rfl, fun entry => by simp [Sys.init, Session.spawn] at entry, by simp [Sys.init]⟩, ?_⟩
      exact ⟨rfl, fun _ => rfl, rfl, (fun on => by cases on), trivial⟩
  exact both.2

/-- In every run, on every connection on which the application was told of a logon it is told of one
logout, when that connection is given up; and after a logout it is told of no logon before the next
connection. -/
theorem logon_logout_paired {later earlier : List (Call σ)} {c : Call σ}
    (split : (Sys.ran cfg dictionary adminDictionary store now world inputs).trace = later ++ c :: earlier) :
    (c.event = .onLogon → LoggedOut later) ∧
      (c.event = .onLogout → ∀ newer d older, later = newer ++ d :: older →
        d.event = .onLogon ∨ d.event = .onLogout → ∃ a ∈ older, a.event = .attach) := by
  have coupled : Coupled (Sys.ran cfg dictionary adminDictionary store now world inputs) := coupled_ran
  have along := coupled.along
  have none := coupled.none
  rw [split] at along none
  constructor
  · intro ev
    have here : Along Pairing (c :: earlier) := along.of_suffix (List.suffix_append _ _)
    have on : loggedIn (c :: earlier) = true := by rw [loggedIn, ev]
    have linked : parted (c :: earlier) = false := by
      rw [parted, ev]
      exact here.1.logon ev
    cases stage on linked along with
    | up calm => exact .inl calm
    | left only noted calm on gone =>
      rw [none on] at gone
      cases gone
    | @told after out resets cut between told only noted calm =>
      refine .inr ⟨after, out, resets, cut, between, rfl, told, only, noted, calm, ?_⟩
      intro newer d older split again
      rw [List.append_assoc] at along
      exact no_more along told split again
  · intro ev newer d older split again
    exact no_more along ev split again

end Runs

/-- A counterparty logs on and hangs up. -/
def Script.shortVisit : List Input :=
  [.attach, .inbound (fromPeer MsgType.logon 1).toBytes, .closed]

/-- A single call that logs in tells the application so. -/
lemma onLogon_of_loggedIn {σ : Type} {c : Call σ} (h : loggedIn [c] = true) : c.event = .onLogon := by
  cases ev : c.event <;> simp_all [loggedIn]

/-- The application is told of its logon, and of the logout when it is over. -/
theorem logon_logout_paired_shortVisit :
    ∃ later c earlier, (Script.play Script.acceptor {} Script.shortVisit).trace = later ++ c :: earlier ∧
      c.event = .onLogon ∧ (∃ d ∈ later, d.event.parts = true) ∧ LoggedOut later := by
  let := epochDay
  let s := Script.play Script.acceptor {} Script.shortVisit
  obtain ⟨d, ends, parts⟩ : ∃ d ∈ s.trace.take 3, d.event.parts = true := by decide +kernel
  obtain ⟨c, mem, on⟩ : ∃ c ∈ s.trace.drop 3, loggedIn [c] = true := by decide +kernel
  have on := onLogon_of_loggedIn on
  obtain ⟨later, earlier, eq⟩ := List.append_of_mem mem
  have split : s.trace = (s.trace.take 3 ++ later) ++ c :: earlier := by
    rw [List.append_assoc, ← eq, List.take_append_drop]
  exact ⟨_, c, earlier, split, on, ⟨d, List.mem_append_left _ ends, parts⟩, (logon_logout_paired split).1 on⟩

example : (Script.play Script.acceptor {} Script.shortVisit).trace.countP (·.event.parts) = 3 := by
  decide +kernel

end QuickFix
