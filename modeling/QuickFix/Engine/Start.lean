import QuickFix.Engine.Attachment
import QuickFix.Settings.Typed

/-!
# Starting an engine

Model of `Engine::start` of `src/engine.rs`: from the configurations of the sessions it makes their registry
and the listeners. Dictionaries are loaded once for all sessions; where no path reads like that of a merged
dictionary, this makes no difference, and what is started is what each configuration says by itself
(`start_iff`).
-/

namespace QuickFix

open Ranged (bind_eq_ok)

/-- Combines a transport dictionary with an application dictionary; what the first one has prevails. -/
def DataDictionary.mergedWithApp (dd app : DataDictionary) : DataDictionary :=
  { dd with
    fieldsByTag := dd.fieldsByTag ++ app.fieldsByTag.filter fun e => (dd.fieldsByTag.lookup e.1).isNone
    messages := dd.messages ++ app.messages.filter fun e => (dd.messages.lookup e.1).isNone }

/-- What keeps an engine from being started. -/
inductive StartError (ε : Type) where
  | noSessions
  | duplicate (id : SessionId)
  | outside (e : ε)

/-- What an engine finds outside: files, factories, and what listening and TLS come to. -/
structure Outside (σ ω ε : Type) where
  load : Bytes → Except ε DataDictionary
  createStore : SessionId → Except ε σ
  createLog : SessionId → Except ε Unit
  clientTls : TlsSettings → Bytes → Except ε Unit
  serverTls : TlsSettings → Except ε Unit
  bind : Nat → Except ε Unit
  now : SessionId → Nat
  world : SessionId → ω

/-- The dictionaries a session is to have. -/
inductive Dictionaries where
  | none
  | single (path : Bytes)
  | fixt (transport app : Bytes)
  deriving DecidableEq

/-- The dictionaries that a configuration asks for. -/
def EngineConfig.dictionaries (cfg : EngineConfig) : Dictionaries :=
  if !cfg.useDataDictionary then .none
  else
    match cfg.transportDataDictionary, cfg.appDataDictionary with
    | some transport, some app => .fixt transport app
    | _, _ =>
      match cfg.dataDictionary with
      | some path => .single path
      | none => .none

/-- What a merged dictionary is kept under. -/
def mergedKey (transport app : Bytes) : Bytes := transport ++ ascii "+" ++ app

/-- The dictionaries that were loaded. -/
abbrev Cache := Bytes → Option DataDictionary

/-- The sessions that share a port, and how their connections are secured. -/
structure Listener where
  tls : TlsSettings
  keys : List SessionKey

/-- What was started so far. -/
structure Starting (σ ω : Type) where
  handles : Registry σ ω := fun _ => none
  /-- The ports there is a listener for, in the order in which they came up. -/
  ports : List Nat := []
  listeners : Nat → Option Listener := fun _ => none
  cache : Cache := fun _ => none

section Start

variable {σ ω ε : Type} (o : Outside σ ω ε)

/-- The dictionary of a session's messages and that of its admin messages. -/
def findDictionaries (cache : Cache) :
    Dictionaries → Except ε ((Option DataDictionary × Option DataDictionary) × Cache)
  | .none => .ok ((none, none), cache)
  | .fixt transport app =>
    match cache (mergedKey transport app), cache transport with
    | some m, some t => .ok ((some m, some t), cache)
    | _, _ => do
      let t ← o.load transport
      let a ← o.load app
      let m := t.mergedWithApp a
      let cache := Function.update cache (mergedKey transport app) (some m)
      return ((some m, some t), Function.update cache transport (some t))
  | .single path =>
    match cache path with
    | some dd => .ok ((some dd, some dd), cache)
    | none => do
      let dd ← o.load path
      return ((some dd, some dd), Function.update cache path (some dd))

/-- The entry of a session in the registry. -/
def entryWith (cfg : EngineConfig) (dictionaries : Option DataDictionary × Option DataDictionary) (store : σ) :
    Entry σ ω where
  party := {
    cfg := cfg.toSessionConfig
    dictionary := dictionaries.1
    adminDictionary := dictionaries.2
    store := store
    now := o.now cfg.sessionId
    world := o.world cfg.sessionId }
  port := cfg.socketAcceptPort

/-- Sessions sharing an acceptor port share one TLS config, that of the first one. -/
def Starting.listen (s : Starting σ ω) (port : Nat) (tls : TlsSettings) (key : SessionKey) : Starting σ ω :=
  match s.listeners port with
  | none =>
    { s with
      ports := s.ports ++ [port]
      listeners := Function.update s.listeners port (some { tls := tls, keys := [key] }) }
  | some l =>
    { s with listeners := Function.update s.listeners port (some { l with keys := l.keys ++ [key] }) }

/-- The session that a configuration is about. -/
def EngineConfig.key (cfg : EngineConfig) : SessionKey := keyOf cfg.sessionId

/-- Opens what a session is started with. -/
def openSession (cfg : EngineConfig) (dictionaries : Option DataDictionary × Option DataDictionary) :
    Except ε (Entry σ ω) := do
  let store ← o.createStore cfg.sessionId
  o.createLog cfg.sessionId
  -- the session is spawned before this, but where it fails there is no engine
  match cfg.connectionType with
  | .initiator => o.clientTls cfg.tls cfg.socketConnectHost
  | .acceptor => .ok ()
  return entryWith o cfg dictionaries store

/-- A session has been started. -/
def Starting.add (s : Starting σ ω) (cfg : EngineConfig) (e : Entry σ ω) (cache : Cache) : Starting σ ω :=
  let s := { s with cache := cache, handles := Function.update s.handles cfg.key (some e) }
  match cfg.connectionType with
  | .initiator => s
  | .acceptor => s.listen cfg.socketAcceptPort cfg.tls cfg.key

/-- Starts a session. -/
def startSession (s : Starting σ ω) (cfg : EngineConfig) : Except (StartError ε) (Starting σ ω) := do
  let (dictionaries, cache) ← (findDictionaries o s.cache cfg.dictionaries).mapError .outside
  if (s.handles cfg.key).isSome then .error (.duplicate cfg.sessionId)
  else do
    let e ← (openSession o cfg dictionaries).mapError .outside
    return s.add cfg e cache

/-- Starts to listen on a port. -/
def startListener (s : Starting σ ω) (port : Nat) : Except ε Unit :=
  match s.listeners port with
  | none => .ok ()
  | some l => do
    o.serverTls l.tls
    o.bind port

/-- `Engine::start`: the sessions of the configurations, one after the other, then the listeners. -/
def start (cfgs : List EngineConfig) : Except (StartError ε) (Starting σ ω) :=
  if cfgs = [] then .error .noSessions
  else do
    let s ← cfgs.foldlM (startSession o) {}
    s.ports.forM fun port => (startListener o s port).mapError .outside
    return s

end Start

/-! ## The cache -/

namespace Dictionaries

/-- A dictionary is loaded from this path. -/
def Loads : Dictionaries → Bytes → Prop
  | .none, _ => False
  | .single path, p => p = path
  | .fixt transport _, p => p = transport

/-- What these dictionaries are kept under. -/
def Uses (d : Dictionaries) (key : Bytes) : Prop :=
  d.Loads key ∨ ∃ transport app, d = .fixt transport app ∧ key = mergedKey transport app

/-- What is kept under a key is what these dictionaries want there. -/
inductive Keeps {σ ω ε : Type} (o : Outside σ ω ε) (d : Dictionaries) : Bytes → DataDictionary → Prop
  | own {path dd} (loads : d.Loads path) (loaded : o.load path = .ok dd) : Keeps o d path dd
  | merged {transport app t a} (is : d = .fixt transport app) (first : o.load transport = .ok t)
      (second : o.load app = .ok a) : Keeps o d (mergedKey transport app) (t.mergedWithApp a)

end Dictionaries

/-- No path reads like that of a merged dictionary, and no two of these read the same. -/
structure Apart (ds : List Dictionaries) : Prop where
  own : ∀ transport app, .fixt transport app ∈ ds → ∀ d ∈ ds, ¬ d.Loads (mergedKey transport app)
  merged : ∀ transport app transport' app', .fixt transport app ∈ ds → .fixt transport' app' ∈ ds →
    mergedKey transport app = mergedKey transport' app' → transport = transport' ∧ app = app'

section Cache

variable {σ ω ε : Type} {o : Outside σ ω ε} {ds : List Dictionaries} {cache : Cache}

/-- What one configuration keeps under a key, every other that uses the key keeps too. -/
lemma Apart.keeps (apart : Apart ds) {d d' : Dictionaries} {key dd} (mem : d ∈ ds) (mem' : d' ∈ ds)
    (keeps : d.Keeps o key dd) (uses : d'.Uses key) : d'.Keeps o key dd := by
  cases keeps with
  | own loads loaded =>
    rcases uses with loads' | ⟨transport, app, rfl, rfl⟩
    · exact .own loads' loaded
    · exact absurd loads (apart.own transport app mem' d mem)
  | @merged transport app t a is first second =>
    subst is
    rcases uses with loads' | ⟨transport', app', rfl, same⟩
    · exact absurd loads' (apart.own transport app mem d' mem')
    · obtain ⟨rfl, rfl⟩ := apart.merged _ _ _ _ mem mem' same
      exact .merged rfl first second

/-- What the cache has is what the dictionaries want. -/
def Right (o : Outside σ ω ε) (ds : List Dictionaries) (cache : Cache) : Prop :=
  ∀ d ∈ ds, ∀ key dd, d.Uses key → cache key = some dd → d.Keeps o key dd

/-- Keeping what a configuration keeps is right. -/
lemma Right.update (apart : Apart ds) (right : Right o ds cache) {d : Dictionaries} {key dd} (mem : d ∈ ds)
    (keeps : d.Keeps o key dd) : Right o ds (Function.update cache key (some dd)) := by
  intro d' mem' key' dd' uses is
  rw [Function.update_apply] at is
  split at is
  case isTrue same =>
    subst same
    cases is
    exact apart.keeps mem mem' keeps uses
  case isFalse => exact right d' mem' key' dd' uses is

/-- The dictionaries of a session, without the cache. -/
def loadDictionaries (o : Outside σ ω ε) :
    Dictionaries → Except ε (Option DataDictionary × Option DataDictionary)
  | .none => .ok (none, none)
  | .fixt transport app => do
    let t ← o.load transport
    let a ← o.load app
    return (some (t.mergedWithApp a), some t)
  | .single path => do
    let dd ← o.load path
    return (some dd, some dd)

/-- What a path is loaded as. -/
lemma Dictionaries.Keeps.loaded {d : Dictionaries} {path dd} (keeps : d.Keeps o path dd) (apart : Apart ds)
    (mem : d ∈ ds) (loads : d.Loads path) : o.load path = .ok dd := by
  cases keeps with
  | own _ loaded => exact loaded
  | merged is => exact absurd loads (apart.own _ _ (is ▸ mem) d mem)

/-- The cache makes no difference. -/
lemma findDictionaries_eq (apart : Apart ds) (right : Right o ds cache) {d : Dictionaries} (mem : d ∈ ds) :
    (findDictionaries o cache d).map Prod.fst = loadDictionaries o d ∧
      ∀ found cache', findDictionaries o cache d = .ok (found, cache') → Right o ds cache' := by
  cases d with
  | none =>
    refine ⟨rfl, ?_⟩
    rintro found cache' ⟨⟩
    exact right
  | single path =>
    simp only [findDictionaries, loadDictionaries]
    cases known : cache path with
    | some dd =>
      have loaded := (right _ mem path dd (.inl rfl) known).loaded apart mem rfl
      refine ⟨by rw [loaded]; rfl, ?_⟩
      rintro found cache' ⟨⟩
      exact right
    | none =>
      cases loaded : o.load path with
      | error => exact ⟨rfl, nofun⟩
      | ok dd =>
        refine ⟨rfl, ?_⟩
        rintro found cache' ⟨⟩
        exact right.update apart mem (.own rfl loaded)
  | fixt transport app =>
    simp only [findDictionaries, loadDictionaries]
    split
    case h_1 m t merged own =>
      have first := (right _ mem transport t (.inl rfl) own).loaded apart mem rfl
      have both : ∃ a, o.load app = .ok a ∧ m = t.mergedWithApp a := by
        have keeps := right _ mem _ m (.inr ⟨transport, app, rfl, rfl⟩) merged
        generalize key : mergedKey transport app = k at keeps
        cases keeps with
        | own loads => exact absurd (key ▸ loads) (apart.own transport app mem _ mem)
        | merged is first' second =>
          cases is
          rw [first] at first'
          cases first'
          exact ⟨_, second, rfl⟩
      obtain ⟨a, second, rfl⟩ := both
      refine ⟨by rw [first, second]; rfl, ?_⟩
      rintro found cache' ⟨⟩
      exact right
    case h_2 =>
      cases first : o.load transport with
      | error => exact ⟨rfl, nofun⟩
      | ok t =>
        cases second : o.load app with
        | error => exact ⟨rfl, nofun⟩
        | ok a =>
          refine ⟨rfl, ?_⟩
          rintro found cache' ⟨⟩
          exact (right.update apart mem (.merged rfl first second)).update apart mem (.own rfl first)

end Cache

/-! ## What is started -/

section Started

variable {σ ω ε : Type} {o : Outside σ ω ε} {ds : List Dictionaries}

/-- What a configuration is started as. -/
def entryOf (o : Outside σ ω ε) (cfg : EngineConfig) : Except ε (Entry σ ω) := do
  openSession o cfg (← loadDictionaries o cfg.dictionaries)

/-- The registry of entries. -/
def registryOf (entries : List (Entry σ ω)) : Registry σ ω :=
  fun key => entries.find? fun e => keyOf e.party.cfg.sessionId = key

/-- The acceptors on a port. -/
def acceptorsOn (cfgs : List EngineConfig) (port : Nat) : List EngineConfig :=
  cfgs.filter fun cfg => cfg.connectionType = .acceptor ∧ cfg.socketAcceptPort = port

/-- The listener of a port. -/
def listenerOf (cfgs : List EngineConfig) (port : Nat) : Option Listener :=
  match acceptorsOn cfgs port with
  | [] => none
  | cfg :: more => some { tls := cfg.tls, keys := (cfg :: more).map EngineConfig.key }

/-- What was started for these configurations. -/
structure Begun (o : Outside σ ω ε) (ds : List Dictionaries) (cfgs : List EngineConfig)
    (s : Starting σ ω) : Prop where
  handles : ∃ entries, List.Forall₂ (fun cfg e => entryOf o cfg = .ok e) cfgs entries ∧
    s.handles = registryOf entries
  keys : (cfgs.map EngineConfig.key).Nodup
  listeners : s.listeners = listenerOf cfgs
  ports : ∀ port, port ∈ s.ports ↔ (s.listeners port).isSome
  cache : Right o ds s.cache

variable {cfgs : List EngineConfig} {cfg : EngineConfig} {s s' : Starting σ ω} {e : Entry σ ω}

/-- A session is started as its configuration says, or not at all. -/
lemma startSession_cases (apart : Apart ds) (right : Right o ds s.cache) (mem : cfg.dictionaries ∈ ds) :
    (∃ e cache, entryOf o cfg = .ok e ∧ s.handles cfg.key = none ∧ Right o ds cache ∧
      startSession o s cfg = .ok (s.add cfg e cache)) ∨
    ((∀ e, entryOf o cfg ≠ .ok e) ∨ s.handles cfg.key ≠ none) ∧ ∃ err, startSession o s cfg = .error err := by
  obtain ⟨same, keeps⟩ := findDictionaries_eq apart right mem
  unfold startSession entryOf
  rw [← same]
  cases found : findDictionaries o s.cache cfg.dictionaries with
  | error err =>
    refine .inr ⟨.inl fun e h => ?_, _, rfl⟩
    cases h
  | ok pair =>
    obtain ⟨dictionaries, cache⟩ := pair
    have right := keeps _ _ found
    cases fresh : s.handles cfg.key with
    | some old => exact .inr ⟨.inr (Option.some_ne_none old), _, rfl⟩
    | none =>
      cases opened : openSession o cfg dictionaries with
      | error err =>
        refine .inr ⟨.inl fun e h => ?_, .outside err, ?_⟩
        · cases opened.symm.trans h
        · simp only [Except.mapError, bind, Except.bind, opened, Option.isSome_none]
          rfl
      | ok e =>
        refine .inl ⟨e, cache, opened, rfl, right, ?_⟩
        simp only [Except.mapError, bind, Except.bind, opened, Option.isSome_none]
        rfl

/-- What is opened for a session has its configuration. -/
lemma openSession_ok {dictionaries} (opened : openSession o cfg dictionaries = .ok e) :
    e.party.cfg = cfg.toSessionConfig ∧ e.port = cfg.socketAcceptPort := by
  simp only [openSession, bind_eq_ok] at opened
  obtain ⟨store, -, -, -, started⟩ := opened
  cases type : cfg.connectionType with
  | initiator =>
    rw [type] at started
    obtain ⟨-, -, h⟩ := bind_eq_ok.mp started
    cases h
    exact ⟨rfl, rfl⟩
  | acceptor =>
    rw [type] at started
    cases started
    exact ⟨rfl, rfl⟩

/-- An entry is under the key of its configuration. -/
lemma key_entryOf (started : entryOf o cfg = .ok e) : keyOf e.party.cfg.sessionId = cfg.key := by
  obtain ⟨dictionaries, -, opened⟩ := bind_eq_ok.mp started
  rw [(openSession_ok opened).1]
  rfl

/-- A session is registered when it is configured. -/
lemma registryOf_eq_none {entries : List (Entry σ ω)}
    (all : List.Forall₂ (fun cfg e => entryOf o cfg = .ok e) cfgs entries) {key} :
    registryOf entries key = none ↔ key ∉ cfgs.map EngineConfig.key := by
  induction all with
  | nil => simp [registryOf]
  | @cons cfg e cfgs entries first _ ih =>
    rw [List.map_cons, List.mem_cons, not_or, ← ih, registryOf, List.find?_cons, key_entryOf first]
    by_cases same : key = cfg.key
    · simp [same]
    · simp [same, Ne.symm same, registryOf]

/-- One more session is registered. -/
lemma registryOf_snoc {entries : List (Entry σ ω)} (fresh : registryOf entries (keyOf e.party.cfg.sessionId) = none) :
    registryOf (entries ++ [e]) =
      Function.update (registryOf entries) (keyOf e.party.cfg.sessionId) (some e) := by
  funext key
  rw [registryOf, List.find?_append, Function.update_apply]
  by_cases same : key = keyOf e.party.cfg.sessionId
  · subst same
    rw [if_pos rfl]
    rw [registryOf] at fresh
    simp [fresh]
  · rw [if_neg same]
    simp [registryOf, Ne.symm same]

/-- One more acceptor listens. -/
lemma listenerOf_snoc (cfgs cfg port) : listenerOf (cfgs ++ [cfg]) port =
    if cfg.connectionType = .acceptor ∧ cfg.socketAcceptPort = port then
      match listenerOf cfgs port with
      | none => some { tls := cfg.tls, keys := [cfg.key] }
      | some l => some { l with keys := l.keys ++ [cfg.key] }
    else listenerOf cfgs port := by
  unfold listenerOf acceptorsOn
  rw [List.filter_append]
  by_cases own : cfg.connectionType = .acceptor ∧ cfg.socketAcceptPort = port
  · rw [if_pos own]
    cases cfgs.filter fun cfg => cfg.connectionType = .acceptor ∧ cfg.socketAcceptPort = port with
    | nil => simp [own]
    | cons => simp [own]
  · rw [if_neg own]
    simp [own]

/-- Listening registers nothing. -/
@[simp] lemma handles_listen (s : Starting σ ω) (port tls key) :
    (s.listen port tls key).handles = s.handles := by
  unfold Starting.listen
  cases s.listeners port with
  | none | some => rfl

/-- Listening loads nothing. -/
@[simp] lemma cache_listen (s : Starting σ ω) (port tls key) : (s.listen port tls key).cache = s.cache := by
  unfold Starting.listen
  cases s.listeners port with
  | none | some => rfl

/-- The ports of one more acceptor. -/
lemma mem_ports_listen (s : Starting σ ω) (port tls key port') : port' ∈ (s.listen port tls key).ports ↔
    port' ∈ s.ports ∨ port = port' ∧ s.listeners port = none := by
  unfold Starting.listen
  cases known : s.listeners port with
  | none => simp [eq_comm]
  | some => simp

/-- The listeners of one more acceptor. -/
lemma listeners_listen (s : Starting σ ω) (port tls key port') : (s.listen port tls key).listeners port' =
    if port = port' then
      match s.listeners port' with
      | none => some { tls := tls, keys := [key] }
      | some l => some { l with keys := l.keys ++ [key] }
    else s.listeners port' := by
  unfold Starting.listen
  by_cases same : port = port'
  · subst same
    cases s.listeners port with
    | none => simp
    | some l => simp
  · cases s.listeners port with
    | none => simp [same, Ne.symm same]
    | some l => simp [same, Ne.symm same]

/-- A session that is added is put under the key of its configuration. -/
lemma handles_add {cache} : (s.add cfg e cache).handles = Function.update s.handles cfg.key (some e) := by
  unfold Starting.add
  cases cfg.connectionType with
  | initiator => rfl
  | acceptor => simp

/-- One more session has been started. -/
lemma Begun.add {cache} (h : Begun o ds cfgs s) (started : entryOf o cfg = .ok e)
    (fresh : s.handles cfg.key = none) (right : Right o ds cache) :
    Begun o ds (cfgs ++ [cfg]) (s.add cfg e cache) := by
  obtain ⟨entries, all, handles⟩ := h.handles
  have key := key_entryOf started
  have handles' : (s.add cfg e cache).handles = Function.update s.handles cfg.key (some e) := handles_add
  have cache' : (s.add cfg e cache).cache = cache := by
    unfold Starting.add
    cases cfg.connectionType with
    | initiator => rfl
    | acceptor => simp
  rw [handles] at fresh
  constructor
  case handles =>
    refine ⟨entries ++ [e], List.rel_append all (.cons started .nil), ?_⟩
    rw [handles', handles, registryOf_snoc (key ▸ fresh), key]
  case keys =>
    rw [List.map_append, List.map_singleton, List.nodup_append_comm]
    exact List.nodup_cons.mpr ⟨(registryOf_eq_none all).mp fresh, h.keys⟩
  case listeners =>
    funext port
    rw [listenerOf_snoc, ← h.listeners]
    unfold Starting.add
    cases type : cfg.connectionType with
    | initiator => simp
    | acceptor => simp [listeners_listen]
  case ports =>
    intro port
    unfold Starting.add
    cases type : cfg.connectionType with
    | initiator => exact h.ports port
    | acceptor =>
      simp only [mem_ports_listen, listeners_listen, h.ports port]
      by_cases same : cfg.socketAcceptPort = port
      · subst same
        cases s.listeners cfg.socketAcceptPort with
        | none => simp
        | some => simp
      · simp [same]
  case cache =>
    rw [cache']
    exact right

/-- At the start nothing was begun. -/
lemma begun_start : Begun o ds [] ({} : Starting σ ω) where
  handles := ⟨[], .nil, rfl⟩
  keys := .nil
  listeners := rfl
  ports := by simp
  cache := nofun

/-- Each configuration can be started, and no two have the same key. -/
def Startable (o : Outside σ ω ε) (cfgs : List EngineConfig) : Prop :=
  (cfgs.map EngineConfig.key).Nodup ∧ ∀ cfg ∈ cfgs, ∃ e, entryOf o cfg = .ok e

/-- What starts as a whole starts up to any configuration. -/
lemma Startable.of_append {more} (h : Startable o (cfgs ++ more)) : Startable o cfgs := by
  constructor
  · rw [Startable, List.map_append] at h
    exact h.1.of_append_left
  · exact fun cfg mem => h.2 cfg (List.mem_append_left _ mem)

/-- All sessions are started, or one of them cannot be. -/
lemma begun_all (apart : Apart ds) (begun : Begun o ds cfgs s) (more : List EngineConfig)
    (mem : ∀ cfg ∈ more, cfg.dictionaries ∈ ds) :
    (∃ s', more.foldlM (startSession o) s = .ok s' ∧ Begun o ds (cfgs ++ more) s') ∨
      ¬ Startable o (cfgs ++ more) ∧ ∃ err, more.foldlM (startSession o) s = .error err := by
  induction more generalizing cfgs s with
  | nil =>
    rw [List.append_nil]
    exact .inl ⟨s, rfl, begun⟩
  | cons cfg more ih =>
    have own := mem cfg List.mem_cons_self
    have others : ∀ cfg' ∈ more, cfg'.dictionaries ∈ ds := fun cfg' h => mem cfg' (List.mem_cons_of_mem _ h)
    rw [List.foldlM_cons, ← List.singleton_append, ← List.append_assoc]
    rcases startSession_cases apart begun.cache own with ⟨e, cache, started, fresh, right, goes⟩ | ⟨bad, err, stops⟩
    · rw [goes]
      exact ih (begun.add started fresh right) others
    · right
      rw [stops]
      refine ⟨fun startable => ?_, err, rfl⟩
      have startable : Startable o (cfgs ++ [cfg]) := startable.of_append
      rcases bad with refused | taken
      · obtain ⟨e, started⟩ := startable.2 cfg (by simp)
        exact refused e started
      · obtain ⟨entries, all, handles⟩ := begun.handles
        rw [handles] at taken
        apply taken
        rw [registryOf_eq_none all]
        have nodup := startable.1
        rw [List.map_append, List.map_singleton, List.nodup_append_comm] at nodup
        exact (List.nodup_cons.mp nodup).1

/-- Where every configuration has its session, each has one. -/
lemma startable_of_forall₂ {entries : List (Entry σ ω)}
    (all : List.Forall₂ (fun cfg e => entryOf o cfg = .ok e) cfgs entries) :
    ∀ cfg ∈ cfgs, ∃ e, entryOf o cfg = .ok e := by
  induction all with
  | nil =>
    intro cfg mem
    cases mem
  | cons first _ ih => exact List.forall_mem_cons.mpr ⟨⟨_, first⟩, ih⟩

/-- The sessions are determined by the configurations. -/
lemma entries_unique {es es' : List (Entry σ ω)}
    (all : List.Forall₂ (fun cfg e => entryOf o cfg = .ok e) cfgs es)
    (all' : List.Forall₂ (fun cfg e => entryOf o cfg = .ok e) cfgs es') : es = es' := by
  induction all generalizing es' with
  | nil => cases all'; rfl
  | cons first _ ih =>
    cases all' with
    | cons first' rest =>
      rw [Except.ok.inj (first.symm.trans first'), ih rest]

/-- All listeners come up. -/
lemma forM_ok {α : Type} (f : α → Except ε Unit) (xs : List α) :
    xs.forM (fun x => (f x).mapError StartError.outside) = .ok () ↔ ∀ x ∈ xs, f x = .ok () := by
  induction xs with
  | nil => exact ⟨fun _ x mem => absurd mem List.not_mem_nil, fun _ => rfl⟩
  | cons x xs ih =>
    change ((f x).mapError StartError.outside >>= fun _ => _) = _ ↔ _
    rw [bind_eq_ok, List.forall_mem_cons, ← ih]
    cases f x with
    | error err => simp [Except.mapError]
    | ok => simp [Except.mapError]

/-- A port is listened on when its certificates can be read and it can be bound. -/
lemma startListener_ok (port) : startListener o s port = .ok () ↔
    ∀ l, s.listeners port = some l → o.serverTls l.tls = .ok () ∧ o.bind port = .ok () := by
  unfold startListener
  cases s.listeners port with
  | none => simp
  | some l =>
    simp only [Option.some.injEq, forall_eq', bind_eq_ok]
    constructor
    · rintro ⟨⟨⟩, first, second⟩
      exact ⟨first, second⟩
    · rintro ⟨first, second⟩
      exact ⟨(), first, second⟩

/-- Where no path reads like the key of a merged dictionary, and no two of these keys read the same, an engine is
started if and only if each session can be started as its configuration says by itself, no two have the same
key, and all listeners come up. Its sessions are these, and each port is for the acceptors that are configured
on it. -/
theorem start_iff (apart : Apart (cfgs.map EngineConfig.dictionaries)) (reg : Registry σ ω)
    (ls : Nat → Option Listener) :
    (∃ s, start o cfgs = .ok s ∧ s.handles = reg ∧ s.listeners = ls) ↔
      cfgs ≠ [] ∧ (cfgs.map EngineConfig.key).Nodup ∧
        (∃ entries, List.Forall₂ (fun cfg e => entryOf o cfg = .ok e) cfgs entries ∧ reg = registryOf entries) ∧
        ls = listenerOf cfgs ∧
        ∀ port l, listenerOf cfgs port = some l → o.serverTls l.tls = .ok () ∧ o.bind port = .ok () := by
  by_cases empty : cfgs = []
  · simp [start, empty]
  have listening {s : Starting σ ω} (begun : Begun o (cfgs.map EngineConfig.dictionaries) cfgs s) :
      s.ports.forM (fun port => (startListener o s port).mapError StartError.outside) = .ok () ↔
        ∀ port l, listenerOf cfgs port = some l → o.serverTls l.tls = .ok () ∧ o.bind port = .ok () := by
    simp only [forM_ok, startListener_ok, begun.ports, begun.listeners]
    constructor
    · exact fun up port l is => up port (by rw [is]; rfl) l is
    · exact fun up port _ l is => up port l is
  rcases begun_all apart begun_start cfgs (fun cfg here => List.mem_map_of_mem here) with ⟨s, started, begun⟩ | ⟨bad, err, stopped⟩
  · obtain ⟨entries, all, handles⟩ := begun.handles
    rw [List.nil_append] at begun all
    have started' : start o cfgs =
        (s.ports.forM fun port => (startListener o s port).mapError StartError.outside) >>= fun _ => .ok s := by
      rw [start, if_neg empty, started]
      rfl
    constructor
    · rintro ⟨s', ok, rfl, rfl⟩
      rw [started'] at ok
      obtain ⟨⟨⟩, up, same⟩ := bind_eq_ok.mp ok
      cases same
      exact ⟨empty, begun.keys, ⟨entries, all, handles⟩, begun.listeners, (listening begun).mp up⟩
    · rintro ⟨-, -, ⟨entries', all', rfl⟩, rfl, up⟩
      refine ⟨s, ?_, ?_, begun.listeners⟩
      · rw [started', (listening begun).mpr up]
        rfl
      · rw [handles, entries_unique all all']
  · rw [List.nil_append] at bad
    constructor
    · rintro ⟨s, ok, -⟩
      rw [start, if_neg empty, stopped] at ok
      cases ok
    · rintro ⟨-, nodup, ⟨entries, all, -⟩, -⟩
      exact absurd ⟨nodup, startable_of_forall₂ all⟩ bad

/-- Every handle stems from a configuration with its key. -/
def Stems (cfgs : List EngineConfig) (handles : Registry σ ω) : Prop :=
  ∀ key e, handles key = some e →
    ∃ cfg ∈ cfgs, cfg.key = key ∧ e.party.cfg = cfg.toSessionConfig ∧ e.port = cfg.socketAcceptPort

/-- To begin a session adds a handle that stems from its configuration. -/
lemma startSession_stems {cfg} {s t : Starting σ ω} (stems : Stems cfgs s.handles) (mem : cfg ∈ cfgs)
    (started : startSession o s cfg = .ok t) : Stems cfgs t.handles := by
  obtain ⟨⟨dictionaries, cache⟩, -, rest⟩ := bind_eq_ok.mp started
  dsimp only at rest
  split at rest
  case isTrue => cases rest
  case isFalse =>
    obtain ⟨e, opened, same⟩ := bind_eq_ok.mp rest
    cases same
    obtain ⟨own, port⟩ := openSession_ok (Ranged.mapError_eq_ok.mp opened)
    intro key e' handle
    rw [handles_add, Function.update_apply] at handle
    split at handle
    case isTrue here =>
      cases handle
      exact ⟨cfg, mem, here.symm, own, port⟩
    case isFalse => exact stems key e' handle

/-- So do all the handles once the configurations of a list are begun. -/
lemma startAll_stems {s t : Starting σ ω} {rest : List EngineConfig} (stems : Stems cfgs s.handles)
    (mem : ∀ cfg ∈ rest, cfg ∈ cfgs) (started : rest.foldlM (startSession o) s = .ok t) :
    Stems cfgs t.handles := by
  induction rest generalizing s with
  | nil =>
    cases started
    exact stems
  | cons cfg rest ih =>
    obtain ⟨here, later⟩ := List.forall_mem_cons.mp mem
    rw [List.foldlM_cons] at started
    obtain ⟨s', first, started⟩ := bind_eq_ok.mp started
    exact ih (startSession_stems stems here first) later started

/-- The handles of an engine that was started stem from its configurations. -/
lemma start_stems (started : start o cfgs = .ok s) : Stems cfgs s.handles := by
  unfold start at started
  split at started
  case isTrue => cases started
  case isFalse =>
    obtain ⟨s', all, rest⟩ := bind_eq_ok.mp started
    obtain ⟨⟨⟩, -, same⟩ := bind_eq_ok.mp rest
    cases same
    exact startAll_stems (fun _ _ none => by cases none) (fun _ mem => mem) all

/-- In every run of an engine that was started, whatever its dictionaries are kept under, a connection that
came in on a port and is held for a session was accepted for an acceptor that is configured on that port, and
names its session in the first message. -/
theorem accepted_configured [Chrono] [MessageStore σ] [Application ω] [Runtime ω]
    (started : start o cfgs = .ok s) (moves : List Move)
    {c : Nat} {conn : Conn} {key port} (here : (Engine.ran s.handles moves).conns[c]? = some conn)
    (held : conn.stage = .held key) (accepted : conn.socket = .accepted port) :
    ∃ cfg ∈ cfgs, cfg.key = key ∧ cfg.connectionType = .acceptor ∧ cfg.socketAcceptPort = port ∧
      ∃ first, (framesOf conn.received).head? = some first ∧ firstKey first = .ok key := by
  have names : conn.Names s.handles.accepts key :=
    ((Engine.sound_ran s.handles moves).sound c conn here).names key (by rw [held]; rfl)
  rw [Conn.Names, accepted] at names
  obtain ⟨known, first⟩ := names
  unfold Registry.accepts at known
  split at known
  case h_2 => cases known
  case h_1 e is =>
    obtain ⟨cfg, mem, own, same, listens⟩ := start_stems started key e is
    rw [same, listens] at known
    simp only [Bool.and_eq_true, decide_eq_true_eq] at known
    exact ⟨cfg, mem, own, known.1, known.2, first⟩

end Started

namespace Script

attribute [local instance] epochDay

/-- A dictionary that defines nothing. -/
def blankDictionary : DataDictionary := ⟨ascii "FIXT.1.1", [], [], [], [], [], []⟩

/-- Nothing fails outside. -/
def outside : Outside MemoryStore Script Unit where
  load _ := .ok blankDictionary
  createStore _ := .ok { creationTime := 0 }
  createLog _ := .ok ()
  clientTls _ _ := .ok ()
  serverTls _ := .ok ()
  bind _ := .ok ()
  now _ := 0
  world _ := {}

/-- An acceptor that validates nothing. -/
def plainAcceptor : EngineConfig :=
  { acceptor with
    socketConnectHost := []
    socketConnectPort := 0
    socketAcceptPort := 5001
    useDataDictionary := false }

/-- Acceptors of FIXT with the same dictionaries. -/
def fixtAcceptor (peer : Bytes) (port : Nat) : EngineConfig :=
  { acceptor with
    sessionId := { localId with beginString := ascii "FIXT.1.1", targetCompId := peer }
    socketConnectHost := []
    socketConnectPort := 0
    socketAcceptPort := port
    transportDataDictionary := some (ascii "FIXT11.xml")
    appDataDictionary := some (ascii "FIX50.xml") }

/-- A plain acceptor, and two sessions over FIXT.1.1. -/
def configured : List EngineConfig :=
  [plainAcceptor, fixtAcceptor (ascii "U") 5001, fixtAcceptor (ascii "V") 5002]

/-- The two sessions ask for the same dictionaries. -/
lemma apart_configured : Apart (configured.map EngineConfig.dictionaries) := by
  have only : ∀ d ∈ configured.map EngineConfig.dictionaries,
      d = .none ∨ d = .fixt (ascii "FIXT11.xml") (ascii "FIX50.xml") := by decide
  constructor
  · intro transport app mem d mem'
    rcases only _ mem with h | h
    · cases h
    · cases h
      rcases only d mem' with rfl | rfl
      · exact id
      · exact (by decide : mergedKey (ascii "FIXT11.xml") (ascii "FIX50.xml") ≠ ascii "FIXT11.xml")
  · intro transport app transport' app' mem mem' _
    rcases only _ mem with h | h
    · cases h
    · rcases only _ mem' with h' | h'
      · cases h'
      · cases h
        cases h'
        exact ⟨rfl, rfl⟩

/-- What is started for them. -/
def entries : List (Entry MemoryStore Script) :=
  [entryWith outside plainAcceptor (none, none) { creationTime := 0 },
    entryWith outside (fixtAcceptor (ascii "U") 5001)
      (some (blankDictionary.mergedWithApp blankDictionary), some blankDictionary) { creationTime := 0 },
    entryWith outside (fixtAcceptor (ascii "V") 5002)
      (some (blankDictionary.mergedWithApp blankDictionary), some blankDictionary) { creationTime := 0 }]

/-- They start. -/
theorem start_iff_configured : ∃ s, start outside configured = .ok s ∧ s.handles = registryOf entries ∧
    s.listeners = listenerOf configured := by
  refine (start_iff apart_configured (registryOf entries) (listenerOf configured)).mpr ⟨by decide, by decide, ?_,
    rfl, fun _ _ _ => ⟨rfl, rfl⟩⟩
  exact ⟨entries, .cons rfl (.cons rfl (.cons rfl .nil)), rfl⟩

/-- The engine that is started. -/
def engine : Starting MemoryStore Script :=
  match start outside configured with
  | .ok s => s
  | .error _ => {}

/-- `T` connects, logs on and is given to its session. -/
def visiting : List Move :=
  [.accept 5001, .arrive 0 ((writtenFrames (buyer.after dialed).trace).getD 0 []), .ask 0,
    .serve plainAcceptor.key 0, .offer 0, .serve plainAcceptor.key 0]

/-- A peer that visits the plain acceptor is led to it. -/
theorem accepted_configured_visiting : ∃ cfg ∈ configured, cfg.key = plainAcceptor.key ∧
    cfg.connectionType = .acceptor ∧ cfg.socketAcceptPort = 5001 ∧
    ∃ first, (framesOf ((Engine.ran engine.handles visiting).conns.headD
      ⟨.accepted 0, .identifying, [], [], false, [], [], [], []⟩).received).head? = some first ∧
      firstKey first = .ok plainAcceptor.key :=
  @accepted_configured _ _ _ outside configured engine _ _ _ _ rfl visiting 0 _ _ _
    (by decide +kernel) (by decide +kernel) (by decide +kernel)

end Script

end QuickFix
