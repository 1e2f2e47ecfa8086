import QuickFix.Settings.Typed

/-!
# Settings are read back

Blocks that are written line by line are read back, and so are the configurations of sessions, however their
settings are divided between the defaults and the sessions.
-/

namespace QuickFix

open Ranged (fail bind_ok)

namespace Settings

/-! ## Blocks -/

/-- An assignment that can stand on a line of its own. -/
structure Plain (e : Bytes × Bytes) : Prop where
  key : Trimmed e.1
  value : Trimmed e.2
  keyLine : 10 ∉ e.1
  valueLine : 10 ∉ e.2
  separator : 61 ∉ e.1
  first : e.1.head? ≠ some 35 ∧ e.1.head? ≠ some 91

/-- The line that begins a block. -/
def Block.header (b : Block) : Bytes := ascii "[" ++ b.name ++ ascii "]"

/-- The line of an assignment. -/
def assignmentLine (e : Bytes × Bytes) : Bytes := e.1 ++ 61 :: e.2

/-- The lines of a block. -/
def Block.lines (b : Block) : List Bytes := b.header :: b.entries.map assignmentLine

/-- The file of blocks. -/
def render (bs : List Block) : Bytes := (bs.flatMap Block.lines).flatMap (· ++ [10])

/-- The header of a block is read back. -/
lemma header_name (d : Bool) : Line.of (Block.header ⟨d, []⟩) = .header (Block.name ⟨d, []⟩) := by
  cases d with
  | true => decide +kernel
  | false => decide +kernel

/-- The line of a plain assignment is read back. -/
lemma Plain.of_line {e} (h : Plain e) : Line.of (assignmentLine e) = .assignment e.1 e.2 := by
  have trimmed : trim (assignmentLine e) = assignmentLine e := (h.key.join h.value (by decide)).trim_eq
  have start (c : UInt8) (other : c ≠ 61) (ne : e.1.head? ≠ some c) : (assignmentLine e).head? ≠ some c := by
    unfold assignmentLine
    cases first : e.1 with
    | nil => simpa using other.symm
    | cons b bs =>
      rw [first] at ne
      exact ne
  have notBlank : ¬ (assignmentLine e = [] ∨ (assignmentLine e).head? = some 35) := by
    rintro (empty | comment)
    · simp [assignmentLine] at empty
    · exact start 35 (by decide) h.first.1 comment
  rw [Line.of]
  simp only [trimmed]
  rw [if_neg notBlank, if_neg fun header => start 91 (by decide) h.first.2 header.1]
  simp only [assignmentLine, splitOnce_append h.separator, h.key.trim_eq, h.value.trim_eq]

/-- Assignments go into the latest block. -/
lemma makesUp_entries {lines bs d entries} (made : MakesUp lines (bs ++ [⟨d, entries⟩])) {more}
    (plain : ∀ e ∈ more, Plain e) :
    MakesUp (lines ++ more.map assignmentLine) (bs ++ [⟨d, entries ++ more⟩]) := by
  induction more generalizing lines entries with
  | nil => simpa using made
  | cons e more ih =>
    have next := made.snoc (.assignment rfl (plain e List.mem_cons_self).of_line)
    have rest := ih next fun e' mem => plain e' (List.mem_cons_of_mem e mem)
    rw [List.map_cons, ← List.singleton_append, ← List.append_assoc]
    simpa using rest

/-- Blocks follow one another. -/
lemma makesUp_blocks {lines bs} (made : MakesUp lines bs) {more : List Block}
    (plain : ∀ b ∈ more, ∀ e ∈ b.entries, Plain e) :
    MakesUp (lines ++ more.flatMap Block.lines) (bs ++ more) := by
  induction more generalizing lines bs with
  | nil => simpa using made
  | cons b more ih =>
    have next := makesUp_entries (made.snoc (.header b.isDefault (header_name b.isDefault))) (plain b List.mem_cons_self)
    have rest := ih next fun b' mem => plain b' (List.mem_cons_of_mem b mem)
    have same : b.header = Block.header ⟨b.isDefault, []⟩ := rfl
    simpa [Block.lines, same] using rest

/-- Blocks that are written are read back. -/
lemma parse_render {bs : List Block} (plain : ∀ b ∈ bs, ∀ e ∈ b.entries, Plain e) :
    parse (render bs) = .ok (ofBlocks bs) := by
  have split : lines (render bs) = bs.flatMap Block.lines := by
    apply lines_written
    intro l mem
    obtain ⟨b, here, mem⟩ := List.mem_flatMap.mp mem
    rcases List.mem_cons.mp mem with rfl | mem
    · cases d : b.isDefault <;> simp [Block.header, Block.name, d] <;> decide
    · obtain ⟨e, own, rfl⟩ := List.mem_map.mp mem
      have h := plain b here e own
      constructor
      · simp [assignmentLine, h.keyLine, h.valueLine]
      · exact (h.key.join h.value (by decide)).noReturn
  have made : MakesUp (lines (render bs)) bs := by
    rw [split]
    exact makesUp_blocks .nil plain
  rw [parse, Reader.takeAll_makesUp made, ← Reader.settings_below]
  rfl

/-! ## Configurations -/

/-- The settings of a key are given as assignments. -/
def entriesOf (f : Key → Option Bytes) : List (Bytes × Bytes) :=
  Key.all.filterMap fun k => (f k).map fun v => (k.name, v)

/-- A key is looked up among the entries of some keys. -/
lemma lookup_entries (f : Key → Option Bytes) (k : Key) (ks : List Key) :
    (ks.filterMap fun k => (f k).map fun v => (k.name, v)).lookup k.name = if k ∈ ks then f k else none := by
  induction ks with
  | nil => rfl
  | cons k' ks ih =>
    by_cases same : k = k'
    · subst same
      cases is : f k with
      | none => simp [is, ih]
      | some v => simp [is]
    · have other : (k.name == k'.name) = false := beq_false_of_ne fun h => same (Key.name_inj h)
      cases is : f k' with
      | none => simp [is, ih, same]
      | some v => simp [is, ih, same, List.lookup_cons, other]

/-- A key is read back from its entries. -/
lemma get_entries (f : Key → Option Bytes) (k : Key) : Section.of (entriesOf f) k.name = f k := by
  rw [Section.of, entriesOf, ← List.filterMap_reverse, lookup_entries, if_pos]
  exact List.mem_reverse.mpr (Key.mem_all k)

/-- How a flag is written. -/
def yesNo (b : Bool) : Bytes := ascii (if b then "Y" else "N")

/-- How a precision is written. -/
def digitOf : TimestampPrecision → Bytes
  | .seconds => ascii "0"
  | .millis => ascii "3"
  | .micros => ascii "6"
  | .nanos => ascii "9"

/-- The settings of a configuration. -/
def settingsOf (c : EngineConfig) (t : ScheduleTexts) : Key → Option Bytes
  | .beginString => some c.sessionId.beginString
  | .senderCompId => some c.sessionId.senderCompId
  | .senderSubId => some c.sessionId.senderSubId
  | .senderLocationId => some c.sessionId.senderLocationId
  | .targetCompId => some c.sessionId.targetCompId
  | .targetSubId => some c.sessionId.targetSubId
  | .targetLocationId => some c.sessionId.targetLocationId
  | .sessionQualifier => some c.sessionId.qualifier
  | .connectionType => some (ascii (if c.connectionType = .initiator then "initiator" else "acceptor"))
  | .useLocalTime => some (yesNo t.useLocal)
  | .nonStopSession => some (yesNo t.nonStop)
  | .startTime => t.startTime
  | .endTime => t.endTime
  | .startDay => t.startDay
  | .endDay => t.endDay
  | .logonTime => t.logonTime
  | .logoutTime => t.logoutTime
  | .logonDay => t.logonDay
  | .logoutDay => t.logoutDay
  | .heartBtInt => some (dec c.heartBtInt)
  | .socketConnectHost => some c.socketConnectHost
  | .socketConnectPort => some (dec c.socketConnectPort)
  | .socketAcceptPort => some (dec c.socketAcceptPort)
  | .timestampPrecision => some (digitOf c.timestampPrecision)
  | .millisecondsInTimeStamp => none
  | .defaultApplVerId => c.defaultApplVerId
  | .heartBtIntOverride => c.heartBtIntOverride.map dec
  | .reconnectInterval => some (dec c.reconnectInterval)
  | .logonTimeout => some (dec c.logonTimeout)
  | .logoutTimeout => some (dec c.logoutTimeout)
  | .resetOnLogon => some (yesNo c.resetOnLogon)
  | .resetOnLogout => some (yesNo c.resetOnLogout)
  | .resetOnDisconnect => some (yesNo c.resetOnDisconnect)
  | .refreshOnLogon => some (yesNo c.refreshOnLogon)
  | .sendResetSeqNumFlag => some (yesNo c.sendResetSeqNumFlag)
  | .persistMessages => some (yesNo c.persistMessages)
  | .checkCompId => some (yesNo c.checkCompId)
  | .checkLatency => some (yesNo c.checkLatency)
  | .maxLatency => some (dec c.maxLatency)
  | .sendRedundantResendRequests => some (yesNo c.sendRedundantResendRequests)
  | .validateLengthAndChecksum => some (yesNo c.validateLengthChecksum)
  | .useDataDictionary => some (yesNo c.useDataDictionary)
  | .dataDictionary => c.dataDictionary
  | .transportDataDictionary => c.transportDataDictionary
  | .appDataDictionary => c.appDataDictionary
  | .enableLastMsgSeqNumProcessed => some (yesNo c.enableLastMsgSeqNumProcessed)
  | .maxMessagesInResendRequest => some (dec c.maxMessagesInResendRequest)
  | .sendLogoutBeforeDisconnectFromTimeout => some (yesNo c.sendLogoutBeforeDisconnectFromTimeout)
  | .requiresOrigSendingTime => some (yesNo c.requiresOrigSendingTime)
  | .sendNextExpectedMsgSeqNum => some (yesNo c.sendNextExpectedMsgSeqNum)
  | .enableNextExpectedMsgSeqNum => none
  | .socketUseSsl => some (yesNo c.tls.enabled)
  | .socketCertificateFile => c.tls.certificateFile
  | .socketPrivateKeyFile => c.tls.privateKeyFile
  | .socketCaFile => c.tls.caFile
  | .socketInsecureSkipVerify => some (yesNo c.tls.insecureSkipVerify)
  | .socketServerName => c.tls.serverName
  | .validateFieldsOutOfOrder => some (yesNo c.validation.checkFieldsOutOfOrder)
  | .validateFieldsHaveValues => some (yesNo c.validation.checkFieldsHaveValues)
  | .validateUserDefinedFields => some (yesNo c.validation.checkUserDefinedFields)
  | .allowUnknownMsgFields => some (yesNo c.validation.allowUnknownMessageFields)
  | .fileStorePath => c.fileStorePath
  | .fileLogPath => c.fileLogPath

section Given

variable {m : Section} {key : Key}

/-- A value that is given is found. -/
lemma require_given {v} (is : get m key = some v) : require m key = .ok v := by
  rw [require, is]

/-- A flag is read back. -/
lemma getBool_given {b} (is : get m key = some (yesNo b)) (default) : getBool m key default = .ok b := by
  rw [getBool, is]
  cases b with
  | true => rfl
  | false => rfl

/-- A number of 64 bits is read back. -/
lemma parseU64_given {n} (small : n < 2 ^ 64) : parseU64 key (dec n) = .ok n := by
  rw [parseU64, parseUnsigned_dec small]

/-- So is one that has a default. -/
lemma getU64_given {n} (is : get m key = some (dec n)) (small : n < 2 ^ 64) (default) :
    getU64 m key default = .ok n := by
  rw [getU64, is]
  exact parseU64_given small

/-- So is one that may be missing. -/
lemma getU64Option_given {n : Option Nat} (is : get m key = n.map dec) (small : ∀ k ∈ n, k < 2 ^ 64) :
    getU64Option m key = .ok n := by
  rw [getU64Option, is]
  cases n with
  | none => rfl
  | some n =>
    simp only [Option.map_some, parseU64_given (small n rfl)]
    rfl

/-- A port is read back. -/
lemma requirePort_given {n} (is : get m key = some (dec n)) (small : n < 2 ^ 16) :
    requirePort m key = .ok n := by
  rw [requirePort, require_given is, Ranged.ok_bind, parseUnsigned_dec small]

end Given

/-- Settings that say what a configuration is are read as that configuration. -/
lemma fromMap_given {m c t} (valid : c.Valid) (texts : t.schedules = .ok (c.schedule, c.logonSchedule))
    (given : ∀ k, get m k = settingsOf c t k) : fromMap m = .ok c := by
  have flag {k b} (is : settingsOf c t k = some (yesNo b)) (default) : getBool m k default = .ok b :=
    getBool_given ((given k).trans is) default
  have number {k n} (is : settingsOf c t k = some (dec n)) (mem : n ∈ c.numbers) (default) :
      getU64 m k default = .ok n := getU64_given ((given k).trans is) (valid.numbers n mem) default
  have begins : getBeginString m = .ok c.sessionId.beginString := by
    rw [getBeginString, require_given (given _), Ranged.ok_bind,
      if_pos (List.contains_iff_mem.mpr valid.version)]
  have identified : getSessionId m c.sessionId.beginString = .ok c.sessionId := by
    simp only [getSessionId, require_given (given .senderCompId), require_given (given .targetCompId),
      given, settingsOf, Ranged.ok_bind]
    rfl
  have connects : getConnectionType m = .ok c.connectionType := by
    rw [getConnectionType, require_given (given _), Ranged.ok_bind]
    cases c.connectionType with
    | initiator => rfl
    | acceptor => rfl
  have scheduled : getSchedules m = .ok (c.schedule, c.logonSchedule) := by
    have same : scheduleTexts m t.useLocal t.nonStop = t := by
      simp only [scheduleTexts, given, settingsOf]
    rw [getSchedules, flag rfl, Ranged.ok_bind, flag rfl, Ranged.ok_bind, same, texts]
    rfl
  have beats : getHeartBtInt m c.connectionType = .ok c.heartBtInt := by
    have small : c.heartBtInt < 2 ^ 64 := valid.numbers _ (by simp [EngineConfig.numbers])
    cases type : c.connectionType with
    | initiator =>
      have pos := (valid.initiator type).1
      rw [getHeartBtInt, require_given (given _), Ranged.ok_bind, parseU64_given small, Ranged.ok_bind,
        if_neg (Nat.ne_of_gt pos)]
    | acceptor => exact getU64_given (given _) small 30
  have socket : getSocket m c.connectionType =
      .ok (c.socketConnectHost, c.socketConnectPort, c.socketAcceptPort) := by
    cases type : c.connectionType with
    | initiator =>
      obtain ⟨-, small, zero⟩ := valid.initiator type
      rw [getSocket, require_given (given _), Ranged.ok_bind, requirePort_given (given _) small, zero]
      rfl
    | acceptor =>
      obtain ⟨empty, zero, small⟩ := valid.acceptor type
      rw [getSocket, requirePort_given (given _) small, empty, zero]
      rfl
  have precise : getPrecision m c.sessionId.beginString = .ok c.timestampPrecision := by
    rw [getPrecision, given, settingsOf]
    cases c.timestampPrecision with
    | seconds | millis | micros | nanos => rfl
  have applied : checkApplVerId m c.sessionId = .ok () := by
    rw [checkApplVerId, given, settingsOf, if_neg fun h => valid.applVerId h.1 h.2]
  have overriding : getU64Option m .heartBtIntOverride = .ok c.heartBtIntOverride := by
    apply getU64Option_given (given _)
    intro n is
    exact valid.numbers n (List.mem_append_left _ (Option.mem_toList.mpr is))
  have expects : getNextExpected m = .ok c.sendNextExpectedMsgSeqNum := by
    rw [getNextExpected, flag rfl, Ranged.ok_bind]
    cases c.sendNextExpectedMsgSeqNum with
    | true => rfl
    | false =>
      rw [if_neg (by decide), getBool, given]
      rfl
  have tls : getTls m = .ok c.tls := by
    rw [getTls, flag rfl, Ranged.ok_bind, flag rfl]
    simp only [given, settingsOf]
    rfl
  have validation : getValidation m = .ok c.validation := by
    rw [getValidation, flag rfl, Ranged.ok_bind, flag rfl, Ranged.ok_bind, flag rfl, Ranged.ok_bind, flag rfl]
    rfl
  have counted (n) (mem : n ∈ [c.reconnectInterval, c.logonTimeout, c.logoutTimeout, c.maxLatency,
      c.maxMessagesInResendRequest]) : n ∈ c.numbers :=
    List.mem_append_right _ (List.mem_cons_of_mem _ mem)
  unfold fromMap
  simp only [begins, identified, connects, scheduled, beats, socket, precise, applied, overriding, expects,
    tls, validation, Ranged.ok_bind]
  -- what is left are flags and numbers
  repeat first
    | rw [number rfl (counted _ (by simp)), Ranged.ok_bind]
    | rw [flag rfl, Ranged.ok_bind]
  simp only [given, settingsOf]
  rfl

/-- The configurations the reader can give are the valid ones. -/
theorem fromMap_iff (c : EngineConfig) : (∃ m, fromMap m = .ok c) ↔ c.Valid := by
  constructor
  · rintro ⟨m, h⟩
    exact fromMap_valid h
  · intro valid
    obtain ⟨t, texts⟩ := valid.schedules
    exact ⟨.of (entriesOf (settingsOf c t)), fromMap_given valid texts fun k => get_entries _ k⟩

/-- Where the settings are refused, the one that is blamed is wrong in the way that is stated. -/
theorem fromMap_blames {m e} (refused : fromMap m = fail e) : Blames m e := rightly_fromMap m e refused

/-- The settings of an acceptor whose port is not one. -/
def badPort : Section := .of
  [(ascii "BeginString", ascii "FIX.4.4"), (ascii "SenderCompID", ascii "S"), (ascii "TargetCompID", ascii "T"),
    (ascii "ConnectionType", ascii "acceptor"), (ascii "SocketAcceptPort", ascii "65536")]

/-- The settings of an acceptor whose logon window has a first day and no last one. -/
def unpairedDay : Section := .of
  [(ascii "BeginString", ascii "FIX.4.4"), (ascii "SenderCompID", ascii "S"), (ascii "TargetCompID", ascii "T"),
    (ascii "ConnectionType", ascii "acceptor"), (ascii "SocketAcceptPort", ascii "5001"),
    (ascii "LogonTime", ascii "08:00:00"), (ascii "LogoutTime", ascii "17:00:00"),
    (ascii "LogonDay", ascii "monday")]

/-- A port beyond 65535, and days of which one is missing, are blamed. -/
theorem fromMap_blames_badPort : Blames badPort (.notPort .socketAcceptPort) ∧
    Blames unpairedDay (.schedule .unpairedDays) :=
  ⟨fromMap_blames (by rfl), fromMap_blames (by rfl)⟩

/-! ## Files -/

/-- How the settings of sessions are divided. -/
structure Plan where
  defaults : Key → Option Bytes
  sessions : List (Key → Option Bytes)

/-- The sections of a plan. -/
def Plan.blocks (p : Plan) : List Block :=
  ⟨true, entriesOf p.defaults⟩ :: p.sessions.map fun own => ⟨false, entriesOf own⟩

/-- Every value of the settings can stand on a line. -/
def PlainValues (f : Key → Option Bytes) : Prop := ∀ k, ∀ v ∈ f k, Trimmed v ∧ 10 ∉ v

/-- The settings of a session, with the defaults, are those of a configuration. -/
def Gives (defaults own : Key → Option Bytes) (c : EngineConfig × ScheduleTexts) : Prop :=
  c.1.Valid ∧ c.2.schedules = .ok (c.1.schedule, c.1.logonSchedule) ∧
    ∀ k, (own k).or (defaults k) = settingsOf c.1 c.2 k

/-- The names of keys are plain. -/
lemma Key.plain : ∀ k ∈ Key.all, Trimmed k.name ∧ 10 ∉ k.name ∧ 61 ∉ k.name ∧
    k.name.head? ≠ some 35 ∧ k.name.head? ≠ some 91 := by
  decide +kernel

/-- The entries of plain values are plain. -/
lemma PlainValues.entries {f} (h : PlainValues f) : ∀ e ∈ entriesOf f, Plain e := by
  intro e mem
  obtain ⟨k, here, is⟩ := List.mem_filterMap.mp mem
  obtain ⟨v, value, rfl⟩ := Option.map_eq_some_iff.mp is
  obtain ⟨key, keyLine, separator, first⟩ := Key.plain k here
  obtain ⟨trimmed, line⟩ := h k v value
  exact ⟨key, trimmed, keyLine, line, separator, first⟩

/-- The sections of a plan. -/
lemma ofBlocks_plan (p : Plan) : ofBlocks p.blocks =
    { defaults := .of (entriesOf p.defaults), sessions := p.sessions.map fun own => .of (entriesOf own) } := by
  have owns : (p.sessions.map fun own => Block.mk false (entriesOf own)).filter (·.isDefault) = [] := by simp
  have all : (p.sessions.map fun own => Block.mk false (entriesOf own)).filter (!·.isDefault) =
      p.sessions.map fun own => ⟨false, entriesOf own⟩ := by simp
  simp [ofBlocks, Plan.blocks, owns, all]

/-- Sections that give configurations yield them. -/
lemma sessionConfigs_given {defaults sessions cs} (gives : List.Forall₂ (Gives defaults) sessions cs) :
    sessionConfigs { defaults := .of (entriesOf defaults)
                     sessions := sessions.map fun own => .of (entriesOf own) } = .ok (cs.map Prod.fst) := by
  rw [sessionConfigs]
  induction gives with
  | nil => rfl
  | @cons own c sessions cs first _ ih =>
    obtain ⟨valid, texts, same⟩ := first
    have read : fromMap ((Section.of (entriesOf defaults)).extend (.of (entriesOf own))) = .ok c.1 := by
      apply fromMap_given valid texts
      intro k
      rw [get, Section.extend, get_entries, get_entries, same]
    rw [List.map_cons, List.mapM_cons, read]
    simp only [Ranged.ok_bind]
    rw [ih]
    rfl

/-- Configurations whose settings are written to a file are read back, however the settings are divided
between the defaults and the sessions. -/
theorem settings_readBack {p : Plan} {cs : List (EngineConfig × ScheduleTexts)}
    (gives : List.Forall₂ (Gives p.defaults) p.sessions cs)
    (plain : ∀ f ∈ p.defaults :: p.sessions, PlainValues f) :
    ∃ s, parse (render p.blocks) = .ok s ∧ sessionConfigs s = .ok (cs.map Prod.fst) := by
  refine ⟨ofBlocks p.blocks, parse_render ?_, ?_⟩
  · intro b mem
    rcases List.mem_cons.mp mem with rfl | mem
    · exact (plain _ List.mem_cons_self).entries
    · obtain ⟨own, here, rfl⟩ := List.mem_map.mp mem
      exact (plain own (List.mem_cons_of_mem _ here)).entries
  · rw [ofBlocks_plan]
    exact sessionConfigs_given gives

/-- No times are set. -/
def untimed : ScheduleTexts := ⟨none, none, none, none, none, none, none, none, false, false⟩

/-- A session that listens. -/
def listening : EngineConfig where
  sessionId := { beginString := ascii "FIX.4.4", senderCompId := ascii "S", targetCompId := ascii "T" }
  connectionType := .acceptor
  socketConnectHost := []
  socketConnectPort := 0
  socketAcceptPort := 5001

/-- A session that dials, of the same sender. -/
def dialing : EngineConfig where
  sessionId := { beginString := ascii "FIX.4.4", senderCompId := ascii "S", targetCompId := ascii "U" }
  connectionType := .initiator
  heartBtIntOverride := some 20
  socketConnectHost := ascii "example.com"
  socketConnectPort := 9876
  socketAcceptPort := 0

/-- What they have in common is a default. -/
def shared (k : Key) : Bool := settingsOf listening untimed k = settingsOf dialing untimed k

/-- Two sessions that share what they agree on. -/
def sharing : Plan where
  defaults k := if shared k then settingsOf listening untimed k else none
  sessions := [listening, dialing].map fun c k => if shared k then none else settingsOf c untimed k

/-- Each of them is given by the shared section and its own. -/
lemma gives_sharing {c : EngineConfig} (mem : c ∈ [listening, dialing]) (valid : c.Valid)
    (texts : untimed.schedules = .ok (c.schedule, c.logonSchedule)) :
    Gives sharing.defaults (fun k => if shared k then none else settingsOf c untimed k) (c, untimed) := by
  refine ⟨valid, texts, fun k => ?_⟩
  simp only [sharing]
  cases same : shared k with
  | false => simp
  | true =>
    have same : settingsOf listening untimed k = settingsOf dialing untimed k := by simpa [shared] using same
    rcases List.mem_pair.mp mem with rfl | rfl
    · rfl
    · simp [same]

/-- Both are read back. -/
theorem settings_readBack_sharing : ∃ s, parse (render sharing.blocks) = .ok s ∧
    sessionConfigs s = .ok [listening, dialing] := by
  apply @settings_readBack sharing [(listening, untimed), (dialing, untimed)]
  · refine .cons (gives_sharing (by simp) ?_ rfl) (.cons (gives_sharing (by simp) ?_ rfl) .nil)
    · exact ⟨by decide, ⟨untimed, rfl⟩, by decide, by decide, by decide, by decide⟩
    · exact ⟨by decide, ⟨untimed, rfl⟩, by decide, by decide, by decide, by decide⟩
  · have plain : ∀ f ∈ sharing.defaults :: sharing.sessions, ∀ k ∈ Key.all, ∀ v ∈ f k,
        Trimmed v ∧ 10 ∉ v := by
      decide +kernel
    exact fun f mem k => plain f mem k (Key.mem_all k)

end Settings

end QuickFix
