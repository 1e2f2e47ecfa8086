import QuickFix.Settings.Sections
import QuickFix.Session.Config
import QuickFix.Schedule.Parsing

/-!
# Typed settings

Model of `SessionConfig::from_map` of `src/settings.rs`, with `TlsSettings` and the settings of a session that
only its engine reads. Every configuration that is accepted is valid, every valid one can be given, and
an error is about a setting that is in fact wrong (`fromMap_iff`, `fromMap_blames`).
-/

namespace QuickFix

open Ranged (fail bind_ok)

/-! ## Keys -/

/-- The keys of the settings. -/
inductive Key where
  | beginString | senderCompId | senderSubId | senderLocationId | targetCompId | targetSubId
  | targetLocationId | sessionQualifier | connectionType | useLocalTime | nonStopSession | startTime
  | endTime | startDay | endDay | logonTime | logoutTime | logonDay | logoutDay | heartBtInt
  | socketConnectHost | socketConnectPort | socketAcceptPort | timestampPrecision | millisecondsInTimeStamp
  | defaultApplVerId | heartBtIntOverride | reconnectInterval | logonTimeout | logoutTimeout | resetOnLogon
  | resetOnLogout | resetOnDisconnect | refreshOnLogon | sendResetSeqNumFlag | persistMessages
  | checkCompId | checkLatency | maxLatency | sendRedundantResendRequests | validateLengthAndChecksum
  | useDataDictionary | dataDictionary | transportDataDictionary | appDataDictionary
  | enableLastMsgSeqNumProcessed | maxMessagesInResendRequest | sendLogoutBeforeDisconnectFromTimeout
  | requiresOrigSendingTime | sendNextExpectedMsgSeqNum | enableNextExpectedMsgSeqNum | socketUseSsl
  | socketCertificateFile | socketPrivateKeyFile | socketCaFile | socketInsecureSkipVerify
  | socketServerName | validateFieldsOutOfOrder | validateFieldsHaveValues | validateUserDefinedFields
  | allowUnknownMsgFields | fileStorePath | fileLogPath
  deriving DecidableEq

namespace Key

/-- The keys that are read. -/
def all : List Key :=
  [beginString, senderCompId, senderSubId, senderLocationId, targetCompId, targetSubId,
    targetLocationId, sessionQualifier, connectionType, useLocalTime, nonStopSession, startTime,
    endTime, startDay, endDay, logonTime, logoutTime, logonDay, logoutDay, heartBtInt,
    socketConnectHost, socketConnectPort, socketAcceptPort, timestampPrecision, millisecondsInTimeStamp,
    defaultApplVerId, heartBtIntOverride, reconnectInterval, logonTimeout, logoutTimeout, resetOnLogon,
    resetOnLogout, resetOnDisconnect, refreshOnLogon, sendResetSeqNumFlag, persistMessages,
    checkCompId, checkLatency, maxLatency, sendRedundantResendRequests, validateLengthAndChecksum,
    useDataDictionary, dataDictionary, transportDataDictionary, appDataDictionary,
    enableLastMsgSeqNumProcessed, maxMessagesInResendRequest, sendLogoutBeforeDisconnectFromTimeout,
    requiresOrigSendingTime, sendNextExpectedMsgSeqNum, enableNextExpectedMsgSeqNum, socketUseSsl,
    socketCertificateFile, socketPrivateKeyFile, socketCaFile, socketInsecureSkipVerify,
    socketServerName, validateFieldsOutOfOrder, validateFieldsHaveValues, validateUserDefinedFields,
    allowUnknownMsgFields, fileStorePath, fileLogPath]

/-- The spelling of a key. -/
def text : Key → String
  | beginString => "BeginString"
  | senderCompId => "SenderCompID"
  | senderSubId => "SenderSubID"
  | senderLocationId => "SenderLocationID"
  | targetCompId => "TargetCompID"
  | targetSubId => "TargetSubID"
  | targetLocationId => "TargetLocationID"
  | sessionQualifier => "SessionQualifier"
  | connectionType => "ConnectionType"
  | useLocalTime => "UseLocalTime"
  | nonStopSession => "NonStopSession"
  | startTime => "StartTime"
  | endTime => "EndTime"
  | startDay => "StartDay"
  | endDay => "EndDay"
  | logonTime => "LogonTime"
  | logoutTime => "LogoutTime"
  | logonDay => "LogonDay"
  | logoutDay => "LogoutDay"
  | heartBtInt => "HeartBtInt"
  | socketConnectHost => "SocketConnectHost"
  | socketConnectPort => "SocketConnectPort"
  | socketAcceptPort => "SocketAcceptPort"
  | timestampPrecision => "TimestampPrecision"
  | millisecondsInTimeStamp => "MillisecondsInTimeStamp"
  | defaultApplVerId => "DefaultApplVerID"
  | heartBtIntOverride => "HeartBtIntOverride"
  | reconnectInterval => "ReconnectInterval"
  | logonTimeout => "LogonTimeout"
  | logoutTimeout => "LogoutTimeout"
  | resetOnLogon => "ResetOnLogon"
  | resetOnLogout => "ResetOnLogout"
  | resetOnDisconnect => "ResetOnDisconnect"
  | refreshOnLogon => "RefreshOnLogon"
  | sendResetSeqNumFlag => "SendResetSeqNumFlag"
  | persistMessages => "PersistMessages"
  | checkCompId => "CheckCompID"
  | checkLatency => "CheckLatency"
  | maxLatency => "MaxLatency"
  | sendRedundantResendRequests => "SendRedundantResendRequests"
  | validateLengthAndChecksum => "ValidateLengthAndChecksum"
  | useDataDictionary => "UseDataDictionary"
  | dataDictionary => "DataDictionary"
  | transportDataDictionary => "TransportDataDictionary"
  | appDataDictionary => "AppDataDictionary"
  | enableLastMsgSeqNumProcessed => "EnableLastMsgSeqNumProcessed"
  | maxMessagesInResendRequest => "MaxMessagesInResendRequest"
  | sendLogoutBeforeDisconnectFromTimeout => "SendLogoutBeforeDisconnectFromTimeout"
  | requiresOrigSendingTime => "RequiresOrigSendingTime"
  | sendNextExpectedMsgSeqNum => "SendNextExpectedMsgSeqNum"
  | enableNextExpectedMsgSeqNum => "EnableNextExpectedMsgSeqNum"
  | socketUseSsl => "SocketUseSSL"
  | socketCertificateFile => "SocketCertificateFile"
  | socketPrivateKeyFile => "SocketPrivateKeyFile"
  | socketCaFile => "SocketCAFile"
  | socketInsecureSkipVerify => "SocketInsecureSkipVerify"
  | socketServerName => "SocketServerName"
  | validateFieldsOutOfOrder => "ValidateFieldsOutOfOrder"
  | validateFieldsHaveValues => "ValidateFieldsHaveValues"
  | validateUserDefinedFields => "ValidateUserDefinedFields"
  | allowUnknownMsgFields => "AllowUnknownMsgFields"
  | fileStorePath => "FileStorePath"
  | fileLogPath => "FileLogPath"

/-- The bytes of that. -/
def name (k : Key) : Bytes := ascii k.text

/-- Every key is listed. -/
lemma mem_all (k : Key) : k ∈ all := by
  cases k <;> decide

/-- No two keys are spelled the same. -/
lemma nodup_names : (all.map name).Nodup := by decide +kernel

/-- Different keys have different names. -/
lemma name_inj {k k' : Key} (h : k.name = k'.name) : k = k' :=
  List.inj_on_of_nodup_map nodup_names (mem_all k) (mem_all k') h

end Key

/-! ## Errors -/

/-- What is wrong with the settings of a session. -/
inductive SettingsError where
  | missing (key : Key)
  | unsupportedBeginString (value : Bytes)
  | unknownConnectionType (value : Bytes)
  | notYesNo (key : Key) (value : Bytes)
  | notNumber (key : Key)
  | notPositive (key : Key)
  | notPort (key : Key)
  | unknownPrecision (value : Bytes)
  | missingApplVerId
  | schedule (e : Schedule.ConfigError)

/-- The message of an error; `quote` is how text is quoted. -/
def Schedule.ConfigError.message (quote : Bytes → Bytes) : Schedule.ConfigError → Bytes
  | .invalidTime text => ascii "invalid time " ++ quote text ++ ascii ", expected HH:MM:SS"
  | .invalidDay text => ascii "invalid day " ++ quote text
  | .unpairedDays => ascii "StartDay and EndDay must be set together"

namespace SettingsError

/-- The message of an error; `quote` is how text is quoted. -/
def message (quote : Bytes → Bytes) : SettingsError → Bytes
  | missing key => ascii "missing required setting " ++ key.name
  | unsupportedBeginString value => ascii "unsupported BeginString " ++ quote value
  | unknownConnectionType value =>
    ascii "ConnectionType must be initiator or acceptor, got " ++ quote value
  | notYesNo key value => key.name ++ ascii " must be Y or N, got " ++ quote value
  | notNumber key => key.name ++ ascii " must be a number"
  | notPositive key => key.name ++ ascii " must be > 0"
  | notPort key => key.name ++ ascii " must be a port"
  | unknownPrecision value => ascii "TimestampPrecision must be 0, 3, 6 or 9, got " ++ quote value
  | missingApplVerId => ascii "FIXT.1.1 sessions require DefaultApplVerID"
  | schedule e => e.message quote

/-- The setting an error is about; the schedule has several. -/
def key : SettingsError → Option Key
  | missing key | notYesNo key _ | notNumber key | notPositive key | notPort key => some key
  | unsupportedBeginString _ => some .beginString
  | unknownConnectionType _ => some .connectionType
  | unknownPrecision _ => some .timestampPrecision
  | missingApplVerId => some .defaultApplVerId
  | schedule _ => none

/-- The message names the setting. -/
lemma names {e : SettingsError} {k} (h : e.key = some k) (quote) : k.name <:+: e.message quote := by
  cases e with
  | missing key =>
    cases h
    exact ⟨_, [], List.append_nil _⟩
  | unsupportedBeginString value =>
    cases h
    exact ⟨ascii "unsupported ", ascii " " ++ quote value, by rw [message, ← List.append_assoc]; rfl⟩
  | unknownConnectionType value =>
    cases h
    exact ⟨[], ascii " must be initiator or acceptor, got " ++ quote value,
      by rw [message, ← List.append_assoc]; rfl⟩
  | unknownPrecision value =>
    cases h
    exact ⟨[], ascii " must be 0, 3, 6 or 9, got " ++ quote value,
      by rw [message, ← List.append_assoc]; rfl⟩
  | missingApplVerId =>
    cases h
    exact ⟨ascii "FIXT.1.1 sessions require ", [], rfl⟩
  | schedule => cases h
  | notYesNo key value =>
    cases h
    rw [message, List.append_assoc]
    exact (List.prefix_append _ _).isInfix
  | notNumber | notPositive | notPort =>
    cases h
    exact (List.prefix_append _ _).isInfix

end SettingsError

/-! ## Configurations -/

/-- The TLS settings of a connection. -/
structure TlsSettings where
  enabled : Bool := false
  certificateFile : Option Bytes := none
  privateKeyFile : Option Bytes := none
  caFile : Option Bytes := none
  insecureSkipVerify : Bool := false
  serverName : Option Bytes := none
  deriving DecidableEq

/-- The settings of a session, with those only its engine reads. -/
structure EngineConfig extends SessionConfig where
  socketConnectHost : Bytes
  socketConnectPort : Nat
  socketAcceptPort : Nat
  reconnectInterval : Nat := 30
  useDataDictionary : Bool := true
  dataDictionary : Option Bytes := none
  transportDataDictionary : Option Bytes := none
  appDataDictionary : Option Bytes := none
  tls : TlsSettings := {}
  fileStorePath : Option Bytes := none
  fileLogPath : Option Bytes := none

/-- The texts of the schedules. -/
structure ScheduleTexts where
  startTime : Option Bytes
  endTime : Option Bytes
  startDay : Option Bytes
  endDay : Option Bytes
  logonTime : Option Bytes
  logoutTime : Option Bytes
  logonDay : Option Bytes
  logoutDay : Option Bytes
  useLocal : Bool
  nonStop : Bool

/-- The schedule of the session, and that of its logons, which defaults to it. -/
def ScheduleTexts.schedules (t : ScheduleTexts) : Ranged Schedule.ConfigError (Schedule × Schedule) := do
  let schedule ← Schedule.parse t.startTime t.endTime t.startDay t.endDay t.useLocal t.nonStop
  let logonSchedule ←
    if t.logonTime.isSome ∨ t.logoutTime.isSome then
      Schedule.parse t.logonTime t.logoutTime (t.logonDay.or t.startDay) (t.logoutDay.or t.endDay)
        t.useLocal t.nonStop
    else .ok schedule
  return (schedule, logonSchedule)

namespace Settings

section Reading

variable (m : Section)

/-- The value of a key. -/
def get (key : Key) : Option Bytes := m key.name

/-- A value that must be given. -/
def require (key : Key) : Ranged SettingsError Bytes :=
  match get m key with
  | some v => .ok v
  | none => fail (.missing key)

/-- A flag, or its default. -/
def getBool (key : Key) (default : Bool) : Ranged SettingsError Bool :=
  match get m key with
  | none => .ok default
  | some v =>
    if v = ascii "Y" then .ok true
    else if v = ascii "N" then .ok false
    else fail (.notYesNo key v)

/-- A number of 64 bits. -/
def parseU64 (key : Key) (v : Bytes) : Ranged SettingsError Nat :=
  match parseUnsigned (2 ^ 64) v with
  | some n => .ok n
  | none => fail (.notNumber key)

/-- A number, or its default. -/
def getU64 (key : Key) (default : Nat) : Ranged SettingsError Nat :=
  match get m key with
  | none => .ok default
  | some v => parseU64 key v

/-- A number, if it is given. -/
def getU64Option (key : Key) : Ranged SettingsError (Option Nat) :=
  match get m key with
  | none => .ok none
  | some v => (parseU64 key v).map some

/-- A port that must be given. -/
def requirePort (key : Key) : Ranged SettingsError Nat := do
  let v ← require m key
  match parseUnsigned (2 ^ 16) v with
  | some n => .ok n
  | none => fail (.notPort key)

/-- The versions of the protocol there are. -/
def versions : List Bytes :=
  [ascii "FIX.4.0", ascii "FIX.4.1", ascii "FIX.4.2", ascii "FIX.4.3", ascii "FIX.4.4", ascii "FIXT.1.1"]

/-- The version, which must be known. -/
def getBeginString : Ranged SettingsError Bytes := do
  let beginString ← require m .beginString
  if versions.contains beginString then .ok beginString else fail (.unsupportedBeginString beginString)

/-- The identity of a session. -/
def getSessionId (beginString : Bytes) : Ranged SettingsError SessionId := do
  let senderCompId ← require m .senderCompId
  let targetCompId ← require m .targetCompId
  return {
    beginString := beginString
    senderCompId := senderCompId
    senderSubId := (get m .senderSubId).getD []
    senderLocationId := (get m .senderLocationId).getD []
    targetCompId := targetCompId
    targetSubId := (get m .targetSubId).getD []
    targetLocationId := (get m .targetLocationId).getD []
    qualifier := (get m .sessionQualifier).getD [] }

/-- Which side connects. -/
def getConnectionType : Ranged SettingsError ConnectionType := do
  let v ← require m .connectionType
  if v = ascii "initiator" then .ok .initiator
  else if v = ascii "acceptor" then .ok .acceptor
  else fail (.unknownConnectionType v)

/-- The texts of the schedules. -/
def scheduleTexts (useLocal nonStop : Bool) : ScheduleTexts where
  startTime := get m .startTime
  endTime := get m .endTime
  startDay := get m .startDay
  endDay := get m .endDay
  logonTime := get m .logonTime
  logoutTime := get m .logoutTime
  logonDay := get m .logonDay
  logoutDay := get m .logoutDay
  useLocal := useLocal
  nonStop := nonStop

/-- The two schedules. -/
def getSchedules : Ranged SettingsError (Schedule × Schedule) := do
  let useLocal ← getBool m .useLocalTime false
  let nonStop ← getBool m .nonStopSession false
  (scheduleTexts m useLocal nonStop).schedules.mapError (Sum.map id .schedule)

/-- The heartbeat interval, which an initiator must give. -/
def getHeartBtInt : ConnectionType → Ranged SettingsError Nat
  | .initiator => do
    let v ← require m .heartBtInt
    let secs ← parseU64 .heartBtInt v
    if secs = 0 then fail (.notPositive .heartBtInt) else .ok secs
  | .acceptor => getU64 m .heartBtInt 30

/-- The host and port to connect to, and the port to listen on. -/
def getSocket : ConnectionType → Ranged SettingsError (Bytes × Nat × Nat)
  | .initiator => do
    let host ← require m .socketConnectHost
    let port ← requirePort m .socketConnectPort
    return (host, port, 0)
  | .acceptor => do
    let port ← requirePort m .socketAcceptPort
    return ([], 0, port)

/-- FIX < 4.2 has no sub-second timestamps. -/
def defaultPrecision (beginString : Bytes) : TimestampPrecision :=
  if beginString < ascii "FIX.4.2" then .seconds else .millis

/-- The precision of timestamps, which old versions do not have. -/
def getPrecision (beginString : Bytes) : Ranged SettingsError TimestampPrecision :=
  match get m .timestampPrecision with
  | none => do
    if ← getBool m .millisecondsInTimeStamp true then .ok (defaultPrecision beginString) else .ok .seconds
  | some v =>
    if v = ascii "0" then .ok .seconds
    else if v = ascii "3" then .ok .millis
    else if v = ascii "6" then .ok .micros
    else if v = ascii "9" then .ok .nanos
    else fail (.unknownPrecision v)

/-- Sessions over FIXT need a default version. -/
def checkApplVerId (id : SessionId) : Ranged SettingsError Unit :=
  if id.isFixt ∧ get m .defaultApplVerId = none then fail .missingApplVerId else .ok ()

/-- What is asked of TLS. -/
def getTls : Ranged SettingsError TlsSettings := do
  let enabled ← getBool m .socketUseSsl false
  let insecureSkipVerify ← getBool m .socketInsecureSkipVerify false
  return {
    enabled := enabled
    certificateFile := get m .socketCertificateFile
    privateKeyFile := get m .socketPrivateKeyFile
    caFile := get m .socketCaFile
    insecureSkipVerify := insecureSkipVerify
    serverName := get m .socketServerName }

/-- What is validated. -/
def getValidation : Ranged SettingsError ValidationSettings := do
  let checkFieldsOutOfOrder ← getBool m .validateFieldsOutOfOrder true
  let checkFieldsHaveValues ← getBool m .validateFieldsHaveValues true
  let checkUserDefinedFields ← getBool m .validateUserDefinedFields true
  let allowUnknownMessageFields ← getBool m .allowUnknownMsgFields false
  return {
    checkFieldsOutOfOrder := checkFieldsOutOfOrder
    checkFieldsHaveValues := checkFieldsHaveValues
    checkUserDefinedFields := checkUserDefinedFields
    allowUnknownMessageFields := allowUnknownMessageFields }

/-- Either name of the setting; the second one is read where the first one does not say `Y`. -/
def getNextExpected : Ranged SettingsError Bool := do
  if ← getBool m .sendNextExpectedMsgSeqNum false then .ok true
  else getBool m .enableNextExpectedMsgSeqNum false

/-- The configuration of a session. -/
def fromMap : Ranged SettingsError EngineConfig := do
  let beginString ← getBeginString m
  let sessionId ← getSessionId m beginString
  let connectionType ← getConnectionType m
  let (schedule, logonSchedule) ← getSchedules m
  let heartBtInt ← getHeartBtInt m connectionType
  let (socketConnectHost, socketConnectPort, socketAcceptPort) ← getSocket m connectionType
  let timestampPrecision ← getPrecision m beginString
  checkApplVerId m sessionId
  let heartBtIntOverride ← getU64Option m .heartBtIntOverride
  let reconnectInterval ← getU64 m .reconnectInterval 30
  let logonTimeout ← getU64 m .logonTimeout 10
  let logoutTimeout ← getU64 m .logoutTimeout 2
  let resetOnLogon ← getBool m .resetOnLogon false
  let resetOnLogout ← getBool m .resetOnLogout false
  let resetOnDisconnect ← getBool m .resetOnDisconnect false
  let refreshOnLogon ← getBool m .refreshOnLogon false
  let sendResetSeqNumFlag ← getBool m .sendResetSeqNumFlag false
  let persistMessages ← getBool m .persistMessages true
  let checkCompId ← getBool m .checkCompId true
  let checkLatency ← getBool m .checkLatency true
  let maxLatency ← getU64 m .maxLatency 120
  let sendRedundantResendRequests ← getBool m .sendRedundantResendRequests false
  let validateLengthChecksum ← getBool m .validateLengthAndChecksum true
  let useDataDictionary ← getBool m .useDataDictionary true
  let enableLastMsgSeqNumProcessed ← getBool m .enableLastMsgSeqNumProcessed false
  let maxMessagesInResendRequest ← getU64 m .maxMessagesInResendRequest 0
  let sendLogoutBeforeDisconnectFromTimeout ← getBool m .sendLogoutBeforeDisconnectFromTimeout false
  let requiresOrigSendingTime ← getBool m .requiresOrigSendingTime true
  let sendNextExpectedMsgSeqNum ← getNextExpected m
  let tls ← getTls m
  let validation ← getValidation m
  return {
    sessionId := sessionId
    connectionType := connectionType
    heartBtInt := heartBtInt
    heartBtIntOverride := heartBtIntOverride
    logonTimeout := logonTimeout
    logoutTimeout := logoutTimeout
    resetOnLogon := resetOnLogon
    resetOnLogout := resetOnLogout
    resetOnDisconnect := resetOnDisconnect
    refreshOnLogon := refreshOnLogon
    sendResetSeqNumFlag := sendResetSeqNumFlag
    persistMessages := persistMessages
    checkCompId := checkCompId
    checkLatency := checkLatency
    maxLatency := maxLatency
    sendRedundantResendRequests := sendRedundantResendRequests
    timestampPrecision := timestampPrecision
    validateLengthChecksum := validateLengthChecksum
    validation := validation
    enableLastMsgSeqNumProcessed := enableLastMsgSeqNumProcessed
    maxMessagesInResendRequest := maxMessagesInResendRequest
    sendLogoutBeforeDisconnectFromTimeout := sendLogoutBeforeDisconnectFromTimeout
    requiresOrigSendingTime := requiresOrigSendingTime
    sendNextExpectedMsgSeqNum := sendNextExpectedMsgSeqNum
    schedule := schedule
    logonSchedule := logonSchedule
    defaultApplVerId := get m .defaultApplVerId
    socketConnectHost := socketConnectHost
    socketConnectPort := socketConnectPort
    socketAcceptPort := socketAcceptPort
    reconnectInterval := reconnectInterval
    useDataDictionary := useDataDictionary
    dataDictionary := get m .dataDictionary
    transportDataDictionary := get m .transportDataDictionary
    appDataDictionary := get m .appDataDictionary
    tls := tls
    fileStorePath := get m .fileStorePath
    fileLogPath := get m .fileLogPath }

end Reading

/-- The configurations of the sessions; what a session sets overrides the defaults. -/
def sessionConfigs (s : Settings) : Ranged SettingsError (List EngineConfig) :=
  s.sessions.mapM fun own => fromMap (s.defaults.extend own)

end Settings

/-! ## What is accepted -/

/-- The numbers of a configuration. -/
def EngineConfig.numbers (c : EngineConfig) : List Nat :=
  c.heartBtIntOverride.toList ++ [c.heartBtInt, c.reconnectInterval, c.logonTimeout, c.logoutTimeout,
    c.maxLatency, c.maxMessagesInResendRequest]

/-- What holds of every configuration. -/
structure EngineConfig.Valid (c : EngineConfig) : Prop where
  version : c.sessionId.beginString ∈ Settings.versions
  schedules : ∃ t : ScheduleTexts, t.schedules = .ok (c.schedule, c.logonSchedule)
  initiator : c.connectionType = .initiator →
    0 < c.heartBtInt ∧ c.socketConnectPort < 2 ^ 16 ∧ c.socketAcceptPort = 0
  acceptor : c.connectionType = .acceptor →
    c.socketConnectHost = [] ∧ c.socketConnectPort = 0 ∧ c.socketAcceptPort < 2 ^ 16
  applVerId : c.sessionId.isFixt → c.defaultApplVerId ≠ none
  numbers : ∀ n ∈ c.numbers, n < 2 ^ 64

namespace Settings

variable {m : Section}

/-- An unsigned number is within its bound. -/
lemma parseUnsigned_lt {bound v n} (h : parseUnsigned bound v = some n) : n < bound := by
  simpa using (Option.filter_eq_some_iff.mp h).2

/-- A number that is read has 64 bits. -/
lemma parseU64_lt {key v n} (h : parseU64 key v = .ok n) : n < 2 ^ 64 := by
  unfold parseU64 at h
  split at h
  case h_1 read =>
    cases h
    exact parseUnsigned_lt read
  case h_2 => cases h

/-- So has one that has such a default. -/
lemma getU64_lt {key default n} (h : getU64 m key default = .ok n) (small : default < 2 ^ 64) :
    n < 2 ^ 64 := by
  unfold getU64 at h
  split at h
  case h_1 =>
    cases h
    exact small
  case h_2 => exact parseU64_lt h

/-- So has one that is given. -/
lemma getU64Option_lt {key n} (h : getU64Option m key = .ok (some n)) : n < 2 ^ 64 := by
  unfold getU64Option at h
  split at h
  case h_1 => cases h
  case h_2 v _ =>
    cases read : parseU64 key v with
    | error => rw [read] at h; cases h
    | ok k =>
      rw [read] at h
      cases h
      exact parseU64_lt read

/-- A port has 16 bits. -/
lemma requirePort_lt {key n} (h : requirePort m key = .ok n) : n < 2 ^ 16 := by
  obtain ⟨v, -, h⟩ := bind_ok h
  split at h
  case h_1 read =>
    cases h
    exact parseUnsigned_lt read
  case h_2 => cases h

/-- The version is a known one. -/
lemma getBeginString_mem {v} (h : getBeginString m = .ok v) : v ∈ versions := by
  obtain ⟨v', -, h⟩ := bind_ok h
  split at h
  case isTrue known =>
    cases h
    exact List.contains_iff_mem.mp known
  case isFalse => cases h

/-- The identity has the version. -/
lemma getSessionId_version {v id} (h : getSessionId m v = .ok id) : id.beginString = v := by
  obtain ⟨sender, -, h⟩ := bind_ok h
  obtain ⟨target, -, h⟩ := bind_ok h
  cases h
  rfl

/-- The schedules are read from some texts. -/
lemma getSchedules_ok {s l} (h : getSchedules m = .ok (s, l)) :
    ∃ t : ScheduleTexts, t.schedules = .ok (s, l) := by
  obtain ⟨useLocal, -, h⟩ := bind_ok h
  obtain ⟨nonStop, -, h⟩ := bind_ok h
  refine ⟨scheduleTexts m useLocal nonStop, ?_⟩
  cases given : (scheduleTexts m useLocal nonStop).schedules with
  | error e =>
    rw [given] at h
    cases h
  | ok =>
    rw [given] at h
    cases h
    rfl

/-- The interval of an initiator is positive. -/
lemma getHeartBtInt_initiator {n} (h : getHeartBtInt m .initiator = .ok n) : 0 < n ∧ n < 2 ^ 64 := by
  obtain ⟨v, -, h⟩ := bind_ok h
  obtain ⟨secs, read, h⟩ := bind_ok h
  split at h
  case isTrue => cases h
  case isFalse pos =>
    cases h
    exact ⟨Nat.pos_of_ne_zero pos, parseU64_lt read⟩

/-- The interval has 64 bits. -/
lemma getHeartBtInt_lt {t n} (h : getHeartBtInt m t = .ok n) : n < 2 ^ 64 := by
  cases t with
  | initiator => exact (getHeartBtInt_initiator h).2
  | acceptor => exact getU64_lt h (by decide)

/-- An initiator listens on no port. -/
lemma getSocket_initiator {host port own} (h : getSocket m .initiator = .ok (host, port, own)) :
    port < 2 ^ 16 ∧ own = 0 := by
  obtain ⟨host', -, h⟩ := bind_ok h
  obtain ⟨port', read, h⟩ := bind_ok h
  cases h
  exact ⟨requirePort_lt read, rfl⟩

/-- An acceptor connects to none. -/
lemma getSocket_acceptor {host port own} (h : getSocket m .acceptor = .ok (host, port, own)) :
    host = [] ∧ port = 0 ∧ own < 2 ^ 16 := by
  obtain ⟨own', read, h⟩ := bind_ok h
  cases h
  exact ⟨rfl, rfl, requirePort_lt read⟩

/-- A session over FIXT has a default version. -/
lemma checkApplVerId_ok {id u} (h : checkApplVerId m id = .ok u) (fixt : id.isFixt = true) :
    get m .defaultApplVerId ≠ none := by
  intro none
  rw [checkApplVerId, if_pos ⟨fixt, none⟩] at h
  cases h

/-- A configuration that is accepted is valid. -/
lemma fromMap_valid {c} (h : fromMap m = .ok c) : c.Valid := by
  unfold fromMap at h
  obtain ⟨beginString, version, h⟩ := bind_ok h
  obtain ⟨sessionId, identified, h⟩ := bind_ok h
  obtain ⟨connectionType, -, h⟩ := bind_ok h
  obtain ⟨⟨schedule, logonSchedule⟩, scheduled, h⟩ := bind_ok h
  obtain ⟨heartBtInt, beats, h⟩ := bind_ok h
  obtain ⟨⟨host, port, own⟩, socket, h⟩ := bind_ok h
  obtain ⟨precision, -, h⟩ := bind_ok h
  obtain ⟨⟨⟩, applVerId, h⟩ := bind_ok h
  obtain ⟨override, overriding, h⟩ := bind_ok h
  obtain ⟨reconnect, reconnects, h⟩ := bind_ok h
  obtain ⟨logon, logons, h⟩ := bind_ok h
  obtain ⟨logout, logouts, h⟩ := bind_ok h
  simp only [Ranged.bind_eq_ok] at h
  obtain ⟨_, -, _, -, _, -, _, -, _, -, _, -, _, -, _, -, latency, latencies, _, -, _, -, _, -, _, -,
    chunk, chunks, _, -, _, -, _, -, tls, -, validation, -, h⟩ := h
  cases h
  constructor
  case version =>
    rw [getSessionId_version identified]
    exact getBeginString_mem version
  case schedules => exact getSchedules_ok scheduled
  case initiator =>
    rintro rfl
    exact ⟨(getHeartBtInt_initiator beats).1, getSocket_initiator socket⟩
  case acceptor =>
    rintro rfl
    exact getSocket_acceptor socket
  case applVerId => exact checkApplVerId_ok applVerId
  case numbers =>
    simp only [EngineConfig.numbers, List.forall_mem_append, List.forall_mem_cons, Option.mem_toList]
    refine ⟨?_, getHeartBtInt_lt beats, getU64_lt reconnects (by decide), getU64_lt logons (by decide),
      getU64_lt logouts (by decide), getU64_lt latencies (by decide), getU64_lt chunks (by decide), nofun⟩
    rintro n rfl
    exact getU64Option_lt overriding

/-! ## What is refused -/

/-- The setting is wrong in the way the error states. -/
def Blames (m : Section) : SettingsError → Prop
  | .missing key => get m key = none
  | .unsupportedBeginString v => get m .beginString = some v ∧ v ∉ versions
  | .unknownConnectionType v => get m .connectionType = some v ∧ v ∉ [ascii "initiator", ascii "acceptor"]
  | .notYesNo key v => get m key = some v ∧ v ∉ [ascii "Y", ascii "N"]
  | .notNumber key => ∃ v, get m key = some v ∧ parseUnsigned (2 ^ 64) v = none
  | .notPositive key => ∃ v, get m key = some v ∧ parseUnsigned (2 ^ 64) v = some 0
  | .notPort key => ∃ v, get m key = some v ∧ parseUnsigned (2 ^ 16) v = none
  | .unknownPrecision v =>
    get m .timestampPrecision = some v ∧ v ∉ [ascii "0", ascii "3", ascii "6", ascii "9"]
  | .missingApplVerId => get m .beginString = some (ascii "FIXT.1.1") ∧ get m .defaultApplVerId = none
  | .schedule e =>
    Schedule.Blames (get m .startTime) (get m .endTime) (get m .startDay) (get m .endDay) e ∨
      (get m .logonTime ≠ none ∨ get m .logoutTime ≠ none) ∧
        Schedule.Blames (get m .logonTime) (get m .logoutTime) ((get m .logonDay).or (get m .startDay))
          ((get m .logoutDay).or (get m .endDay)) e

/-- The error of a computation, if it has one, blames the settings rightly. -/
def Rightly (m : Section) {α : Type} (x : Ranged SettingsError α) : Prop := ∀ e, x = fail e → Blames m e

section Rightly

variable {α β : Type}

/-- Reading one thing after the other blames rightly. -/
lemma Rightly.bind {x : Ranged SettingsError α} {f : α → Ranged SettingsError β} (first : Rightly m x)
    (then' : ∀ a, x = .ok a → Rightly m (f a)) : Rightly m (x >>= f) := by
  intro e h
  cases x with
  | error e' => exact first e (by rw [show e' = .inr e from Except.error.inj h]; rfl)
  | ok a => exact then' a rfl e h

/-- What is read blames nothing. -/
lemma rightly_ok (a : α) : Rightly m (.ok a) := nofun

/-- A failure blames what it says. -/
lemma rightly_fail {e} (blames : Blames m e) : Rightly m (fail e : Ranged SettingsError α) := by
  intro e' h
  cases h
  exact blames

variable (m)

/-- What must be given was. -/
lemma require_ok {key v} (h : require m key = .ok v) : get m key = some v := by
  unfold require at h
  split at h
  case h_1 is =>
    cases h
    exact is
  case h_2 => cases h

/-- What is missing is blamed. -/
lemma rightly_require (key) : Rightly m (require m key) := by
  unfold require
  split
  case h_1 => exact rightly_ok _
  case h_2 is => exact rightly_fail is

/-- A flag that is not one is blamed. -/
lemma rightly_getBool (key default) : Rightly m (getBool m key default) := by
  unfold getBool
  split
  case h_1 => exact rightly_ok _
  case h_2 v is =>
    split
    case isTrue => exact rightly_ok _
    case isFalse notYes =>
      split
      case isTrue => exact rightly_ok _
      case isFalse notNo => exact rightly_fail ⟨is, by simp [notYes, notNo]⟩

/-- Text that is no number is blamed. -/
lemma rightly_parseU64 {key v} (is : get m key = some v) : Rightly m (parseU64 key v) := by
  unfold parseU64
  split
  case h_1 => exact rightly_ok _
  case h_2 unread => exact rightly_fail ⟨v, is, unread⟩

/-- So it is where there is a default. -/
lemma rightly_getU64 (key default) : Rightly m (getU64 m key default) := by
  unfold getU64
  split
  case h_1 => exact rightly_ok _
  case h_2 is => exact rightly_parseU64 m is

/-- So it is where it may be missing. -/
lemma rightly_getU64Option (key) : Rightly m (getU64Option m key) := by
  unfold getU64Option
  split
  case h_1 => exact rightly_ok _
  case h_2 v is =>
    intro e h
    cases read : parseU64 key v with
    | ok =>
      rw [read] at h
      cases h
    | error e' =>
      rw [read] at h
      cases h
      exact rightly_parseU64 m is e read

/-- A port that is none is blamed. -/
lemma rightly_requirePort (key) : Rightly m (requirePort m key) := by
  apply (rightly_require m key).bind
  intro v is
  split
  case h_1 => exact rightly_ok _
  case h_2 unread => exact rightly_fail ⟨v, require_ok m is, unread⟩

/-- A version that is not known is blamed. -/
lemma rightly_getBeginString : Rightly m (getBeginString m) := by
  apply (rightly_require m _).bind
  intro v is
  split
  case isTrue => exact rightly_ok _
  case isFalse unknown => exact rightly_fail ⟨require_ok m is, fun mem => unknown (List.contains_iff_mem.mpr mem)⟩

/-- A missing CompID is blamed. -/
lemma rightly_getSessionId (v) : Rightly m (getSessionId m v) :=
  (rightly_require m _).bind fun _ _ => (rightly_require m _).bind fun _ _ => rightly_ok _

/-- A connection type that is none is blamed. -/
lemma rightly_getConnectionType : Rightly m (getConnectionType m) := by
  apply (rightly_require m _).bind
  intro v is
  split
  case isTrue => exact rightly_ok _
  case isFalse first =>
    split
    case isTrue => exact rightly_ok _
    case isFalse second => exact rightly_fail ⟨require_ok m is, by simp [first, second]⟩

/-- Where the texts of the schedules are refused, it is for those of the session, or for those of its logons. -/
lemma schedules_fail {useLocal nonStop e} (refused : (scheduleTexts m useLocal nonStop).schedules = fail e) :
    Blames m (.schedule e) := by
  rcases Ranged.bind_eq_fail refused with own | ⟨s, -, refused⟩
  · exact .inl (Schedule.parse_fail own)
  dsimp only at refused
  split at refused
  case isTrue given =>
    have given : get m .logonTime ≠ none ∨ get m .logoutTime ≠ none := by
      simpa only [scheduleTexts, ne_eq, ← Option.not_isSome_iff_eq_none, not_not] using given
    rcases Ranged.bind_eq_fail refused with logon | ⟨l, -, refused⟩
    · exact .inr ⟨given, Schedule.parse_fail logon⟩
    · cases refused
  case isFalse => cases refused

/-- A schedule that cannot be read is blamed. -/
lemma rightly_getSchedules : Rightly m (getSchedules m) := by
  apply (rightly_getBool m _ _).bind
  intro useLocal _
  apply (rightly_getBool m _ _).bind
  intro nonStop _ e h
  cases given : (scheduleTexts m useLocal nonStop).schedules with
  | ok =>
    rw [given] at h
    cases h
  | error e' =>
    rw [given] at h
    cases e' with
    | inl => cases h
    | inr e' =>
      cases h
      exact schedules_fail m given

/-- An interval that is missing or zero is blamed. -/
lemma rightly_getHeartBtInt (t) : Rightly m (getHeartBtInt m t) := by
  cases t with
  | acceptor => exact rightly_getU64 m _ _
  | initiator =>
    apply (rightly_require m _).bind
    intro v is
    apply (rightly_parseU64 m (require_ok m is)).bind
    intro secs read
    split
    case isFalse => exact rightly_ok _
    case isTrue zero =>
      apply rightly_fail
      refine ⟨v, require_ok m is, ?_⟩
      rw [zero] at read
      unfold parseU64 at read
      split at read
      case h_1 some =>
        cases read
        exact some
      case h_2 => cases read

/-- A socket that is not given is blamed. -/
lemma rightly_getSocket (t) : Rightly m (getSocket m t) := by
  cases t with
  | initiator =>
    exact (rightly_require m _).bind fun _ _ => (rightly_requirePort m _).bind fun _ _ => rightly_ok _
  | acceptor => exact (rightly_requirePort m _).bind fun _ _ => rightly_ok _

/-- A precision that is none is blamed. -/
lemma rightly_getPrecision (v) : Rightly m (getPrecision m v) := by
  unfold getPrecision
  split
  case h_1 =>
    apply (rightly_getBool m _ _).bind
    intro b _
    split
    case isTrue => exact rightly_ok _
    case isFalse => exact rightly_ok _
  case h_2 v is =>
    split
    case isTrue => exact rightly_ok _
    case isFalse n0 =>
      split
      case isTrue => exact rightly_ok _
      case isFalse n3 =>
        split
        case isTrue => exact rightly_ok _
        case isFalse n6 =>
          split
          case isTrue => exact rightly_ok _
          case isFalse n9 => exact rightly_fail ⟨is, by simp [n0, n3, n6, n9]⟩

/-- A missing default version is blamed. -/
lemma rightly_checkApplVerId {v id} (begins : getBeginString m = .ok v)
    (identified : getSessionId m v = .ok id) : Rightly m (checkApplVerId m id) := by
  unfold checkApplVerId
  split
  case isFalse => exact rightly_ok _
  case isTrue fixt =>
    refine rightly_fail ⟨?_, fixt.2⟩
    obtain ⟨v', is, same⟩ := bind_ok begins
    have version : v = ascii "FIXT.1.1" := by
      rw [← getSessionId_version identified]
      simpa [SessionId.isFixt] using fixt.1
    rw [← version, require_ok m is]
    split at same
    case isTrue =>
      cases same
      rfl
    case isFalse => cases same

/-- A flag of a version without it is blamed. -/
lemma rightly_getNextExpected : Rightly m (getNextExpected m) := by
  apply (rightly_getBool m _ _).bind
  intro b _
  split
  case isTrue => exact rightly_ok _
  case isFalse => exact rightly_getBool m _ _

/-- Settings of TLS that cannot be read are blamed. -/
lemma rightly_getTls : Rightly m (getTls m) :=
  (rightly_getBool m _ _).bind fun _ _ => (rightly_getBool m _ _).bind fun _ _ => rightly_ok _

/-- Settings of the validation that cannot be read are blamed. -/
lemma rightly_getValidation : Rightly m (getValidation m) :=
  (rightly_getBool m _ _).bind fun _ _ => (rightly_getBool m _ _).bind fun _ _ =>
    (rightly_getBool m _ _).bind fun _ _ => (rightly_getBool m _ _).bind fun _ _ => rightly_ok _

/-- Where the settings are refused, the one that is blamed is wrong. -/
lemma rightly_fromMap : Rightly m (fromMap m) := by
  apply (rightly_getBeginString m).bind
  intro beginString begins
  apply (rightly_getSessionId m beginString).bind
  intro sessionId identified
  apply (rightly_getConnectionType m).bind
  intro connectionType _
  apply (rightly_getSchedules m).bind
  intro schedules _
  apply (rightly_getHeartBtInt m connectionType).bind
  intro heartBtInt _
  apply (rightly_getSocket m connectionType).bind
  intro socket _
  apply (rightly_getPrecision m beginString).bind
  intro precision _
  apply (rightly_checkApplVerId m begins identified).bind
  intro _ _
  apply (rightly_getU64Option m _).bind
  intro override _
  -- what is left are flags and numbers
  repeat
    apply Rightly.bind (by first
      | apply rightly_getU64
      | apply rightly_getBool
      | apply rightly_getNextExpected
      | apply rightly_getTls
      | apply rightly_getValidation)
    intro _ _
  exact rightly_ok _

end Rightly

end Settings

end QuickFix
