import QuickFix.Session.Schedule
import QuickFix.Wire.DataDictionary

/-!
# Session identity and configuration

Model of `src/session_id.rs` and of the settings of `src/settings.rs` a running session reads.
Durations are in whole seconds.
-/

namespace QuickFix

/-- Session identity. -/
structure SessionId where
  beginString : Bytes
  senderCompId : Bytes
  senderSubId : Bytes := []
  senderLocationId : Bytes := []
  targetCompId : Bytes
  targetSubId : Bytes := []
  targetLocationId : Bytes := []
  qualifier : Bytes := []
  deriving DecidableEq

namespace SessionId

/-- Whether the session speaks FIXT. -/
def isFixt (id : SessionId) : Bool := id.beginString = ascii "FIXT.1.1"

/-- Whether the BeginString is at least the given one, as strings compare. -/
def atLeast (id : SessionId) (version : Bytes) : Bool := version ≤ id.beginString

/-- FIX 4.2 and later. -/
def fix42Plus (id : SessionId) : Bool := id.atLeast (ascii "FIX.4.2") || id.isFixt

end SessionId

/-- The side of the connection. -/
inductive ConnectionType where
  | initiator | acceptor
  deriving DecidableEq

/-- The settings of a session. -/
structure SessionConfig where
  sessionId : SessionId
  connectionType : ConnectionType
  heartBtInt : Nat := 30
  heartBtIntOverride : Option Nat := none
  logonTimeout : Nat := 10
  logoutTimeout : Nat := 2
  resetOnLogon : Bool := false
  resetOnLogout : Bool := false
  resetOnDisconnect : Bool := false
  refreshOnLogon : Bool := false
  sendResetSeqNumFlag : Bool := false
  persistMessages : Bool := true
  checkCompId : Bool := true
  checkLatency : Bool := true
  maxLatency : Nat := 120
  sendRedundantResendRequests : Bool := false
  timestampPrecision : TimestampPrecision := .millis
  validateLengthChecksum : Bool := true
  validation : ValidationSettings := {}
  enableLastMsgSeqNumProcessed : Bool := false
  maxMessagesInResendRequest : Nat := 0
  sendLogoutBeforeDisconnectFromTimeout : Bool := false
  requiresOrigSendingTime : Bool := true
  sendNextExpectedMsgSeqNum : Bool := false
  schedule : Schedule := {}
  logonSchedule : Schedule := {}
  defaultApplVerId : Option Bytes := none

end QuickFix
