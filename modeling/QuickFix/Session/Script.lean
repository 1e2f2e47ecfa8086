import QuickFix.Session.Run
import QuickFix.Store.Memory

/-!
# A scripted environment

An environment whose clocks stand still and whose callbacks and write task answer from a script,
together with the calendar of the first day of the epoch. Concrete runs of a session are computed in
it.
-/

namespace QuickFix

/-! ## The first day of the epoch -/

/-- The digits of the fraction of a second, and the nanoseconds of a unit of the last one. -/
def fractionOf : TimestampPrecision → Nat × Nat
  | .seconds => (0, nanosPerSec)
  | .millis => (3, 1000000)
  | .micros => (6, 1000)
  | .nanos => (9, 1)

/-- The timestamp of a time of the first day of the epoch. -/
def formatDay (p : TimestampPrecision) (t : UtcTime) : Bytes :=
  let ns := t.toNat
  let secs := ns / nanosPerSec
  let (width, unit) := fractionOf p
  ascii "19700101-" ++ padded 2 (secs / 3600) ++ ascii ":" ++ padded 2 (secs / 60 % 60) ++
    ascii ":" ++ padded 2 (secs % 60) ++
    if width = 0 then [] else ascii "." ++ padded width (ns % nanosPerSec / unit)

/-- The time a timestamp of the first day of the epoch denotes. -/
def parseDay (p : TimestampPrecision) (bs : Bytes) : Option UtcTime := do
  let (width, unit) := fractionOf p
  let hours ← undec ((bs.drop 9).take 2)
  let minutes ← undec ((bs.drop 12).take 2)
  let seconds ← undec ((bs.drop 15).take 2)
  let fraction ← if width = 0 then some 0 else undec (bs.drop 18)
  let t : Nat := (hours * 3600 + minutes * 60 + seconds) * nanosPerSec + fraction * unit
  if hours < 24 ∧ minutes < 60 ∧ seconds < 60 ∧ formatDay p t = bs then some t else none

/-- The calendar of the first day of the epoch. -/
@[reducible] def epochDay : Chrono where
  parseFromStr := parseDay
  format := formatDay
  isDate bs := bs = ascii "19700101"
  localOffset _ := 0

/-! ## Scripted answers -/

/-- The answers of an environment; each list holds those that come next. -/
structure Script where
  utc : UtcTime := 0
  instant : Nat := 0
  /-- Whether the write task takes the bytes; it does once the list is used up. -/
  sends : List Bool := []
  /-- The answers of `from_admin`; it accepts once the list is used up. -/
  fromAdmin : List (Except ApplicationError Unit) := []
  /-- The answers of `from_app`; it accepts once the list is used up. -/
  fromApp : List (Except ApplicationError Unit) := []
  /-- Whether `to_app` lets a message through; it does once the list is used up. -/
  toApp : List Bool := []

instance : Runtime Script where
  utcNow w := (w.utc, w)
  instantNow w := (w.instant, w)
  send _ w := (w.sends.headD true, { w with sends := w.sends.tail })

instance : Application Script where
  onLogon w := w
  onLogout w := w
  toAdmin m w := (m, w)
  toApp m w := (if w.toApp.headD true then some m else none, { w with toApp := w.toApp.tail })
  fromAdmin _ w := (w.fromAdmin.headD (.ok ()), { w with fromAdmin := w.fromAdmin.tail })
  fromApp _ w := (w.fromApp.headD (.ok ()), { w with fromApp := w.fromApp.tail })

namespace Script

/-- The session of a local `S` with a counterparty `T`. -/
def localId : SessionId :=
  { beginString := ascii "FIX.4.4", senderCompId := ascii "S", targetCompId := ascii "T" }

/-- Settings of an acceptor that are all defaults. -/
def acceptor : SessionConfig := { sessionId := localId, connectionType := .acceptor }

/-- Settings of an initiator that are all defaults. -/
def initiator : SessionConfig := { sessionId := localId, connectionType := .initiator }

/-- A message of the counterparty without a body. -/
def fromPeer (mt : Bytes) (seq : Nat) : Message :=
  let m := Message.withType mt
  let m := m.setHeader Tags.beginString localId.beginString
  let m := m.setHeader Tags.senderCompId localId.targetCompId
  let m := m.setHeader Tags.targetCompId localId.senderCompId
  let m := m.setHeader Tags.msgSeqNum seq
  m.setHeader Tags.sendingTime (ascii "19700101-00:00:00.000")

/-- An order with a symbol. -/
def plainOrder : Message := (Message.withType (ascii "D")).set 55 (ascii "X")

/-- A run of a session on an empty store. -/
def play (cfg : SessionConfig) (w : Script) (inputs : List Input) : Sys MemoryStore Script :=
  letI := epochDay
  .ran cfg none none { creationTime := 0 } 0 w inputs

end Script

end QuickFix
