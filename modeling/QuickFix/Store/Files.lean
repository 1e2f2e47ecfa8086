import QuickFix.Lib.Text
import QuickFix.Store.Memory

/-!
# The file store

Model of `FileStore` of `src/store.rs`: counters, an index of the stored messages and the length of the
file they are in, kept in memory and in four files. Each call of the file system may fail, and a write
that fails may have landed in part. The disk before each call is remembered: it is what is left when
the process stops there.
-/

namespace QuickFix

/-- RFC 3339, as the `chrono` crate prints and reads it. -/
class Rfc3339 where
  toRfc3339 : UtcTime → Bytes
  /-- `str::parse` at `DateTime<Utc>`. -/
  parseRfc3339 : Bytes → Option UtcTime

/-- The files of a session. The session file is written when it is not there. -/
structure Disk where
  body : Bytes := []
  header : Bytes := []
  seqnums : Bytes := []
  session : Option Bytes := none

/-- How a call of the file system ends. -/
inductive Completion where
  | done
  /-- It failed; a write got so far. -/
  | failed (landed : Nat)
  deriving DecidableEq

/-- What a file store keeps in memory. -/
structure FileStore where
  cache : MemoryStore
  bodyLen : Nat := 0
  /-- Offset and length of the stored messages. -/
  offsets : SeqMap (Nat × Nat) := ∅
  sync : Bool := false

/-- A file store on its disk. -/
structure Files where
  store : FileStore
  disk : Disk := {}
  /-- How the calls to come end; once the list is used up they are done. -/
  completions : List Completion := []
  /-- The disk before each call. -/
  past : List Disk := []

/-- Operations of a file store. -/
abbrev FileM := ExceptT Error (StateM Files)

namespace FileStore

/-! ## Calls -/

/-- A call of the file system: what it does to the disk, what it may do when it fails, and the result. -/
def call {α : Type} (effect : Disk → Disk) (landing : Nat → Disk → Disk)
    (result : Disk → Except Error α) : FileM α := fun f =>
  let g := { f with completions := f.completions.tail, past := f.disk :: f.past }
  match f.completions.head? with
  | some (.failed landed) => (.error .io, { g with disk := landing landed f.disk })
  | _ => (result f.disk, { g with disk := effect f.disk })

/-- A call that leaves the files as they are: a seek, a flush to the disk. -/
def touch : FileM Unit := call id (fun _ => id) fun _ => .ok ()

/-- A write. -/
def write (effect : Disk → Disk) (landing : Nat → Disk → Disk) : FileM Unit :=
  call effect landing fun _ => .ok ()

/-- `read_to_string` at the start of a file. -/
def readToString (file : Disk → Bytes) : FileM Bytes :=
  call id (fun _ => id) fun d => if utf8Valid (file d) then .ok (file d) else .error .io

/-- `read_exact` in the body. -/
def readExact (off len : Nat) : FileM Bytes :=
  call id (fun _ => id) fun d =>
    if len = 0 ∨ off + len ≤ d.body.length then .ok ((d.body.drop off).take len) else .error .io

/-- `fs::read_to_string` of the session file; its error is not told apart from an absent file. -/
def readSession : FileM (Option Bytes) :=
  tryCatch (call id (fun _ => id) fun d => .ok (d.session.filter utf8Valid)) fun _ => return none

/-- Bytes at the start of a file. -/
def overwrite (bs file : Bytes) : Bytes := bs ++ file.drop bs.length

/-- `write_all` at the end of the body. -/
def appendBody (raw : Bytes) : FileM Unit :=
  write (fun d => { d with body := d.body ++ raw }) fun n d => { d with body := d.body ++ raw.take n }

/-- `write_all` at the end of the header. -/
def appendHeader (line : Bytes) : FileM Unit :=
  write (fun d => { d with header := d.header ++ line })
    fun n d => { d with header := d.header ++ line.take n }

/-- `fs::write` of the session file. It creates or truncates the file first, which may fail. -/
def writeSession (bs : Bytes) : FileM Unit :=
  write (fun d => { d with session := some bs }) fun n d =>
    match n with
    | 0 => d
    | n + 1 => { d with session := some (bs.take n) }

/-- `set_len(0)` of a file. -/
def truncate (effect : Disk → Disk) : FileM Unit := write effect fun _ => id

/-- Sets what is kept in memory. -/
def keep (g : FileStore → FileStore) : FileM Unit := modify fun f => { f with store := g f.store }

/-- What is kept in memory. -/
def kept : FileM FileStore := return (← get).store

/-! ## Loading -/

/-- The error of a file that does not hold what it should. -/
def corrupt (which : String) : Error :=
  .store (ascii "corrupt " ++ ascii which ++ ascii " file")

/-- The counters of a line, if it is one. -/
def parseSeqnums (s : Bytes) : Except Error (Option (Nat × Nat)) :=
  match splitOnceAt (ascii " : ") (trim s) with
  | none => .ok none
  | some (a, b) =>
    match parseUnsigned (2 ^ 64) (trim a), parseUnsigned (2 ^ 64) (trim b) with
    | some sender, some target => .ok (some (sender, target))
    | _, _ => .error (corrupt "seqnums")

/-- A record of the index: the number, the offset and the length. -/
def parseRecord (line : Bytes) : Option (Nat × Nat × Nat) :=
  match splitN 44 3 line with
  | [seq, off, len] => do
    let seq ← parseUnsigned (2 ^ 64) seq
    let off ← parseUnsigned (2 ^ 64) off
    let len ← parseUnsigned (2 ^ 64) len
    return (seq, off, len)
  | _ => none

/-- A record in the index. -/
def index (r : Nat × Nat × Nat) (s : FileStore) : FileStore :=
  { s with offsets := s.offsets.insert r.1 r.2 }

/-- Reads the index line by line. -/
def loadHeader : List Bytes → FileM Unit
  | [] => return ()
  | line :: ls =>
    match parseRecord line with
    | none => throw (corrupt "header")
    | some r => do
      keep (index r)
      loadHeader ls

/-- Sets the counters of the cache. -/
def counting (sender target : Nat) (s : FileStore) : FileStore :=
  { s with cache := { s.cache with nextSender := sender, nextTarget := target } }

/-- Reads the counters, if there are any. -/
def loadSeqnums : FileM Unit := do
  touch
  let s ← readToString (·.seqnums)
  match parseSeqnums s with
  | .error e => throw e
  | .ok none => return ()
  | .ok (some (sender, target)) => keep (counting sender target)

/-- Reads the index. -/
def loadIndex : FileM Unit := do
  touch
  let h ← readToString (·.header)
  loadHeader (lines h)

/-- Finds the end of the body. -/
def loadBodyLen : FileM Unit := do
  touch
  let f ← get
  keep fun s => { s with bodyLen := f.disk.body.length }

/-- Sets the creation time. -/
def created (t : UtcTime) (s : FileStore) : FileStore :=
  { s with cache := { s.cache with creationTime := t } }

section

variable [Rfc3339]

/-- Reads the creation time, or stamps the session. -/
def loadSession (now : UtcTime) : FileM Unit := do
  match ← readSession with
  | some ts =>
    match Rfc3339.parseRfc3339 (trim ts) with
    | some t => keep (created t)
    | none => throw (corrupt "session")
  | none =>
    keep (created now)
    writeSession (Rfc3339.toRfc3339 now)

/-- Reads the files. -/
def load (now : UtcTime) : FileM Unit := do
  loadSeqnums
  loadIndex
  loadBodyLen
  loadSession now

/-- `FileStore::open_with_sync`. The files are created when they are not there. -/
def openWithSync (sync : Bool) (now : UtcTime) : FileM Unit := do
  touch
  touch
  touch
  touch
  keep fun _ => { cache := { creationTime := now }, sync := sync }
  load now

end

/-! ## Operations -/

/-- The line of the counters. -/
def seqnumsLine (sender target : Nat) : Bytes := padded 20 sender ++ ascii " : " ++ padded 20 target

/-- Rewrites the counters in place. -/
def writeSeqnums : FileM Unit := do
  touch
  let s ← kept
  let line := seqnumsLine s.cache.nextSender s.cache.nextTarget
  write (fun d => { d with seqnums := overwrite line d.seqnums })
    fun n d => { d with seqnums := overwrite (line.take n) d.seqnums }

/-- Calls that leave the files as they are. -/
def touches : Nat → FileM Unit
  | 0 => return ()
  | n + 1 => do
    touch
    touches n

/-- Flushes files to stable storage: each is cloned, then synced. -/
def fsync (files : Nat) : FileM Unit := do
  let s ← kept
  if s.sync then touches (2 * files)

/-- Sets the counters and writes them. -/
def setCounters (sender target : Nat) : FileM Unit := do
  keep (counting sender target)
  writeSeqnums
  fsync 1

/-- `set_next_sender_seq_num`. -/
def setNextSenderSeqNum (n : Nat) : FileM Unit := do
  let s ← kept
  setCounters n s.cache.nextTarget

/-- `set_next_target_seq_num`. -/
def setNextTargetSeqNum (n : Nat) : FileM Unit := do
  let s ← kept
  setCounters s.cache.nextSender n

/-- `incr_next_sender_seq_num`. -/
def incrNextSenderSeqNum : FileM Unit := do
  let s ← kept
  setNextSenderSeqNum (incremented s.cache.nextSender)

/-- `incr_next_target_seq_num`. -/
def incrNextTargetSeqNum : FileM Unit := do
  let s ← kept
  setNextTargetSeqNum (incremented s.cache.nextTarget)

/-- The line of a record. -/
def recordLine (r : Nat × Nat × Nat) : Bytes :=
  dec r.1 ++ 44 :: (dec r.2.1 ++ 44 :: dec r.2.2)

/-- Appends a message and its record. -/
def saveMessage (seq : Nat) (raw : Bytes) : FileM Unit := do
  let offset := (← kept).bodyLen
  touch
  appendBody raw
  keep fun s => { s with bodyLen := s.bodyLen + raw.length }
  touch
  appendHeader (recordLine (seq, offset, raw.length) ++ [10])
  keep (index (seq, offset, raw.length))
  fsync 2

/-- Reads the messages of records. -/
def readRecords : List (Nat × Nat × Nat) → FileM (List (Nat × Bytes))
  | [] => return []
  | (seq, off, len) :: rs => do
    touch
    let raw ← readExact off len
    let ms ← readRecords rs
    return (seq, raw) :: ms

/-- `get_messages`. -/
def getMessages (b e : Nat) : FileM (List (Nat × Bytes)) := do
  let s ← kept
  readRecords (MemoryStore.range s.offsets b e)

variable [Rfc3339]

/-- Forgets what is in memory and reads the files. -/
def refresh (now : UtcTime) : FileM Unit := do
  keep fun s => { s with offsets := ∅, cache := { creationTime := now } }
  load now

/-- Empties the files, but for the time of the reset and the counters. -/
def reset (now : UtcTime) : FileM Unit := do
  keep fun s => { s with
    cache := (MessageStore.reset now s.cache).2
    offsets := ∅
    bodyLen := 0 }
  truncate fun d => { d with body := [] }
  truncate fun d => { d with header := [] }
  truncate fun d => { d with seqnums := [] }
  writeSession (Rfc3339.toRfc3339 (← kept).cache.creationTime)
  writeSeqnums

instance : MessageStore Files where
  nextSenderSeqNum f := f.store.cache.nextSender
  nextTargetSeqNum f := f.store.cache.nextTarget
  creationTime f := f.store.cache.creationTime
  incrNextSenderSeqNum := incrNextSenderSeqNum
  incrNextTargetSeqNum := incrNextTargetSeqNum
  setNextSenderSeqNum n := setNextSenderSeqNum n
  setNextTargetSeqNum n := setNextTargetSeqNum n
  saveMessage n raw := saveMessage n raw
  getMessages b e := getMessages b e
  refresh now := refresh now
  reset now := reset now

end FileStore

end QuickFix
