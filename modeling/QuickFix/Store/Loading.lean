import QuickFix.Store.Quiet
import QuickFix.Wire.Value

/-!
# Loading the file store

The files a store writes are read back: the counters from their line, the index record by record, the
creation time.
-/

namespace QuickFix

namespace FileStore

/-! ## Text -/

/-- Digits have no byte of another kind. -/
lemma not_mem_dec {b : UInt8} (other : isDigit b = false) (n) : b ∉ dec n := by
  intro mem
  rw [isDigit_of_mem_dec mem] at other
  cases other

/-- Padded numbers hold digits only. -/
lemma not_mem_padded {b : UInt8} (other : isDigit b = false) (width n) : b ∉ padded width n := by
  intro mem
  rw [isDigit_of_mem_padded mem] at other
  cases other

/-- A padded numeral has nothing to trim. -/
lemma trim_padded (width n) : trim (padded width n) = padded width n :=
  trim_eq (fun _ mem => isDigit_of_mem_padded (List.mem_of_mem_head? mem))
    fun _ mem => isDigit_of_mem_padded (List.mem_of_mem_getLast? mem)

/-- The line of the counters has nothing to trim. -/
lemma trim_seqnumsLine (sender target) :
    trim (seqnumsLine sender target) = seqnumsLine sender target := by
  apply trim_eq
  · intro b mem
    rw [seqnumsLine, List.append_assoc, List.head?_append_of_ne_nil _ (padded_ne_nil 20 sender)] at mem
    exact isDigit_of_mem_padded (List.mem_of_mem_head? mem)
  · intro b mem
    rw [seqnumsLine, List.getLast?_append_of_ne_nil _ (padded_ne_nil 20 target)] at mem
    exact isDigit_of_mem_padded (List.mem_of_mem_getLast? mem)

/-- The counters are read back. -/
lemma parseSeqnums_line {sender target} (h : sender < 2 ^ 64) (h' : target < 2 ^ 64) :
    parseSeqnums (seqnumsLine sender target) = .ok (some (sender, target)) := by
  have plain : 32 ∉ padded 20 sender := not_mem_padded (by decide) 20 sender
  have split : splitOnceAt (ascii " : ") (seqnumsLine sender target) =
      some (padded 20 sender, padded 20 target) := splitOnceAt_append plain (padded 20 target)
  rw [parseSeqnums, trim_seqnumsLine, split]
  simp only [trim_padded, parseUnsigned_padded 20 h, parseUnsigned_padded 20 h']

example : (parseSeqnums (seqnumsLine 7 12)).toOption = some (some (7, 12)) := by decide +kernel

/-- No counters are read from an empty file. -/
@[simp] lemma parseSeqnums_nil : parseSeqnums [] = .ok none := rfl

/-- A record of 64-bit numbers. -/
def Fits (r : Nat × Nat × Nat) : Prop := r.1 < 2 ^ 64 ∧ r.2.1 < 2 ^ 64 ∧ r.2.2 < 2 ^ 64

/-- A record is read back. -/
lemma parseRecord_line {r} (fits : Fits r) : parseRecord (recordLine r) = some r := by
  obtain ⟨seq, off, len⟩ := r
  obtain ⟨first, second, third⟩ := fits
  have parts : splitN 44 3 (recordLine (seq, off, len)) = [dec seq, dec off, dec len] :=
    splitN_three (not_mem_dec (by decide) seq) (not_mem_dec (by decide) off) (dec len)
  rw [parseRecord, parts]
  simp only [parseUnsigned_dec first, parseUnsigned_dec second, parseUnsigned_dec third, bind,
    Option.bind, pure]

/-- The bytes of a record. -/
lemma mem_recordLine {r} {b : UInt8} (mem : b ∈ recordLine r) : isDigit b = true ∨ b = 44 := by
  simp only [recordLine, List.mem_append, List.mem_cons] at mem
  rcases mem with mem | rfl | mem | rfl | mem
  · exact .inl (isDigit_of_mem_dec mem)
  · exact .inr rfl
  · exact .inl (isDigit_of_mem_dec mem)
  · exact .inr rfl
  · exact .inl (isDigit_of_mem_dec mem)

/-- A record is one line. -/
lemma recordLine_plain (r) : 10 ∉ recordLine r ∧ (recordLine r).getLast? ≠ some 13 := by
  constructor
  · intro mem
    exact absurd (mem_recordLine mem) (by decide)
  · intro last
    exact absurd (mem_recordLine (List.mem_of_getLast? last)) (by decide)

/-! ## The files of a store -/

/-- The records of the index, line by line. -/
def headerOf (rs : List (Nat × Nat × Nat)) : Bytes := rs.flatMap fun r => recordLine r ++ [10]

/-- The index of records: a later one takes the place of an earlier one with its number. -/
def indexAll (rs : List (Nat × Nat × Nat)) (m : SeqMap (Nat × Nat)) : SeqMap (Nat × Nat) :=
  rs.foldl (fun m r => m.insert r.1 r.2) m

/-- What the files hold: records and counters. Before counters were written they are at their start. -/
structure Holds (d : Disk) (rs : List (Nat × Nat × Nat)) (sender target : Nat) : Prop where
  seqnums : d.seqnums = seqnumsLine sender target ∨ d.seqnums = [] ∧ sender = 1 ∧ target = 1
  header : d.header = headerOf rs
  fits : ∀ r ∈ rs, Fits r
  bounds : sender < 2 ^ 64 ∧ target < 2 ^ 64

/-- The lines of the index. -/
lemma lines_headerOf (rs) : lines (headerOf rs) = rs.map recordLine := by
  have whole := lines_flatMap (fun r => (recordLine_plain r).1) (fun r => (recordLine_plain r).2) rs []
  rw [List.append_nil, lines_nil, List.append_nil] at whole
  exact whole

/-- Digits are ASCII. -/
lemma ascii_of_isDigit {b : UInt8} (h : isDigit b = true) : b ≤ 0x7F := by
  simp only [isDigit, Bool.and_eq_true, decide_eq_true_eq] at h
  exact UInt8.le_trans h.2 (by decide)

/-- The files are text. -/
lemma utf8Valid_headerOf (rs) : utf8Valid (headerOf rs) = true := by
  apply utf8Valid_ascii
  intro b mem
  simp only [headerOf, List.mem_flatMap, List.mem_append, List.mem_singleton] at mem
  obtain ⟨r, -, mem | rfl⟩ := mem
  · rcases mem_recordLine mem with digit | rfl
    · exact ascii_of_isDigit digit
    · decide
  · decide

/-- The line of the counters is text. -/
lemma utf8Valid_seqnumsLine (sender target) : utf8Valid (seqnumsLine sender target) = true := by
  apply utf8Valid_ascii
  intro b mem
  simp only [seqnumsLine, List.mem_append] at mem
  rcases mem with (mem | mem) | mem
  · exact ascii_of_isDigit (isDigit_of_mem_padded mem)
  · have text : (ascii " : ").all (· ≤ 0x7F) = true := rfl
    exact of_decide_eq_true (List.all_eq_true.mp text b mem)
  · exact ascii_of_isDigit (isDigit_of_mem_padded mem)

variable {f : Files} {rs : List (Nat × Nat × Nat)} {sender target : Nat}

/-- The index is read record by record. -/
lemma loadHeader_run (fits : ∀ r ∈ rs, Fits r) : loadHeader (rs.map recordLine) f =
    (.ok (), f.keeping fun s => { s with offsets := indexAll rs s.offsets }) := by
  induction rs generalizing f with
  | nil => rfl
  | cons r rs ih =>
    obtain ⟨here, later⟩ := List.forall_mem_cons.mp fits
    have rest := ih (f := f.keeping (index r)) later
    rw [List.map_cons, loadHeader, parseRecord_line here]
    exact rest

/-- What is loaded from files. -/
def loaded (rs : List (Nat × Nat × Nat)) (sender target : Nat) (t : UtcTime) (d : Disk) (sync : Bool) :
    FileStore where
  cache := { nextSender := sender, nextTarget := target, creationTime := t }
  bodyLen := d.body.length
  offsets := indexAll rs ∅
  sync := sync

/-- A store into which nothing was loaded. -/
structure Unloaded (s : FileStore) : Prop where
  nextSender : s.cache.nextSender = 1
  nextTarget : s.cache.nextTarget = 1
  messages : s.cache.messages = ∅
  capacity : s.cache.capacity = none
  offsets : s.offsets = ∅

/-- Its counters are at their start. -/
lemma Unloaded.counting {s : FileStore} (h : s.Unloaded) : counting 1 1 s = s := by
  obtain ⟨⟨sender, target, t, messages, capacity⟩, bodyLen, offsets, sync⟩ := s
  obtain ⟨rfl, rfl, -⟩ := h
  rfl

/-- The counters are read, or left at their start. -/
lemma loadSeqnums_run (h : f.Quiet) (holds : Holds f.disk rs sender target) (new : Unloaded f.store) :
    loadSeqnums f = (.ok (), ((f.passed id).passed id).keeping (counting sender target)) := by
  have step (text : utf8Valid f.disk.seqnums = true) := readToString_run
    (show (f.passed id).Quiet from h) (show utf8Valid ((f.passed id).disk.seqnums) = true from text)
  rw [loadSeqnums, bind_ok (touch_run h)]
  rcases holds.seqnums with line | ⟨empty, rfl, rfl⟩
  · have read := step (line ▸ utf8Valid_seqnumsLine sender target)
    rw [bind_ok read]
    simp only [Files.passed_disk, id_eq, line, parseSeqnums_line holds.bounds.1 holds.bounds.2,
      keep_run]
  · have read := step (empty ▸ rfl)
    rw [bind_ok read]
    simp only [Files.passed_disk, id_eq, empty, parseSeqnums_nil, pure_run]
    rw [Files.keeping_self (f := (f.passed id).passed id) new.counting]

/-- The index is read. -/
lemma loadIndex_run (h : f.Quiet) (holds : Holds f.disk rs sender target) :
    loadIndex f = (.ok (), ((f.passed id).passed id).keeping fun s =>
      { s with offsets := indexAll rs s.offsets }) := by
  have text : utf8Valid f.disk.header = true := holds.header ▸ utf8Valid_headerOf rs
  simp only [loadIndex, bind_run, touch_run h, readToString_run, Files.quiet_passed, h,
    Files.passed_disk, id_eq, text]
  rw [holds.header, lines_headerOf, loadHeader_run holds.fits]

/-- The end of the body is found. -/
lemma loadBodyLen_run (h : f.Quiet) : loadBodyLen f = (.ok (), (f.passed id).keeping fun s =>
    { s with bodyLen := f.disk.body.length }) := by
  rw [loadBodyLen, bind_ok (touch_run h)]
  rfl

/-- Loading the files of a store, up to the creation time. -/
lemma load_run [Rfc3339] (now) (h : f.Quiet) (holds : Holds f.disk rs sender target)
    (new : Unloaded f.store) :
    ∃ t, load now f = loadSession now t ∧ t.Quiet ∧ t.disk = f.disk ∧
      t.store = loaded rs sender target f.store.cache.creationTime f.disk f.store.sync := by
  let t1 := ((f.passed id).passed id).keeping (counting sender target)
  let t2 := ((t1.passed id).passed id).keeping fun s => { s with offsets := indexAll rs s.offsets }
  have index : loadIndex t1 = (.ok (), t2) := loadIndex_run h holds
  have bodyLen : loadBodyLen t2 = (.ok (), _) := loadBodyLen_run h
  rw [load, bind_ok (loadSeqnums_run h holds new), bind_ok index, bind_ok bodyLen]
  refine ⟨_, rfl, h, rfl, ?_⟩
  show FileStore.mk _ _ (indexAll rs f.store.offsets) _ = _
  rw [new.offsets]
  show FileStore.mk (MemoryStore.mk _ _ _ f.store.cache.messages f.store.cache.capacity) _ _ _ = _
  rw [new.messages, new.capacity]
  rfl

/-! ## Opening and reloading -/

section

variable [Rfc3339] {t : UtcTime}

/-- An instant is read back from what is printed of it. -/
structure ReadsBack (t : UtcTime) : Prop where
  text : utf8Valid (Rfc3339.toRfc3339 t) = true
  parse : Rfc3339.parseRfc3339 (trim (Rfc3339.toRfc3339 t)) = some t

/-- The creation time is read. -/
lemma loadSession_run {now} (h : f.Quiet) (stamped : f.disk.session = some (Rfc3339.toRfc3339 t))
    (back : ReadsBack t) : loadSession now f = (.ok (), (f.passed id).keeping (created t)) := by
  have read : f.disk.session.filter utf8Valid = some (Rfc3339.toRfc3339 t) := by
    rw [stamped, Option.filter, if_pos back.text]
  rw [loadSession, bind_ok (readSession_run h), read]
  simp only [back.parse, keep_run]

/-- Without a session file, it is stamped. -/
lemma loadSession_stamp (h : f.Quiet) (absent : f.disk.session = none) (now) :
    loadSession now f = (.ok (), ((f.passed id).keeping (created now)).passed fun d =>
      { d with session := some (Rfc3339.toRfc3339 now) }) := by
  rw [loadSession, bind_ok (readSession_run h), absent, Option.filter_none]
  simp only [bind_run, keep_run, writeSession, write_run, Files.quiet_keeping, Files.quiet_passed, h]

/-- What the files hold is loaded. -/
lemma load_holds (now) (h : f.Quiet) (holds : Holds f.disk rs sender target) (new : Unloaded f.store)
    (stamped : f.disk.session = some (Rfc3339.toRfc3339 t)) (back : ReadsBack t) :
    ∃ u, load now f = (.ok (), u) ∧ u.Quiet ∧ u.disk = f.disk ∧
      u.store = loaded rs sender target t f.disk f.store.sync := by
  obtain ⟨u, eq, quiet, disk, store⟩ := load_run now h holds new
  rw [← disk] at stamped
  rw [eq, loadSession_run quiet stamped back]
  refine ⟨_, rfl, quiet, disk, ?_⟩
  rw [Files.keeping_store, Files.passed_store, store]
  rfl

/-- Opening the files of a store. -/
lemma open_holds (sync now) (h : f.Quiet) (holds : Holds f.disk rs sender target)
    (stamped : f.disk.session = some (Rfc3339.toRfc3339 t)) (back : ReadsBack t) :
    ∃ u, openWithSync sync now f = (.ok (), u) ∧ u.Quiet ∧ u.disk = f.disk ∧
      u.store = loaded rs sender target t f.disk sync := by
  let g := ((((f.passed id).passed id).passed id).passed id).keeping fun _ =>
    { cache := { creationTime := now }, sync := sync }
  have new : Unloaded g.store := ⟨rfl, rfl, rfl, rfl, rfl⟩
  have opening : openWithSync sync now f = load now g := by
    simp only [openWithSync, bind_run, touch_run, keep_run, Files.quiet_passed, h]
    rfl
  rw [opening]
  exact load_holds (f := g) now h holds new stamped back

/-- Opening a store in an empty directory. -/
lemma open_empty (sync now) (h : f.Quiet) (empty : f.disk = {}) :
    ∃ u, openWithSync sync now f = (.ok (), u) ∧ u.Quiet ∧
      u.disk = { session := some (Rfc3339.toRfc3339 now) } ∧
      u.store = loaded [] 1 1 now u.disk sync := by
  let g := ((((f.passed id).passed id).passed id).passed id).keeping fun _ =>
    { cache := { creationTime := now }, sync := sync }
  have new : Unloaded g.store := ⟨rfl, rfl, rfl, rfl, rfl⟩
  have holds : Holds g.disk [] 1 1 := by
    rw [show g.disk = {} from empty]
    exact ⟨.inr ⟨rfl, rfl, rfl⟩, rfl, by simp, by decide⟩
  have opening : openWithSync sync now f = load now g := by
    simp only [openWithSync, bind_run, touch_run, keep_run, Files.quiet_passed, h]
    rfl
  obtain ⟨u, eq, quiet, disk, store⟩ := load_run (f := g) now h holds new
  have disk : u.disk = {} := disk.trans empty
  rw [opening, eq, loadSession_stamp quiet (by rw [disk])]
  refine ⟨_, rfl, quiet, ?_, ?_⟩
  · rw [Files.passed_disk, Files.keeping_disk, Files.passed_disk, id_eq, disk]
  · show created now u.store = loaded [] 1 1 now { u.disk with session := _ } sync
    rw [store, disk, show g.disk = {} from empty]
    rfl

/-- Reloading the files of a store. -/
lemma refresh_holds (now) (h : f.Quiet) (holds : Holds f.disk rs sender target)
    (stamped : f.disk.session = some (Rfc3339.toRfc3339 t)) (back : ReadsBack t) :
    ∃ u, refresh now f = (.ok (), u) ∧ u.Quiet ∧ u.disk = f.disk ∧
      u.store = loaded rs sender target t f.disk f.store.sync := by
  let g := f.keeping fun s => { s with offsets := ∅, cache := { creationTime := now } }
  have new : Unloaded g.store := ⟨rfl, rfl, rfl, rfl, rfl⟩
  rw [refresh, bind_ok (keep_run _)]
  exact load_holds (f := g) now h holds new stamped back

end

end FileStore

end QuickFix
