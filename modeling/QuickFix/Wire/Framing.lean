import QuickFix.Lib.Framer
import QuickFix.Wire.Message

/-!
# Stream framing

Model of `src/parser.rs`, which carves messages out of a byte stream, and of the read loop of
`src/transport.rs`. Garbage before `8=` is dropped, BodyLength(9) jumps the body, and the CheckSum
field ends the frame. The frames do not depend on how the stream was cut into reads
(`readTask_chunks`), and serialized messages come out as they went in (`readTask_serialized`).
-/

namespace QuickFix

/-! ## Extraction -/

/-- The position of the first window equal to a non-empty needle. -/
def find (needle : Bytes) : Bytes → Option Nat
  | [] => none
  | b :: bs => if needle.isPrefixOf (b :: bs) then some 0 else (find needle bs).map (· + 1)

/-- Drops everything before `8=`. Where there is none, only a trailing `8` is kept, in case `=`
arrives next. -/
def resync (buf : Bytes) : Except Bytes Bytes :=
  match find (ascii "8=") buf with
  | some start => .ok (buf.drop start)
  | none =>
    let keep := if buf.getLast? = some 56 then 1 else 0
    .error (buf.drop (buf.length - keep))

/-- What stands at the head of a buffer that starts with `8=`. -/
inductive Head where
  /-- A message that ends at the offset. -/
  | message (stop : Nat)
  /-- The head of a message, to be skipped. -/
  | garbled
  /-- More bytes are needed. -/
  | incomplete
  deriving DecidableEq

/-- Reads `8=…<SOH>9=<len><SOH>`, jumps the body and searches forward for `<SOH>10=…<SOH>`. -/
def frameHead (buf : Bytes) : Head :=
  match find [soh] buf with
  | none => .incomplete
  | some soh1 =>
    let afterBegin := soh1 + 1
    if buf.length < afterBegin + 2 then .incomplete
    else if (buf.drop afterBegin).take 2 ≠ ascii "9=" then .garbled
    else
      let lenStart := afterBegin + 2
      match find [soh] (buf.drop lenStart) with
      | none => .incomplete
      | some relSoh2 =>
        match parseUnsigned (2 ^ 64) ((buf.drop lenStart).take relSoh2) with
        | none => .garbled
        | some bodyLen =>
          let bodyStart := lenStart + relSoh2 + 1
          let searchFrom := bodyStart + bodyLen - 1
          if buf.length ≤ searchFrom then .incomplete
          else
            match find (soh :: ascii "10=") (buf.drop searchFrom) with
            | none => .incomplete
            | some relCs =>
              let afterCsTag := searchFrom + relCs + 4
              match find [soh] (buf.drop afterCsTag) with
              | none => .incomplete
              | some relEnd => .message (afterCsTag + relEnd + 1)

/-! ## Searching -/

/-- A needle stands where it was found. -/
lemma find_spec {needle bs i} (h : find needle bs = some i) : needle <+: bs.drop i ∧ i < bs.length := by
  induction bs generalizing i with
  | nil => cases h
  | cons b bs ih =>
    rw [find] at h
    split at h
    case isTrue here =>
      cases h
      exact ⟨List.isPrefixOf_iff_prefix.mp here, by simp⟩
    case isFalse =>
      obtain ⟨j, found, rfl⟩ := Option.map_eq_some_iff.mp h
      obtain ⟨here, lt⟩ := ih found
      exact ⟨by simpa using here, by simpa using lt⟩

/-- A needle found ends within the bytes. -/
lemma find_le {needle bs i} (h : find needle bs = some i) : i + needle.length ≤ bs.length := by
  obtain ⟨here, lt⟩ := find_spec h
  have le := here.length_le
  rw [List.length_drop] at le
  omega

/-- A needle found is found with more bytes present. -/
lemma find_append {needle bs i} (more) (h : find needle bs = some i) :
    find needle (bs ++ more) = some i := by
  induction bs generalizing i with
  | nil => cases h
  | cons b bs ih =>
    rw [find] at h
    rw [List.cons_append, find, ← List.cons_append]
    split at h
    case isTrue here =>
      have here : needle <+: b :: bs := List.isPrefixOf_iff_prefix.mp here
      rw [if_pos (List.isPrefixOf_iff_prefix.mpr (here.trans (List.prefix_append (b :: bs) more)))]
      exact h
    case isFalse away =>
      obtain ⟨j, found, rfl⟩ := Option.map_eq_some_iff.mp h
      rw [if_neg, ih found, Option.map_some]
      intro here
      -- the needle fits into the bytes without the others, since it is found in them further on
      have fits : needle.length ≤ (b :: bs).length := by
        have le := find_le found
        simp only [List.length_cons]
        omega
      have here : needle <+: (b :: bs) ++ more := List.isPrefixOf_iff_prefix.mp here
      have inside := List.prefix_of_prefix_length_le here (List.prefix_append (b :: bs) more) fits
      exact away (List.isPrefixOf_iff_prefix.mpr inside)

/-- A needle is not found exactly where it does not occur. -/
lemma find_eq_none {needle bs} (ne : needle ≠ []) : find needle bs = none ↔ ¬ needle <:+: bs := by
  induction bs with
  | nil => simp [find, ne]
  | cons b bs ih =>
    rw [find, List.infix_cons_iff, ← List.isPrefixOf_iff_prefix, not_or]
    split
    case isTrue here => simp [here]
    case isFalse away => simp [away, ih]

/-- A pair of bytes that does not stand in the first part, nor across its end, is found in the
second. -/
lemma find_pair_append {a b : UInt8} {pre} (more) (absent : find [a, b] pre = none)
    (apart : pre.getLast? = some a → more.head? ≠ some b) :
    find [a, b] (pre ++ more) = (find [a, b] more).map (· + pre.length) := by
  induction pre with
  | nil => simp
  | cons c cs ih =>
    rw [find] at absent
    split at absent
    case isTrue => cases absent
    case isFalse away =>
      have absent : find [a, b] cs = none := Option.map_eq_none_iff.mp absent
      have step : ¬ [a, b].isPrefixOf (c :: (cs ++ more)) = true := by
        cases cs with
        | nil =>
          intro across
          obtain ⟨rfl, next⟩ := by simpa using across
          exact apart rfl (List.head?_eq_some_iff.mpr (next.imp fun _ => Eq.symm))
        | cons d ds => simpa using away
      rw [List.cons_append, find, if_neg step, ih absent, Option.map_map]
      · rfl
      · intro last
        apply apart
        cases cs with
        | nil => cases last
        | cons d ds => simpa using last

/-! ## Deciding early -/

/-- What is kept of bytes without `8=`. -/
def kept (buf : Bytes) : Bytes := if buf.getLast? = some 56 then [56] else []

/-- Bytes without `8=` are dropped up to a trailing `8`. -/
lemma resync_none {buf} (h : find (ascii "8=") buf = none) : resync buf = .error (kept buf) := by
  simp only [resync, h, kept]
  split
  case isTrue last =>
    obtain ⟨init, rfl⟩ := List.getLast?_eq_some_iff.mp last
    simp
  case isFalse => simp

/-- Bytes that start with `8=` are kept whole. -/
lemma resync_self {buf} (h : ascii "8=" <+: buf) : resync buf = .ok buf := by
  obtain ⟨rest, rfl⟩ := h
  rfl

/-- What `resync` keeps starts with `8=`. -/
lemma resync_tail {buf rest} (h : resync buf = .ok rest) :
    ascii "8=" <+: rest ∧ rest.length ≤ buf.length := by
  rw [resync] at h
  split at h
  case h_1 start found =>
    cases h
    exact ⟨(find_spec found).1, by simp⟩
  case h_2 => cases h

/-- `resync` drops the same with more bytes present. -/
lemma resync_append {buf rest} (more) (h : resync buf = .ok rest) :
    resync (buf ++ more) = .ok (rest ++ more) := by
  rw [resync] at h ⊢
  split at h
  case h_1 start found =>
    cases h
    have le := (find_spec found).2.le
    simp [find_append more found, List.drop_append_of_le_length le]
  case h_2 => cases h

/-- `resync` skips bytes that `8=` neither stands in nor reaches into. -/
lemma resync_skip {pre more}
    (shift : find (ascii "8=") (pre ++ more) = (find (ascii "8=") more).map (· + pre.length))
    (last : kept (pre ++ more) = kept more) : resync (pre ++ more) = resync more := by
  cases found : find (ascii "8=") more with
  | some start =>
    have drops : (pre ++ more).drop (start + pre.length) = more.drop start := by
      rw [Nat.add_comm, List.drop_length_add_append]
    simp [resync, shift, found, drops]
  | none =>
    rw [found] at shift
    rw [resync_none shift, resync_none found, last]

/-- What `resync` drops while it waits could not have become part of `8=`. -/
lemma resync_waiting {buf rest} (more) (h : resync buf = .error rest) :
    resync (buf ++ more) = resync (rest ++ more) := by
  cases found : find (ascii "8=") buf with
  | some start => simp [resync, found] at h
  | none =>
    rw [resync_none found] at h
    cases h
    rw [kept]
    split
    case isTrue last =>
      obtain ⟨init, rfl⟩ := List.getLast?_eq_some_iff.mp last
      rw [List.append_assoc]
      have absent : find (ascii "8=") init = none := by
        rw [find_eq_none (by decide)] at found ⊢
        exact fun inside => found (inside.trans (List.prefix_append _ _).isInfix)
      apply resync_skip
      · exact find_pair_append (b := 61) _ absent (by simp)
      · simp [kept, List.getLast?_append]
    case isFalse last =>
      apply resync_skip
      · exact find_pair_append _ found fun eq => absurd eq last
      · cases more with
        | nil => simp [kept, last]
        | cons b bs => simp [kept, List.getLast?_append]

/-- Bytes that end within the buffer are the same with more bytes present. -/
lemma slice_append {buf more : Bytes} {i n} (h : i + n ≤ buf.length) :
    ((buf ++ more).drop i).take n = (buf.drop i).take n := by
  rw [List.drop_append_of_le_length (by omega), List.take_append_of_le_length]
  rw [List.length_drop]
  omega

/-- A needle found from an offset on is found there with more bytes present. -/
lemma find_drop_append {needle buf : Bytes} {i j} (more) (ne : needle ≠ [])
    (h : find needle (buf.drop i) = some j) :
    find needle ((buf ++ more).drop i) = some j ∧ i + j + needle.length ≤ buf.length := by
  have le := find_le h
  rw [List.length_drop] at le
  have pos := List.length_pos_of_ne_nil ne
  rw [List.drop_append_of_le_length (by omega)]
  exact ⟨find_append more h, by omega⟩

/-- What stands at the head is decided the same with more bytes present. -/
lemma frameHead_append {buf} (more) (ne : frameHead buf ≠ .incomplete) :
    frameHead (buf ++ more) = frameHead buf := by
  unfold frameHead at ne ⊢
  cases begin : find [soh] buf with
  | none => simp [begin] at ne
  | some soh1 =>
    rw [find_append more begin]
    simp only [begin] at ne ⊢
    by_cases short : buf.length < soh1 + 1 + 2
    · simp [short] at ne
    have long : ¬ (buf ++ more).length < soh1 + 1 + 2 := by
      rw [List.length_append]
      omega
    rw [if_neg short] at ne
    rw [if_neg short, if_neg long, slice_append (by omega)]
    by_cases tag : (buf.drop (soh1 + 1)).take 2 ≠ ascii "9="
    · rw [if_pos tag, if_pos tag]
    rw [if_neg tag] at ne
    rw [if_neg tag, if_neg tag]
    cases len : find [soh] (buf.drop (soh1 + 1 + 2)) with
    | none => simp [len] at ne
    | some relSoh2 =>
      obtain ⟨len', le⟩ := find_drop_append more (by simp) len
      have fits : soh1 + 1 + 2 + relSoh2 ≤ buf.length := Nat.le_of_succ_le le
      simp only [len, len', slice_append fits] at ne ⊢
      cases declared : parseUnsigned (2 ^ 64) ((buf.drop (soh1 + 1 + 2)).take relSoh2) with
      | none => rfl
      | some bodyLen =>
        simp only [declared] at ne ⊢
        generalize soh1 + 1 + 2 + relSoh2 + 1 + bodyLen - 1 = searchFrom at ne ⊢
        by_cases beyond : buf.length ≤ searchFrom
        · simp [beyond] at ne
        rw [if_neg beyond] at ne
        rw [if_neg beyond, if_neg (by rw [List.length_append]; omega)]
        cases sum : find (soh :: ascii "10=") (buf.drop searchFrom) with
        | none => simp [sum] at ne
        | some relCs =>
          rw [(find_drop_append more (by simp) sum).1]
          simp only [sum] at ne ⊢
          cases stop : find [soh] (buf.drop (searchFrom + relCs + 4)) with
          | none => simp [stop] at ne
          | some relEnd => rw [(find_drop_append more (by simp) stop).1]

/-- A message at the head has bytes, and ends within the buffer. -/
lemma frameHead_bounds {buf stop} (h : frameHead buf = .message stop) :
    0 < stop ∧ stop ≤ buf.length := by
  simp only [frameHead] at h
  split at h
  case h_1 => cases h
  split at h
  case isTrue => cases h
  split at h
  case isTrue => cases h
  split at h
  case h_1 => cases h
  split at h
  case h_1 => cases h
  split at h
  case isTrue => cases h
  split at h
  case h_1 => cases h
  split at h
  case h_1 => cases h
  case h_2 relEnd found =>
    cases h
    have le := (find_drop_append [] (by simp) found).2
    simp only [List.length_singleton] at le
    omega

/-! ## Frames -/

/-- Takes the next complete message off the buffer, with any garbage before it; none where more
bytes are needed. Garbled heads are skipped and scanning resumes at the next `8=`. -/
def extractFrame (buf : Bytes) : Option Bytes × Bytes :=
  match _sync : resync buf with
  | .error rest => (none, rest)
  | .ok buf' =>
    match frameHead buf' with
    | .message stop => (some (buf'.take stop), buf'.drop stop)
    | .incomplete => (none, buf')
    | .garbled => extractFrame (buf'.drop 2)
termination_by buf.length
decreasing_by
  obtain ⟨⟨rest, rfl⟩, le⟩ := resync_tail _sync
  simp [ascii] at le ⊢
  omega

/-- Nothing is taken off a buffer without `8=`. -/
lemma extractFrame_error {buf rest} (sync : resync buf = .error rest) :
    extractFrame buf = (none, rest) := by
  rw [extractFrame]
  split
  case h_1 rest' sync' =>
    rw [sync] at sync'
    cases sync'
    rfl
  case h_2 buf' sync' =>
    rw [sync] at sync'
    cases sync'

/-- What is taken off a buffer depends on what stands at its first `8=`. -/
lemma extractFrame_ok {buf buf'} (sync : resync buf = .ok buf') :
    extractFrame buf =
      match frameHead buf' with
      | .message stop => (some (buf'.take stop), buf'.drop stop)
      | .incomplete => (none, buf')
      | .garbled => extractFrame (buf'.drop 2) := by
  rw [extractFrame]
  split
  case h_1 rest sync' =>
    rw [sync] at sync'
    cases sync'
  case h_2 buf'' sync' =>
    rw [sync] at sync'
    cases sync'
    rfl

/-- What is taken off a buffer does not depend on what `resync` drops. -/
lemma extractFrame_congr {a b} (sync : resync a = resync b) : extractFrame a = extractFrame b := by
  cases eq : resync b with
  | error rest => rw [extractFrame_error eq, extractFrame_error (sync.trans eq)]
  | ok buf' => rw [extractFrame_ok eq, extractFrame_ok (sync.trans eq)]

/-- A message that was taken off the buffer made it shorter. -/
lemma extractFrame_shrinks {buf raw rest} (h : extractFrame buf = (some raw, rest)) :
    rest.length < buf.length := by
  induction buf using extractFrame.induct with
  | case1 buf rest' sync =>
    rw [extractFrame_error sync] at h
    cases h
  | case2 buf buf' sync stop head =>
    rw [extractFrame_ok sync, head] at h
    cases h
    have bounds := frameHead_bounds head
    have le := (resync_tail sync).2
    rw [List.length_drop]
    omega
  | case3 buf buf' sync head =>
    rw [extractFrame_ok sync, head] at h
    cases h
  | case4 buf buf' sync head ih =>
    rw [extractFrame_ok sync, head] at h
    have lt := ih h
    have le := (resync_tail sync).2
    rw [List.length_drop] at lt
    omega

/-- A message is taken off whatever comes after it. -/
lemma extractFrame_found {buf raw rest} (more) (h : extractFrame buf = (some raw, rest)) :
    extractFrame (buf ++ more) = (some raw, rest ++ more) := by
  induction buf using extractFrame.induct with
  | case1 buf rest' sync =>
    rw [extractFrame_error sync] at h
    cases h
  | case2 buf buf' sync stop head =>
    rw [extractFrame_ok sync, head] at h
    cases h
    have le := (frameHead_bounds head).2
    rw [extractFrame_ok (resync_append more sync), frameHead_append more (by simp [head]), head]
    simp only [List.take_append_of_le_length le, List.drop_append_of_le_length le]
  | case3 buf buf' sync head =>
    rw [extractFrame_ok sync, head] at h
    cases h
  | case4 buf buf' sync head ih =>
    rw [extractFrame_ok sync, head] at h
    have le : 2 ≤ buf'.length := (resync_tail sync).1.length_le
    rw [extractFrame_ok (resync_append more sync), frameHead_append more (by simp [head]), head]
    simp only [List.drop_append_of_le_length le]
    exact ih h

/-- What is dropped while waiting could not have become part of a message. -/
lemma extractFrame_waiting {buf rest} (more) (h : extractFrame buf = (none, rest)) :
    extractFrame (buf ++ more) = extractFrame (rest ++ more) := by
  induction buf using extractFrame.induct with
  | case1 buf rest' sync =>
    rw [extractFrame_error sync] at h
    cases h
    exact extractFrame_congr (resync_waiting more sync)
  | case2 buf buf' sync stop head =>
    rw [extractFrame_ok sync, head] at h
    cases h
  | case3 buf buf' sync head =>
    rw [extractFrame_ok sync, head] at h
    cases h
    apply extractFrame_congr
    rw [resync_append more sync, resync_append more (resync_self (resync_tail sync).1)]
  | case4 buf buf' sync head ih =>
    rw [extractFrame_ok sync, head] at h
    have le : 2 ≤ buf'.length := (resync_tail sync).1.length_le
    rw [extractFrame_ok (resync_append more sync), frameHead_append more (by simp [head]), head]
    simp only [List.drop_append_of_le_length le]
    exact ih h

/-- The framer of the read loop. -/
def framer : Framer UInt8 Bytes where
  extract := extractFrame
  shrinks := extractFrame_shrinks
  found := extractFrame_found
  waiting := extractFrame_waiting

/-- The messages the read loop hands over, and what its buffer then holds: it starts with the bytes
left over from identifying the peer, and appends one chunk for each read. -/
def readTask (leftover : Bytes) (reads : List Bytes) : List Bytes × Bytes :=
  framer.feed leftover reads

/-- However a stream is cut into reads, the same messages are handed over and the same bytes are
left. -/
theorem readTask_chunks {leftover leftover' : Bytes} {reads reads' : List Bytes}
    (same : leftover ++ reads.flatten = leftover' ++ reads'.flatten) :
    readTask leftover reads = readTask leftover' reads' := by
  rw [readTask, readTask, Framer.feed_eq, Framer.feed_eq, same]

/-- A Heartbeat. -/
def streamedBeat : Bytes := (Message.withType MsgType.heartbeat).toBytes

/-- Two Heartbeats with noise between them come out byte by byte as in one piece. -/
theorem readTask_chunks_bytewise :
    readTask [] ((streamedBeat ++ 120 :: streamedBeat ++ ascii "8=").map ([·])) =
      ([streamedBeat, streamedBeat], ascii "8=") := by
  have whole : readTask (streamedBeat ++ [120]) [streamedBeat ++ ascii "8="] =
      ([streamedBeat, streamedBeat], ascii "8=") := by decide +kernel
  exact (readTask_chunks (by decide +kernel)).trans whole

/-! ## Serialized messages -/

/-- A byte is found where it stands first. -/
lemma find_byte {b : UInt8} {bs} (rest) (first : b ∉ bs) : find [b] (bs ++ b :: rest) = some bs.length := by
  induction bs with
  | nil => simp [find]
  | cons c cs ih =>
    simp only [List.mem_cons, not_or] at first
    simp [find, first.1, ih first.2]

/-- A numeral has no delimiter. -/
lemma soh_not_mem_dec (n) : soh ∉ dec n := fun mem => absurd (isDigit_of_mem_dec mem) (by decide)

/-- A padded numeral has no delimiter. -/
lemma soh_not_mem_padded (width n) : soh ∉ padded width n :=
  fun mem => absurd (isDigit_of_mem_padded mem) (by decide)

/-- Reads a head up to its BodyLength. -/
lemma frameHead_body {begin n : Nat} {buf digits rest : Bytes} (soh1 : find [soh] buf = some begin)
    (length : buf.drop (begin + 1) = ascii "9=" ++ (digits ++ soh :: rest)) (plain : soh ∉ digits)
    (declared : parseUnsigned (2 ^ 64) digits = some n) :
    frameHead buf =
      let searchFrom := begin + 1 + 2 + digits.length + 1 + n - 1
      if buf.length ≤ searchFrom then .incomplete
      else
        match find (soh :: ascii "10=") (buf.drop searchFrom) with
        | none => .incomplete
        | some relCs =>
          match find [soh] (buf.drop (searchFrom + relCs + 4)) with
          | none => .incomplete
          | some relEnd => .message (searchFrom + relCs + 4 + relEnd + 1) := by
  have long : ¬ buf.length < begin + 1 + 2 := by
    have size := congrArg List.length length
    simp [ascii] at size
    omega
  have after : buf.drop (begin + 1 + 2) = digits ++ soh :: rest := by
    rw [← List.drop_drop, length]
    rfl
  have tag : (ascii "9=" ++ (digits ++ soh :: rest)).take 2 = ascii "9=" := rfl
  simp only [frameHead, soh1, if_neg long, length, tag, after, find_byte rest plain,
    List.take_left, declared, ne_eq, not_true, if_false]

/-- A body that is closed by a delimiter, like the field before it, ends at the CheckSum field. -/
lemma frameHead_sum {start : Nat} {buf sum more : Bytes}
    (checksum : buf.drop start = soh :: ascii "10=" ++ (sum ++ soh :: more)) (digits : soh ∉ sum) :
    find (soh :: ascii "10=") (buf.drop start) = some 0 ∧
      find [soh] (buf.drop (start + 0 + 4)) = some sum.length := by
  have after : buf.drop (start + 0 + 4) = sum ++ soh :: more := by
    rw [← List.drop_drop, Nat.add_zero, checksum]
    rfl
  exact ⟨checksum ▸ rfl, after ▸ find_byte more digits⟩

/-- A head whose BodyLength is right ends at its CheckSum field. -/
lemma frameHead_layout {start digits body init sum : Bytes} (more) (plain : soh ∉ start)
    (number : soh ∉ digits) (declared : parseUnsigned (2 ^ 64) digits = some body.length)
    (closed : soh :: body = init ++ [soh]) (plainSum : soh ∉ sum) :
    frameHead (start ++ soh :: (ascii "9=" ++ (digits ++ soh :: body)) ++
      (ascii "10=" ++ (sum ++ [soh])) ++ more) =
    .message (start ++ soh :: (ascii "9=" ++ (digits ++ soh :: body)) ++
      (ascii "10=" ++ (sum ++ [soh]))).length := by
  have size : body.length = init.length := by simpa using congrArg List.length closed
  have tail (rest : Bytes) : soh :: (body ++ rest) = init ++ soh :: rest := by
    rw [← List.cons_append, closed, List.append_assoc]
    rfl
  generalize whole : start ++ soh :: (ascii "9=" ++ (digits ++ soh :: body)) ++
    (ascii "10=" ++ (sum ++ [soh])) ++ more = buf
  replace whole : start ++ soh :: (ascii "9=" ++ (digits ++ soh :: (body ++
      (ascii "10=" ++ (sum ++ soh :: more))))) = buf := by
    rw [← whole]
    simp
  have soh1 : find [soh] buf = some start.length := whole ▸ find_byte _ plain
  have length : buf.drop (start.length + 1) = ascii "9=" ++ (digits ++ soh :: (body ++
      (ascii "10=" ++ (sum ++ soh :: more)))) := by
    rw [← whole, List.drop_length_add_append]
    rfl
  have checksum : buf.drop (start.length + 1 + 2 + digits.length + init.length) =
      soh :: ascii "10=" ++ (sum ++ soh :: more) := by
    rw [tail] at length
    rw [show start.length + 1 + 2 + digits.length + init.length =
      start.length + 1 + (ascii "9=" ++ digits ++ init).length by simp [ascii]; omega,
      ← List.drop_drop, length, ← List.append_assoc, ← List.append_assoc, List.drop_left]
    rfl
  have here : ¬ buf.length ≤ start.length + 1 + 2 + digits.length + init.length := by
    intro beyond
    rw [List.drop_eq_nil_of_le beyond] at checksum
    cases checksum
  have jump : start.length + 1 + 2 + digits.length + 1 + body.length - 1 =
      start.length + 1 + 2 + digits.length + init.length := by omega
  obtain ⟨found, ends⟩ := frameHead_sum checksum plainSum
  simp only [frameHead_body soh1 length number declared, jump, if_neg here, found, ends]
  congr 1
  simp [ascii]
  omega

/-- Fields after a delimiter end with one. -/
lemma writeTo_closed (fm : FieldMap) : ∃ init, soh :: fm.writeTo = init ++ [soh] := by
  obtain ⟨fs⟩ := fm
  cases fs using List.reverseRecOn with
  | nil => exact ⟨[], rfl⟩
  | append_singleton fs f =>
    exact ⟨soh :: FieldMap.writeTo ⟨fs⟩ ++ itoa f.tag ++ 61 :: f.value, by
      simp [FieldMap.writeTo, writeTagValue]⟩

namespace Message

variable {m : Message}

/-- The BeginString a message is written with. -/
def beginBytes (m : Message) : Bytes := (m.header.getRaw Tags.beginString).getD (ascii "FIX.4.4")

/-- The bytes of a serialized message, field by field. -/
lemma toBytes_eq (m : Message) :
    m.toBytes = ascii "8=" ++ m.beginBytes ++ soh :: (ascii "9=" ++ (dec m.inner.length ++ soh ::
      m.inner)) ++ (ascii "10=" ++ (padded 3 (checksum m.prefixBytes) ++ [soh])) := by
  have begins : m.prefixBytes = ascii "8=" ++ m.beginBytes ++ soh :: (ascii "9=" ++
      (dec m.inner.length ++ soh :: m.inner)) := by
    simp [prefixBytes, beginBytes, writeTagValue, show itoa 8 = ascii "8" from rfl,
      show itoa 9 = ascii "9" from rfl, show ascii "8=" = ascii "8" ++ [61] from rfl,
      show ascii "9=" = ascii "9" ++ [61] from rfl]
  rw [toBytes, begins]
  simp [writeTagValue, show itoa 10 = ascii "10" from rfl,
    show ascii "10=" = ascii "10" ++ [61] from rfl]

/-- Where a BeginString that was set has no delimiter, none is written. -/
lemma beginBytes_plain (plain : ∀ v, m.header.getRaw Tags.beginString = some v → soh ∉ v) :
    soh ∉ ascii "8=" ++ m.beginBytes := by
  rw [List.mem_append, not_or, beginBytes]
  refine ⟨by decide, ?_⟩
  cases set : m.header.getRaw Tags.beginString with
  | none => decide
  | some v => exact plain v set

/-- A serialized message stands at the head of a buffer that starts with it. -/
theorem frameHead_toBytes (more)
    (plain : ∀ v, m.header.getRaw Tags.beginString = some v → soh ∉ v)
    (fits : m.toBytes.length < 2 ^ 63) :
    frameHead (m.toBytes ++ more) = .message m.toBytes.length := by
  have begin := beginBytes_plain plain
  have sum := soh_not_mem_padded 3 (checksum m.prefixBytes)
  obtain ⟨init, closed⟩ := writeTo_closed ⟨m.innerFields⟩
  have bounded : m.inner.length < 2 ^ 64 := by
    rw [toBytes_eq] at fits
    simp only [List.length_append, List.length_cons] at fits
    omega
  rw [toBytes_eq]
  exact frameHead_layout more begin (soh_not_mem_dec _) (parseUnsigned_dec bounded) closed sum

/-- A serialized message starts with `8=`. -/
lemma toBytes_prefix (m : Message) : ascii "8=" <+: m.toBytes := by
  rw [toBytes_eq]
  simp only [List.append_assoc]
  exact List.prefix_append _ _

end Message

/-- Garbage without `8=` is dropped before a message. -/
lemma resync_garbage {garbage buf} (plain : ¬ ascii "8=" <:+: garbage) (start : ascii "8=" <+: buf) :
    resync (garbage ++ buf) = .ok buf := by
  have absent := (find_eq_none (by decide)).mpr plain
  obtain ⟨rest, rfl⟩ := start
  have shift := find_pair_append (a := 56) (b := 61) (ascii "8=" ++ rest) absent fun _ =>
    show some (56 : UInt8) ≠ some 61 by decide
  have found : find (ascii "8=") (garbage ++ (ascii "8=" ++ rest)) = some garbage.length := by
    apply shift.trans
    exact congrArg some (Nat.zero_add _)
  simp only [resync, found, List.drop_left]

/-- A message after garbage is taken off the buffer. -/
lemma extractFrame_toBytes {garbage} {m : Message} (more) (noise : ¬ ascii "8=" <:+: garbage)
    (plain : ∀ v, m.header.getRaw Tags.beginString = some v → soh ∉ v)
    (fits : m.toBytes.length < 2 ^ 63) :
    extractFrame (garbage ++ m.toBytes ++ more) = (some m.toBytes, more) := by
  have sync := resync_append more (resync_garbage noise m.toBytes_prefix)
  rw [extractFrame_ok sync, m.frameHead_toBytes more plain fits]
  simp

example : extractFrame (ascii "noise" ++ streamedBeat ++ ascii "8=") = (some streamedBeat, ascii "8=") := by
  decide +kernel

/-- Draining a stream of messages, each after garbage, yields the messages. -/
lemma drain_serialized {segments : List (Bytes × Message)}
    (noise : ∀ s ∈ segments, ¬ ascii "8=" <:+: s.1)
    (plain : ∀ s ∈ segments, ∀ v, s.2.header.getRaw Tags.beginString = some v → soh ∉ v)
    (fits : ∀ s ∈ segments, s.2.toBytes.length < 2 ^ 63) :
    framer.drain (segments.flatMap fun s => s.1 ++ s.2.toBytes) =
      (segments.map (·.2.toBytes), []) := by
  induction segments with
  | nil => exact Framer.drain_waiting (F := framer) (extractFrame_error rfl)
  | cons s segments ih =>
    obtain ⟨noise, noises⟩ := List.forall_mem_cons.mp noise
    obtain ⟨plain, plains⟩ := List.forall_mem_cons.mp plain
    obtain ⟨fit, fits⟩ := List.forall_mem_cons.mp fits
    have first : framer.extract (s.1 ++ s.2.toBytes ++ _) = _ :=
      extractFrame_toBytes (segments.flatMap fun s => s.1 ++ s.2.toBytes) noise plain fit
    rw [List.flatMap_cons, Framer.drain_found first, ih noises plains fits]
    rfl

/-- Framing undoes serialization: whatever garbage without `8=` stands before each message, and
however the stream is cut into reads, the serialized messages are handed over as they are. No
message is longer than a byte vector of the source can be. -/
theorem readTask_serialized {segments : List (Bytes × Message)} {leftover : Bytes}
    {reads : List Bytes} (noise : ∀ s ∈ segments, ¬ ascii "8=" <:+: s.1)
    (plain : ∀ s ∈ segments, ∀ v, s.2.header.getRaw Tags.beginString = some v → soh ∉ v)
    (fits : ∀ s ∈ segments, s.2.toBytes.length < 2 ^ 63)
    (stream : leftover ++ reads.flatten = segments.flatMap fun s => s.1 ++ s.2.toBytes) :
    readTask leftover reads = (segments.map (·.2.toBytes), []) := by
  rw [readTask, Framer.feed_eq, stream]
  exact drain_serialized noise plain fits

/-- A Heartbeat and a Logout after noise, read in two pieces, the first of which ends inside `8=`. -/
theorem readTask_serialized_split :
    readTask [] [ascii "noise" ++ (Message.withType MsgType.heartbeat).toBytes ++ ascii "88",
      ascii "=" ++ (Message.withType MsgType.logout).toBytes.drop 2] =
    ([(Message.withType MsgType.heartbeat).toBytes, (Message.withType MsgType.logout).toBytes], []) := by
  have unset : ∀ s ∈ [(ascii "noise", Message.withType MsgType.heartbeat),
      (ascii "8", .withType MsgType.logout)], s.2.header.getRaw Tags.beginString = none := by
    decide +kernel
  apply @readTask_serialized [(ascii "noise", .withType MsgType.heartbeat),
    (ascii "8", .withType MsgType.logout)]
  · decide +kernel
  · intro s mem v set
    cases (unset s mem).symm.trans set
  · decide +kernel
  · decide +kernel

end QuickFix
