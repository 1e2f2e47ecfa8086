import QuickFix.Lib.Ranged
import QuickFix.Session.Schedule

/-!
# Configured texts

What `Schedule::parse` of `src/schedule.rs` makes of its texts and flags. Hours, minutes and seconds
are read as signed numbers, a time that stands alone is not read at all, and times that are given
prevail over NonStopSession. Otherwise the schedule that is built is what the texts and the flag say
(`parse_wellFormed`).
-/

namespace QuickFix

open Ranged (fail bind_ok)

namespace Schedule

section Texts

/-! ## Configured schedules -/

/-- An error of the configuration. -/
inductive ConfigError where
  | invalidTime (text : Bytes)
  | invalidDay (text : Bytes)
  | unpairedDays

/-- A number in the range of `i64`. -/
def signed {ε} (n : Int) : Ranged ε Int :=
  if -2 ^ 63 ≤ n ∧ n < 2 ^ 63 then .ok n else .error (.inl .overflow)

/-- A time of day, as seconds since midnight. Hours, minutes and seconds are bounded from above
only. -/
def parseTod (s : Bytes) : Ranged ConfigError Int :=
  match s.splitOn 58 with
  | [h, m, sec] =>
    match parseSigned 64 h, parseSigned 64 m, parseSigned 64 sec with
    | some h, some m, some sec =>
      if 23 < h ∨ 59 < m ∨ 59 < sec then fail (.invalidTime s)
      else do
        let hours ← signed (h * 3600)
        let minutes ← signed (m * 60)
        let whole ← signed (hours + minutes)
        signed (whole + sec)
    | _, _, _ => fail (.invalidTime s)
  | _ => fail (.invalidTime s)

/-- A letter in lower case. -/
def toLowercase (b : UInt8) : UInt8 := if 65 ≤ b ∧ b ≤ 90 then b + 32 else b

/-- A day by its first two letters: Sunday=1 .. Saturday=7. -/
def parseDay (s : Bytes) : Ranged ConfigError Int :=
  let abbr := (s.take 2).map toLowercase
  if abbr = ascii "su" then .ok 1
  else if abbr = ascii "mo" then .ok 2
  else if abbr = ascii "tu" then .ok 3
  else if abbr = ascii "we" then .ok 4
  else if abbr = ascii "th" then .ok 5
  else if abbr = ascii "fr" then .ok 6
  else if abbr = ascii "sa" then .ok 7
  else fail (.invalidDay s)

/-- A day that may be left out. -/
def parseDayOption : Option Bytes → Ranged ConfigError Int
  | none => .ok (-1)
  | some s => parseDay s

/-- Build from raw config strings. Where a time is unset the schedule is non-stop, unless days are
given. -/
def parse (start end' startDay endDay : Option Bytes) (useLocal nonStop : Bool) :
    Ranged ConfigError Schedule := do
  let startDay ← parseDayOption startDay
  let endDay ← parseDayOption endDay
  if decide (0 ≤ startDay) ≠ decide (0 ≤ endDay) then fail .unpairedDays
  else
    match start, end' with
    | some s, some e => do
      let start ← parseTod s
      let end' ← parseTod e
      .ok { start := start, «end» := end', startDay := startDay, endDay := endDay,
            useLocal := useLocal, nonStop := false }
    | _, _ =>
      if nonStop ∨ startDay < 0 then .ok {}
      else .ok { startDay := startDay, endDay := endDay, useLocal := useLocal, nonStop := false }

/-- A number in range. -/
lemma signed_of_range {ε n} (h : -2 ^ 63 ≤ n) (h' : n < 2 ^ 63) : (signed n : Ranged ε Int) = .ok n :=
  if_pos ⟨h, h'⟩

/-- A number in range is itself. -/
lemma signed_ok {ε n k} (h : (signed n : Ranged ε Int) = .ok k) : k = n ∧ -2 ^ 63 ≤ n := by
  unfold signed at h
  split at h
  case isTrue range =>
    cases h
    exact ⟨rfl, range.1⟩
  case isFalse => cases h

/-- A day that is read is one of seven. -/
lemma parseDay_ok {s d} (h : parseDay s = .ok d) : 1 ≤ d ∧ d ≤ 7 := by
  simp only [parseDay] at h
  repeat' split at h
  all_goals
    cases h
    try decide

/-- A day is one of seven, or left out. -/
lemma parseDayOption_ok {s d} (h : parseDayOption s = .ok d) : d = -1 ∨ 1 ≤ d ∧ d ≤ 7 := by
  cases s with
  | none =>
    cases h
    exact .inl rfl
  | some s => exact .inr (parseDay_ok h)

/-! ## What the texts say -/

/-- The time of day that a text `HH:MM:SS` denotes, in seconds since midnight. -/
def Denotes (text : Bytes) (t : Int) : Prop :=
  ∃ h m sec, ∃ hour minute second : Nat, text.splitOn 58 = [h, m, sec] ∧
    undec h = some hour ∧ undec m = some minute ∧ undec sec = some second ∧
    hour ≤ 23 ∧ minute ≤ 59 ∧ second ≤ 59 ∧ t = hour * 3600 + minute * 60 + second

/-- Days are given both or none. -/
def Paired (s : Schedule) : Prop :=
  s.startDay = -1 ∧ s.endDay = -1 ∨ (1 ≤ s.startDay ∧ s.startDay ≤ 7) ∧ 1 ≤ s.endDay ∧ s.endDay ≤ 7

/-- The schedule is what the texts and the flag of the configuration say. -/
structure WellFormed (start end' : Option Bytes) (nonStop : Bool) (s : Schedule) : Prop where
  startRange : 0 ≤ s.start ∧ s.start < 86400
  endRange : 0 ≤ s.end ∧ s.end < 86400
  startText : ∀ text, start = some text → Denotes text s.start
  endText : ∀ text, end' = some text → Denotes text s.end
  days : s.Paired
  flag : nonStop = true → s.nonStop = true

/-- No sign stands in the text. -/
def Unsigned (text : Bytes) : Prop := 43 ∉ text ∧ 45 ∉ text

/-- The text has three parts, and zeros in each. -/
def Midnight (text : Bytes) : Prop :=
  ∃ h m sec, text.splitOn 58 = [h, m, sec] ∧ ∀ part ∈ [h, m, sec], part ≠ [] ∧ ∀ b ∈ part, b = 48

/-- Times that are given both have no sign in them and come without NonStopSession; a time that
stands alone is midnight. -/
def Plain : Option Bytes → Option Bytes → Bool → Prop
  | some start, some end', nonStop => nonStop = false ∧ Unsigned start ∧ Unsigned end'
  | some text, none, _ | none, some text, _ => Midnight text
  | none, none, _ => True

/-! ## Numbers without a sign -/

/-- A sign is no digit. -/
lemma unsigned_of_undec {ds n} (number : undec ds = some n) : Unsigned ds := by
  unfold undec at number
  split at number
  case isTrue digits =>
    have digit := List.all_eq_true.mp digits.2
    exact ⟨fun mem => absurd (digit 43 mem) (by decide), fun mem => absurd (digit 45 mem) (by decide)⟩
  case isFalse => cases number

/-- A number that is read without a sign is read digit by digit. -/
lemma undec_of_unsigned {bits ds v} (number : parseSigned bits ds = some v) (plain : Unsigned ds) :
    ∃ n : Nat, undec ds = some n ∧ v = n := by
  unfold parseSigned at number
  split at number
  case h_1 => exact absurd List.mem_cons_self plain.1
  case h_2 => exact absurd List.mem_cons_self plain.2
  case h_3 =>
    simp only [Option.map_eq_map, bind_pure_comp, Option.map_map, Option.map_eq_some_iff] at number
    obtain ⟨n, read, rfl⟩ := number
    exact ⟨n, (Option.filter_eq_some_iff.mp read).1, rfl⟩

/-- Digits denote zero when they are zeros. -/
lemma foldl_digits_eq_zero {ds : Bytes} (digits : ∀ b ∈ ds, isDigit b = true) (n : Nat) :
    ds.foldl (fun n d => 10 * n + (d.toNat - 48)) n = 0 ↔ n = 0 ∧ ∀ b ∈ ds, b = 48 := by
  induction ds generalizing n with
  | nil => simp
  | cons d ds ih =>
    have digit := digits d List.mem_cons_self
    simp only [isDigit, Bool.and_eq_true, decide_eq_true_eq, UInt8.le_iff_toNat_le] at digit
    have zero : d.toNat - 48 = 0 ↔ d = 48 := by
      rw [← UInt8.toNat_inj]
      constructor
      · exact fun le => Nat.le_antisymm (Nat.le_of_sub_eq_zero le) digit.1
      · exact fun eq => by rw [eq]; rfl
    rw [List.foldl_cons, ih fun b mem => digits b (List.mem_cons_of_mem d mem), List.forall_mem_cons,
      ← zero, ← and_assoc]
    refine and_congr_left fun _ => ?_
    omega

/-- A number is zero when its digits are. -/
lemma undec_eq_zero {ds} : undec ds = some 0 ↔ ds ≠ [] ∧ ∀ b ∈ ds, b = 48 := by
  constructor
  · intro number
    unfold undec at number
    split at number
    case isTrue digits =>
      exact ⟨digits.1, ((foldl_digits_eq_zero (List.all_eq_true.mp digits.2) 0).mp
        (Option.some.inj number)).2⟩
    case isFalse => cases number
  · intro h
    obtain ⟨some', zeros⟩ := h
    have digits : ∀ b ∈ ds, isDigit b = true := fun b mem => by rw [zeros b mem]; decide
    rw [undec, if_pos ⟨some', List.all_eq_true.mpr digits⟩]
    exact congrArg some ((foldl_digits_eq_zero digits 0).mpr ⟨rfl, zeros⟩)

/-! ## Times of day -/

/-- A text is its parts with the separators between them. -/
lemma text_of_splitOn {text h m sec : Bytes} (parts : text.splitOn 58 = [h, m, sec]) :
    text = h ++ 58 :: (m ++ 58 :: sec) := by
  have joined : List.intercalate [58] (text.splitOn 58) = text := List.intercalate_splitOn 58
  rw [parts] at joined
  simpa [List.intercalate] using joined.symm

/-- A text has no sign when its parts have none. -/
lemma unsigned_parts {text h m sec : Bytes} (parts : text.splitOn 58 = [h, m, sec]) :
    Unsigned text ↔ Unsigned h ∧ Unsigned m ∧ Unsigned sec := by
  rw [text_of_splitOn parts]
  simp only [Unsigned, List.mem_append, List.mem_cons, not_or]
  have plus : (43 : UInt8) ≠ 58 := by decide
  have minus : (45 : UInt8) ≠ 58 := by decide
  tauto

/-- A time of day that is read has three parts, with signs or without. -/
lemma parseTod_parts {text t} (read : parseTod text = .ok t) : -2 ^ 63 ≤ t ∧
    ∃ h m sec hour minute second, text.splitOn 58 = [h, m, sec] ∧
      parseSigned 64 h = some hour ∧ parseSigned 64 m = some minute ∧
      parseSigned 64 sec = some second ∧ hour ≤ 23 ∧ minute ≤ 59 ∧ second ≤ 59 ∧
      t = hour * 3600 + minute * 60 + second := by
  unfold parseTod at read
  split at read
  case h_2 => cases read
  case h_1 h m sec parts =>
    split at read
    case h_2 => cases read
    case h_1 hour minute second hourOk minuteOk secondOk =>
      split at read
      case isTrue => cases read
      case isFalse small =>
        obtain ⟨hours, eq, read⟩ := bind_ok read
        obtain ⟨minutes, eq', read⟩ := bind_ok read
        obtain ⟨whole, eq'', read⟩ := bind_ok read
        obtain ⟨rfl, -⟩ := signed_ok eq
        obtain ⟨rfl, -⟩ := signed_ok eq'
        obtain ⟨rfl, -⟩ := signed_ok eq''
        obtain ⟨rfl, range⟩ := signed_ok read
        simp only [not_or, Int.not_lt] at small
        exact ⟨range, h, m, sec, hour, minute, second, parts, hourOk, minuteOk, secondOk, small.1,
          small.2.1, small.2.2, rfl⟩

/-- A time of day is less than a day. -/
lemma parseTod_ok {s t} (h : parseTod s = .ok t) : -2 ^ 63 ≤ t ∧ t < 86400 := by
  obtain ⟨range, _, _, _, hour, minute, second, -, -, -, -, upper, upper', upper'', rfl⟩ :=
    parseTod_parts h
  exact ⟨range, by omega⟩

/-- A time of day that is read is the one the text denotes, when no sign stands in it. -/
lemma denotes_iff_unsigned {text t} (read : parseTod text = .ok t) : Denotes text t ↔ Unsigned text := by
  obtain ⟨-, h, m, sec, hour, minute, second, parts, hourOk, minuteOk, secondOk, upper, upper', upper'',
    rfl⟩ := parseTod_parts read
  rw [unsigned_parts parts]
  constructor
  · intro denotes
    obtain ⟨h', m', sec', _, _, _, parts', readH, readM, readS, -⟩ := denotes
    cases parts.symm.trans parts'
    exact ⟨unsigned_of_undec readH, unsigned_of_undec readM, unsigned_of_undec readS⟩
  · intro plain
    obtain ⟨n, readH, rfl⟩ := undec_of_unsigned hourOk plain.1
    obtain ⟨k, readM, rfl⟩ := undec_of_unsigned minuteOk plain.2.1
    obtain ⟨j, readS, rfl⟩ := undec_of_unsigned secondOk plain.2.2
    exact ⟨h, m, sec, n, k, j, parts, readH, readM, readS, by omega, by omega, by omega, rfl⟩

/-- A time that is denoted is a time of the day. -/
lemma Denotes.range {text t} (h : Denotes text t) : 0 ≤ t ∧ t < 86400 := by
  obtain ⟨_, _, _, hour, minute, second, -, -, -, -, upper, upper', upper'', rfl⟩ := h
  omega

/-- The text of midnight has nothing but zeros. -/
lemma denotes_zero_iff {text} : Denotes text 0 ↔ Midnight text := by
  constructor
  · intro denotes
    obtain ⟨h, m, sec, hour, minute, second, parts, readH, readM, readS, -, -, -, sum⟩ := denotes
    obtain ⟨rfl, rfl, rfl⟩ : hour = 0 ∧ minute = 0 ∧ second = 0 := by omega
    refine ⟨h, m, sec, parts, ?_⟩
    simp only [List.forall_mem_cons, List.not_mem_nil, false_imp_iff, implies_true, and_true]
    exact ⟨undec_eq_zero.mp readH, undec_eq_zero.mp readM, undec_eq_zero.mp readS⟩
  · intro midnight
    obtain ⟨h, m, sec, parts, zeros⟩ := midnight
    have zero (part) (mem : part ∈ [h, m, sec]) : undec part = some 0 := undec_eq_zero.mpr (zeros part mem)
    exact ⟨h, m, sec, 0, 0, 0, parts, zero h (by simp), zero m (by simp), zero sec (by simp),
      by decide, by decide, by decide, rfl⟩

/-! ## Schedules -/

/-- The schedules that are built, by the texts that are given. -/
inductive Built (start end' : Option Bytes) (nonStop : Bool) (s : Schedule) : Prop
  | times {a b} (first : start = some a) (last : end' = some b) (startTod : parseTod a = .ok s.start)
      (endTod : parseTod b = .ok s.end) (window : s.nonStop = false) : Built start end' nonStop s
  | always (unset : start = none ∨ end' = none) (all : s = {}) : Built start end' nonStop s
  | days (unset : start = none ∨ end' = none) (flag : nonStop = false) (first : s.start = 0)
      (last : s.end = 0) (window : s.nonStop = false) : Built start end' nonStop s

variable {start end' startDay endDay : Option Bytes} {useLocal nonStop : Bool} {s : Schedule}

/-- What `parse` builds. -/
lemma parse_built (built : parse start end' startDay endDay useLocal nonStop = .ok s) :
    Built start end' nonStop s ∧ s.Paired ∧ (useLocal = false → s.useLocal = false) := by
  obtain ⟨sd, startOk, built⟩ := bind_ok built
  obtain ⟨ed, endOk, built⟩ := bind_ok built
  have first := parseDayOption_ok startOk
  have last := parseDayOption_ok endOk
  split at built
  case isTrue => cases built
  case isFalse paired =>
    have days : sd = -1 ∧ ed = -1 ∨ (1 ≤ sd ∧ sd ≤ 7) ∧ 1 ≤ ed ∧ ed ≤ 7 := by
      simp only [ne_eq, decide_eq_decide, not_not] at paired
      omega
    split at built
    case h_1 a b =>
      obtain ⟨s, startTod, built⟩ := bind_ok built
      obtain ⟨e, endTod, built⟩ := bind_ok built
      cases built
      exact ⟨.times rfl rfl startTod endTod rfl, days, id⟩
    case h_2 unset =>
      have unset : start = none ∨ end' = none := by
        cases start with
        | none => exact .inl rfl
        | some a =>
          cases end' with
          | none => exact .inr rfl
          | some b => exact absurd rfl (unset a b rfl)
      split at built
      case isTrue =>
        cases built
        exact ⟨.always unset rfl, .inl ⟨rfl, rfl⟩, fun _ => rfl⟩
      case isFalse set =>
        cases built
        exact ⟨.days unset (by simpa using (not_or.mp set).1) rfl rfl rfl, days, id⟩

/-- Where a time is unset, the schedule is from midnight to midnight. -/
lemma wellFormed_unset (paired : s.Paired) (unset : start = none ∨ end' = none) (midnight : s.start = 0)
    (midnight' : s.end = 0) (flag : nonStop = true → s.nonStop = true) :
    WellFormed start end' nonStop s ↔ Plain start end' nonStop := by
  have inside : (0 : Int) ≤ 0 ∧ (0 : Int) < 86400 := by decide
  constructor
  · intro well
    cases start with
    | none =>
      cases end' with
      | none => trivial
      | some b => exact denotes_zero_iff.mp (midnight' ▸ well.endText b rfl)
    | some a =>
      cases end' with
      | none => exact denotes_zero_iff.mp (midnight ▸ well.startText a rfl)
      | some b => simp at unset
  · intro plain
    refine ⟨midnight ▸ inside, midnight' ▸ inside, fun a first => ?_, fun b last => ?_, paired, flag⟩
    · obtain rfl : end' = none := by simpa [first] using unset
      subst first
      exact midnight ▸ denotes_zero_iff.mpr plain
    · obtain rfl : start = none := by simpa [last] using unset
      subst last
      exact midnight' ▸ denotes_zero_iff.mpr plain

/-- A schedule that is built is well-formed exactly when times that are given both have no sign in
them and come without NonStopSession, and a time that stands alone is midnight. -/
theorem parse_wellFormed (built : parse start end' startDay endDay useLocal nonStop = .ok s) :
    WellFormed start end' nonStop s ↔ Plain start end' nonStop := by
  obtain ⟨built, paired, -⟩ := parse_built built
  cases built with
  | times first last startTod endTod window =>
    subst first last
    constructor
    · intro well
      refine ⟨?_, (denotes_iff_unsigned startTod).mp (well.startText _ rfl),
        (denotes_iff_unsigned endTod).mp (well.endText _ rfl)⟩
      cases nonStop with
      | false => rfl
      | true => exact absurd (window.symm.trans (well.flag rfl)) Bool.false_ne_true
    · intro plain
      obtain ⟨off, unsigned, unsigned'⟩ := plain
      have starts := (denotes_iff_unsigned startTod).mpr unsigned
      have ends := (denotes_iff_unsigned endTod).mpr unsigned'
      refine ⟨starts.range, ends.range, fun text eq => ?_, fun text eq => ?_, paired, ?_⟩
      · cases eq
        exact starts
      · cases eq
        exact ends
      · exact fun on => absurd (off.symm.trans on) Bool.false_ne_true
  | always unset all => exact wellFormed_unset paired unset (by rw [all]) (by rw [all]) (by simp [all])
  | days unset flag first last window => exact wellFormed_unset paired unset first last (by simp [flag])

/-! ## What is refused -/

/-- A text of three numbers of 64 bits, which are the hour, the minute and the second of a day or lower. -/
def IsTod (text : Bytes) : Prop :=
  ∃ h m sec hour minute second, text.splitOn 58 = [h, m, sec] ∧ parseSigned 64 h = some hour ∧
    parseSigned 64 m = some minute ∧ parseSigned 64 sec = some second ∧
    hour ≤ 23 ∧ minute ≤ 59 ∧ second ≤ 59

/-- A text whose first two letters are those of a day. -/
def IsDay (text : Bytes) : Prop :=
  (text.take 2).map toLowercase ∈
    [ascii "su", ascii "mo", ascii "tu", ascii "we", ascii "th", ascii "fr", ascii "sa"]

/-- Which of the texts of a schedule is wrong, and how the error says so. -/
inductive Blames (start end' startDay endDay : Option Bytes) : ConfigError → Prop
  | time {text} (given : start = some text ∨ end' = some text) (unread : ¬ IsTod text) :
    Blames start end' startDay endDay (.invalidTime text)
  | day {text} (given : startDay = some text ∨ endDay = some text) (unread : ¬ IsDay text) :
    Blames start end' startDay endDay (.invalidDay text)
  | noStartDay (missing : startDay = none) (given : endDay ≠ none) :
    Blames start end' startDay endDay .unpairedDays
  | noEndDay (given : startDay ≠ none) (missing : endDay = none) :
    Blames start end' startDay endDay .unpairedDays

/-- Only a number out of range ends a computation on numbers, and it does so with a fault. -/
lemma signed_ne_fail {ε n} {e : ε} : (signed n : Ranged ε Int) ≠ fail e := by
  unfold signed
  split <;> simp [fail]

/-- A time that is refused is none. -/
lemma parseTod_fail {text e} (refused : parseTod text = fail e) : e = .invalidTime text ∧ ¬ IsTod text := by
  unfold parseTod at refused
  split at refused
  case h_2 other =>
    cases refused
    refine ⟨rfl, ?_⟩
    rintro ⟨h, m, sec, _, _, _, parts, -⟩
    exact other h m sec parts
  case h_1 h m sec parts =>
    split at refused
    case h_2 other =>
      cases refused
      refine ⟨rfl, ?_⟩
      rintro ⟨h', m', sec', hour, minute, second, parts', readH, readM, readS, -⟩
      cases parts.symm.trans parts'
      exact other hour minute second readH readM readS
    case h_1 hour minute second readH readM readS =>
      split at refused
      case isTrue large =>
        cases refused
        refine ⟨rfl, ?_⟩
        rintro ⟨h', m', sec', hour', minute', second', parts', readH', readM', readS', upper, upper', upper''⟩
        cases parts.symm.trans parts'
        cases readH.symm.trans readH'
        cases readM.symm.trans readM'
        cases readS.symm.trans readS'
        omega
      case isFalse =>
        rcases Ranged.bind_eq_fail refused with first | ⟨hours, -, refused⟩
        · exact absurd first signed_ne_fail
        rcases Ranged.bind_eq_fail refused with second | ⟨minutes, -, refused⟩
        · exact absurd second signed_ne_fail
        rcases Ranged.bind_eq_fail refused with third | ⟨whole, -, refused⟩
        · exact absurd third signed_ne_fail
        · exact absurd refused signed_ne_fail

/-- A day that is refused is none. -/
lemma parseDay_fail {text e} (refused : parseDay text = fail e) : e = .invalidDay text ∧ ¬ IsDay text := by
  simp only [parseDay] at refused
  repeat' split at refused
  case isFalse.isFalse.isFalse.isFalse.isFalse.isFalse.isFalse su mo tu we th fr sa =>
    cases refused
    refine ⟨rfl, ?_⟩
    simp only [IsDay, List.mem_cons, List.not_mem_nil, or_false, not_or]
    exact ⟨su, mo, tu, we, th, fr, sa⟩
  all_goals cases refused

/-- A day is left out, or one of seven. -/
lemma parseDayOption_given {s d} (h : parseDayOption s = .ok d) : 0 ≤ d ↔ s ≠ none := by
  cases s with
  | none =>
    cases h
    decide
  | some text =>
    have range := parseDay_ok h
    simp only [ne_eq, reduceCtorEq, not_false_eq_true, iff_true]
    omega

/-- Where the texts of a schedule are refused, the one that is blamed is wrong. -/
lemma parse_fail {start end' startDay endDay useLocal nonStop e}
    (refused : parse start end' startDay endDay useLocal nonStop = fail e) :
    Blames start end' startDay endDay e := by
  have day {s} (refused : parseDayOption s = fail e) :
      ∃ text, s = some text ∧ e = .invalidDay text ∧ ¬ IsDay text := by
    cases s with
    | none => cases refused
    | some text => exact ⟨text, rfl, parseDay_fail refused⟩
  rcases Ranged.bind_eq_fail refused with first | ⟨sd, first, refused⟩
  · obtain ⟨text, given, rfl, unread⟩ := day first
    exact .day (.inl given) unread
  rcases Ranged.bind_eq_fail refused with second | ⟨ed, second, refused⟩
  · obtain ⟨text, given, rfl, unread⟩ := day second
    exact .day (.inr given) unread
  have start' := parseDayOption_given first
  have end'' := parseDayOption_given second
  split at refused
  case isTrue unpaired =>
    cases refused
    rw [ne_eq, decide_eq_decide, start', end''] at unpaired
    cases startDay with
    | none => exact .noStartDay rfl fun none => by simp [none] at unpaired
    | some text =>
      cases endDay with
      | none => exact .noEndDay (by simp) rfl
      | some _ => simp at unpaired
  case isFalse =>
    split at refused
    case h_1 a b =>
      rcases Ranged.bind_eq_fail refused with third | ⟨s, -, refused⟩
      · obtain ⟨rfl, unread⟩ := parseTod_fail third
        exact .time (.inl rfl) unread
      rcases Ranged.bind_eq_fail refused with fourth | ⟨t, -, refused⟩
      · obtain ⟨rfl, unread⟩ := parseTod_fail fourth
        exact .time (.inr rfl) unread
      · cases refused
    case h_2 =>
      split at refused
      case isTrue => cases refused
      case isFalse => cases refused

end Texts

/-- A daily window is built as its texts say. -/
theorem parse_wellFormed_daily :
    WellFormed (some (ascii "08:00:00")) (some (ascii "17:30:00")) false
      { start := 28800, «end» := 63000, nonStop := false } := by
  have built : parse (some (ascii "08:00:00")) (some (ascii "17:30:00")) none none false false =
    .ok { start := 28800, «end» := 63000, nonStop := false } := rfl
  exact (parse_wellFormed built).mpr ⟨rfl, ⟨by decide, by decide⟩, by decide, by decide⟩

/-- Whether `parse` builds well-formed schedules only. -/
def ParsesWell (start end' startDay endDay : Option Bytes) (useLocal nonStop : Bool) : Prop :=
  ∀ s, parse start end' startDay endDay useLocal nonStop = .ok s → WellFormed start end' nonStop s

/-- A negative hour is read as a time before midnight, and NonStopSession has no effect on a schedule
with times. -/
theorem not_parsesWell :
    ¬ ParsesWell (some (ascii "-1:00:00")) (some (ascii "17:00:00")) none none false false ∧
      ¬ ParsesWell (some (ascii "08:00:00")) (some (ascii "17:00:00")) none none false true := by
  constructor
  · intro well
    have built := well { start := -3600, «end» := 61200, nonStop := false } rfl
    exact absurd built.startRange.1 (by decide)
  · intro well
    have built := well { start := 28800, «end» := 61200, nonStop := false } rfl
    exact Bool.false_ne_true (built.flag rfl)

end Schedule

end QuickFix
