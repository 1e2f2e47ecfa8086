import Mathlib.Order.Bounds.Basic
import QuickFix.Schedule.Parsing
import QuickFix.Session.Script

/-!
# Occurrences of a window

What `is_in_same_range` of `src/schedule.rs` should decide for the schedules that can be configured:
whether the most recent openings of the window before two instants are one. It does for every window but the
daily one over midnight, whose elapsed seconds are compared with the length of the session; the
pairs of instants that are misjudged there are `Misjudged` (`isInSameRange_exact`).
-/

namespace QuickFix

open Ranged (fail bind_ok ok_bind fault_bind)

namespace Schedule

section Window

/-! ## Configured schedules -/

/-- A schedule in UTC that can be configured. -/
structure Configured (s : Schedule) : Prop where
  utc : s.useLocal = false
  start : -2 ^ 63 ≤ s.start ∧ s.start < 86400
  «end» : -2 ^ 63 ≤ s.end ∧ s.end < 86400
  days : s.startDay = -1 ∧ s.endDay = -1 ∨
    (1 ≤ s.startDay ∧ s.startDay ≤ 7) ∧ 1 ≤ s.endDay ∧ s.endDay ≤ 7
  nonStop : s.nonStop = true → s.startDay = -1 ∧ s.start = s.end

/-- What `parse` builds can be configured. -/
lemma parse_configured {start end' startDay endDay nonStop s}
    (built : parse start end' startDay endDay false nonStop = .ok s) : Configured s := by
  obtain ⟨built, days, zone⟩ := parse_built built
  have midnight : (-2 ^ 63 : Int) ≤ 0 ∧ (0 : Int) < 86400 := by decide
  cases built with
  | times first last startTod endTod window =>
    refine ⟨zone rfl, parseTod_ok startTod, parseTod_ok endTod, days, fun always => ?_⟩
    exact absurd (window.symm.trans always) Bool.false_ne_true
  | always unset all =>
    subst all
    exact ⟨rfl, midnight, midnight, days, fun _ => ⟨rfl, rfl⟩⟩
  | days unset flag first last window =>
    refine ⟨zone rfl, first ▸ midnight, last ▸ midnight, days, fun always => ?_⟩
    exact absurd (window.symm.trans always) Bool.false_ne_true

/-! ## Checked comparison -/

variable [Chrono] (s : Schedule)

/-- Seconds since the last start of a window over midnight. -/
def deltaAt (t : UtcTime) : Ranged Empty Int := do
  let delta ← signed ((s.parts t).1 - s.start)
  if delta < 0 then signed (secondsPerDay - (delta.natAbs : Int)) else .ok delta

/-- `sameDaily` with checked arithmetic. -/
def sameDailyAt (t1 t2 : UtcTime) : Ranged Empty Bool :=
  if s.start ≤ s.end then .ok ((s.parts t1).2.2 = (s.parts t2).2.2)
  else do
    let gap ← signed (s.start - s.end)
    let sessionLength ← signed (secondsPerDay - gap)
    let diff := (t1 - t2).tdiv nanosPerSec
    if 0 < diff then do
      let delta ← s.deltaAt t2
      let left ← signed (sessionLength - delta)
      .ok (diff < left)
    else .ok (-diff < sessionLength)

/-- `isInSameRange` with checked arithmetic. -/
def isInSameRangeAt (now other : UtcTime) : Ranged Empty Bool :=
  if s.nonStop then .ok true
  else if !s.isInRange now || !s.isInRange other then .ok false
  else if now = other then .ok true
  else if s.startDay < 0 then s.sameDailyAt now other
  else if s.startDay ≠ s.endDay then .ok (s.rangeStartDate now = s.rangeStartDate other)
  else .ok (s.sameWeeklySameday now other)

/-! ## Openings -/

/-- The time of day of an instant. -/
def tod (t : UtcTime) : Int := (s.parts t).1

/-- The day number of an instant. -/
def day (t : UtcTime) : Int := (s.parts t).2.2

/-- Whether the window opens on a day: on every day, or on the day of the week it starts on. -/
def OpensOn (d : Int) : Prop := s.startDay < 0 ∨ d % 7 + 1 = s.startDay

/-- The opening of day `d` lies at or before an instant. -/
def Opened (d : Int) (t : UtcTime) : Prop :=
  s.OpensOn d ∧ (d < s.day t ∨ d = s.day t ∧ s.start ≤ s.tod t)

/-- The most recent opening at or before two instants is that of one day. -/
def SameOccurrence (a b : UtcTime) : Prop :=
  ∃ d, IsGreatest {d | s.Opened d a} d ∧ IsGreatest {d | s.Opened d b} d

/-- A window with openings that part it into occurrences. -/
def Resets : Prop :=
  if s.startDay < 0 then s.start ≠ s.end else s.startDay ≠ s.endDay ∨ s.end < s.start

/-- The day of the most recent opening of a daily window. -/
def dailyStartDate (t : UtcTime) : Int := if s.start ≤ s.tod t then s.day t else s.day t - 1

variable {s : Schedule} {a b t : UtcTime}

/-- A time of day is within the day. -/
lemma tod_range : 0 ≤ s.tod t ∧ s.tod t < 86400 :=
  ⟨Int.emod_nonneg _ (by decide), Int.emod_lt_of_pos _ (by decide)⟩

/-- The start of a weekly window, by day and time of day. -/
lemma rangeStartDate_eq :
    s.rangeStartDate t =
      if s.startDay < s.day t % 7 + 1 then s.day t - (s.day t % 7 + 1) + s.startDay
      else if s.day t % 7 + 1 < s.startDay then s.day t - (s.day t % 7 + 1) + s.startDay - 7
      else if s.start ≤ s.tod t then s.day t
      else s.day t - 7 := rfl

/-- The start of a weekly window, on the weekday it starts on. -/
lemma rangeStartDate_here (here : s.day t % 7 + 1 = s.startDay) :
    s.rangeStartDate t = if s.start ≤ s.tod t then s.day t else s.day t - 7 := by
  rw [rangeStartDate_eq, if_neg (by omega), if_neg (by omega)]

/-- The start of a weekly window, on another weekday. -/
lemma rangeStartDate_away (weekly : 1 ≤ s.startDay ∧ s.startDay ≤ 7)
    (away : s.day t % 7 + 1 ≠ s.startDay) :
    s.rangeStartDate t = s.day t - (s.day t + 1 - s.startDay) % 7 := by
  rw [rangeStartDate_eq]
  split_ifs <;> omega

/-- A weekly window started in the last seven days. -/
lemma rangeStartDate_range (weekly : 1 ≤ s.startDay ∧ s.startDay ≤ 7) :
    s.day t - 7 ≤ s.rangeStartDate t ∧ s.rangeStartDate t ≤ s.day t := by
  by_cases here : s.day t % 7 + 1 = s.startDay
  · rw [rangeStartDate_here here]
    split_ifs <;> omega
  · rw [rangeStartDate_away weekly here]
    omega

/-- A daily window opened last on `dailyStartDate`. -/
lemma isGreatest_daily (daily : s.startDay < 0) :
    IsGreatest {d | s.Opened d t} (s.dailyStartDate t) := by
  unfold dailyStartDate
  split
  case isTrue open' =>
    refine ⟨⟨.inl daily, .inr ⟨rfl, open'⟩⟩, ?_⟩
    rintro d ⟨-, before | ⟨same, -⟩⟩ <;> omega
  case isFalse closed =>
    refine ⟨⟨.inl daily, .inl (by omega)⟩, ?_⟩
    rintro d ⟨-, before | ⟨rfl, open'⟩⟩
    · omega
    · exact absurd open' closed

/-- A weekly window opened last on `rangeStartDate`. -/
lemma isGreatest_weekly (weekly : 1 ≤ s.startDay ∧ s.startDay ≤ 7) :
    IsGreatest {d | s.Opened d t} (s.rangeStartDate t) := by
  rw [rangeStartDate_eq]
  constructor
  · constructor
    · right
      split_ifs <;> omega
    · split_ifs with later earlier open'
      · left
        omega
      · left
        omega
      · exact .inr ⟨rfl, open'⟩
      · left
        omega
  · rintro d ⟨daily | same, opened⟩
    · omega
    · split_ifs <;> omega

/-- Two instants lie in one occurrence when the most recent openings are on one day. -/
lemma sameOccurrence_iff {f : UtcTime → Int} (greatest : ∀ t, IsGreatest {d | s.Opened d t} (f t)) :
    s.SameOccurrence a b ↔ f a = f b := by
  constructor
  case mp =>
    rintro ⟨d, first, second⟩
    exact ((greatest a).unique first).trans ((greatest b).unique second).symm
  case mpr => exact fun same => ⟨f a, greatest a, same ▸ greatest b⟩

/-! ## Windows compared by their openings -/

/-- The comparison of a weekly window that starts and ends on one weekday, by days and times of
day. -/
lemma sameWeeklySameday_eq :
    s.sameWeeklySameday a b =
      if s.day a = s.day b ∧ s.startDay = s.day a % 7 + 1 then
        (s.tod a ≤ s.end && s.tod b ≤ s.end) || (s.start ≤ s.tod a && s.start ≤ s.tod b)
      else if s.day a = s.day b then true
      else if 7 < (s.day a - s.day b).natAbs then false
      else if (s.day a - s.day b).natAbs = 7 then
        if s.day a % 7 + 1 ≠ s.startDay then false
        else if s.day a < s.day b then s.start ≤ s.tod a && s.tod b ≤ s.end
        else s.start ≤ s.tod b && s.tod a ≤ s.end
      else s.rangeStartDate a = s.rangeStartDate b := rfl

/-- A window within the day is closed before its start. -/
lemma inRange_daytime (daily : s.startDay < 0) (day : s.start < s.end) (stop : s.nonStop = false)
    (h : s.isInRange t = true) : s.start ≤ s.tod t := by
  have within : s.isInRange t = inDaily s.start s.end (s.tod t) := by
    unfold isInRange
    rw [stop, if_neg Bool.false_ne_true]
    exact if_pos daily
  rw [within, inDaily, if_pos day] at h
  exact of_decide_eq_true (Bool.and_eq_true_iff.mp h).1

/-- A weekly window over a whole week is closed between its end and its start only. -/
lemma inRange_sameday (weekly : 0 ≤ s.startDay) (same : s.startDay = s.endDay)
    (wraps : s.end < s.start) (stop : s.nonStop = false) (h : s.isInRange t = true)
    (here : s.day t % 7 + 1 = s.startDay) : s.start ≤ s.tod t ∨ s.tod t ≤ s.end := by
  have within : s.isInRange t = s.inWeekly (s.tod t) (s.day t % 7 + 1) := by
    unfold isInRange
    rw [stop, if_neg Bool.false_ne_true]
    exact if_neg (Int.not_lt.mpr weekly)
  rw [within, inWeekly, if_pos same, if_neg (not_not.mpr here), inDaily, if_neg (by omega)] at h
  simpa using h

/-- A weekly window that starts and ends on one weekday compares its openings. -/
lemma sameWeeklySameday_iff (weekly : 1 ≤ s.startDay ∧ s.startDay ≤ 7)
    (first : s.day a % 7 + 1 = s.startDay → s.start ≤ s.tod a ∨ s.tod a ≤ s.end)
    (second : s.day b % 7 + 1 = s.startDay → s.start ≤ s.tod b ∨ s.tod b ≤ s.end)
    (wraps : s.end < s.start) :
    s.sameWeeklySameday a b = true ↔ s.rangeStartDate a = s.rangeStartDate b := by
  rw [sameWeeklySameday_eq]
  by_cases day : s.day a = s.day b
  · by_cases here : s.day a % 7 + 1 = s.startDay
    · rw [if_pos ⟨day, here.symm⟩, rangeStartDate_here here, rangeStartDate_here (day ▸ here)]
      split_ifs <;> simp <;> omega
    · have there : s.day b % 7 + 1 ≠ s.startDay := day ▸ here
      rw [if_neg fun h => here h.2.symm, if_pos day, rangeStartDate_away weekly here,
        rangeStartDate_away weekly there, day]
      simp
  rw [if_neg fun h => day h.1, if_neg day]
  by_cases far : 7 < (s.day a - s.day b).natAbs
  · have start := rangeStartDate_range (t := a) weekly
    have start' := rangeStartDate_range (t := b) weekly
    rw [if_pos far]
    simp
    omega
  rw [if_neg far]
  by_cases week : (s.day a - s.day b).natAbs = 7
  · rw [if_pos week]
    by_cases here : s.day a % 7 + 1 = s.startDay
    · rw [if_neg (not_not.mpr here), rangeStartDate_here here, rangeStartDate_here (by omega)]
      split_ifs <;> simp <;> omega
    · rw [if_pos here, rangeStartDate_away weekly here, rangeStartDate_away weekly (by omega)]
      simp
      omega
  · rw [if_neg week, decide_eq_true_iff]

/-! ## Windows over midnight -/

/-- Whole seconds from `b` to `a`. -/
def elapsed (a b : UtcTime) : Int := (a - b).tdiv nanosPerSec

/-- The length of a session over midnight. -/
def sessionLength (s : Schedule) : Int := secondsPerDay - (s.start - s.end)

/-- Seconds from the most recent opening of a daily window. -/
def sinceOpening (s : Schedule) (t : UtcTime) : Int :=
  if s.start ≤ s.tod t then s.tod t - s.start else secondsPerDay + (s.tod t - s.start)

/-- A daily window over midnight compares elapsed seconds for these instants. -/
structure Compared (s : Schedule) (a b : UtcTime) : Prop where
  daily : s.startDay < 0
  overnight : s.end < s.start
  first : s.isInRange a = true
  second : s.isInRange b = true
  ne : a ≠ b

/-- The pairs of instants for which elapsed seconds do not tell occurrences apart. -/
inductive Misjudged (s : Schedule) (a b : UtcTime) : Prop
  /-- The times of the window lie so far apart that their difference overflows. -/
  | length : 2 ^ 63 ≤ s.start - s.end → Misjudged s a b
  /-- The window starts so long before the day that the time since its start overflows. -/
  | offset : 0 < elapsed a b → 2 ^ 63 ≤ s.tod b - s.start → Misjudged s a b
  /-- The first instant is the later one, and lies in the closing second of their session. -/
  | closing : 0 < elapsed a b → s.SameOccurrence a b →
      s.sessionLength ≤ elapsed a b + s.sinceOpening b → Misjudged s a b
  /-- The first instant is the earlier one, and they are a whole session apart. -/
  | whole : elapsed a b ≤ 0 → s.SameOccurrence a b → s.sessionLength ≤ -elapsed a b → Misjudged s a b
  /-- The first instant is the earlier one, and less than the length of a session before the second,
  though the window opens between them. -/
  | adjacent : elapsed a b ≤ 0 → ¬ s.SameOccurrence a b → -elapsed a b < s.sessionLength →
      Misjudged s a b

/-- Seconds by day and time of day. -/
lemma wholeSeconds_eq (utc : s.useLocal = false) :
    wholeSeconds t = (s.day t - epochDay) * 86400 + s.tod t := by
  have split := Int.mul_ediv_add_emod (wholeSeconds t) 86400
  have day : s.day t = wholeSeconds t / 86400 + epochDay := by
    simp [Schedule.day, parts, utc, secondsPerDay]
  have tod : s.tod t = wholeSeconds t % 86400 := by simp [Schedule.tod, parts, utc, secondsPerDay]
  rw [day, tod]
  omega

omit [Chrono] in
/-- Where whole seconds elapse they are those of the clock, or one less. -/
lemma elapsed_pos (later : 0 < elapsed a b) :
    wholeSeconds b < wholeSeconds a ∧ wholeSeconds a - wholeSeconds b - 1 ≤ elapsed a b := by
  have nonneg : 0 ≤ a - b := by
    by_contra neg
    have reversed := Int.tdiv_nonneg (Int.neg_nonneg.mpr (Int.not_le.mp neg).le)
      (Int.natCast_nonneg nanosPerSec)
    rw [Int.neg_tdiv] at reversed
    exact absurd later (Int.not_lt.mpr (Int.neg_nonneg.mp reversed))
  unfold elapsed at later ⊢
  unfold wholeSeconds
  rw [Int.tdiv_eq_ediv_of_nonneg nonneg] at later ⊢
  unfold nanosPerSec at later ⊢
  omega

/-- Between two openings of a daily window lies a day. -/
lemma elapsed_of_ne (utc : s.useLocal = false) (start : s.start < 86400) (later : 0 < elapsed a b)
    (ne : s.dailyStartDate a ≠ s.dailyStartDate b) :
    86400 - s.sinceOpening b - 1 ≤ elapsed a b := by
  obtain ⟨lt, le⟩ := elapsed_pos later
  have first := tod_range (s := s) (t := a)
  have second := tod_range (s := s) (t := b)
  rw [wholeSeconds_eq utc, wholeSeconds_eq utc] at lt le
  unfold dailyStartDate at ne
  unfold sinceOpening secondsPerDay
  split_ifs at ne ⊢ <;> omega

/-- The time since the last start overflows where the window starts too long before the day. -/
lemma deltaAt_overflow (far : 2 ^ 63 ≤ s.tod t - s.start) : s.deltaAt t = .error (.inl .overflow) := by
  change signed (s.tod t - s.start) >>= _ = _
  rw [signed, if_neg (by omega), fault_bind]

/-- Otherwise it is the time since the opening. -/
lemma deltaAt_eq (near : s.tod t - s.start < 2 ^ 63) (start : s.start < 86400) :
    s.deltaAt t = .ok (s.sinceOpening t) := by
  have range := tod_range (s := s) (t := t)
  change signed (s.tod t - s.start) >>= _ = _
  rw [signed_of_range (by omega) near, ok_bind, sinceOpening, secondsPerDay]
  split_ifs
  · omega
  · rw [signed_of_range (by omega) (by omega)]
    congr 1
    omega
  · rfl
  · omega

/-- The checked comparison overflows where the times lie too far apart. -/
lemma sameDailyAt_length (wraps : s.end < s.start) (far : 2 ^ 63 ≤ s.start - s.end) :
    s.sameDailyAt a b = .error (.inl .overflow) := by
  rw [sameDailyAt, if_neg (Int.not_le.mpr wraps), signed, if_neg (by omega)]
  rfl

/-- Otherwise it compares the seconds. -/
lemma sameDailyAt_near (wraps : s.end < s.start) (near : s.start - s.end < 2 ^ 63) :
    s.sameDailyAt a b =
      if 0 < elapsed a b then do
        let delta ← s.deltaAt b
        let left ← signed (s.sessionLength - delta)
        .ok (elapsed a b < left)
      else .ok (-elapsed a b < s.sessionLength) := by
  rw [sameDailyAt, if_neg (Int.not_le.mpr wraps), signed_of_range (by omega) near, ok_bind,
    secondsPerDay, signed_of_range (by omega) (by omega), ok_bind]
  rfl

/-- The seconds of a session that are left. -/
lemma signed_left (near : s.start - s.end < 2 ^ 63) (within : s.tod b - s.start < 2 ^ 63)
    (end' : -2 ^ 63 ≤ s.end) (start : s.start < 86400) (wraps : s.end < s.start) :
    (signed (s.sessionLength - s.sinceOpening b) : Ranged Empty Int) =
      .ok (s.sessionLength - s.sinceOpening b) := by
  have range := tod_range (s := s) (t := b)
  unfold sessionLength sinceOpening secondsPerDay
  split_ifs <;> rw [signed_of_range] <;> omega

omit [Chrono] in
/-- A decision is right when what it decides is what it should decide. -/
lemma judged_iff {p q : Prop} [Decidable p] :
    (∃ same, (.ok (decide p) : Ranged Empty Bool) = .ok same ∧ (same = true ↔ q)) ↔ (p ↔ q) := by
  constructor
  case mp =>
    rintro ⟨same, ⟨⟩, right⟩
    rwa [decide_eq_true_iff] at right
  case mpr => exact fun right => ⟨_, rfl, decide_eq_true_iff.trans right⟩

/-- A window over midnight tells occurrences apart exactly where it does not misjudge. -/
lemma sameDailyAt_exact (configured : s.Configured) (compared : s.Compared a b) :
    (∃ same, s.sameDailyAt a b = .ok same ∧ (same = true ↔ s.SameOccurrence a b)) ↔
      ¬ s.Misjudged a b := by
  obtain ⟨daily, wraps, -⟩ := compared
  have apart := sameOccurrence_iff (a := a) (b := b) fun t => isGreatest_daily (t := t) daily
  by_cases far : 2 ^ 63 ≤ s.start - s.end
  · rw [sameDailyAt_length wraps far]
    simp [Misjudged.length far]
  rw [sameDailyAt_near wraps (Int.not_le.mp far)]
  by_cases later : 0 < elapsed a b
  · rw [if_pos later]
    by_cases early : 2 ^ 63 ≤ s.tod b - s.start
    · rw [deltaAt_overflow early]
      simp [Misjudged.offset later early]
    rw [deltaAt_eq (Int.not_le.mp early) configured.start.2, ok_bind,
      signed_left (Int.not_le.mp far) (Int.not_le.mp early) configured.end.1 configured.start.2 wraps,
      ok_bind, judged_iff]
    constructor
    case mp =>
      intro agree misjudged
      cases misjudged with
      | length beyond => exact far beyond
      | offset _ beyond => exact early beyond
      | closing _ same reach =>
        have less := agree.mpr same
        omega
      | whole le => omega
      | adjacent le => omega
    case mpr =>
      intro judged
      constructor
      case mp =>
        intro less
        by_contra parted
        have day := elapsed_of_ne configured.utc configured.start.2 later (parted ∘ apart.mpr)
        unfold sessionLength secondsPerDay at less
        omega
      case mpr =>
        intro same
        by_contra reach
        exact judged (.closing later same (by omega))
  · rw [if_neg later, judged_iff]
    constructor
    case mp =>
      intro agree misjudged
      cases misjudged with
      | length beyond => exact far beyond
      | offset pos => exact later pos
      | closing pos => exact later pos
      | whole _ same reach =>
        have less := agree.mpr same
        omega
      | adjacent _ parted less => exact parted (agree.mp less)
    case mpr =>
      intro judged
      constructor
      case mp =>
        intro less
        by_contra parted
        exact judged (.adjacent (Int.not_lt.mp later) parted less)
      case mpr =>
        intro same
        by_contra reach
        exact judged (.whole (Int.not_lt.mp later) same (by omega))

/-! ## Every window -/

/-- The most recent opening of a window that can be configured. -/
lemma exists_greatest (configured : s.Configured) :
    ∃ f : UtcTime → Int, ∀ t, IsGreatest {d | s.Opened d t} (f t) := by
  obtain ⟨daily, -⟩ | ⟨weekly, -⟩ := configured.days
  · exact ⟨_, fun t => isGreatest_daily (by omega)⟩
  · exact ⟨_, fun t => isGreatest_weekly weekly⟩

/-- `is_in_same_range` tells occurrences of a window apart, and overflows nowhere, exactly for the
instants that a window over midnight does not misjudge. -/
theorem isInSameRange_exact {start end' startDay endDay nonStop}
    (built : parse start end' startDay endDay false nonStop = .ok s) (resets : s.Resets)
    (a b : UtcTime) :
    (∃ same, s.isInSameRangeAt a b = .ok same ∧
      (same = true ↔ s.isInRange a = true ∧ s.isInRange b = true ∧ s.SameOccurrence a b)) ↔
        ¬ (s.Compared a b ∧ s.Misjudged a b) := by
  have configured := parse_configured built
  have stop : s.nonStop = false := by
    by_contra nonStop
    obtain ⟨daily, same⟩ := configured.nonStop (Bool.not_eq_false _ ▸ nonStop)
    rw [Resets, if_pos (by omega)] at resets
    exact resets same
  rw [isInSameRangeAt, stop, if_neg Bool.false_ne_true]
  by_cases within : s.isInRange a = true ∧ s.isInRange b = true
  case neg =>
    have out : (!s.isInRange a || !s.isInRange b) = true := by
      rw [Bool.or_eq_true, Bool.not_eq_true', Bool.not_eq_true', ← Bool.not_eq_true, ← Bool.not_eq_true]
      exact not_and_or.mp within
    have clear : ¬ (s.Compared a b ∧ s.Misjudged a b) :=
      fun ⟨compared, _⟩ => within ⟨compared.first, compared.second⟩
    rw [if_pos out, iff_true_right clear]
    exact ⟨false, rfl, fun eq => absurd eq Bool.false_ne_true,
      fun ⟨first, second, _⟩ => absurd ⟨first, second⟩ within⟩
  case pos =>
    obtain ⟨first, second⟩ := within
    simp only [first, second, Bool.not_true, Bool.or_self, Bool.false_eq_true, if_false, true_and]
    by_cases eq : a = b
    · subst eq
      obtain ⟨f, greatest⟩ := exists_greatest configured
      have clear : ¬ (s.Compared a a ∧ s.Misjudged a a) := fun ⟨compared, _⟩ => compared.ne rfl
      rw [if_pos rfl, iff_true_right clear]
      exact ⟨true, rfl, iff_of_true rfl ((sameOccurrence_iff greatest).mpr rfl)⟩
    rw [if_neg eq]
    by_cases daily : s.startDay < 0
    · rw [if_pos daily]
      by_cases wraps : s.end < s.start
      · have compared : s.Compared a b := ⟨daily, wraps, first, second, eq⟩
        rw [sameDailyAt_exact configured compared]
        simp [compared]
      · have clear : ¬ (s.Compared a b ∧ s.Misjudged a b) := fun ⟨compared, _⟩ => wraps compared.overnight
        rw [iff_true_right clear, sameDailyAt, if_pos (Int.not_lt.mp wraps), judged_iff,
          sameOccurrence_iff fun t => isGreatest_daily daily]
        have ne : s.start ≠ s.end := by rwa [Resets, if_pos daily] at resets
        have opened {t} (h : s.isInRange t = true) : s.dailyStartDate t = s.day t :=
          if_pos (inRange_daytime daily (by omega) stop h)
        rw [opened first, opened second]
        rfl
    · have clear : ¬ (s.Compared a b ∧ s.Misjudged a b) := fun ⟨compared, _⟩ => daily compared.daily
      have weekly : 1 ≤ s.startDay ∧ s.startDay ≤ 7 := by
        have days := configured.days
        omega
      rw [if_neg daily, iff_true_right clear,
        sameOccurrence_iff fun t => isGreatest_weekly weekly]
      by_cases apart : s.startDay ≠ s.endDay
      · rw [if_pos apart, judged_iff]
      · have same : s.startDay = s.endDay := not_not.mp apart
        have wraps : s.end < s.start := by
          rw [Resets, if_neg daily] at resets
          exact resets.resolve_left apart
        have hours {t} (h : s.isInRange t = true) := inRange_sameday (by omega) same wraps stop h
        rw [if_neg apart, ← sameWeeklySameday_iff weekly (hours first) (hours second) wraps]
        exact ⟨_, rfl, .rfl⟩

end Window

/-! ## A night -/

/-- From 17:00:00 to 08:00:00 of the next day. -/
def overnight : Schedule := { start := 61200, «end» := 28800, nonStop := false }

/-- It can be configured. -/
lemma parse_overnight :
    parse (some (ascii "17:00:00")) (some (ascii "08:00:00")) none none false false = .ok overnight :=
  rfl

/-- Its nights are occurrences. -/
lemma resets_overnight : overnight.Resets := by
  unfold Resets
  decide

/-- The night of 17:00:01 is told apart from that of the next day, so the two are not misjudged. -/
theorem isInSameRange_exact_overnight :
    letI := QuickFix.epochDay
    ¬ (overnight.Compared 147601000000000 61201000000000 ∧
      overnight.Misjudged 147601000000000 61201000000000) := by
  let := QuickFix.epochDay
  have apart : ¬ overnight.SameOccurrence 147601000000000 61201000000000 :=
    mt (sameOccurrence_iff fun t => isGreatest_daily (by decide)).mp (by decide +kernel)
  apply (@isInSameRange_exact QuickFix.epochDay _ _ _ _ _ _ parse_overnight resets_overnight _ _).mp
  exact ⟨false, by decide +kernel, by simp [apart]⟩

/-- Within one night, the closing second is in the session of its first second or not, depending on
which of them is asked about. -/
theorem overnight_misjudged :
    letI := QuickFix.epochDay
    overnight.isInRange 115200000000000 = true ∧ overnight.isInRange 61201000000000 = true ∧
      overnight.SameOccurrence 115200000000000 61201000000000 ∧
      overnight.isInSameRangeAt 115200000000000 61201000000000 = .ok false ∧
      overnight.isInSameRangeAt 61201000000000 115200000000000 = .ok true := by
  let := QuickFix.epochDay
  have same : overnight.SameOccurrence 115200000000000 61201000000000 :=
    (sameOccurrence_iff fun t => isGreatest_daily (by decide)).mpr (by decide +kernel)
  exact ⟨by decide +kernel, by decide +kernel, same, by decide +kernel, by decide +kernel⟩

end Schedule

end QuickFix
