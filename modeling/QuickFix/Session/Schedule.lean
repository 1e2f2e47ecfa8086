import QuickFix.Wire.Value

/-!
# Session schedules

Model of `src/schedule.rs`: when a session is active and when two instants fall in the same
occurrence of its window.
-/

namespace QuickFix

/-- Seconds in a day. -/
def secondsPerDay : Int := 86400

/-- A daily or weekly window; days are Sunday=1 .. Saturday=7, `-1` when the window is daily. -/
structure Schedule where
  start : Int := 0
  «end» : Int := 0
  startDay : Int := -1
  endDay : Int := -1
  useLocal : Bool := false
  /-- True when the session is 24/7. -/
  nonStop : Bool := true

namespace Schedule

/-- Whole seconds of an instant. -/
def wholeSeconds (t : UtcTime) : Int := t / nanosPerSec

/-- Day number of the epoch's day, counted as `num_days_from_ce` does. -/
def epochDay : Int := 719163

/-- Time of day in seconds, weekday and day number in the schedule's zone. -/
def parts [Chrono] (s : Schedule) (now : UtcTime) : Int × Int × Int :=
  let secs := wholeSeconds now + if s.useLocal then Chrono.localOffset now else 0
  let day := secs / secondsPerDay + epochDay
  (secs % secondsPerDay, day % 7 + 1, day)

/-- Whether a time of day is in the daily window. -/
def inDaily (start «end» tod : Int) : Bool :=
  if start < «end» then start ≤ tod && tod ≤ «end» else start ≤ tod || tod ≤ «end»

/-- Whether a time of day on a weekday is in the weekly window. -/
def inWeekly (s : Schedule) (tod day : Int) : Bool :=
  let afterStart := !(day = s.startDay && tod < s.start)
  let beforeEnd := !(day = s.endDay && s.end < tod)
  if s.startDay = s.endDay then
    if day ≠ s.startDay then true else inDaily s.start s.end tod
  else if s.startDay < s.endDay then
    if day < s.startDay ∨ s.endDay < day then false else afterStart && beforeEnd
  else
    if day < s.startDay ∧ s.endDay < day then false else afterStart && beforeEnd

/-- Is `now` within the active window? -/
def isInRange [Chrono] (s : Schedule) (now : UtcTime) : Bool :=
  if s.nonStop then true
  else
    let (tod, wd, _) := s.parts now
    if s.startDay < 0 then inDaily s.start s.end tod else s.inWeekly tod wd

/-- The day number of the start of the current weekly window. -/
def rangeStartDate [Chrono] (s : Schedule) (now : UtcTime) : Int :=
  let (tod, wd, jul) := s.parts now
  if s.startDay < wd then jul - wd + s.startDay
  else if wd < s.startDay then jul - wd + s.startDay - 7
  else if s.start ≤ tod then jul
  else jul - 7

/-- Same occurrence of a daily window. -/
def sameDaily [Chrono] (s : Schedule) (t1 t2 : UtcTime) : Bool :=
  if s.start ≤ s.end then (s.parts t1).2.2 = (s.parts t2).2.2
  else
    let sessionLength := secondsPerDay - (s.start - s.end)
    let diff := (t1 - t2).tdiv nanosPerSec
    if 0 < diff then
      let delta := (s.parts t2).1 - s.start
      let delta := if delta < 0 then secondsPerDay - (delta.natAbs : Int) else delta
      diff < sessionLength - delta
    else -diff < sessionLength

/-- Same occurrence of a weekly window that starts and ends on one weekday. -/
def sameWeeklySameday [Chrono] (s : Schedule) (t1 t2 : UtcTime) : Bool :=
  let (tod1, wd1, day1) := s.parts t1
  let (tod2, _, day2) := s.parts t2
  if day1 = day2 ∧ s.startDay = wd1 then
    (tod1 ≤ s.end && tod2 ≤ s.end) || (s.start ≤ tod1 && s.start ≤ tod2)
  else if day1 = day2 then true
  else if 7 < (day1 - day2).natAbs then false
  else if (day1 - day2).natAbs = 7 then
    if wd1 ≠ s.startDay then false
    else if day1 < day2 then s.start ≤ tod1 && tod2 ≤ s.end
    else s.start ≤ tod2 && tod1 ≤ s.end
  else s.rangeStartDate t1 = s.rangeStartDate t2

/-- Do two instants fall in the same occurrence of the window? -/
def isInSameRange [Chrono] (s : Schedule) (now other : UtcTime) : Bool :=
  if s.nonStop then true
  else if !s.isInRange now || !s.isInRange other then false
  else if now = other then true
  else if s.startDay < 0 then s.sameDaily now other
  else if s.startDay ≠ s.endDay then s.rangeStartDate now = s.rangeStartDate other
  else s.sameWeeklySameday now other

end Schedule

end QuickFix
