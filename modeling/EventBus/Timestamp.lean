import EventBus.Calendar
import EventBus.Duration

namespace EventBus

/-- A point in universal time, as seconds from 1970-01-01T00:00:00Z without leap seconds. A leap
second is the second before it with a billion nanoseconds more. Any second may have one, though only
the last one of a minute is shown as its own. -/
structure Timestamp where
  seconds : Int
  nanoseconds : Nat
  nanoseconds_lt : nanoseconds < 2 * 10 ^ 9
  deriving DecidableEq, Repr

namespace Timestamp

def epoch : Timestamp := ⟨0, 0, by decide⟩

def secondsPerDay : Int := 86400

structure Clock where
  hour : Nat
  minute : Nat
  /-- Up to 60, for a leap second at the end of a minute. -/
  second : Nat
  nanosecond : Nat
  deriving DecidableEq, Repr

def Clock.wholeSecond (c : Clock) : Nat := if c.second = 60 then 59 else c.second

def Clock.nanoseconds (c : Clock) : Nat :=
  if c.second = 60 then c.nanosecond + 10 ^ 9 else c.nanosecond

theorem Clock.nanoseconds_lt {c : Clock} (h : c.nanosecond < 10 ^ 9) :
    c.nanoseconds < 2 * 10 ^ 9 := by
  unfold nanoseconds
  split <;> omega

def date (t : Timestamp) : Date := Date.ofDayNumber (t.seconds / secondsPerDay)

def secondOfDay (t : Timestamp) : Nat := (t.seconds % secondsPerDay).toNat

def clock (t : Timestamp) : Clock :=
  let s := t.secondOfDay
  let isLeap := 10 ^ 9 ≤ t.nanoseconds
  ⟨s / 3600, s / 60 % 60, if isLeap then s % 60 + 1 else s % 60,
    if isLeap then t.nanoseconds - 10 ^ 9 else t.nanoseconds⟩

def yearInRange (year : Int) : Bool := -262143 ≤ year && year ≤ 262142

/-- The instant that a clock `offset` seconds ahead of universal time shows as this date and time,
if both exist. -/
def ofParts? (date : Date) (clock : Clock) (offset : Int) : Option Timestamp :=
  if h : date.Valid ∧ yearInRange date.year ∧ clock.hour < 24 ∧ clock.minute < 60 ∧
      clock.second ≤ 60 ∧ clock.nanosecond < 10 ^ 9 then
    let seconds := date.dayNumber * secondsPerDay + clock.hour * 3600 + clock.minute * 60 +
      clock.wholeSecond - offset
    let t : Timestamp := ⟨seconds, clock.nanoseconds, Clock.nanoseconds_lt h.2.2.2.2.2⟩
    if yearInRange t.date.year then some t else none
  else none

/-- Nanoseconds from `earlier` to `later`. A leap second in between counts when only one of the
two times lies in it and the other is at a different second of its day. -/
def difference (later earlier : Timestamp) : Int :=
  let leap :=
    if earlier.secondOfDay < later.secondOfDay ∧ 10 ^ 9 ≤ earlier.nanoseconds then 1
    else if later.secondOfDay < earlier.secondOfDay ∧ 10 ^ 9 ≤ later.nanoseconds then -1
    else 0
  (later.seconds - earlier.seconds + leap) * 10 ^ 9 + (later.nanoseconds - earlier.nanoseconds)

def milliseconds (later earlier : Timestamp) : Int := (difference later earlier).tdiv (10 ^ 6)

end Timestamp
end EventBus
