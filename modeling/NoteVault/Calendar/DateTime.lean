import NoteVault.Calendar.Date

/-!
# Points in time

A `DateTime` is a time of day on a date, to the microsecond, and possibly the
offset from UTC of the clock that shows it. A `Moment` is what a note calls a
date: a day, or a point in time.

Moments are ordered by their *instant*, the number of microseconds since the
beginning of the calendar in UTC. A day counts as its midnight, and a clock
without an offset counts as showing UTC. With an offset the instant can fall
outside the years of the calendar, and such moments are not ordered.
-/

namespace NoteVault

/-- Whether a clock shows such a time, and whether an offset in seconds is less
than a day either way. -/
def IsClockTime (hour minute second micro : Nat) (offset : Option Int) : Prop :=
  hour < 24 ∧ minute < 60 ∧ second < 60 ∧ micro < 1000000 ∧
    (offset.getD 0).natAbs < 86400

instance (hour minute second micro : Nat) (offset : Option Int) :
    Decidable (IsClockTime hour minute second micro offset) :=
  inferInstanceAs (Decidable (_ ∧ _))

/-- A time of day on a date. -/
structure DateTime where
  /-- The date. -/
  date : Date
  /-- The hour, below 24. -/
  hour : Nat
  /-- The minute, below 60. -/
  minute : Nat
  /-- The second, below 60. -/
  second : Nat
  /-- The microsecond, below a million. -/
  micro : Nat
  /-- How many seconds the clock is ahead of UTC, if that is known. -/
  offset : Option Int
  /-- A clock shows this time. -/
  is_clock_time : IsClockTime hour minute second micro offset
  deriving DecidableEq

namespace DateTime

/-- A time on a date, if a clock shows it. -/
def of? (date : Date) (hour minute second micro : Nat) (offset : Option Int) :
    Option DateTime :=
  if h : IsClockTime hour minute second micro offset then
    some ⟨date, hour, minute, second, micro, offset, h⟩
  else none

/-- The beginning of a day on a clock without an offset. -/
def midnight (date : Date) : DateTime := ⟨date, 0, 0, 0, 0, none, by decide⟩

/-- Microseconds from the beginning of the calendar to the time that the clock
shows. -/
def wallMicros (t : DateTime) : Nat :=
  ((((t.date.ordinal - 1) * 24 + t.hour) * 60 + t.minute) * 60 + t.second) * 1000000 + t.micro

/-- The instant, in microseconds from the beginning of the calendar in UTC. -/
def instant (t : DateTime) : Int := t.wallMicros - t.offset.getD 0 * 1000000

/-- The point in time so many seconds after the beginning of 1970, on a clock without an
offset; none outside the calendar. -/
def ofEpochSecond? (second : Int) : Option DateTime := do
  let ordinal := second / 86400 + 719163
  let inDay := (second % 86400).toNat
  let date ← if 1 ≤ ordinal then Date.ofOrdinal? ordinal.toNat else none
  of? date (inDay / 3600) (inDay / 60 % 60) (inDay % 60) 0 none

end DateTime

/-- A day, or a point in time. -/
inductive Moment where
  /-- A day. -/
  | day (date : Date)
  /-- A point in time. -/
  | time (time : DateTime)
  deriving DecidableEq

namespace Moment

/-- The moment as a point in time: a day is its midnight. -/
def toDateTime : Moment → DateTime
  | .day date => DateTime.midnight date
  | .time t => t

/-- The instant, in microseconds from the beginning of the calendar in UTC. -/
def instant (m : Moment) : Int := m.toDateTime.instant

/-- How many seconds the clock is ahead of UTC, if that is known. -/
def offset (m : Moment) : Option Int := m.toDateTime.offset

/-- Whether an instant lies in the years of the calendar. -/
def isInCalendar (instant : Int) : Bool :=
  0 ≤ instant && instant < calendarDays * 86400000000

/-- The beginning of 1970, in microseconds from the beginning of the calendar. -/
def epoch : Int := 719162 * 86400000000

end Moment
end NoteVault
