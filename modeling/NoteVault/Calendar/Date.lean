/-!
# Dates

A day of the Gregorian calendar, taken back to year 1, in the years 1 to 9999. A
`Date` carries the proof that it exists, so no function on dates meets an
impossible one.

## Main definitions

* `Date` — a day that exists.
* `Date.of?` — the day with a year, a month and a day of the month, if there is
  one.
* `Date.ordinal` — the number of the day, counted from 1 January of year 1.
* `Date.ofOrdinal?` — the day with a number.
* `Date.weekday`, `Date.dayOfYear` — its place in the week and in the year.
-/

namespace NoteVault

/-- Whether a year has a leap day. -/
def isLeapYear (year : Nat) : Bool := year % 4 = 0 && (year % 100 != 0 || year % 400 = 0)

/-- The number of days of a month; no days for what is not a month. -/
def daysInMonth (year : Nat) : Nat → Nat
  | 1 | 3 | 5 | 7 | 8 | 10 | 12 => 31
  | 4 | 6 | 9 | 11 => 30
  | 2 => if isLeapYear year then 29 else 28
  | _ => 0

/-- Whether the calendar has such a day. There are no days in what is not a month,
so the month needs no condition of its own. -/
def IsDay (year month day : Nat) : Prop :=
  1 ≤ year ∧ year ≤ 9999 ∧ 1 ≤ day ∧ day ≤ daysInMonth year month

instance (year month day : Nat) : Decidable (IsDay year month day) :=
  inferInstanceAs (Decidable (_ ∧ _))

/-- A day of the calendar. -/
structure Date where
  /-- The year, from 1 to 9999. -/
  year : Nat
  /-- The month, from 1 to 12. -/
  month : Nat
  /-- The day of the month, from 1. -/
  day : Nat
  /-- The day exists. -/
  exists_day : IsDay year month day
  deriving DecidableEq

namespace Date

/-- The day with a year, a month and a day of the month, if there is one. -/
def of? (year month day : Nat) : Option Date :=
  if h : IsDay year month day then some ⟨year, month, day, h⟩ else none

/-- The number of days in the years before a year. -/
def daysBeforeYear (year : Nat) : Nat :=
  let past := year - 1
  past * 365 + past / 4 - past / 100 + past / 400

/-- The number of days of a year before a month. -/
def daysBeforeMonth (year : Nat) : Nat → Nat
  | 0 => 0
  | month + 1 => daysBeforeMonth year month + daysInMonth year month

/-- The place of the day in its year, from 1. -/
def dayOfYear (d : Date) : Nat := daysBeforeMonth d.year d.month + d.day

/-- The number of the day; 1 January of year 1 has number 1. -/
def ordinal (d : Date) : Nat := daysBeforeYear d.year + d.dayOfYear

/-- The day of the week, Monday being 0; the calendar begins with a Monday. -/
def weekday (d : Date) : Nat := (d.ordinal + 6) % 7

end Date

/-- The year in which a numbered day falls. -/
def yearOfOrdinal (ordinal : Nat) : Nat :=
  let guess := (ordinal - 1) * 400 / 146097 + 1
  if Date.daysBeforeYear (guess + 1) < ordinal then guess + 1
  else if Date.daysBeforeYear guess < ordinal then guess
  else guess - 1

/-- The day with a number, if there is one. -/
def Date.ofOrdinal? (ordinal : Nat) : Option Date :=
  let year := yearOfOrdinal ordinal
  let inYear := ordinal - daysBeforeYear year
  let month := ((List.range 12).filter fun m => daysBeforeMonth year (m + 1) < inYear).length
  Date.of? year month (inYear - daysBeforeMonth year month)

/-- The number of days in the years 1 to 9999. -/
def calendarDays : Nat := 3652059

end NoteVault
