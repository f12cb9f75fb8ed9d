import NoteVault.Text.Basic
import NoteVault.Calendar.DateTime

/-!
# What is wrong with a date

A text can have the form of a date without naming one. The fields are checked from the
year to the second, and the first that is out of range is the fault.
-/

namespace NoteVault

/-- The field of a date or a time that is out of range. -/
inductive CalendarFault where
  /-- The year is outside the calendar. -/
  | year (year : Nat)
  /-- There is no such month. -/
  | month
  /-- The month has no such day. -/
  | day
  /-- There is no such hour. -/
  | hour
  /-- There is no such minute. -/
  | minute
  /-- There is no such second. -/
  | second
  /-- A clock would be a day or more away from UTC, so many seconds. -/
  | offset (seconds : Int)
  deriving DecidableEq

namespace CalendarFault

/-- A number of seconds as days and the seconds after them. -/
def daysAndSeconds (seconds : Int) : Text :=
  let days := seconds.fdiv 86400
  let rest := seconds.fmod 86400
  let seconds : Text := if rest = 0 then [] else ", seconds=" ++ Text.ofInt rest
  "datetime.timedelta(days=" ++ Text.ofInt days ++ seconds ++ ")"

/-- The fault as a message. -/
def message : CalendarFault → Text
  | .year n => "year " ++ Text.ofNat n ++ " is out of range"
  | .month => "month must be in 1..12"
  | .day => "day is out of range for month"
  | .hour => "hour must be in 0..23"
  | .minute => "minute must be in 0..59"
  | .second => "second must be in 0..59"
  | .offset seconds =>
    "offset must be a timedelta strictly between -timedelta(hours=24) and "
      ++ "timedelta(hours=24), not " ++ daysAndSeconds seconds ++ "."

end CalendarFault

/-- The day with a year, a month and a day of the month. -/
def Date.check (year month day : Nat) : Except CalendarFault Date :=
  match Date.of? year month day with
  | some date => .ok date
  | none =>
    if year < 1 ∨ 9999 < year then .error (.year year)
    else if month < 1 ∨ 12 < month then .error .month
    else .error .day

/-- The time on a date, for which microseconds and offset are in range. -/
def DateTime.check (date : Date) (hour minute second micro : Nat) (offset : Option Int) :
    Except CalendarFault DateTime :=
  match DateTime.of? date hour minute second micro offset with
  | some t => .ok t
  | none =>
    if 24 ≤ hour then .error .hour
    else if 60 ≤ minute then .error .minute
    else .error .second

end NoteVault
