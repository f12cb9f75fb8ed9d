import NoteVault.Calendar.Iso

/-!
# Date patterns

A pattern says how a date is shown: `%` and a letter stand for a field, every
other character for itself. Names are English, and the letters that depend on the
user's language have the meaning of the locale `C`. Years, centuries and the seconds
since 1970 are written without filling zeros; the other numbers have the fixed width
of their field. A letter that stands for no field is copied with its `%`, and so is a
flag or a width in front of a letter.

A week can be counted in three ways. It begins with a Sunday or with a Monday, and
the days of a year before its first whole week are in week 0; or it begins with a
Monday and belongs as a whole to the year in which its Thursday is.

## Main definitions

* `Date.weekYear`, `Date.week` — the year of a week as a whole, and its number there.
* `DateTime.field?` — the field with a letter.
* `Moment.format` — a day or a point in time as a pattern shows it.
-/

namespace NoteVault

/-- The names of the months. -/
def monthNames : List Text :=
  ["January", "February", "March", "April", "May", "June", "July", "August", "September",
    "October", "November", "December"].map String.toList

/-- The names of the days of the week, from Monday. -/
def weekdayNames : List Text :=
  ["Monday", "Tuesday", "Wednesday", "Thursday", "Friday", "Saturday", "Sunday"].map
    String.toList

/-- The name of a clock's zone: `UTC`, with the offset if there is one. -/
def zoneName (offset : Int) : Text :=
  if offset = 0 then "UTC" else "UTC" ++ offsetText ":" offset

namespace Date

/-- The number of the Thursday in the week of the day. -/
def thursday (d : Date) : Nat := d.ordinal + 3 - d.weekday

/-- The year to which the week of the day belongs as a whole. -/
def weekYear (d : Date) : Nat := yearOfOrdinal d.thursday

/-- The number of the week in that year, from 1. -/
def week (d : Date) : Nat := (d.thursday - daysBeforeYear d.weekYear - 1) / 7 + 1

/-- The number of days since the last Sunday. -/
def sinceSunday (d : Date) : Nat := (d.weekday + 1) % 7

/-- How many weeks of the year have begun, if the one of the day began so many days ago. -/
def weeksBegun (d : Date) (ago : Nat) : Nat := (d.dayOfYear + 6 - ago) / 7

end Date

namespace DateTime

/-- Seconds from the beginning of 1970 to the time that the clock shows. -/
def epochSecond (t : DateTime) : Int := t.wallMicros / 1000000 - 719162 * 86400

/-- The hour on a clock with twelve hours. -/
def hour12 (t : DateTime) : Nat := if t.hour % 12 = 0 then 12 else t.hour % 12

/-- The text of the field with a given letter. -/
def field? (t : DateTime) (letter : Char) : Option Text :=
  let d := t.date
  let two := Text.padNat 2
  let blankTwo (n : Nat) := Text.padLeft 2 (Text.ofNat n)
  let year := Text.ofNat d.year
  let shortYear := two (d.year % 100)
  let monthName := monthNames.getD (d.month - 1) []
  let dayName := weekdayNames.getD d.weekday []
  let half : Text := if t.hour < 12 then "AM" else "PM"
  let minutes := ':' :: two t.minute
  let seconds := minutes ++ ':' :: two t.second
  let date := two d.month ++ '/' :: two d.day ++ '/' :: shortYear
  match letter with
  | 'Y' => some year
  | 'y' => some shortYear
  | 'C' => some (Text.ofNat (d.year / 100))
  | 'G' => some (Text.ofNat d.weekYear)
  | 'g' => some (two (d.weekYear % 100))
  | 'm' => some (two d.month)
  | 'd' => some (two d.day)
  | 'e' => some (blankTwo d.day)
  | 'B' => some monthName
  | 'b' | 'h' => some (monthName.take 3)
  | 'A' => some dayName
  | 'a' => some (dayName.take 3)
  | 'u' => some (Text.ofNat (d.weekday + 1))
  | 'w' => some (Text.ofNat d.sinceSunday)
  | 'j' => some (Text.padNat 3 d.dayOfYear)
  | 'U' => some (two (d.weeksBegun d.sinceSunday))
  | 'W' => some (two (d.weeksBegun d.weekday))
  | 'V' => some (two d.week)
  | 'H' => some (two t.hour)
  | 'I' => some (two t.hour12)
  | 'k' => some (blankTwo t.hour)
  | 'l' => some (blankTwo t.hour12)
  | 'p' => some half
  | 'P' => some (if t.hour < 12 then "am" else "pm")
  | 'M' => some (two t.minute)
  | 'S' => some (two t.second)
  | 's' => some (Text.ofInt t.epochSecond)
  | 'f' => some (Text.padNat 6 t.micro)
  | 'R' => some (two t.hour ++ minutes)
  | 'T' | 'X' => some (two t.hour ++ seconds)
  | 'r' => some (two t.hour12 ++ seconds ++ ' ' :: half)
  | 'D' | 'x' => some date
  | 'F' => some (year ++ '-' :: two d.month ++ '-' :: two d.day)
  | 'c' =>
    some (dayName.take 3 ++ ' ' :: monthName.take 3 ++ ' ' :: blankTwo d.day ++ ' ' :: two t.hour
      ++ seconds ++ ' ' :: year)
  | 'z' => some (match t.offset with | none => [] | some offset => offsetText [] offset)
  | 'Z' => some (match t.offset with | none => [] | some offset => zoneName offset)
  | 'n' => some ['\n']
  | 't' => some ['\t']
  | '%' => some ['%']
  | _ => none

/-- A point in time as a pattern shows it. -/
def format (t : DateTime) : Text → Text
  | [] => []
  | '%' :: letter :: rest =>
    (match t.field? letter with
      | some field => field
      | none => ['%', letter]) ++ format t rest
  | c :: rest => c :: format t rest

end DateTime

/-- A day or a point in time as a pattern shows it; a day is shown as its
midnight. The pattern ends at a character U+0000. -/
def Moment.format (m : Moment) (pattern : Text) : Text :=
  m.toDateTime.format (pattern.takeWhile (· != '\x00'))

end NoteVault
