import NoteVault.Text.Digit
import NoteVault.Calendar.DateTime

/-!
# ISO text of dates

A date is written `2024-01-05`. A time follows it after a `T` or a blank as
`10:30`, `10:30:05` or `10:30:05.25`, and after the time may stand the offset from
UTC, as `Z`, `+05:30` or `+0530`. Digits that count are ASCII.

`readIso?` reads all of these. Places of a second beyond the sixth are dropped, and
if an offset follows, they may be digits of any script. The minutes of an offset are
not limited to 59, as long as the offset stays below a day. `Moment.iso` writes the
one form with seconds, with six places if there are microseconds, and with an offset
in minutes, or seconds if it needs them.
-/

namespace NoteVault

/-! ## Writing -/

/-- The text of a date. -/
def Date.iso (d : Date) : Text :=
  Text.padNat 4 d.year ++ "-" ++ Text.padNat 2 d.month ++ "-" ++ Text.padNat 2 d.day

/-- An offset with its sign, `sep` between the fields; seconds only if there are
any. -/
def offsetText (sep : Text) (offset : Int) : Text :=
  let seconds := offset.natAbs
  (if offset < 0 then '-' else '+') :: Text.padNat 2 (seconds / 3600) ++ sep
    ++ Text.padNat 2 (seconds / 60 % 60)
    ++ (if seconds % 60 = 0 then [] else sep ++ Text.padNat 2 (seconds % 60))

/-- The text of a point in time, with `sep` between date and time. -/
def DateTime.iso (sep : Char) (t : DateTime) : Text :=
  t.date.iso ++ sep :: Text.padNat 2 t.hour ++ ":" ++ Text.padNat 2 t.minute ++ ":"
    ++ Text.padNat 2 t.second
    ++ (if t.micro = 0 then [] else '.' :: Text.padNat 6 t.micro)
    ++ (match t.offset with | none => [] | some offset => offsetText ":" offset)

/-- The text of a day or a point in time, with `sep` between date and time. -/
def Moment.iso (sep : Char) : Moment → Text
  | .day date => date.iso
  | .time t => t.iso sep

/-! ## Reading -/

namespace Iso

/-- The value of an ASCII digit. -/
def digit? (c : Char) : Option Nat := if c.isDigit then some (c.toNat - 48) else none

/-- The number in the first two characters, and the rest. -/
def two? : Text → Option (Nat × Text)
  | a :: b :: rest => do return (10 * (← digit? a) + (← digit? b), rest)
  | _ => none

/-- The date at the beginning, and the rest. -/
def date? (s : Text) : Option (Date × Text) := do
  let (century, s) ← two? s
  let (year, s) ← two? s
  let s ← Text.dropStart? "-" s
  let (month, s) ← two? s
  let s ← Text.dropStart? "-" s
  let (day, s) ← two? s
  return (← Date.of? (100 * century + year) month day, s)

/-- The microseconds that the places of a second denote; only six places
count. -/
def micros (places : Text) : Nat :=
  let six := places.take 6
  Nat.ofDigitChars 10 six 0 * Nat.pow 10 (6 - six.length)

/-- What is left behind the places of a second. If at least six places were read,
digits of other scripts may follow them, but not as the end of the text. -/
def afterPlaces (places rest : Text) : Text :=
  match rest.dropWhile Text.isDigit with
  | [] => rest
  | beyond => if places.length < 6 then rest else beyond

/-- The seconds after minutes, with their places, and the rest; without them, zero. -/
def seconds? : Text → Option (Nat × Nat × Text)
  | ':' :: s => do
    let (second, s) ← two? s
    match s with
    | '.' :: s =>
      let places := s.takeWhile Char.isDigit
      if places.isEmpty then none
      else some (second, micros places, afterPlaces places (s.dropWhile Char.isDigit))
    | s => some (second, 0, s)
  | s => some (0, 0, s)

/-- An offset as the whole of what is left; without one, none. -/
def offset? : Text → Option (Option Int)
  | [] => some none
  | ['Z'] => some (some 0)
  | sign :: s => do
    let (hours, s) ← two? s
    let s := match s with
      | ':' :: rest => rest
      | s => s
    let (minutes, s) ← two? s
    let offset : Int := hours * 3600 + minutes * 60
    if !s.isEmpty then none
    else if sign = '+' then some (some offset)
    else if sign = '-' then some (some (-offset))
    else none

end Iso

/-- The point in time that an ISO text denotes; a date alone is its midnight. -/
def readIso? (s : Text) : Option DateTime := do
  let (date, s) ← Iso.date? s
  match s with
  | [] => some (DateTime.midnight date)
  | sep :: s =>
    if sep = 'T' ∨ sep = ' ' then
      let (hour, s) ← Iso.two? s
      let s ← Text.dropStart? ":" s
      let (minute, s) ← Iso.two? s
      let (second, micro, s) ← Iso.seconds? s
      DateTime.of? date hour minute second micro (← Iso.offset? s)
    else none

end NoteVault
