import NoteVault.Calendar.Duration
import NoteVault.Number.Binary64
import NoteVault.Text.Blank
import NoteVault.Text.Lower

/-!
# Reading durations

A duration is written as amounts with units, such as `3 days` or `1h 30m`, blanks
and at most one comma between them. Amounts are decimal numerals, possibly with
places after the point; units are known in several forms, in any case.

Amounts of one unit are added as binary64 numbers. Of each sum the whole part
counts exactly and the rest is multiplied out in binary64; what then is less than a
microsecond is collected, and the total is rounded once, a half to even.

## Main definitions

* `DurationUnit` — the units, with their forms and their lengths.
* `durationParts?` — the amounts and the unit words of a text.
* `readDuration` — the duration that a text denotes, if it denotes one.
-/

namespace NoteVault

/-- A unit of time. -/
inductive DurationUnit where
  | millisecond | second | minute | hour | day | week
  deriving DecidableEq

namespace DurationUnit

/-- All units, shortest first. -/
def all : List DurationUnit := [.millisecond, .second, .minute, .hour, .day, .week]

/-- The forms in which a unit is written, in lower case. -/
def forms : DurationUnit → List Text
  | .millisecond => ["ms", "millisecond", "milliseconds"]
  | .second => ["s", "sec", "secs", "second", "seconds"]
  | .minute => ["m", "min", "mins", "minute", "minutes"]
  | .hour => ["h", "hr", "hrs", "hour", "hours"]
  | .day => ["d", "day", "days"]
  | .week => ["w", "wk", "wks", "week", "weeks"]

/-- The length of a unit in microseconds. -/
def micros : DurationUnit → Nat
  | .millisecond => 1000
  | .second => 1000000
  | .minute => 60000000
  | .hour => 3600000000
  | .day => 86400000000
  | .week => 604800000000

/-- The unit that a word names. -/
def ofWord? (word : Text) : Option DurationUnit :=
  all.find? fun unit => unit.forms.contains (Text.lower word)

end DurationUnit

/-- A text was read as a duration that is out of bounds. -/
inductive DurationError where
  /-- The duration is too long. -/
  | outOfBounds
  deriving DecidableEq

/-! ## The parts of a text -/

/-- A character that can stand in a unit word: a letter from `a` to `z` in either case,
and the letters that are one of these in the other case. -/
def isUnitLetter (c : Char) : Bool :=
  c.isAlpha || c = '\u0130' || c = '\u0131' || c = '\u017f' || c = '\u212a'

/-- The numeral at the beginning of a text, and what follows it. -/
def takeAmount? (s : Text) : Option (Text × Text) :=
  match s.takeWhile Text.isDigit, s.dropWhile Text.isDigit with
  | [], _ => none
  | whole, '.' :: rest =>
    match rest.takeWhile Text.isDigit with
    | [] => none
    | places => some (whole ++ '.' :: places, rest.dropWhile Text.isDigit)
  | whole, rest => some (whole, rest)

/-- The amount and the unit word at the beginning of a text, and what follows them and
the separator behind them. -/
def takePart? (s : Text) : Option ((Text × Text) × Text) := do
  let (amount, rest) ← takeAmount? s
  let rest := Text.stripStart rest
  match rest.takeWhile isUnitLetter with
  | [] => none
  | word =>
    let rest := Text.stripStart (rest.dropWhile isUnitLetter)
    let rest := match rest with
      | ',' :: rest => Text.stripStart rest
      | rest => rest
    some ((amount, word), rest)

/-- The parts of a text, of which at most `fuel` are taken. -/
def takeParts? : (fuel : Nat) → Text → Option (List (Text × Text))
  | _, [] => some []
  | 0, _ :: _ => none
  | fuel + 1, s => do
    let (part, rest) ← takePart? s
    return part :: (← takeParts? fuel rest)

/-- The amounts and unit words that a text consists of; there is at least one. -/
def durationParts? (s : Text) : Option (List (Text × Text)) :=
  match Text.stripStart s with
  | [] => none
  | s => takeParts? s.length s

/-! ## Adding up -/

/-- The sum of the amounts of one unit; `none` stands for infinity. -/
def amountOf (parts : List (Option Magnitude × DurationUnit)) (unit : DurationUnit) :
    Option Magnitude :=
  parts.foldl
    (fun sum (amount, u) => if u = unit then do (← sum).add? (← amount) else sum)
    (some Magnitude.zero)

/-- Whole microseconds, and a rest of less than one that was collected on the way. -/
structure MicroSum where
  /-- Whole microseconds. -/
  whole : Nat
  /-- What remained. -/
  rest : Magnitude

/-- A sum with an amount of a unit added. -/
def MicroSum.add (sum : MicroSum) (amount : Magnitude) (unit : DurationUnit) : Option MicroSum := do
  let whole := sum.whole + amount.whole * unit.micros
  let fraction := amount.fraction
  if fraction.units = 0 then some { sum with whole }
  else
    let more ← fraction.scale? unit.micros
    return ⟨whole + more.whole, ← sum.rest.add? more.fraction⟩

/-- The sum in whole microseconds, a half to even. -/
def MicroSum.rounded (sum : MicroSum) : Nat :=
  roundHalfEven (sum.whole * unitsPerOne + sum.rest.units) unitsPerOne

/-- The microseconds of some amounts; `none` where one of them is infinite. -/
def totalMicros (parts : List (Option Magnitude × DurationUnit)) : Option Nat := do
  let sum ← DurationUnit.all.foldlM
    (fun sum unit => do MicroSum.add sum (← amountOf parts unit) unit) ⟨0, Magnitude.zero⟩
  return sum.rounded

/-- The duration that a text denotes, if all of it is amounts with known units. -/
def readDuration (s : Text) : Except DurationError (Option Duration) :=
  let parts? := do
    (← durationParts? s).mapM fun (amount, word) => do
      return ((← Decimal.parse? amount).toMagnitude?, ← DurationUnit.ofWord? word)
  match parts? with
  | none => .ok none
  | some parts =>
    match (totalMicros parts).bind fun micros => Duration.of? micros with
    | some d => .ok (some d)
    | none => .error .outOfBounds

end NoteVault
