import NoteVault.Text.Basic

/-!
# Durations

A length of time in microseconds, positive or negative, of at most 999999999 days
and the rest of a day. `Duration.minimalText` names the units that are not zero,
from days to milliseconds; what is below a millisecond is dropped, towards zero.
-/

namespace NoteVault

/-- Whether a number of microseconds is a duration: between minus 999999999 days
and just below a thousand million days. -/
def IsDuration (micros : Int) : Prop :=
  -86399999913600000000 ≤ micros ∧ micros < 86400000000000000000

instance (micros : Int) : Decidable (IsDuration micros) := inferInstanceAs (Decidable (_ ∧ _))

/-- A length of time. -/
structure Duration where
  /-- The length in microseconds. -/
  micros : Int
  /-- The length is within bounds. -/
  is_duration : IsDuration micros
  deriving DecidableEq

namespace Duration

/-- The duration of so many microseconds, if they are within bounds. -/
def of? (micros : Int) : Option Duration :=
  if h : IsDuration micros then some ⟨micros, h⟩ else none

/-- The units of a rendered duration, largest first, with their milliseconds. -/
def textUnits : List (Text × Nat) :=
  [("day", 86400000), ("hour", 3600000), ("minute", 60000), ("second", 1000),
    ("millisecond", 1)]

/-- An amount of a unit, in the plural unless it is one. -/
def amountText (amount : Nat) (unit : Text) : Text :=
  Text.ofNat amount ++ ' ' :: unit ++ (if amount = 1 then [] else ['s'])

/-- The amounts of the given units in a number of milliseconds, those of zero left
out. -/
def parts : List (Text × Nat) → Nat → List Text
  | [], _ => []
  | (unit, size) :: units, millis =>
    let amount := millis / size
    let rest := parts units (millis % size)
    if amount = 0 then rest else amountText amount unit :: rest

/-- A number of milliseconds in units. -/
def millisText (millis : Nat) : Text :=
  match parts textUnits millis with
  | [] => "0 seconds"
  | named => Text.joinWith ", " named

/-- A duration in units, with a minus sign in front if it is negative. -/
def minimalText (d : Duration) : Text :=
  (if d.micros < 0 then ['-'] else []) ++ millisText (d.micros.natAbs / 1000)

end Duration
end NoteVault
