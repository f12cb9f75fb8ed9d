import NoteVault.Number.Binary64

/-!
# Numbers

A number of a note is an integer of any size or a binary64 number. The two kinds
share one order, that of the exact values, in which not-a-number equals itself
and comes after everything else. Since every integer and every finite binary64
number is a whole multiple of `2 ^ -1074`, an exact value is an integer count of
those units with the two infinities and not-a-number around it.

## Main definitions

* `ExactNumber`, `ExactNumber.order` — exact values and their order.
* `Number`, `Number.exact` — numbers and the value that the order looks at.
* `ExactNumber.isOversized` — integers too large to be rounded to binary64,
  which the order refuses.
* `Number.text`, `Number.headingText` — the two ways a number is written.
-/

namespace NoteVault

/-- An exact value, in units of `2 ^ -1074`. -/
inductive ExactNumber where
  /-- Below every other value. -/
  | negativeInfinity
  /-- A finite value. -/
  | finite (units : Int)
  /-- Above every finite value. -/
  | infinity
  /-- Not a number. -/
  | nan
  deriving DecidableEq

namespace ExactNumber

/-- The place of a kind of value in the order. -/
def rank : ExactNumber → Nat
  | .negativeInfinity => 0
  | .finite _ => 1
  | .infinity => 2
  | .nan => 3

/-- The order of exact values; not-a-number is the last of them. -/
def order : ExactNumber → ExactNumber → Ordering
  | .finite a, .finite b => compare a b
  | a, b => compare a.rank b.rank

/-- The first natural number that rounds to no binary64 number. -/
def firstOversized : Nat := Nat.pow 2 1024 - Nat.pow 2 970

/-- Whether a value is finite but rounds to no binary64 number. No binary64 number is,
so it is an integer. -/
def isOversized : ExactNumber → Bool
  | .finite units => firstOversized * unitsPerOne ≤ units.natAbs
  | _ => false

end ExactNumber

/-- An integer or a binary64 number. -/
inductive Number where
  /-- An integer. -/
  | int (n : Int)
  /-- A binary64 number. -/
  | float (x : Binary64)
  deriving DecidableEq

namespace Number

/-- The exact value of a number. -/
def exact : Number → ExactNumber
  | .int n => .finite (n * unitsPerOne)
  | .float .nan => .nan
  | .float (.infinite negative) => if negative then .negativeInfinity else .infinity
  | .float (.finite negative m) => .finite (if negative then -(m.units : Int) else m.units)

/-- Whether a number is zero, of either sign. -/
def isZero : Number → Bool
  | .int n => n = 0
  | .float (.finite _ m) => m.units = 0
  | .float _ => false

/-- A number as it stands: integers in digits, others with a point or an
exponent. -/
def text : Number → Text
  | .int n => Text.ofInt n
  | .float x => x.text

/-- A number as a reader writes it: without a point if there is nothing after
it. -/
def headingText : Number → Text
  | .int n => Text.ofInt n
  | .float (.finite negative m) =>
    if m.isWhole then Text.ofInt (if negative then -(m.whole : Int) else m.whole)
    else (Binary64.finite negative m).text
  | .float x => x.text

end Number
end NoteVault
