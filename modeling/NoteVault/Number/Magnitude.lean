/-!
# Magnitudes of binary64 numbers

The finite non-negative binary64 numbers. All of them are whole multiples of
the smallest one, `2 ^ -1074`, so a magnitude is kept as that multiple: a
natural number of *units* with at most 53 significant bits and below the
overflow limit. Two magnitudes are the same number exactly when they have the
same units, they are in the order of their units, and an integer `n` is
`n * 2 ^ 1074` units, so that exact comparison with integers needs no
fractions.

Every operation computes its result exactly, as a quotient of natural numbers,
and rounds it once: to the nearest magnitude, and to the one with an even last
bit where two are equally near.

## Main definitions

* `Magnitude` — units that are representable.
* `Magnitude.nearest?` — the one rounding; `none` beyond the largest magnitude.
* `Magnitude.ofRatio?`, `add?`, `scale?`, `mul?` — numbers rounded through it.
* `Magnitude.whole`, `Magnitude.fraction` — the parts before and after the point.
-/

namespace NoteVault

/-- The number of units in one. -/
def unitsPerOne : Nat := Nat.pow 2 1074

/-- The distance between neighbouring magnitudes around `units`: one unit as
long as 53 bits suffice, then as many as the bits in excess command. -/
def unitStep (units : Nat) : Nat := Nat.pow 2 (units.log2 - 52)

/-- Whether so many units are a magnitude: no more than 53 significant bits, and
less than `2 ^ 1024`. -/
def Representable (units : Nat) : Prop := unitStep units ∣ units ∧ units < Nat.pow 2 2098

instance (units : Nat) : Decidable (Representable units) :=
  inferInstanceAs (Decidable (_ ∧ _))

/-- The quotient to the nearest natural number, a half to the even neighbour. -/
def roundHalfEven (num den : Nat) : Nat :=
  let quotient := num / den
  let rest := num % den
  if 2 * rest < den ∨ (2 * rest = den ∧ quotient % 2 = 0) then quotient else quotient + 1

/-- A finite non-negative binary64 number. -/
structure Magnitude where
  /-- The number as a multiple of `2 ^ -1074`. -/
  units : Nat
  /-- The multiple is one of those that binary64 has. -/
  representable : Representable units
  deriving DecidableEq

namespace Magnitude

theorem ext_units {a b : Magnitude} (h : a.units = b.units) : a = b := by
  cases a; cases b; cases h; rfl

/-- Zero. -/
def zero : Magnitude := ⟨0, Nat.dvd_zero _, Nat.two_pow_pos 2098⟩

/-- So many units, where they are representable as they stand. -/
def ofUnits? (units : Nat) : Option Magnitude :=
  if h : Representable units then some ⟨units, h⟩ else none

/-- The magnitude nearest to `num / den` units, an even last bit deciding between
two; `none` where that is beyond the largest magnitude. -/
def nearest? (num den : Nat) : Option Magnitude :=
  let step := unitStep (num / den)
  ofUnits? (roundHalfEven num (den * step) * step)

/-- The magnitude nearest to the number `num / den`. -/
def ofRatio? (num den : Nat) : Option Magnitude := nearest? (num * unitsPerOne) den

/-- The rounded sum. -/
def add? (a b : Magnitude) : Option Magnitude := nearest? (a.units + b.units) 1

/-- The rounded product with a natural number. -/
def scale? (a : Magnitude) (n : Nat) : Option Magnitude := nearest? (a.units * n) 1

/-- The rounded product. -/
def mul? (a b : Magnitude) : Option Magnitude := nearest? (a.units * b.units) unitsPerOne

/-- The part before the point. -/
def whole (a : Magnitude) : Nat := a.units / unitsPerOne

/-- Whether there is nothing after the point. -/
def isWhole (a : Magnitude) : Bool := a.units % unitsPerOne = 0

/-- The part after the point. It has no more significant bits than the whole
number, so rounding changes nothing. -/
def fraction (a : Magnitude) : Magnitude := (nearest? (a.units % unitsPerOne) 1).getD zero

end Magnitude
end NoteVault
