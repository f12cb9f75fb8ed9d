import NoteVault.Number.Magnitude

/-!
# The shortest decimal that reads back

Among the decimals that round to a given magnitude, the ones with the fewest
digits lie on the coarsest decimal grid that has a point in the interval of
numbers rounding to it; of two such points the nearer one is taken, and of two
equally near ones the even one.

The interval reaches half a step up and half a step down, where the step down is
half as long at a power of two, and its ends belong to it when the last bit of
the magnitude is even. On each grid only the two neighbours of the magnitude can
be hits. All of it is computed in natural numbers: a grid `10 ^ k` with `k < 0`
is reached by scaling the magnitude up.
-/

namespace NoteVault

/-- A decimal number `digits * 10 ^ exponent`. -/
structure Decimal where
  /-- The significant digits as a number. -/
  digits : Nat
  /-- The power of ten that they count. -/
  exponent : Int
  deriving DecidableEq

namespace Magnitude

/-- The distance to the magnitude below: at a power of two it is half the
distance to the one above. -/
def stepBelow (a : Magnitude) : Nat :=
  let step := unitStep a.units
  if a.units = Nat.pow 2 52 * step ∧ 1 < step then step / 2 else step

/-- Whether the last significant bit is zero, so that halfway points round to this
magnitude. -/
def lastBitEven (a : Magnitude) : Bool := a.units / unitStep a.units % 2 = 0

/-- Whether a number at `twice / (2 * scale)` units from `a` still rounds to it,
on the side where the neighbour is `step` units away. -/
def reaches (a : Magnitude) (twice step scale : Nat) : Bool :=
  if a.lastBitEven then twice ≤ step * scale else twice < step * scale

/-- The multiple of `10 ^ k` that rounds to `a`, if there is one: the nearer of
two, or the even one if they are equally near. -/
def onGrid? (a : Magnitude) (k : Int) : Option Nat :=
  let scale := Nat.pow 10 (-k).toNat
  let grid := unitsPerOne * Nat.pow 10 k.toNat
  let value := a.units * scale
  let below := value / grid
  let down := 2 * (value - below * grid)
  let up := 2 * ((below + 1) * grid - value)
  match a.reaches down a.stepBelow scale, a.reaches up (unitStep a.units) scale with
  | true, true =>
    if down < up ∨ (down = up ∧ below % 2 = 0) then some below else some (below + 1)
  | true, false => some below
  | false, true => some (below + 1)
  | false, false => none

/-- The first hit on the grids `10 ^ k`, `10 ^ (k - 1)`, …, trying `tries` of
them. -/
def coarsest (a : Magnitude) : Nat → Int → Decimal
  | 0, k => ⟨0, k⟩
  | tries + 1, k =>
    match a.onGrid? k with
    | some digits => ⟨digits, k⟩
    | none => coarsest a tries (k - 1)

/-- The shortest decimal that reads back as `a`. The search begins above the
leading digit; seventeen digits always suffice. -/
def shortest (a : Magnitude) : Decimal :=
  if a.units = 0 then ⟨0, 0⟩
  else coarsest a 21 (((a.units.log2 : Int) - 1073) * 30103 / 100000 + 1)

end Magnitude
end NoteVault
