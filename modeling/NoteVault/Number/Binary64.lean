import NoteVault.Text.Digit
import NoteVault.Number.Shortest

/-!
# Binary64 numbers and their text

A binary64 number is not a number, or infinite with a sign, or a magnitude with
a sign; zero has both signs.

Reading a decimal numeral rounds its exact value once. Writing uses the shortest
decimal that reads back: positionally while the leading digit counts a power of
ten from `10 ^ -4` to `10 ^ 15`, always with a point, and otherwise with an
exponent of at least two digits and a sign.
-/

namespace NoteVault

/-- A binary64 number. -/
inductive Binary64 where
  /-- Not a number; all of them are the same. -/
  | nan
  /-- An infinity. -/
  | infinite (negative : Bool)
  /-- A finite number; zero has a sign as well. -/
  | finite (negative : Bool) (magnitude : Magnitude)
  deriving DecidableEq

namespace Decimal

/-- The magnitude nearest to a decimal; `none` where that is beyond the largest
one. Decimals far outside the range are settled by the place of their leading
digit alone. -/
def toMagnitude? (d : Decimal) : Option Magnitude :=
  let lead := (Text.ofNat d.digits).length + d.exponent
  if d.digits = 0 ∨ lead < -330 then some Magnitude.zero
  else if 310 < lead then none
  else Magnitude.ofRatio? (d.digits * Nat.pow 10 d.exponent.toNat) (Nat.pow 10 (-d.exponent).toNat)

/-- The decimal that a numeral denotes: digits with at most one point among or
around them, and possibly an exponent. -/
def parse? (s : Text) : Option Decimal :=
  let whole := s.takeWhile Text.isDigit
  let afterWhole := s.dropWhile Text.isDigit
  let places := match afterWhole with
    | '.' :: rest => rest.takeWhile Text.isDigit
    | _ => []
  let afterPlaces := match afterWhole with
    | '.' :: rest => rest.dropWhile Text.isDigit
    | _ => afterWhole
  if whole.isEmpty && places.isEmpty then none
  else
    let digits := Text.digitsValue (whole ++ places)
    let shift : Int := -(places.length : Int)
    match afterPlaces with
    | [] => some ⟨digits, shift⟩
    | e :: rest =>
      if e = 'e' ∨ e = 'E' then
        let (negative, power) := match rest with
          | '-' :: power => (true, power)
          | '+' :: power => (false, power)
          | power => (false, power)
        if !power.isEmpty && power.all Text.isDigit then
          let n : Int := Text.digitsValue power
          some ⟨digits, shift + if negative then -n else n⟩
        else none
      else none

end Decimal

namespace Binary64

/-- Positive zero. -/
def zero : Binary64 := .finite false Magnitude.zero

/-- A magnitude with a sign, infinite where the magnitude is out of range. -/
def ofMagnitude? (negative : Bool) : Option Magnitude → Binary64
  | some m => .finite negative m
  | none => .infinite negative

/-- The number with the opposite sign. -/
def neg : Binary64 → Binary64
  | .nan => .nan
  | .infinite negative => .infinite !negative
  | .finite negative m => .finite (!negative) m

/-- The number that an unsigned numeral denotes. -/
def ofNumeral? (s : Text) : Option Binary64 :=
  (Decimal.parse? s).map fun d => ofMagnitude? false d.toMagnitude?

/-! ## Writing -/

/-- How a decimal is laid out. -/
structure Layout where
  /-- The least power of ten of the leading digit that is written positionally. -/
  leastPlace : Int
  /-- The first power of ten of the leading digit that is written with an
  exponent again. -/
  beyondPlaces : Int
  /-- The least number of digits of an exponent. -/
  exponentWidth : Nat

/-- The leading digit from `10 ^ -4` to `10 ^ 15` is written positionally, and an
exponent has at least two digits. -/
def layout : Layout := ⟨-4, 16, 2⟩

/-- A decimal in digits, with a point or an exponent. -/
def decimalText (l : Layout) (d : Decimal) : Text :=
  let digits := Text.ofNat d.digits
  let count := digits.length
  let lead : Int := d.exponent + count - 1
  if l.leastPlace ≤ lead ∧ lead < l.beyondPlaces then
    if lead < 0 then
      "0." ++ List.replicate (-lead - 1).toNat '0' ++ digits
    else
      let front := lead.toNat + 1
      if count ≤ front then digits ++ List.replicate (front - count) '0' ++ ".0"
      else digits.take front ++ "." ++ digits.drop front
  else
    let mantissa := match digits with
      | first :: second :: rest => first :: '.' :: second :: rest
      | short => short
    let sign := if lead < 0 then '-' else '+'
    mantissa ++ 'e' :: sign :: Text.padNat l.exponentWidth lead.natAbs

/-- The text of a binary64 number. -/
def text : Binary64 → Text
  | .nan => "nan"
  | .infinite negative => if negative then "-inf" else "inf"
  | .finite negative m =>
    (if negative then ['-'] else []) ++ decimalText layout m.shortest

end Binary64
end NoteVault
