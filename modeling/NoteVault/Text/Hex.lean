import NoteVault.Text.Basic

/-!
# Hexadecimal numerals

Characters that cannot stand in a text themselves are written by their number in
hexadecimal digits, with a fixed count of digits for each notation. `hex` writes
such a numeral, `hexValue?` reads one.
-/

namespace NoteVault.Text

/-- A number in lower-case hexadecimal digits, filled up with zeros. -/
def hex (width n : Nat) : Text :=
  let digits := Nat.toDigits 16 n
  List.replicate (width - digits.length) '0' ++ digits

/-- The value of a hexadecimal digit. -/
def hexDigit? (c : Char) : Option Nat :=
  if '0' ≤ c ∧ c ≤ '9' then some (c.toNat - 48)
  else if 'a' ≤ c ∧ c ≤ 'f' then some (c.toNat - 87)
  else if 'A' ≤ c ∧ c ≤ 'F' then some (c.toNat - 55)
  else none

/-- The number that hexadecimal digits denote; no digits denote zero. -/
def hexValue? (s : Text) : Option Nat :=
  s.foldl (fun n c => do return 16 * (← n) + (← hexDigit? c)) (some 0)

/-- The character whose number a run of hexadecimal digits gives; halves of surrogate
pairs are none. -/
def hexChar? (digits : Text) : Option Char := do
  let n ← hexValue? digits
  if n.isValidChar then some (Char.ofNat n) else none

/-- The character that a numeral of exactly `width` digits at the beginning of a text
gives, and what comes after it. -/
def readHexChar? (width : Nat) (s : Text) : Option (Char × Text) := do
  let digits := s.take width
  if digits.length < width then none
  return (← hexChar? digits, s.drop width)

end NoteVault.Text
