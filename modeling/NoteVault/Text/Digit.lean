import NoteVault.Text.Basic

/-!
# Decimal digits

The decimal digits of all scripts: the characters of the general category `Nd`,
which the Unicode character database (version 14) keeps in groups of ten with
consecutive code points, zero first. One list of the zeros therefore gives both
the class and the value of a digit.
-/

namespace NoteVault.Text

/-- The code points of the digits zero, in increasing order. -/
def digitZeros : List Nat :=
  [0x30, 0x660, 0x6F0, 0x7C0, 0x966, 0x9E6, 0xA66, 0xAE6, 0xB66, 0xBE6, 0xC66, 0xCE6, 0xD66,
    0xDE6, 0xE50, 0xED0, 0xF20, 0x1040, 0x1090, 0x17E0, 0x1810, 0x1946, 0x19D0, 0x1A80, 0x1A90,
    0x1B50, 0x1BB0, 0x1C40, 0x1C50, 0xA620, 0xA8D0, 0xA900, 0xA9D0, 0xA9F0, 0xAA50, 0xABF0,
    0xFF10, 0x104A0, 0x10D30, 0x11066, 0x110F0, 0x11136, 0x111D0, 0x112F0, 0x11450, 0x114D0,
    0x11650, 0x116C0, 0x11730, 0x118E0, 0x11950, 0x11C50, 0x11D50, 0x11DA0, 0x16A60, 0x16AC0,
    0x16B50, 0x1D7CE, 0x1D7D8, 0x1D7E2, 0x1D7EC, 0x1D7F6, 0x1E140, 0x1E2F0, 0x1E950, 0x1FBF0]

/-- The value of a code point among groups of ten digits. -/
def digitAmong : List Nat → Nat → Option Nat
  | [], _ => none
  | start :: rest, n =>
    if n < start then none else if n < start + 10 then some (n - start) else digitAmong rest n

/-- The value of a decimal digit of any script. -/
def digitValue? (c : Char) : Option Nat := digitAmong digitZeros c.toNat

/-- Whether a character is a decimal digit of any script. -/
def isDigit (c : Char) : Bool := (digitValue? c).isSome

/-- The number that a run of digits denotes, most significant digit first;
other characters are read past. -/
def digitsValue (s : Text) : Nat :=
  s.foldl (fun n c => match digitValue? c with | some d => 10 * n + d | none => n) 0

/-- Core's digits are the first group. -/
theorem isDigit_of_ascii {c : Char} (h : c.isDigit = true) : isDigit c = true := by
  have hc : 48 ≤ c.toNat ∧ c.toNat < 58 := by
    simp only [Char.isDigit, Bool.and_eq_true, decide_eq_true_eq, ge_iff_le, UInt32.le_iff_toNat_le] at h
    have h1 : (48 : Nat) ≤ c.val.toNat := h.1
    have h2 : c.val.toNat ≤ (57 : Nat) := h.2
    exact ⟨h1, Nat.lt_succ_of_le h2⟩
  have hlt : ¬ c.toNat < 48 := by omega
  simp [isDigit, digitValue?, digitZeros, digitAmong, hlt, hc.2]

end NoteVault.Text
