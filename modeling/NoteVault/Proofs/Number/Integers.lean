import NoteVault.Number.Binary64
import NoteVault.Proofs.Number.Exact
import NoteVault.Proofs.Text.Span

/-!
# Integers among binary64 numbers

A number that is representable stays as it is when it is rounded. The natural numbers below
`2 ^ 53` are representable, as they have no more than 53 significant bits, so they are read
exactly, and adding them is exact as long as the sum is one of them. They have nothing after the
point.

## Main results

* `Magnitude.nearest?_of_representable` — what is representable stays as it is.
* `Magnitude.exists_add?` — small integers are added exactly.
* `Decimal.exists_toMagnitude?` — and read exactly.
-/

namespace NoteVault

/-- The natural numbers up to which binary64 has all of them. -/
def exactBound : Nat := Nat.pow 2 53

/-! ## Rounding -/

theorem roundHalfEven_mul (quotient : Nat) {den : Nat} (hden : 0 < den) :
    roundHalfEven (quotient * den) den = quotient := by
  unfold roundHalfEven
  rw [Nat.mul_mod_left, Nat.mul_div_cancel _ hden, if_pos (.inl (by omega))]

theorem unitStep_pos (units : Nat) : 0 < unitStep units := Nat.two_pow_pos _

/-- With 53 significant bits, a multiple of a power of two is a multiple of its own step. -/
theorem unitStep_dvd {n unit e : Nat} (hunit : unit = Nat.pow 2 e) (h : n < exactBound) :
    unitStep (n * unit) ∣ n * unit := by
  replace hunit : unit = 2 ^ e := hunit
  by_cases hzero : n * unit = 0
  · rw [hzero]
    exact Nat.dvd_zero _
  · have hlt : n * unit < 2 ^ (53 + e) := by
      rw [Nat.pow_add, hunit]
      exact Nat.mul_lt_mul_of_pos_right h (Nat.two_pow_pos e)
    have hlog : (n * unit).log2 < 53 + e := (Nat.log2_lt hzero).mpr hlt
    have hstep : unitStep (n * unit) ∣ unit := by
      rw [hunit] at hlog ⊢
      exact Nat.pow_dvd_pow 2 (by omega)
    exact Nat.dvd_trans hstep (Nat.dvd_mul_left _ _)

theorem exists_unitsPerOne_eq : ∃ e, unitsPerOne = Nat.pow 2 e := by
  unfold unitsPerOne
  exact ⟨_, rfl⟩

/-- Natural numbers below `2 ^ 53` are representable. -/
theorem representable_of_lt {n : Nat} (h : n < exactBound) : Representable (n * unitsPerOne) := by
  have hlimit : exactBound * unitsPerOne ≤ Nat.pow 2 2098 := by decide +kernel
  have hlt : n * unitsPerOne < exactBound * unitsPerOne :=
    Nat.mul_lt_mul_of_pos_right h unitsPerOne_pos
  obtain ⟨e, hunit⟩ := exists_unitsPerOne_eq
  exact ⟨unitStep_dvd hunit h, Nat.lt_of_lt_of_le hlt hlimit⟩

namespace Magnitude

/-- **What is representable stays as it is.** -/
theorem nearest?_of_representable {units : Nat} (h : Representable units) :
    nearest? units 1 = some ⟨units, h⟩ := by
  obtain ⟨quotient, hquotient⟩ := h.1
  have hround : roundHalfEven units (unitStep units) * unitStep units = units := by
    have hmul : units = quotient * unitStep units := hquotient.trans (Nat.mul_comm _ _)
    have hquot := roundHalfEven_mul quotient (unitStep_pos units)
    rw [← hmul] at hquot
    rw [hquot, ← hmul]
  unfold nearest?
  dsimp only
  rw [Nat.div_one, Nat.one_mul, hround, ofUnits?, dif_pos h]

/-- A magnitude is a natural number. -/
def IsNat (m : Magnitude) (n : Nat) : Prop := m.units = n * unitsPerOne

variable {a b : Magnitude} {m n : Nat}

theorem isNat_zero : zero.IsNat 0 := (Nat.zero_mul _).symm

/-- Natural numbers below `2 ^ 53` are rounded to themselves. -/
theorem exists_nearest? (h : n < exactBound) :
    ∃ a, nearest? (n * unitsPerOne) 1 = some a ∧ a.IsNat n :=
  ⟨_, nearest?_of_representable (representable_of_lt h), rfl⟩

/-- **Small integers are added exactly.** -/
theorem exists_add? (ha : a.IsNat m) (hb : b.IsNat n) (h : m + n < exactBound) :
    ∃ c, a.add? b = some c ∧ c.IsNat (m + n) := by
  unfold add?
  rw [ha, hb, ← Nat.add_mul]
  exact exists_nearest? h

theorem IsNat.whole_eq (ha : a.IsNat n) : a.whole = n := by
  rw [whole, ha, Nat.mul_div_cancel _ unitsPerOne_pos]

/-- There is nothing after the point. -/
theorem IsNat.fraction_units (ha : a.IsNat n) : a.fraction.units = 0 := by
  obtain ⟨b, hb, hnat⟩ := exists_nearest? (n := 0) (by decide)
  rw [Nat.zero_mul] at hb
  rw [fraction, ha, Nat.mul_mod_left, hb]
  exact hnat.trans (Nat.zero_mul _)

end Magnitude

namespace Decimal

/-- **Small integers are read exactly.** -/
theorem exists_toMagnitude? {n : Nat} (h : n < exactBound) :
    ∃ a, (Decimal.mk n 0).toMagnitude? = some a ∧ a.IsNat n := by
  have hlength : (Text.ofNat n).length ≤ 16 :=
    (Nat.length_toDigits_le_iff (by decide) (by decide)).mpr (Nat.lt_trans h (by decide))
  unfold toMagnitude?
  dsimp only
  by_cases hzero : n = 0
  · rw [if_pos (.inl hzero), hzero]
    exact ⟨_, rfl, Magnitude.isNat_zero⟩
  · rw [if_neg (by omega), if_neg (by omega)]
    show ∃ a, Magnitude.nearest? (n * 1 * unitsPerOne) 1 = some a ∧ a.IsNat n
    rw [Nat.mul_one]
    exact Magnitude.exists_nearest? h

/-- The decimal that digits alone denote. -/
theorem parse?_digits {digits : Text} (hne : digits ≠ [])
    (h : ∀ c ∈ digits, Text.isDigit c = true) :
    parse? digits = some ⟨Text.digitsValue digits, 0⟩ := by
  have hend : Text.EndsAt Text.isDigit [] := nofun
  obtain ⟨htake, hdrop⟩ := Text.span_append h hend
  rw [List.append_nil] at htake hdrop
  have hempty : digits.isEmpty = false := List.isEmpty_eq_false_iff.mpr hne
  unfold parse?
  rw [htake, hdrop]
  simp [hempty]

end Decimal
end NoteVault
