import NoteVault.Proofs.Number.Integers

/-!
# Rounding and bounds

A number is rounded to one of its neighbours among the magnitudes, so rounding does not go past a
magnitude: what was at least as large is so afterwards, unless it was too large for any. The reason
is that the steps between magnitudes only grow. A magnitude below a number is either below the power
of two that the number begins with, or a multiple of the same step.

## Main results

* `Magnitude.le_nearest?` — rounding does not go below a magnitude.
* `Magnitude.le_add?`, `Decimal.le_toMagnitude?` — nor do sums and numerals that are rounded.
-/

namespace NoteVault

theorem div_le_roundHalfEven (num den : Nat) : num / den ≤ roundHalfEven num den := by
  unfold roundHalfEven
  dsimp only
  split <;> omega

/-- A multiple of a step that is not above a number is not above the last one below it. -/
theorem le_div_mul_of_dvd {step multiple n : Nat} (hdvd : step ∣ multiple) (hle : multiple ≤ n) :
    multiple ≤ n / step * step :=
  calc multiple
    _ = multiple / step * step := (Nat.div_mul_cancel hdvd).symm
    _ ≤ n / step * step := Nat.mul_le_mul_right step (Nat.div_le_div_right hle)

/-- A magnitude that is not above a number is not above the last one below it. -/
theorem Representable.le_div_mul {bound units : Nat} (h : Representable bound)
    (hle : bound ≤ units) : bound ≤ units / unitStep units * unitStep units := by
  by_cases hzero : bound = 0
  · omega
  · have hunits : units ≠ 0 := by omega
    by_cases hlog : bound.log2 = units.log2
    · have hstep : unitStep units = unitStep bound := by rw [unitStep, unitStep, hlog]
      exact le_div_mul_of_dvd (hstep ▸ h.1) hle
    · -- the power of two between them is a multiple of the larger step
      have hmono : bound.log2 ≤ units.log2 :=
        (Nat.le_log2 hunits).mpr (Nat.le_trans (Nat.log2_self_le hzero) hle)
      have hbound : bound < 2 ^ units.log2 := (Nat.log2_lt hzero).mp (by omega)
      have hdvd : unitStep units ∣ 2 ^ units.log2 := Nat.pow_dvd_pow 2 (Nat.sub_le _ _)
      exact Nat.le_trans (Nat.le_of_lt hbound)
        (le_div_mul_of_dvd hdvd (Nat.log2_self_le hunits))

namespace Magnitude

variable {bound : Nat} {a b c : Magnitude}

theorem units_of_ofUnits? {units : Nat} (h : ofUnits? units = some a) : a.units = units := by
  unfold ofUnits? at h
  split at h
  · cases h
    rfl
  · cases h

/-- **Rounding does not go below a magnitude.** -/
theorem le_nearest? {num den : Nat} (h : Representable bound) (hden : 0 < den)
    (hle : bound * den ≤ num) (ha : nearest? num den = some a) : bound ≤ a.units := by
  have hquot : bound ≤ num / den := (Nat.le_div_iff_mul_le hden).mpr hle
  rw [units_of_ofUnits? ha]
  calc bound
    _ ≤ num / den / unitStep (num / den) * unitStep (num / den) := h.le_div_mul hquot
    _ = num / (den * unitStep (num / den)) * unitStep (num / den) := by rw [Nat.div_div_eq_div_mul]
    _ ≤ _ := Nat.mul_le_mul_right _ (div_le_roundHalfEven _ _)

/-- Nor does a sum that is rounded. -/
theorem le_add? (h : Representable bound) (hle : bound ≤ a.units + b.units)
    (hc : a.add? b = some c) : bound ≤ c.units :=
  le_nearest? h Nat.one_pos (by omega) hc

theorem le_whole {n : Nat} (h : n * unitsPerOne ≤ a.units) : n ≤ a.whole :=
  (Nat.le_div_iff_mul_le unitsPerOne_pos).mpr h

end Magnitude

/-- Nor does an integer that is rounded. -/
theorem Decimal.le_toMagnitude? {bound n : Nat} {a : Magnitude} (h : Representable bound)
    (hle : bound ≤ n * unitsPerOne) (ha : (Decimal.mk n 0).toMagnitude? = some a) :
    bound ≤ a.units := by
  unfold toMagnitude? at ha
  dsimp only at ha
  split at ha
  · next hzero =>
      -- the exponent is not negative, so only zero is that small
      obtain rfl : n = 0 := hzero.resolve_right (by omega)
      omega
  · split at ha
    · cases ha
    · exact Magnitude.le_nearest? h Nat.one_pos (by simpa using hle) ha

end NoteVault
