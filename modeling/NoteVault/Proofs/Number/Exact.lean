import NoteVault.Number.Basic
import NoteVault.Text.Numeral

/-!
# What numbers denote

The order looks at a number as an `ExactNumber`, a count of units of `2 ^ -1074`. Two
facts justify that. Two numbers have the same exact value only if they denote the same
rational number, the same infinity, or are both not a number: units are a faithful
scale. And no binary64 number is so large that the order refuses it, because the
largest one with 53 significant bits lies a whole `2 ^ 2045` units below `2 ^ 2098`;
so only integers have to be kept small.

## Main results

* `Number.quantity_eq_iff` — numbers with one exact value denote the same.
* `Number.isOversized_exact` — exactly the integers out of the range of binary64 are
  refused.
* `Number.isWritable_of_fits` — integers in that range can be written.
-/

namespace NoteVault

/-! ## Quantities -/

/-- What a number denotes. -/
inductive Quantity where
  /-- A rational number. -/
  | real (q : Rat)
  /-- One of the two infinities. -/
  | infinity (negative : Bool)
  /-- No number. -/
  | notANumber

/-- What a number denotes. Both zeros are the number zero. -/
def Number.quantity : Number → Quantity
  | .int n => .real (mkRat n 1)
  | .float .nan => .notANumber
  | .float (.infinite negative) => .infinity negative
  | .float (.finite negative m) =>
    .real (mkRat (if negative then -(m.units : Int) else m.units) unitsPerOne)

/-- What an exact value denotes. -/
def ExactNumber.quantity : ExactNumber → Quantity
  | .finite units => .real (mkRat units unitsPerOne)
  | .negativeInfinity => .infinity true
  | .infinity => .infinity false
  | .nan => .notANumber

theorem unitsPerOne_pos : 0 < unitsPerOne := by decide +kernel

theorem unitsPerOne_ne_zero : unitsPerOne ≠ 0 := Nat.ne_of_gt unitsPerOne_pos

/-- Exact values denote the same only if they are the same. -/
theorem ExactNumber.quantity_injective {x y : ExactNumber} (h : x.quantity = y.quantity) :
    x = y := by
  cases x <;> cases y <;> simp only [quantity, Quantity.real.injEq, reduceCtorEq,
    Quantity.infinity.injEq] at h ⊢
  rw [Rat.mkRat_eq_iff unitsPerOne_ne_zero unitsPerOne_ne_zero] at h
  have hpos : (unitsPerOne : Int) ≠ 0 := Int.natCast_ne_zero.mpr unitsPerOne_ne_zero
  rw [Int.eq_of_mul_eq_mul_right hpos h]

theorem Number.quantity_exact (x : Number) : x.exact.quantity = x.quantity := by
  match x with
  | .int n =>
      refine congrArg Quantity.real ((Rat.mkRat_eq_iff unitsPerOne_ne_zero Nat.one_ne_zero).mpr ?_)
      rw [Int.natCast_one, Int.mul_one]
  | .float .nan => rfl
  | .float (.infinite negative) => cases negative <;> rfl
  | .float (.finite negative m) => rfl

/-- Numbers have the same exact value if and only if they denote the same. -/
theorem Number.quantity_eq_iff {x y : Number} :
    x.quantity = y.quantity ↔ x.exact = y.exact := by
  rw [← quantity_exact, ← quantity_exact]
  exact ⟨ExactNumber.quantity_injective, congrArg ExactNumber.quantity⟩

/-! ## Sizes -/

/-- Fewer than `2 ^ (e + 53)` units of a magnitude stay a whole step of the last binade
below that: either they lie in an earlier binade, or their 53 significant bits make them
a multiple of that step. -/
theorem units_lt_of_step {units limit bound : Nat} (e : Nat) (hlimit : limit = Nat.pow 2 (e + 53))
    (hbound : limit < bound + Nat.pow 2 e) (hdvd : unitStep units ∣ units)
    (hlt : units < limit) : units < bound := by
  replace hbound : limit < bound + 2 ^ e := hbound
  replace hlimit : limit = 2 ^ (e + 53) := hlimit
  have hbinade : 2 ^ (e + 52) + 2 ^ (e + 52) = 2 ^ (e + 53) := (Nat.two_pow_succ _).symm
  rcases Nat.lt_or_ge units (2 ^ (e + 52)) with hsmall | hlarge
  · have hstep : 2 ^ e ≤ 2 ^ (e + 52) := Nat.pow_le_pow_right (by decide) (by omega)
    omega
  · have hpos : 0 < 2 ^ (e + 52) := Nat.two_pow_pos _
    have hlog : e + 52 ≤ units.log2 := (Nat.le_log2 (by omega)).mpr hlarge
    have hunits : 2 ^ e ∣ units := Nat.dvd_trans (Nat.pow_dvd_pow 2 (by omega)) hdvd
    have hend : 2 ^ e ∣ limit := by
      rw [hlimit]
      exact Nat.pow_dvd_pow 2 (by omega)
    have hgap := Nat.le_of_dvd (by omega) (Nat.dvd_sub hend hunits)
    omega

namespace ExactNumber

/-- No magnitude is as large as the first integer that rounds to none. -/
theorem units_lt_firstOversized (m : Magnitude) : m.units < firstOversized * unitsPerOne :=
  units_lt_of_step 2045 (by decide +kernel) (by decide +kernel) m.representable.1
    m.representable.2

end ExactNumber

namespace Number

/-- Whether a number is in the range of binary64; only an integer can be out of it. -/
def fitsBinary64 : Number → Bool
  | .int n => n.natAbs < ExactNumber.firstOversized
  | .float _ => true

/-- The order refuses exactly the integers out of the range of binary64. -/
theorem isOversized_exact (x : Number) : x.exact.isOversized = !x.fitsBinary64 := by
  match x with
  | .int n =>
      rw [exact, ExactNumber.isOversized, fitsBinary64, Int.natAbs_mul, Int.natAbs_natCast,
        ← decide_not, decide_eq_decide, Nat.mul_le_mul_right_iff unitsPerOne_pos, Nat.not_lt]
  | .float .nan => rfl
  | .float (.infinite negative) => cases negative <;> rfl
  | .float (.finite negative m) =>
      have hunits : (if negative then -(m.units : Int) else m.units).natAbs = m.units := by
        cases negative <;> simp
      rw [exact, ExactNumber.isOversized, fitsBinary64, hunits, decide_eq_false_iff_not.mpr]
      · rfl
      · exact Nat.not_le.mpr (ExactNumber.units_lt_firstOversized m)

/-- Integers in the range of binary64 have few digits. -/
theorem firstOversized_le : ExactNumber.firstOversized ≤ Nat.pow 10 maxDecimalDigits := by
  have hpow : ∀ a b c : Nat, a ≤ c → Nat.pow 2 a - b ≤ Nat.pow 10 c := fun a b c hac =>
    calc Nat.pow 2 a - b
      _ ≤ Nat.pow 2 a := Nat.sub_le _ _
      _ ≤ Nat.pow 10 a := Nat.pow_le_pow_left (by decide) a
      _ ≤ Nat.pow 10 c := Nat.pow_le_pow_right (by decide) hac
  unfold ExactNumber.firstOversized maxDecimalDigits
  generalize hdigits : 1024 = a
  exact hpow a _ 4300 (by omega)

theorem isWritable_of_fits {n : Int} (h : (int n).fitsBinary64 = true) : isWritable n = true := by
  rw [fitsBinary64, decide_eq_true_iff] at h
  rw [isWritable, decide_eq_true_iff]
  exact Nat.lt_of_lt_of_le h firstOversized_le

end Number
end NoteVault
