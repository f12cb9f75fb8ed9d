import NoteVault.Text.Digit

/-!
# Decimal numerals

What `Text.ofNat` and `Text.ofInt` write are ASCII digits, with a sign before a negative integer,
and no two numbers are written alike. Read as digits of any script, a natural number is what was
written. Filled up with zeros it has a fixed width, and can be taken apart into numerals of fixed
width.

## Main results

* `ofNat_injective`, `ofInt_injective` — different numbers are written differently.
* `digitsValue_ofNat` — what is written is what is read.
* `isNumeral_padNat`, `IsNumeral.split` — numerals of fixed width.
-/

namespace NoteVault.Text

theorem ofNat_injective {m n : Nat} (h : ofNat m = ofNat n) : m = n := by
  have hdigits := congrArg (Nat.ofDigitChars 10 · 0) h
  unfold ofNat at hdigits
  simpa only [Nat.ofDigitChars_ten_toDigits] using hdigits

theorem isDigit_of_mem_ofNat {n : Nat} {c : Char} (h : c ∈ ofNat n) : c.isDigit = true :=
  Nat.isDigit_of_mem_toDigits (by omega) (by omega) h

/-- An integer is written with digits and perhaps a sign. -/
theorem isDigit_or_of_mem_ofInt {i : Int} {c : Char} (h : c ∈ ofInt i) :
    c.isDigit = true ∨ c = '-' := by
  cases i with
  | ofNat n => exact Or.inl (isDigit_of_mem_ofNat h)
  | negSucc n =>
      rcases List.mem_cons.mp h with h | h
      · exact Or.inr h
      · exact Or.inl (isDigit_of_mem_ofNat h)

theorem ofInt_injective {i j : Int} (h : ofInt i = ofInt j) : i = j := by
  -- a sign is no digit
  have hsign : ∀ m n, '-' :: ofNat m ≠ ofNat n := fun m n heq =>
    absurd (isDigit_of_mem_ofNat (heq ▸ List.mem_cons_self)) (by decide)
  cases i with
  | ofNat m =>
      cases j with
      | ofNat n => exact congrArg Int.ofNat (ofNat_injective h)
      | negSucc n => exact absurd h.symm (hsign _ _)
  | negSucc m =>
      cases j with
      | ofNat n => exact absurd h (hsign _ _)
      | negSucc n =>
          have hnat := ofNat_injective (List.cons.inj h).2
          rw [Nat.succ.inj hnat]

theorem ofNat_ne_nil (n : Nat) : ofNat n ≠ [] := Nat.toDigits_ne_nil

/-- An ASCII digit has the value that core gives it. -/
theorem digitValue?_of_ascii {c : Char} (h : c.isDigit = true) :
    digitValue? c = some (c.toNat - '0'.toNat) := by
  simp only [Char.isDigit, Bool.and_eq_true, decide_eq_true_eq, ge_iff_le,
    UInt32.le_iff_toNat_le] at h
  have hlow : ¬ c.toNat < 48 := Nat.not_lt.mpr h.1
  have hhigh : c.toNat < 48 + 10 := Nat.lt_succ_of_le h.2
  unfold digitValue? digitZeros digitAmong
  rw [if_neg hlow, if_pos hhigh]
  rfl

/-- Of ASCII digits the value is read as core reads it. -/
theorem foldl_digits {digits : Text} (h : ∀ c ∈ digits, c.isDigit = true) (start : Nat) :
    digits.foldl (fun n c => match digitValue? c with | some d => 10 * n + d | none => n) start =
      Nat.ofDigitChars 10 digits start := by
  induction digits generalizing start with
  | nil => rfl
  | cons c rest ih =>
      rw [List.foldl_cons, digitValue?_of_ascii (h c List.mem_cons_self)]
      exact ih (fun d hd => h d (List.mem_cons_of_mem c hd)) _

/-- **What is written is what is read.** -/
theorem digitsValue_ofNat (n : Nat) : digitsValue (ofNat n) = n :=
  (foldl_digits (fun _ => isDigit_of_mem_ofNat) 0).trans Nat.ofDigitChars_ten_toDigits

/-! ## Numerals of fixed width -/

/-- A text is a number in so many ASCII digits. -/
structure IsNumeral (width n : Nat) (s : Text) : Prop where
  /-- There are so many characters. -/
  length : s.length = width
  /-- All of them are digits. -/
  digits : ∀ c ∈ s, c.isDigit = true
  /-- The digits denote the number. -/
  value : Nat.ofDigitChars 10 s 0 = n

theorem isDigit_of_mem_padNat {width n : Nat} {c : Char} (h : c ∈ padNat width n) :
    c.isDigit = true := by
  rcases List.mem_append.mp h with h | h
  · rw [List.eq_of_mem_replicate h]
    decide
  · exact isDigit_of_mem_ofNat h

/-- **A number is filled up with zeros** to a numeral of the width it is given. -/
theorem isNumeral_padNat {width n : Nat} (hwidth : 0 < width)
    (h : n < Nat.pow 10 width) :
    IsNumeral width n (padNat width n) where
  length := by
    have hlength : (ofNat n).length ≤ width := (Nat.length_toDigits_le_iff (by omega) hwidth).mpr h
    unfold padNat
    rw [List.length_append, List.length_replicate]
    omega
  digits _ := isDigit_of_mem_padNat
  value := by
    unfold padNat
    rw [Nat.ofDigitChars_append, Nat.ofDigitChars_replicate_zero, Nat.mul_zero]
    exact Nat.ofDigitChars_ten_toDigits

namespace IsNumeral

theorem ne_nil {width n : Nat} {s : Text} (h : IsNumeral (width + 1) n s) : s ≠ [] := by
  rintro rfl
  cases h.length

/-- **A numeral is one numeral after the other.** -/
theorem split {width width' n : Nat} {s : Text} (h : IsNumeral (width + width') n s) :
    ∃ (high low : Nat) (front back : Text), s = front ++ back ∧ IsNumeral width high front ∧
      IsNumeral width' low back ∧ n = Nat.pow 10 width' * high + low := by
  have hs : s.take width ++ s.drop width = s := List.take_append_drop width s
  refine ⟨_, _, s.take width, s.drop width, hs.symm, ⟨?_, ?_, rfl⟩, ⟨?_, ?_, rfl⟩, ?_⟩
  · rw [List.length_take, h.length]
    omega
  · intro c hc
    exact h.digits c (List.mem_of_mem_take hc)
  · rw [List.length_drop, h.length]
    omega
  · intro c hc
    exact h.digits c (List.mem_of_mem_drop hc)
  · calc n = Nat.ofDigitChars 10 (s.take width ++ s.drop width) 0 := by rw [hs, h.value]
      _ = Nat.pow 10 (s.drop width).length * Nat.ofDigitChars 10 (s.take width) 0 +
            Nat.ofDigitChars 10 (s.drop width) 0 := by
          rw [Nat.ofDigitChars_append, Nat.ofDigitChars_eq_ofDigitChars_zero]
          rfl
      _ = _ := by rw [List.length_drop, h.length, Nat.add_sub_cancel_left]

end IsNumeral

end NoteVault.Text
