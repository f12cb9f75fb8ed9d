import NoteVault.Proofs.Calendar.DurationSum
import NoteVault.Proofs.Number.Rounding

/-!
# Durations that are too long

A text can consist of amounts with known units and still denote no duration, because its total is
too long. Reading such a text is an error, and nothing else is.

How long is too long is decided after rounding. Where the amounts of each unit are added exactly, it
is their total that decides. However large the amounts are, one that is too long by itself is too
long together with others: amounts are only added, and rounding does not go below the least whole
amount of a unit that is too long, which is a magnitude.

## Main definitions

* `IsOverlong` — a text is amounts with known units whose total is out of bounds.
* `overlongMicros`, `leastOverlong` — how long is too long, in microseconds and in each unit.

## Main results

* `readDuration_eq_error_iff` — what is an error to read.
* `isOverlong_iff_of_exact` — where nothing is rounded, the total decides.
* `isOverlong_of_part` — one amount that is too long is enough.
-/

namespace NoteVault

open Text

/-- A text consists of amounts with known units, and their total is out of bounds or infinite. -/
def IsOverlong (s : Text) : Prop :=
  ∃ parts amounts, durationParts? s = some parts ∧ parts.mapM readPart? = some amounts ∧
    ∀ micros, totalMicros amounts = some micros → ¬ IsDuration micros

/-- The shortest time that is too long, in microseconds: a thousand million days. -/
def overlongMicros : Nat := 1000000000 * DurationUnit.day.micros

theorem overlongMicros_eq : overlongMicros = 86400000000000000000 := by rfl

theorem isDuration_natCast_iff {micros : Nat} : IsDuration micros ↔ micros < overlongMicros := by
  rw [overlongMicros_eq]
  unfold IsDuration
  omega

/-- **What is an error to read.** -/
theorem readDuration_eq_error_iff {s : Text} {e : DurationError} :
    readDuration s = .error e ↔ IsOverlong s := by
  constructor
  · intro h
    cases hparts : durationParts? s with
    | none =>
        unfold readDuration at h
        rw [hparts] at h
        cases h
    | some parts =>
        rw [readDuration_of_parts hparts] at h
        cases hamounts : parts.mapM readPart? with
        | none =>
            rw [hamounts] at h
            cases h
        | some amounts =>
            refine ⟨parts, amounts, hparts, hamounts, fun micros htotal hduration => ?_⟩
            rw [hamounts] at h
            dsimp only at h
            rw [htotal, Option.bind_some, Duration.of?, dif_pos hduration] at h
            cases h
  · rintro ⟨parts, amounts, hparts, hamounts, htotal⟩
    have hof : ((totalMicros amounts).bind fun micros => Duration.of? micros) = none :=
      Option.bind_eq_none_iff.mpr fun micros h => dif_neg (htotal micros h)
    rw [readDuration_of_parts hparts, hamounts]
    dsimp only
    rw [hof]

variable {qs : List NamedPart} {s : Text}

theorem isOverlong_iff_of_parts (hs : IsDurationText (qs.map NamedPart.toDurationPart) s)
    (hne : qs ≠ []) :
    IsOverlong s ↔
      ∀ micros, totalMicros (qs.map NamedPart.read) = some micros → ¬ IsDuration micros := by
  have hmap : qs.map NamedPart.toDurationPart ≠ [] := fun hnil => hne (List.map_eq_nil_iff.mp hnil)
  constructor
  · rintro ⟨parts, amounts, hparts, hamounts, htotal⟩
    cases (hs.durationParts?_eq hmap).symm.trans hparts
    cases (mapM_readPart? qs).symm.trans hamounts
    exact htotal
  · exact fun htotal => ⟨_, _, hs.durationParts?_eq hmap, mapM_readPart? qs, htotal⟩

/-- **Where nothing is rounded, the total decides.** -/
theorem isOverlong_iff_of_exact (hs : IsDurationText (qs.map NamedPart.toDurationPart) s)
    (hne : qs ≠ []) (h : ∀ unit, amountIn qs unit < exactBound) :
    IsOverlong s ↔ overlongMicros ≤ totalOf qs := by
  rw [isOverlong_iff_of_parts hs hne, totalMicros_eq h, ← Nat.not_lt, ← isDuration_natCast_iff]
  simp

/-! ## Amounts that are too long -/

/-- The least whole amount of a unit that is too long. -/
def leastOverlong (unit : DurationUnit) : Nat :=
  (overlongMicros + (unit.micros - 1)) / unit.micros

theorem overlongMicros_le (unit : DurationUnit) :
    overlongMicros ≤ leastOverlong unit * unit.micros := by
  cases unit <;> decide

theorem leastOverlong_le {unit : DurationUnit} {n : Nat} (h : overlongMicros ≤ n * unit.micros) :
    leastOverlong unit ≤ n := by
  have hpos : 0 < unit.micros := by cases unit <;> decide
  have hlt : overlongMicros + (unit.micros - 1) < (n + 1) * unit.micros := by
    rw [Nat.add_mul]
    omega
  exact Nat.le_of_lt_succ ((Nat.div_lt_iff_lt_mul hpos).mpr hlt)

theorem representable_leastOverlong (unit : DurationUnit) :
    Representable (leastOverlong unit * unitsPerOne) := by
  cases unit <;> decide +kernel

/-- A sum is infinite, or at least so many units. -/
def AtLeast (bound : Nat) (sum : Option Magnitude) : Prop := ∀ m, sum = some m → bound ≤ m.units

/-- What is added does not make a sum smaller than it was, or than what is added. -/
theorem atLeast_addAmount {bound : Nat} {unit : DurationUnit} {sum : Option Magnitude}
    {part : Option Magnitude × DurationUnit} (h : Representable bound)
    (hle : AtLeast bound sum ∨ part.2 = unit ∧ AtLeast bound part.1) :
    AtLeast bound (addAmount unit sum part) := by
  obtain ⟨amount, u⟩ := part
  intro c hc
  unfold addAmount at hc
  dsimp only at hc hle
  by_cases hunit : u = unit
  · rw [if_pos hunit] at hc
    obtain ⟨a, ha, hc⟩ := Option.bind_eq_some_iff.mp hc
    obtain ⟨b, hb, hc⟩ := Option.bind_eq_some_iff.mp hc
    refine Magnitude.le_add? h ?_ hc
    rcases hle with hsum | ⟨_, hamount⟩
    · exact Nat.le_add_right_of_le (hsum a ha)
    · exact Nat.le_add_left_of_le (hamount b hb)
  · rw [if_neg hunit] at hc
    rcases hle with hsum | ⟨hu, _⟩
    · exact hsum c hc
    · exact absurd hu hunit

theorem atLeast_foldl_addAmount {bound : Nat} {unit : DurationUnit} {sum : Option Magnitude}
    {parts : List (Option Magnitude × DurationUnit)} (h : Representable bound)
    (hle : AtLeast bound sum ∨ ∃ part ∈ parts, part.2 = unit ∧ AtLeast bound part.1) :
    AtLeast bound (parts.foldl (addAmount unit) sum) := by
  induction parts generalizing sum with
  | nil => exact hle.resolve_right (by simp)
  | cons part parts ih =>
      rw [List.exists_mem_cons_iff] at hle
      rw [List.foldl_cons]
      refine ih ?_
      rcases hle with hsum | hpart | hparts
      · exact .inl (atLeast_addAmount h (.inl hsum))
      · exact .inl (atLeast_addAmount h (.inr hpart))
      · exact .inr hparts

/-- An amount that is too long is so after rounding. -/
theorem atLeast_amountOf {q : NamedPart} (hq : q ∈ qs)
    (h : overlongMicros ≤ q.amount * q.unit.micros) :
    AtLeast (leastOverlong q.unit * unitsPerOne) (amountOf (qs.map NamedPart.read) q.unit) := by
  have hrepresentable := representable_leastOverlong q.unit
  rw [amountOf_eq]
  refine atLeast_foldl_addAmount hrepresentable (.inr ⟨q.read, List.mem_map_of_mem hq, rfl, ?_⟩)
  exact fun a ha => Decimal.le_toMagnitude? hrepresentable
    (Nat.mul_le_mul_right _ (leastOverlong_le h)) ha

/-! ## Totals that are too long -/

theorem MicroSum.whole_le_of_add {sum next : MicroSum} {a : Magnitude} {unit : DurationUnit}
    (h : sum.add a unit = some next) : sum.whole + a.whole * unit.micros ≤ next.whole := by
  unfold add at h
  dsimp only at h
  split at h
  · cases h
    exact Nat.le_refl _
  · obtain ⟨more, _, h⟩ := Option.bind_eq_some_iff.mp h
    obtain ⟨rest, _, h⟩ := Option.bind_eq_some_iff.mp h
    cases h
    exact Nat.le_add_right _ _

theorem whole_le_of_foldlM {parts : List (Option Magnitude × DurationUnit)}
    (units : List DurationUnit) {sum total : MicroSum}
    (h : units.foldlM (addUnit parts) sum = some total) : sum.whole ≤ total.whole := by
  induction units generalizing sum with
  | nil =>
      cases h
      exact Nat.le_refl _
  | cons first units ih =>
      rw [List.foldlM_cons] at h
      obtain ⟨next, hnext, h⟩ := Option.bind_eq_some_iff.mp h
      obtain ⟨a, _, hadd⟩ := Option.bind_eq_some_iff.mp hnext
      have hnext := MicroSum.whole_le_of_add hadd
      have hrest := ih h
      omega

/-- The amounts of each unit are in the sum. -/
theorem le_whole_of_foldlM {parts : List (Option Magnitude × DurationUnit)}
    {units : List DurationUnit} {unit : DurationUnit} (hunit : unit ∈ units) {sum total : MicroSum}
    (h : units.foldlM (addUnit parts) sum = some total) :
    ∃ a, amountOf parts unit = some a ∧ a.whole * unit.micros ≤ total.whole := by
  induction units generalizing sum with
  | nil => cases hunit
  | cons first units ih =>
      rw [List.foldlM_cons] at h
      obtain ⟨next, hnext, hunits⟩ := Option.bind_eq_some_iff.mp h
      obtain ⟨a, ha, hadd⟩ := Option.bind_eq_some_iff.mp hnext
      rcases List.mem_cons.mp hunit with rfl | hunit
      · have hfirst := MicroSum.whole_le_of_add hadd
        have hrest := whole_le_of_foldlM units hunits
        exact ⟨a, ha, by omega⟩
      · exact ih hunit hunits

theorem MicroSum.whole_le_rounded (sum : MicroSum) : sum.whole ≤ sum.rounded := by
  refine Nat.le_trans ?_ (div_le_roundHalfEven _ _)
  exact (Nat.le_div_iff_mul_le unitsPerOne_pos).mpr (Nat.le_add_right _ _)

/-- **One amount that is too long is enough**, however large it is and whatever stands with it. -/
theorem isOverlong_of_part (hs : IsDurationText (qs.map NamedPart.toDurationPart) s)
    {q : NamedPart} (hq : q ∈ qs) (h : overlongMicros ≤ q.amount * q.unit.micros) :
    IsOverlong s := by
  rw [isOverlong_iff_of_parts hs (List.ne_nil_of_mem hq)]
  intro micros htotal
  obtain ⟨sum, hsum, hrounded⟩ := Option.bind_eq_some_iff.mp htotal
  obtain ⟨a, ha, hle⟩ := le_whole_of_foldlM q.unit.mem_all hsum
  have hamount : leastOverlong q.unit ≤ a.whole :=
    Magnitude.le_whole (atLeast_amountOf hq h a ha)
  obtain rfl : sum.rounded = micros := Option.some.inj hrounded
  rw [isDuration_natCast_iff, Nat.not_lt]
  calc overlongMicros
    _ ≤ leastOverlong q.unit * q.unit.micros := overlongMicros_le q.unit
    _ ≤ a.whole * q.unit.micros := Nat.mul_le_mul_right _ hamount
    _ ≤ sum.whole := hle
    _ ≤ sum.rounded := sum.whole_le_rounded

end NoteVault
