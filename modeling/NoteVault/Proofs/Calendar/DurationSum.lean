import Mathlib.Algebra.BigOperators.Group.List.Basic
import Mathlib.Algebra.Ring.Nat
import NoteVault.Proofs.Calendar.DurationParts
import NoteVault.Proofs.Number.Integers

/-!
# Written durations add up

The amounts of one unit are added as binary64 numbers, and the sums are multiplied with the
lengths of their units. As long as the amounts of each unit add up to less than `2 ^ 53`, no
addition rounds, there is nothing after a point to be multiplied out, and what is left for the
last rounding is a whole number of microseconds.

## Main definitions

* `NamedPart` — a part whose word names a unit.
* `amountIn`, `totalOf` — the sum of the amounts of one unit, and of all parts in microseconds.

## Main results

* `exists_amountOf` — the amounts of one unit are added exactly.
* `totalMicros_eq` — the amounts of all units are.
* `readDuration_eq` — a written duration is the sum of its parts.
* `readDuration_unknown` — a word that names no unit makes a text no duration.
-/

namespace NoteVault

/-! ## Parts with units -/

/-- A part whose word names a unit. -/
structure NamedPart extends DurationPart where
  /-- The unit. -/
  unit : DurationUnit
  /-- The word names the unit. -/
  names : toDurationPart.Names unit

/-- What a part stands for, however it is written. -/
def NamedPart.pair (q : NamedPart) : Nat × DurationUnit := (q.amount, q.unit)

/-- The amounts of one unit, added up. -/
def amountIn (qs : List NamedPart) (unit : DurationUnit) : Nat :=
  (qs.map fun q => if q.unit = unit then q.amount else 0).sum

/-- The microseconds of all parts, added up. -/
def totalOf (qs : List NamedPart) : Nat := (qs.map fun q => q.amount * q.unit.micros).sum

variable {qs rs : List NamedPart} {s t : Text}

theorem amountIn_cons (q : NamedPart) (unit : DurationUnit) :
    amountIn (q :: qs) unit = (if q.unit = unit then q.amount else 0) + amountIn qs unit :=
  List.sum_cons

theorem amountIn_append (unit : DurationUnit) :
    amountIn (qs ++ rs) unit = amountIn qs unit + amountIn rs unit := by
  unfold amountIn
  rw [List.map_append, List.sum_append]

/-- Neither the order of the parts nor how they are written matters. -/
theorem amountIn_perm (h : (qs.map NamedPart.pair).Perm (rs.map NamedPart.pair))
    (unit : DurationUnit) : amountIn qs unit = amountIn rs unit := by
  have hsum := (h.map fun pair => if pair.2 = unit then pair.1 else 0).sum_eq
  rw [List.map_map, List.map_map] at hsum
  exact hsum

theorem totalOf_cons (q : NamedPart) : totalOf (q :: qs) = q.amount * q.unit.micros + totalOf qs :=
  List.sum_cons

theorem totalOf_append : totalOf (qs ++ rs) = totalOf qs + totalOf rs := by
  unfold totalOf
  rw [List.map_append, List.sum_append]

theorem totalOf_perm (h : (qs.map NamedPart.pair).Perm (rs.map NamedPart.pair)) :
    totalOf qs = totalOf rs := by
  have hsum := (h.map fun pair => pair.1 * pair.2.micros).sum_eq
  rw [List.map_map, List.map_map] at hsum
  exact hsum

/-- Of what there is for one unit alone, the sum over all units is that. -/
theorem sum_single (unit : DurationUnit) (n : Nat) (length : DurationUnit → Nat) :
    (DurationUnit.all.map fun u => (if unit = u then n else 0) * length u).sum =
      n * length unit := by
  cases unit <;> simp [DurationUnit.all]

/-- Adding up by units is adding up. -/
theorem sum_amountIn (qs : List NamedPart) :
    (DurationUnit.all.map fun unit => amountIn qs unit * unit.micros).sum = totalOf qs := by
  induction qs with
  | nil => rfl
  | cons q qs ih =>
      rw [totalOf_cons, ← sum_single q.unit q.amount DurationUnit.micros, ← ih, ← List.sum_map_add]
      simp only [amountIn_cons, Nat.add_mul]

/-! ## Exact sums -/

/-- What is added up for a part: its amount as a binary64 number, and its unit. -/
def NamedPart.read (q : NamedPart) : Option Magnitude × DurationUnit :=
  ((Decimal.mk q.amount 0).toMagnitude?, q.unit)

/-- A sum of amounts of one unit with a part added. -/
def addAmount (unit : DurationUnit) (sum : Option Magnitude) :
    Option Magnitude × DurationUnit → Option Magnitude
  | (amount, u) => if u = unit then do (← sum).add? (← amount) else sum

theorem amountOf_eq (parts : List (Option Magnitude × DurationUnit)) (unit : DurationUnit) :
    amountOf parts unit = parts.foldl (addAmount unit) (some Magnitude.zero) := rfl

/-- Adding a part is exact. -/
theorem exists_addAmount (q : NamedPart) (unit : DurationUnit) {sum : Magnitude} {n : Nat}
    (hsum : sum.IsNat n) (h : n + (if q.unit = unit then q.amount else 0) < exactBound) :
    ∃ a, addAmount unit (some sum) q.read = some a ∧
      a.IsNat (n + if q.unit = unit then q.amount else 0) := by
  unfold addAmount NamedPart.read
  dsimp only
  by_cases hunit : q.unit = unit
  · rw [if_pos hunit] at h
    obtain ⟨amount, hamount, hnat⟩ := Decimal.exists_toMagnitude? (n := q.amount) (by omega)
    rw [if_pos hunit, if_pos hunit, hamount]
    exact Magnitude.exists_add? hsum hnat h
  · rw [if_neg hunit, if_neg hunit]
    exact ⟨sum, rfl, hsum⟩

/-- Adding parts is exact. -/
theorem exists_foldl_addAmount (unit : DurationUnit) {sum : Magnitude} {n : Nat}
    (hsum : sum.IsNat n) (h : n + amountIn qs unit < exactBound) :
    ∃ a, (qs.map NamedPart.read).foldl (addAmount unit) (some sum) = some a ∧
      a.IsNat (n + amountIn qs unit) := by
  induction qs generalizing sum n with
  | nil => exact ⟨sum, rfl, hsum⟩
  | cons q qs ih =>
      rw [amountIn_cons, ← Nat.add_assoc] at h ⊢
      obtain ⟨next, hnext, hnat⟩ := exists_addAmount q unit hsum (by omega)
      rw [List.map_cons, List.foldl_cons, hnext]
      exact ih hnat h

/-- **The amounts of one unit are added exactly.** -/
theorem exists_amountOf {unit : DurationUnit} (h : amountIn qs unit < exactBound) :
    ∃ a, amountOf (qs.map NamedPart.read) unit = some a ∧ a.IsNat (amountIn qs unit) := by
  have hlt : 0 + amountIn qs unit < exactBound := by rwa [Nat.zero_add]
  have hsum := exists_foldl_addAmount unit Magnitude.isNat_zero hlt
  rw [Nat.zero_add] at hsum
  rw [amountOf_eq]
  exact hsum

/-- A sum in microseconds with the amounts of one unit added. -/
def addUnit (parts : List (Option Magnitude × DurationUnit)) (sum : MicroSum)
    (unit : DurationUnit) : Option MicroSum := do
  MicroSum.add sum (← amountOf parts unit) unit

theorem totalMicros_of_foldlM {parts : List (Option Magnitude × DurationUnit)} {sum : MicroSum}
    (h : DurationUnit.all.foldlM (addUnit parts) ⟨0, Magnitude.zero⟩ = some sum) :
    totalMicros parts = some sum.rounded := by
  show (DurationUnit.all.foldlM (addUnit parts) ⟨0, Magnitude.zero⟩).bind
    (fun sum => some sum.rounded) = some sum.rounded
  rw [h]
  rfl

/-- Whole amounts leave no rest. -/
theorem MicroSum.add_whole {sum : MicroSum} {a : Magnitude} {n : Nat} (ha : a.IsNat n)
    (unit : DurationUnit) :
    sum.add a unit = some ⟨sum.whole + n * unit.micros, sum.rest⟩ := by
  unfold MicroSum.add
  dsimp only
  rw [if_pos ha.fraction_units, ha.whole_eq]

/-- The amounts of some units are added exactly, and what rest there was stays. -/
theorem foldlM_addUnit (h : ∀ unit, amountIn qs unit < exactBound) (units : List DurationUnit)
    (whole : Nat) (rest : Magnitude) :
    units.foldlM (addUnit (qs.map NamedPart.read)) ⟨whole, rest⟩ =
      some ⟨whole + (units.map fun unit => amountIn qs unit * unit.micros).sum, rest⟩ := by
  induction units generalizing whole with
  | nil => rfl
  | cons unit units ih =>
      obtain ⟨a, hamount, hnat⟩ := exists_amountOf (h unit)
      have hadd : addUnit (qs.map NamedPart.read) ⟨whole, rest⟩ unit =
          some ⟨whole + amountIn qs unit * unit.micros, rest⟩ := by
        unfold addUnit
        rw [hamount]
        exact MicroSum.add_whole hnat unit
      rw [List.foldlM_cons, hadd, List.map_cons, List.sum_cons, ← Nat.add_assoc]
      exact ih _

/-- A sum without a rest is not rounded. -/
theorem MicroSum.rounded_whole (n : Nat) : (MicroSum.mk n Magnitude.zero).rounded = n := by
  have hzero : Magnitude.zero.units = 0 := rfl
  unfold MicroSum.rounded
  dsimp only
  rw [hzero, Nat.add_zero, roundHalfEven_mul n unitsPerOne_pos]

/-- **The amounts of all units are added exactly.** -/
theorem totalMicros_eq (h : ∀ unit, amountIn qs unit < exactBound) :
    totalMicros (qs.map NamedPart.read) = some (totalOf qs) := by
  rw [totalMicros_of_foldlM (foldlM_addUnit h DurationUnit.all 0 Magnitude.zero), Nat.zero_add,
    sum_amountIn, MicroSum.rounded_whole]

/-! ## Reading -/

/-- What is read for an amount and a word. -/
def readPart? : Text × Text → Option (Option Magnitude × DurationUnit)
  | (amount, word) => do
    return ((← Decimal.parse? amount).toMagnitude?, ← DurationUnit.ofWord? word)

theorem readDuration_of_parts {parts : List (Text × Text)} (h : durationParts? s = some parts) :
    readDuration s = match parts.mapM readPart? with
      | none => .ok none
      | some parts =>
        match (totalMicros parts).bind fun micros => Duration.of? micros with
        | some d => .ok (some d)
        | none => .error .outOfBounds := by
  unfold readDuration
  rw [h]
  rfl

/-- Parts that are all named are read as they are. -/
theorem mapM_readPart? (qs : List NamedPart) :
    ((qs.map NamedPart.toDurationPart).map fun p => (p.digits, p.word)).mapM readPart? =
      some (qs.map NamedPart.read) := by
  induction qs with
  | nil => rfl
  | cons q qs ih =>
      have hread : readPart? (q.digits, q.word) = some q.read := by
        unfold readPart?
        dsimp only
        rw [Decimal.parse?_digits q.digits_ne_nil q.isDigit_digits,
          DurationPart.ofWord?_eq_some_iff.mpr q.names]
        rfl
      rw [List.map_cons, List.map_cons, List.mapM_cons, hread, ih]
      rfl

/-- **A written duration is the sum of its parts.** -/
theorem readDuration_eq (hs : IsDurationText (qs.map NamedPart.toDurationPart) s) (hne : qs ≠ [])
    (h : ∀ unit, amountIn qs unit < exactBound) (htotal : IsDuration (totalOf qs)) :
    readDuration s = .ok (some ⟨totalOf qs, htotal⟩) := by
  have hmap : qs.map NamedPart.toDurationPart ≠ [] := fun hnil => hne (List.map_eq_nil_iff.mp hnil)
  have hof : Duration.of? (totalOf qs) = some ⟨totalOf qs, htotal⟩ := dif_pos htotal
  rw [readDuration_of_parts (hs.durationParts?_eq hmap), mapM_readPart? qs]
  dsimp only
  rw [totalMicros_eq h, Option.bind_some, hof]

/-- One part that is not read is enough. -/
theorem mapM_eq_none_of_mem {α β : Type} {f : α → Option β} {x : α} {xs : List α} (hx : x ∈ xs)
    (h : f x = none) : xs.mapM f = none := by
  induction xs with
  | nil => cases hx
  | cons y xs ih =>
      rw [List.mapM_cons]
      rcases List.mem_cons.mp hx with rfl | hx
      · rw [h]
        rfl
      · rw [ih hx]
        cases f y <;> rfl

/-- **A word that names no unit makes a text no duration**, whatever else is in it. -/
theorem readDuration_unknown {ps : List DurationPart} (hs : IsDurationText ps s)
    {p : DurationPart} (hp : p ∈ ps) (h : ∀ unit, ¬ p.Names unit) : readDuration s = .ok none := by
  have hunit := DurationPart.ofWord?_eq_none_iff.mpr h
  have hread : readPart? (p.digits, p.word) = none := by
    unfold readPart?
    dsimp only
    rw [hunit]
    cases Decimal.parse? p.digits <;> rfl
  rw [readDuration_of_parts (hs.durationParts?_eq (List.ne_nil_of_mem hp)),
    mapM_eq_none_of_mem (List.mem_map_of_mem hp) hread]

/-! ## Durations add up -/

/-- The amounts of each unit add up to little enough to be exact, and all of them to no more than
the longest duration in whole days. -/
structure InRange (qs : List NamedPart) : Prop where
  /-- The amounts of each unit are added exactly. -/
  amount_lt : ∀ unit, amountIn qs unit < exactBound
  /-- The total is at most so many days. -/
  total_le : totalOf qs ≤ 999999999 * DurationUnit.day.micros

namespace InRange

theorem isDuration (h : InRange qs) : IsDuration (totalOf qs) := by
  have hday : DurationUnit.day.micros = 86400000000 := rfl
  have hle := h.total_le
  rw [hday] at hle
  unfold IsDuration
  omega

theorem of_perm (h : InRange qs) (hperm : (qs.map NamedPart.pair).Perm (rs.map NamedPart.pair)) :
    InRange rs where
  amount_lt unit := amountIn_perm hperm unit ▸ h.amount_lt unit
  total_le := totalOf_perm hperm ▸ h.total_le

theorem left (h : InRange (qs ++ rs)) : InRange qs where
  amount_lt unit := by
    have hlt := h.amount_lt unit
    rw [amountIn_append] at hlt
    omega
  total_le := by
    have hle := h.total_le
    rw [totalOf_append] at hle
    omega

theorem right (h : InRange (qs ++ rs)) : InRange rs :=
  (h.of_perm (List.perm_append_comm.map NamedPart.pair)).left

end InRange

/-- **A text of amounts and units denotes their sum**, as long as the amounts of each unit add up
to less than `2 ^ 53` and all of them to no more than 999999999 days. So neither the order of the
parts matters nor how they are written, and two texts one after the other denote the sum of what
they denote. A text with a word that names no unit denotes nothing. -/
theorem readDuration_adds :
    (∀ (qs : List NamedPart) (s : Text), qs ≠ [] →
      IsDurationText (qs.map NamedPart.toDurationPart) s → InRange qs →
        ∃ d, readDuration s = .ok (some d) ∧ d.micros = totalOf qs) ∧
    (∀ (qs rs : List NamedPart) (s t : Text), qs ≠ [] →
      IsDurationText (qs.map NamedPart.toDurationPart) s →
      IsDurationText (rs.map NamedPart.toDurationPart) t → InRange qs →
      (qs.map NamedPart.pair).Perm (rs.map NamedPart.pair) →
        ∃ d, readDuration s = .ok (some d) ∧ readDuration t = .ok (some d)) ∧
    (∀ (qs rs : List NamedPart) (s t : Text), qs ≠ [] → rs ≠ [] →
      IsDurationText (qs.map NamedPart.toDurationPart) s →
      IsDurationText (rs.map NamedPart.toDurationPart) t → InRange (qs ++ rs) →
        ∃ d e sum, readDuration s = .ok (some d) ∧ readDuration t = .ok (some e) ∧
          readDuration (s ++ t) = .ok (some sum) ∧ sum.micros = d.micros + e.micros) ∧
    ∀ (ps : List DurationPart) (s : Text) (p : DurationPart), IsDurationText ps s → p ∈ ps →
      (∀ unit, ¬ p.Names unit) → readDuration s = .ok none := by
  refine ⟨?_, ?_, ?_, ?_⟩
  · intro qs s hne hs h
    exact ⟨_, readDuration_eq hs hne h.amount_lt h.isDuration, rfl⟩
  · intro qs rs s t hne hs ht h hperm
    have hne' : rs ≠ [] := by
      rintro rfl
      exact hne (List.map_eq_nil_iff.mp hperm.eq_nil)
    have h' : InRange rs := h.of_perm hperm
    refine ⟨_, readDuration_eq hs hne h.amount_lt h.isDuration, ?_⟩
    rw [readDuration_eq ht hne' h'.amount_lt h'.isDuration]
    simp only [totalOf_perm hperm]
  · intro qs rs s t hne hne' hs ht h
    have hst : IsDurationText ((qs ++ rs).map NamedPart.toDurationPart) (s ++ t) := by
      rw [List.map_append]
      exact hs.append ht
    refine ⟨_, _, _, readDuration_eq hs hne h.left.amount_lt h.left.isDuration,
      readDuration_eq ht hne' h.right.amount_lt h.right.isDuration,
      readDuration_eq hst (List.append_ne_nil_of_left_ne_nil hne rs) h.amount_lt h.isDuration, ?_⟩
    show (totalOf (qs ++ rs) : Int) = totalOf qs + totalOf rs
    rw [totalOf_append, Int.natCast_add]
  · intro ps s p hs hp h
    exact readDuration_unknown hs hp h

/-- An hour, written `1h`. -/
def oneHour : NamedPart :=
  ⟨⟨['1'], [], ['h'], by decide, List.all_eq_true.mp rfl, List.forall_mem_nil _, by decide,
    List.all_eq_true.mp rfl⟩, .hour, by decide⟩

/-- Two minutes, written `2 Min`. -/
def twoMinutes : NamedPart :=
  ⟨⟨['2'], [' '], ['M', 'i', 'n'], by decide, List.all_eq_true.mp rfl, isBlank_of_mem_space,
    by decide, List.all_eq_true.mp rfl⟩, .minute, by decide⟩

/-- Seven of something unknown. -/
def sevenCats : DurationPart :=
  ⟨['7'], [' '], ['c', 'a', 't', 's'], by decide, List.all_eq_true.mp rfl, isBlank_of_mem_space,
    by decide, List.all_eq_true.mp rfl⟩

/-- Durations that are written in different ways, and a text that is none. -/
theorem readDuration_adds_mixed :
    (∃ d, readDuration "1h , 2 Min" = .ok (some d) ∧ d.micros = 3720000000) ∧
    (∃ d, readDuration "1h , 2 Min" = .ok (some d) ∧ readDuration "2 Min1h" = .ok (some d)) ∧
    (∃ d e sum, readDuration "1h" = .ok (some d) ∧ readDuration "2 Min" = .ok (some e) ∧
      readDuration "1h2 Min" = .ok (some sum) ∧ sum.micros = d.micros + e.micros) ∧
    readDuration "1h 7 cats" = .ok none := by
  obtain ⟨hsum, hperm, happend, hunknown⟩ := readDuration_adds
  have hcomma : IsSeparator [' ', ',', ' '] := .comma isBlank_of_mem_space isBlank_of_mem_space
  have hblank : IsSeparator [' '] := .blanks isBlank_of_mem_space
  have hnone : IsSeparator [] := .blanks (List.forall_mem_nil _)
  have hhour : IsDurationText [oneHour.toDurationPart] "1h" := .cons _ hnone .nil
  have hminutes : IsDurationText [twoMinutes.toDurationPart] "2 Min" := .cons _ hnone .nil
  have hboth : IsDurationText [oneHour.toDurationPart, twoMinutes.toDurationPart] "1h , 2 Min" :=
    .cons _ hcomma hminutes
  have hback : IsDurationText [twoMinutes.toDurationPart, oneHour.toDurationPart] "2 Min1h" :=
    hminutes.append hhour
  have hcats : IsDurationText [oneHour.toDurationPart, sevenCats] "1h 7 cats" :=
    .cons _ hblank (.cons sevenCats hnone .nil)
  have hrange : InRange [oneHour, twoMinutes] := by
    refine ⟨fun unit => ?_, by decide⟩
    cases unit <;> decide
  refine ⟨?_, ?_, ?_, ?_⟩
  · exact hsum [oneHour, twoMinutes] _ (List.cons_ne_nil _ _) hboth hrange
  · exact hperm [oneHour, twoMinutes] [twoMinutes, oneHour] _ _ (List.cons_ne_nil _ _) hboth hback
      hrange (.swap _ _ _)
  · exact happend [oneHour] [twoMinutes] _ _ (List.cons_ne_nil _ _) (List.cons_ne_nil _ _) hhour
      hminutes hrange
  · refine hunknown _ _ sevenCats hcats (List.mem_cons_of_mem _ List.mem_cons_self) fun unit => ?_
    cases unit <;> decide

end NoteVault
