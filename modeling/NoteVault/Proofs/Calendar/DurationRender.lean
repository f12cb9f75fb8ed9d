import Mathlib.Data.List.Chain
import NoteVault.Proofs.Calendar.DurationSum
import NoteVault.Proofs.Text.Numeral

/-!
# Rendered durations are read back

A rendered duration names amounts of units from days to milliseconds. They are found by dividing
by the length of one unit after the other, so what is left over is always less than a unit, and
with milliseconds nothing is left over. Each amount is written in digits, with a blank and the
unit in the singular or the plural; that is a text of amounts and units, and it denotes their sum.

## Main definitions

* `DurationUnit.larger?` — the next larger unit of a rendered duration.
* `components` — the amounts that are rendered.

## Main results

* `sum_components` — the amounts add up to what was divided.
* `lt_larger_of_mem_components` — each of them is less than one of the next larger unit.
* `Duration.minimalText_eq` — the text of a duration is that of its amounts.
* `Duration.readDuration_minimalText` — it is read back, up to what is below a millisecond.
-/

namespace NoteVault

open Text

/-! ## Units -/

namespace DurationUnit

/-- The units of a rendered duration, largest first. -/
def rendered : List DurationUnit := [.day, .hour, .minute, .second, .millisecond]

/-- The length of a unit in milliseconds. -/
def millis (unit : DurationUnit) : Nat := unit.micros / 1000

/-- The form that stands with an amount of one. -/
def singular : DurationUnit → Text
  | .millisecond => "millisecond"
  | .second => "second"
  | .minute => "minute"
  | .hour => "hour"
  | .day => "day"
  | .week => "week"

/-- The next larger unit of a rendered duration. -/
def larger? : DurationUnit → Option DurationUnit
  | .millisecond => some .second
  | .second => some .minute
  | .minute => some .hour
  | .hour => some .day
  | .day | .week => none

/-- The form that stands with an amount. -/
def formFor (unit : DurationUnit) (amount : Nat) : Text :=
  unit.singular ++ if amount = 1 then [] else ['s']

theorem formFor_ne_nil (unit : DurationUnit) (amount : Nat) : unit.formFor amount ≠ [] := by
  refine List.append_ne_nil_of_left_ne_nil ?_ _
  cases unit <;> decide

theorem isAlpha_of_mem_formFor (unit : DurationUnit) (amount : Nat) :
    ∀ c ∈ unit.formFor amount, c.isAlpha = true := by
  unfold formFor
  cases unit <;> split <;> exact List.all_eq_true.mp rfl

/-- The singular and the plural are forms of the unit. -/
theorem formFor_mem_forms (unit : DurationUnit) (amount : Nat) :
    (unit.formFor amount).map Char.toLower ∈ unit.forms := by
  unfold formFor
  cases unit <;> split <;> decide

theorem millis_pos (unit : DurationUnit) : 0 < unit.millis := by
  cases unit <;> decide

theorem micros_eq (unit : DurationUnit) : unit.micros = unit.millis * 1000 := by
  cases unit <;> rfl

/-- What has no next larger unit is at least a day. -/
theorem le_millis_of_larger?_eq_none {unit : DurationUnit} (h : unit.larger? = none) :
    86400000 ≤ unit.millis := by
  cases unit <;> first | decide | cases h

theorem textUnits_eq :
    Duration.textUnits = rendered.map fun unit => (unit.singular, unit.millis) := rfl

end DurationUnit

/-! ## Amounts -/

/-- An amount of a unit. -/
abbrev Component := Nat × DurationUnit

/-- The amounts of the given units in a number of milliseconds, those of zero left out. -/
def components : List DurationUnit → Nat → List Component
  | [], _ => []
  | unit :: units, millis =>
    if millis / unit.millis = 0 then components units (millis % unit.millis)
    else (millis / unit.millis, unit) :: components units (millis % unit.millis)

variable {units : List DurationUnit} {unit : DurationUnit} {m : Nat} {c : Component}

/-- An amount that is rendered is that of the first unit or comes from what is left over. -/
theorem mem_components_cons (h : c ∈ components (unit :: units) m) :
    c = (m / unit.millis, unit) ∧ c.1 ≠ 0 ∨ c ∈ components units (m % unit.millis) := by
  unfold components at h
  split at h
  · exact .inr h
  · next hamount =>
      rcases List.mem_cons.mp h with rfl | h
      · exact .inl ⟨rfl, hamount⟩
      · exact .inr h

/-- No amount is zero. -/
theorem ne_zero_of_mem_components (h : c ∈ components units m) : c.1 ≠ 0 := by
  induction units generalizing m with
  | nil => cases h
  | cons unit units ih =>
      rcases mem_components_cons h with ⟨-, hamount⟩ | h
      · exact hamount
      · exact ih h

/-- No amount is more than the whole. -/
theorem le_of_mem_components (h : c ∈ components units m) : c.1 * c.2.millis ≤ m := by
  induction units generalizing m with
  | nil => cases h
  | cons unit units ih =>
      rcases mem_components_cons h with ⟨rfl, -⟩ | h
      · exact Nat.div_mul_le_self m unit.millis
      · exact Nat.le_trans (ih h) (Nat.mod_le m unit.millis)

/-- Each unit follows the next larger one. -/
def Descends : List DurationUnit → Prop :=
  List.IsChain fun larger unit => unit.larger? = some larger

/-- **Each amount is less than one of the next larger unit**, if the units descend and the first
of them is only used for less than one of its next larger unit. -/
theorem lt_larger_of_mem_components (hunits : Descends units)
    (hfirst : ∀ unit larger, units.head? = some unit → unit.larger? = some larger →
      m < larger.millis)
    (h : c ∈ components units m) {larger : DurationUnit} (hlarger : c.2.larger? = some larger) :
    c.1 * c.2.millis < larger.millis := by
  induction units generalizing m with
  | nil => cases h
  | cons unit units ih =>
      rcases mem_components_cons h with ⟨rfl, -⟩ | h
      · have hlt := hfirst unit larger rfl hlarger
        exact Nat.lt_of_le_of_lt (Nat.div_mul_le_self m unit.millis) hlt
      · refine ih hunits.tail ?_ h
        intro next above hnext habove
        have hchain : next.larger? = some unit := by
          cases units with
          | nil => cases hnext
          | cons other units =>
              cases hnext
              exact (List.isChain_cons_cons.mp hunits).1
        rw [hchain] at habove
        cases habove
        exact Nat.mod_lt m unit.millis_pos

/-- **The amounts add up to what was divided**, less what is left over in the end. -/
theorem sum_components (units : List DurationUnit) (m : Nat) :
    ((components units m).map fun c => c.1 * c.2.millis).sum +
      units.foldl (fun rest unit => rest % unit.millis) m = m := by
  induction units generalizing m with
  | nil => exact Nat.zero_add m
  | cons unit units ih =>
      have hdiv := Nat.div_add_mod' m unit.millis
      have hrest := ih (m % unit.millis)
      unfold components
      rw [List.foldl_cons]
      split
      · next hzero =>
          rw [hzero, Nat.zero_mul, Nat.zero_add] at hdiv
          exact hrest.trans hdiv
      · rw [List.map_cons, List.sum_cons, Nat.add_assoc, hrest]
        exact hdiv

/-- Each unit is named at most once, and larger ones first. -/
theorem units_components_sublist (units : List DurationUnit) (m : Nat) :
    ((components units m).map Prod.snd).Sublist units := by
  induction units generalizing m with
  | nil => exact .slnil
  | cons unit units ih =>
      unfold components
      split
      · exact (ih _).cons unit
      · exact (ih _).cons_cons unit

/-! ## Text -/

/-- The amount is written with a blank and the unit in the singular or the plural. -/
def shownPart (c : Component) : NamedPart where
  digits := ofNat c.1
  blanks := [' ']
  word := c.2.formFor c.1
  digits_ne_nil := ofNat_ne_nil c.1
  isDigit_digits _ hd := isDigit_of_ascii (isDigit_of_mem_ofNat hd)
  isBlank_blanks := isBlank_of_mem_space
  word_ne_nil := c.2.formFor_ne_nil c.1
  isAlpha_word := c.2.isAlpha_of_mem_formFor c.1
  unit := c.2
  names := c.2.formFor_mem_forms c.1

@[simp] theorem shownPart_unit (c : Component) : (shownPart c).unit = c.2 := rfl

@[simp] theorem shownPart_amount (c : Component) : (shownPart c).amount = c.1 :=
  digitsValue_ofNat c.1

theorem shownPart_text (c : Component) :
    (shownPart c).text = Duration.amountText c.1 c.2.singular := by
  unfold Duration.amountText
  rw [List.append_assoc]
  rfl

/-- What is rendered of a number of milliseconds: no seconds, if there is nothing else. -/
def shownComponents (m : Nat) : List Component :=
  match components DurationUnit.rendered m with
  | [] => [(0, .second)]
  | named => named

/-- The amounts as they are written. -/
def shownParts (m : Nat) : List NamedPart := (shownComponents m).map shownPart

namespace Duration

theorem parts_eq (units : List DurationUnit) (m : Nat) :
    parts (units.map fun unit => (unit.singular, unit.millis)) m =
      (components units m).map fun c => (shownPart c).text := by
  induction units generalizing m with
  | nil => rfl
  | cons unit units ih =>
      unfold components
      rw [List.map_cons]
      unfold parts
      dsimp only
      split
      · exact ih _
      · rw [List.map_cons, shownPart_text, ih]

/-- **The text of a number of milliseconds is that of its amounts.** -/
theorem millisText_eq (m : Nat) :
    millisText m = joinWith ", " ((shownParts m).map fun q => q.text) := by
  unfold millisText shownParts shownComponents
  rw [DurationUnit.textUnits_eq, parts_eq, List.map_map]
  cases components DurationUnit.rendered m with
  | nil => rfl
  | cons c cs => rfl

/-- Nothing else is rendered of a millisecond or more. -/
theorem millisText_of_ne_nil {m : Nat} (h : components DurationUnit.rendered m ≠ []) :
    millisText m = joinWith ", "
      ((components DurationUnit.rendered m).map fun c => amountText c.1 c.2.singular) := by
  have hshown : shownComponents m = components DurationUnit.rendered m := by
    unfold shownComponents
    split
    · exact absurd ‹_› h
    · rfl
  rw [millisText_eq]
  unfold shownParts
  rw [hshown, List.map_map]
  exact congrArg (joinWith ", ") (List.map_congr_left fun c _ => shownPart_text c)

theorem isDurationText_millisText (m : Nat) :
    IsDurationText ((shownParts m).map NamedPart.toDurationPart) (millisText m) := by
  have htext := IsDurationText.joinWith ((shownParts m).map NamedPart.toDurationPart)
  rw [List.map_map] at htext
  rw [millisText_eq]
  exact htext

theorem minimalText_eq {d : Duration} (h : 0 ≤ d.micros) :
    d.minimalText = millisText (d.micros.natAbs / 1000) := by
  unfold minimalText
  rw [if_neg (Int.not_lt.mpr h)]
  rfl

end Duration

/-! ## Reading back -/

/-- The total of amounts is counted in milliseconds. -/
theorem totalOf_map_shownPart (cs : List Component) :
    totalOf (cs.map shownPart) = (cs.map fun c => c.1 * c.2.millis).sum * 1000 := by
  induction cs with
  | nil => rfl
  | cons c cs ih =>
      rw [List.map_cons, totalOf_cons, ih, List.map_cons, List.sum_cons, Nat.add_mul,
        shownPart_amount, shownPart_unit, DurationUnit.micros_eq, Nat.mul_assoc]

/-- No milliseconds are left over. -/
theorem sum_rendered (m : Nat) :
    ((components DurationUnit.rendered m).map fun c => c.1 * c.2.millis).sum = m := by
  have hrest : DurationUnit.rendered.foldl (fun rest unit => rest % unit.millis) m = 0 :=
    Nat.mod_one _
  have hsum := sum_components DurationUnit.rendered m
  rwa [hrest, Nat.add_zero] at hsum

theorem components_ne_nil {m : Nat} (hm : 0 < m) : components DurationUnit.rendered m ≠ [] := by
  intro hnil
  have hsum := sum_rendered m
  rw [hnil] at hsum
  exact absurd hsum (Nat.ne_of_lt hm)

/-- **What is rendered of a number of milliseconds is that many.** -/
theorem totalOf_shownParts (m : Nat) : totalOf (shownParts m) = m * 1000 := by
  have hsum := sum_rendered m
  unfold shownParts shownComponents
  split
  · next hnil =>
      rw [hnil] at hsum
      rw [← hsum]
      rfl
  · rw [totalOf_map_shownPart, hsum]

theorem shownParts_ne_nil (m : Nat) : shownParts m ≠ [] := by
  unfold shownParts shownComponents
  split
  · exact List.cons_ne_nil _ _
  · next hnil => exact fun hmap => hnil (List.map_eq_nil_iff.mp hmap)

/-- Of a unit that is named at most once there is no more than the largest amount. -/
theorem amountIn_lt_of_nodup {qs : List NamedPart} (hnodup : (qs.map NamedPart.unit).Nodup)
    {bound : Nat} (hpos : 0 < bound) (h : ∀ q ∈ qs, q.amount < bound) (unit : DurationUnit) :
    amountIn qs unit < bound := by
  induction qs with
  | nil => exact hpos
  | cons q qs ih =>
      obtain ⟨hnot, hnodup⟩ := List.nodup_cons.mp hnodup
      rw [amountIn_cons]
      split
      · next hunit =>
          have hnone : amountIn qs unit = 0 := by
            refine List.sum_eq_zero fun n hn => ?_
            obtain ⟨r, hr, rfl⟩ := List.mem_map.mp hn
            refine if_neg fun hother => hnot ?_
            rw [hunit, ← hother]
            exact List.mem_map_of_mem hr
          rw [hnone]
          exact h q List.mem_cons_self
      · rw [Nat.zero_add]
        exact ih hnodup fun r hr => h r (List.mem_cons_of_mem q hr)

theorem nodup_shownComponents (m : Nat) : ((shownComponents m).map Prod.snd).Nodup := by
  unfold shownComponents
  split
  · exact List.pairwise_singleton _ _
  · exact (units_components_sublist DurationUnit.rendered m).nodup (by decide)

theorem descends_rendered : Descends DurationUnit.rendered := by
  unfold Descends
  decide

/-- What is rendered is less than one of the next larger unit. -/
theorem lt_larger_of_mem_rendered {m : Nat} {c : Component}
    (h : c ∈ components DurationUnit.rendered m) {larger : DurationUnit}
    (hlarger : c.2.larger? = some larger) : c.1 * c.2.millis < larger.millis := by
  refine lt_larger_of_mem_components descends_rendered ?_ h hlarger
  -- there is no unit larger than a day
  intro unit above hfirst habove
  cases hfirst
  cases habove

/-- What is rendered of a duration is read exactly. -/
theorem lt_exactBound_of_mem_shownComponents {m : Nat} (hm : m < 86400000000000000)
    {c : Component} (h : c ∈ shownComponents m) : c.1 < exactBound := by
  unfold shownComponents at h
  split at h
  · rw [List.mem_singleton.mp h]
    decide
  · have hle := le_of_mem_components h
    cases hlarger : c.2.larger? with
    | some larger =>
        have hlt := lt_larger_of_mem_rendered h hlarger
        have hlong : larger.millis ≤ exactBound := by cases larger <;> decide
        have hone := Nat.le_mul_of_pos_right c.1 c.2.millis_pos
        omega
    | none =>
        have hdays := Nat.mul_le_mul_left c.1 (DurationUnit.le_millis_of_larger?_eq_none hlarger)
        have hbound : 1000000000 < exactBound := by decide
        omega

/-- The amounts of each unit are added exactly. -/
theorem amountIn_shownParts_lt {m : Nat} (hm : m < 86400000000000000) (unit : DurationUnit) :
    amountIn (shownParts m) unit < exactBound := by
  refine amountIn_lt_of_nodup ?_ (by decide) ?_ unit
  · unfold shownParts
    rw [List.map_map]
    exact nodup_shownComponents m
  · intro q hq
    obtain ⟨c, hc, rfl⟩ := List.mem_map.mp hq
    rw [shownPart_amount]
    exact lt_exactBound_of_mem_shownComponents hm hc

/-- **The text of a number of milliseconds is read as that.** -/
theorem exists_readDuration_millisText {m : Nat} (hm : m < 86400000000000000) :
    ∃ e, readDuration (Duration.millisText m) = .ok (some e) ∧ e.micros = m * 1000 := by
  have htotal := totalOf_shownParts m
  have hduration : IsDuration (totalOf (shownParts m)) := by
    rw [htotal]
    unfold IsDuration
    omega
  have hread := readDuration_eq (Duration.isDurationText_millisText m) (shownParts_ne_nil m)
    (amountIn_shownParts_lt hm) hduration
  refine ⟨_, hread, ?_⟩
  show (totalOf (shownParts m) : Int) = m * 1000
  rw [htotal]
  exact Int.natCast_mul m 1000

/-- **A rendered duration is read back**, up to what is below a millisecond. So two durations that
are not negative are rendered alike exactly if they agree to the millisecond. What is rendered of
a millisecond or more is amounts of different units, larger units first, none of them zero and
each of them less than one of the next larger unit. -/
theorem Duration.readDuration_minimalText :
    (∀ d : Duration, 0 ≤ d.micros →
      ∃ e, readDuration d.minimalText = .ok (some e) ∧ e.micros = d.micros / 1000 * 1000) ∧
    (∀ d e : Duration, 0 ≤ d.micros → 0 ≤ e.micros →
      (d.minimalText = e.minimalText ↔ d.micros / 1000 = e.micros / 1000)) ∧
    ∀ d : Duration, 1000 ≤ d.micros → ∃ cs : List Component, cs ≠ [] ∧
      d.minimalText = joinWith ", " (cs.map fun c => amountText c.1 c.2.singular) ∧
      (cs.map Prod.snd).Sublist DurationUnit.rendered ∧
      ∀ c ∈ cs, c.1 ≠ 0 ∧
        ∀ larger, c.2.larger? = some larger → c.1 * c.2.millis < larger.millis := by
  have hread : ∀ d : Duration, 0 ≤ d.micros →
      ∃ e, readDuration d.minimalText = .ok (some e) ∧ e.micros = d.micros / 1000 * 1000 := by
    intro d hd
    have hlt := d.is_duration.2
    obtain ⟨e, he, hmicros⟩ :=
      exists_readDuration_millisText (m := d.micros.natAbs / 1000) (by omega)
    refine ⟨e, minimalText_eq hd ▸ he, ?_⟩
    omega
  refine ⟨hread, ?_, ?_⟩
  · intro d e hd he
    constructor
    · intro htext
      obtain ⟨d', hd', hmicros⟩ := hread d hd
      obtain ⟨e', he', hmicros'⟩ := hread e he
      rw [htext, he'] at hd'
      cases hd'
      omega
    · intro hagree
      rw [minimalText_eq hd, minimalText_eq he]
      have hmillis : d.micros.natAbs / 1000 = e.micros.natAbs / 1000 := by omega
      rw [hmillis]
  · intro d hd
    have hne := components_ne_nil (m := d.micros.natAbs / 1000) (by omega)
    refine ⟨components DurationUnit.rendered (d.micros.natAbs / 1000), hne, ?_,
      units_components_sublist _ _, ?_⟩
    · rw [minimalText_eq (by omega), millisText_of_ne_nil hne]
    · intro c hc
      exact ⟨ne_zero_of_mem_components hc, fun larger => lt_larger_of_mem_rendered hc⟩

/-- A day, two hours and three milliseconds, with so many microseconds more. -/
def dayAndMore (micros : Fin 1000) : Duration :=
  ⟨93600003000 + (micros : Nat), by unfold IsDuration; omega⟩

/-- Five microseconds more than a day, two hours and three milliseconds. -/
theorem Duration.readDuration_minimalText_day :
    (∃ e, readDuration (dayAndMore 5).minimalText = .ok (some e) ∧ e.micros = 93600003000) ∧
    (dayAndMore 5).minimalText = (dayAndMore 999).minimalText ∧
    ∃ cs : List Component, cs ≠ [] ∧
      (dayAndMore 5).minimalText = joinWith ", " (cs.map fun c => amountText c.1 c.2.singular) ∧
      (cs.map Prod.snd).Sublist DurationUnit.rendered ∧
      ∀ c ∈ cs, c.1 ≠ 0 ∧
        ∀ larger, c.2.larger? = some larger → c.1 * c.2.millis < larger.millis := by
  obtain ⟨hread, halike, hparts⟩ := Duration.readDuration_minimalText
  exact ⟨hread (dayAndMore 5) (by decide), (halike _ _ (by decide) (by decide)).mpr (by decide),
    hparts (dayAndMore 5) (by decide)⟩

end NoteVault
