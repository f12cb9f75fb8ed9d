import Mathlib.Tactic.SplitIfs
import NoteVault.Proofs.Calendar.Instant

/-!
# Fields determined by numbers

Years, and the months of a year, follow one another without a gap. So the number of a day tells
its year, then its month, and then the day of the month, and no two dates have one number. What
a clock shows is told by the microseconds since the beginning of the calendar in the same way.

An instant alone does not tell what a clock shows, but together with the offset of the clock it
does. So two moments with one instant and one offset have the same fields; that one of them may
be given as a day is all the difference there can be.

## Main results

* `Date.ordinal_injective` — a date is known by its number.
* `DateTime.eq_of_instant` — a time is known by its instant and its offset.
-/

namespace NoteVault

namespace Date

/-! ## Dates -/

/-- A year has 366 days if it is a leap year, and else 365. -/
theorem daysBeforeYear_succ {year : Nat} (h : 1 ≤ year) :
    daysBeforeYear (year + 1) = daysBeforeYear year + if isLeapYear year then 366 else 365 := by
  obtain ⟨past, rfl⟩ := Nat.exists_eq_add_of_le' h
  have hleap : isLeapYear (past + 1) = true ↔
      4 ∣ past + 1 ∧ (¬ 100 ∣ past + 1 ∨ 400 ∣ past + 1) := by
    simp [isLeapYear, Nat.dvd_iff_mod_eq_zero]
  have hsub : past / 100 ≤ past / 4 := by omega
  simp only [daysBeforeYear, Nat.add_sub_cancel, Nat.succ_div, hleap]
  -- the quotients no longer matter, only which of the three divide the year
  generalize past / 4 = four, past / 100 = hundred, past / 400 = fourHundred at hsub ⊢
  split_ifs <;> omega

theorem daysBeforeYear_mono {year year' : Nat} (hpos : 1 ≤ year) (h : year ≤ year') :
    daysBeforeYear year ≤ daysBeforeYear year' := by
  induction h with
  | refl => exact Nat.le_refl _
  | step hle ih =>
      rw [Nat.succ_eq_add_one, daysBeforeYear_succ (Nat.le_trans hpos hle)]
      exact Nat.le_trans ih (Nat.le_add_right _ _)

/-- A day comes before the years behind its own. -/
theorem ordinal_le_daysBeforeYear (d : Date) {year : Nat} (h : d.year < year) :
    d.ordinal ≤ daysBeforeYear year := by
  have hnext := daysBeforeYear_mono (Nat.le_add_left 1 _) (Nat.succ_le_of_lt h)
  have hdays := d.dayOfYear_le
  rw [daysBeforeYear_succ d.exists_day.1] at hnext
  unfold ordinal
  omega

theorem daysBeforeYear_lt_ordinal (d : Date) : daysBeforeYear d.year < d.ordinal := by
  have hday := d.exists_day.2.2.1
  unfold ordinal dayOfYear
  omega

/-- A day comes before the months behind its own. -/
theorem dayOfYear_le_daysBeforeMonth (d : Date) {month : Nat} (h : d.month < month) :
    d.dayOfYear ≤ daysBeforeMonth d.year month := by
  have hday := d.exists_day.2.2.2
  induction h with
  | refl => exact Nat.add_le_add_left hday _
  | step _ ih => exact Nat.le_trans ih (Nat.le_add_right _ _)

theorem daysBeforeMonth_lt_dayOfYear (d : Date) : daysBeforeMonth d.year d.month < d.dayOfYear := by
  have hday := d.exists_day.2.2.1
  unfold dayOfYear
  omega

/-- **A date is known by its number.** -/
theorem ordinal_injective {d e : Date} (h : d.ordinal = e.ordinal) : d = e := by
  have hyear : d.year = e.year := by
    have hd := d.daysBeforeYear_lt_ordinal
    have he := e.daysBeforeYear_lt_ordinal
    rcases Nat.lt_trichotomy d.year e.year with hlt | heq | hgt
    · have hle := d.ordinal_le_daysBeforeYear hlt
      omega
    · exact heq
    · have hle := e.ordinal_le_daysBeforeYear hgt
      omega
  have hinYear : d.dayOfYear = e.dayOfYear := by
    unfold ordinal at h
    rw [hyear] at h
    exact Nat.add_left_cancel h
  have hmonth : d.month = e.month := by
    have hd := d.daysBeforeMonth_lt_dayOfYear
    have he := e.daysBeforeMonth_lt_dayOfYear
    rcases Nat.lt_trichotomy d.month e.month with hlt | heq | hgt
    · have hle := d.dayOfYear_le_daysBeforeMonth hlt
      rw [hyear] at hle
      omega
    · exact heq
    · have hle := e.dayOfYear_le_daysBeforeMonth hgt
      rw [← hyear] at hle
      omega
  have hday : d.day = e.day := by
    unfold dayOfYear at hinYear
    rw [hyear, hmonth] at hinYear
    exact Nat.add_left_cancel hinYear
  cases d
  cases e
  cases hyear
  cases hmonth
  cases hday
  rfl

end Date

/-! ## Times -/

namespace DateTime

/-- What a clock shows is known by its microseconds. -/
theorem eq_of_wallMicros {t u : DateTime} (h : t.wallMicros = u.wallMicros)
    (hoffset : t.offset = u.offset) : t = u := by
  obtain ⟨hhour, hminute, hsecond, hmicro, _⟩ := t.is_clock_time
  obtain ⟨hhour', hminute', hsecond', hmicro', _⟩ := u.is_clock_time
  have hpos := t.date.ordinal_pos
  have hpos' := u.date.ordinal_pos
  unfold wallMicros at h
  have hdate : t.date = u.date := Date.ordinal_injective (by omega)
  have hhours : t.hour = u.hour := by omega
  have hminutes : t.minute = u.minute := by omega
  have hseconds : t.second = u.second := by omega
  have hmicros : t.micro = u.micro := by omega
  cases t
  cases u
  cases hdate
  cases hhours
  cases hminutes
  cases hseconds
  cases hmicros
  cases hoffset
  rfl

/-- **A time is known by its instant and its offset.** -/
theorem eq_of_instant {t u : DateTime} (hinstant : t.instant = u.instant)
    (hoffset : t.offset = u.offset) : t = u := by
  refine eq_of_wallMicros ?_ hoffset
  unfold instant at hinstant
  rw [hoffset] at hinstant
  omega

end DateTime
end NoteVault
