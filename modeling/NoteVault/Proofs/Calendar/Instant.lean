import NoteVault.Calendar.DateTime

/-!
# Instants of clocks without an offset

The order of dates refuses an instant outside the years 1 to 9999. A clock without an
offset never shows one: its instant is what it shows, and every day of the calendar has
a number between 1 and `calendarDays`. Only an offset can lead out of the calendar.

## Main results

* `Date.ordinal_le` — the days of the calendar are numbered up to `calendarDays`.
* `Moment.isInCalendar_of_offset_none` — a clock without an offset shows an instant in
  the calendar.
-/

namespace NoteVault

/-- What has a day is one of twelve months. -/
theorem month_le_of_daysInMonth_pos {year month : Nat} (h : 0 < daysInMonth year month) :
    month ≤ 12 := by
  unfold daysInMonth at h
  split at h <;> omega

namespace Date

/-- A month begins late enough in the year to leave room for the days from it on. -/
theorem daysBeforeMonth_add_le (year : Nat) {month : Nat} (hmonth : month ≤ 12) :
    daysBeforeMonth year month + daysInMonth year month ≤ if isLeapYear year then 366 else 365 := by
  have hmono : ∀ n m : Nat, n ≤ m → daysBeforeMonth year n ≤ daysBeforeMonth year m := by
    intro n m hnm
    induction hnm with
    | refl => exact Nat.le_refl _
    | step _ ih => exact Nat.le_trans ih (Nat.le_add_right _ _)
  have hyear : daysBeforeMonth year 13 = if isLeapYear year then 366 else 365 := by
    cases h : isLeapYear year <;> simp [daysBeforeMonth, daysInMonth, h]
  rw [← hyear]
  exact hmono (month + 1) 13 (by omega)

/-- A year has room for each of its days. -/
theorem dayOfYear_le (d : Date) : d.dayOfYear ≤ if isLeapYear d.year then 366 else 365 := by
  obtain ⟨_, _, hpos, hday⟩ := d.exists_day
  have hmonth : d.month ≤ 12 := month_le_of_daysInMonth_pos (Nat.lt_of_lt_of_le hpos hday)
  exact Nat.le_trans (Nat.add_le_add_left hday _) (daysBeforeMonth_add_le d.year hmonth)

theorem ordinal_pos (d : Date) : 0 < d.ordinal := by
  have hday := d.exists_day.2.2.1
  unfold ordinal dayOfYear
  omega

/-- The days of the calendar are numbered up to `calendarDays`. -/
theorem ordinal_le (d : Date) : d.ordinal ≤ calendarDays := by
  obtain ⟨hfirst, hlast, _, _⟩ := d.exists_day
  have hdays := d.dayOfYear_le
  simp only [ordinal, daysBeforeYear, calendarDays]
  -- the last year has no leap day, so the bound is tight only there
  by_cases hend : d.year = 9999
  · rw [hend] at hdays ⊢
    have hcommon : isLeapYear 9999 = false := by decide
    rw [hcommon] at hdays
    simp only [Bool.false_eq_true, if_false] at hdays
    omega
  · have hyear : d.dayOfYear ≤ 366 := by
      refine Nat.le_trans hdays ?_
      split <;> omega
    omega

end Date

/-- What a clock shows lies in the days of the calendar. -/
theorem DateTime.wallMicros_lt (t : DateTime) : t.wallMicros < calendarDays * 86400000000 := by
  obtain ⟨hhour, hminute, hsecond, hmicro, _⟩ := t.is_clock_time
  have hpos := t.date.ordinal_pos
  have hle := t.date.ordinal_le
  unfold wallMicros
  unfold calendarDays at hle ⊢
  omega

/-- A clock without an offset shows an instant in the calendar. -/
theorem Moment.isInCalendar_of_offset_none {m : Moment} (h : m.offset = none) :
    Moment.isInCalendar m.instant = true := by
  have hinstant : m.instant = m.toDateTime.wallMicros := by
    unfold instant DateTime.instant
    rw [show m.toDateTime.offset = none from h]
    simp
  have hlt := m.toDateTime.wallMicros_lt
  rw [isInCalendar, hinstant, Bool.and_eq_true, decide_eq_true_eq, decide_eq_true_eq]
  omega

end NoteVault
