import NoteVault.Frontmatter.Literal
import NoteVault.Proofs.Calendar.Instant
import NoteVault.Proofs.Link.WikiLink
import NoteVault.Proofs.Order.Equality
import NoteVault.Proofs.Text.Numeral
import NoteVault.Proofs.Text.Span
import NoteVault.Proofs.Text.Strip

/-!
# ISO text is read back

A point in time is written in fields of fixed width with signs between them: the date, the hour,
the minute and the second, then the places of the second if there are microseconds, then the
offset if the clock has one. Each field is taken off whole, since it has its width, and the places
end in front of the offset, which begins with a sign or with `Z`. So the point in time is read
back, as long as its offset has no seconds, and a date as its midnight.

None of these texts begins or ends with a blank, or could be a link. So they mean the same in
frontmatter, whatever blanks stand around them.

## Main definitions

* `DateTime.IsIsoText` — the texts of a point in time.

## Main results

* `Iso.date?_iso` — a date is taken off whole.
* `Iso.offset?_offsetText` — an offset without seconds is read back.
* `DateTime.readIso?_written` — a point in time is read back.
* `DateTime.readIso?_roundTrips` — all of that, also in frontmatter.
-/

namespace NoteVault

open Text

/-! ## Fields -/

theorem daysInMonth_le (year month : Nat) : daysInMonth year month ≤ 31 := by
  have hleap : (if isLeapYear year then 29 else 28) ≤ 31 := by split <;> omega
  unfold daysInMonth
  split <;> omega

namespace Iso

theorem digit?_eq {c : Char} (h : c.isDigit = true) : digit? c = some (c.toNat - '0'.toNat) :=
  if_pos h

theorem two?_cons (a b : Char) (rest : Text) :
    two? (a :: b :: rest) = (digit? a).bind fun m => (digit? b).bind fun n => some (10 * m + n, rest) :=
  rfl

/-- Two digits are taken off whole. -/
theorem two?_append {n : Nat} {s : Text} (h : IsNumeral 2 n s) (rest : Text) :
    two? (s ++ rest) = some (n, rest) := by
  obtain ⟨hlength, hdigits, hvalue⟩ := h
  match s, hlength with
  | [a, b], _ =>
      have ha : a.isDigit = true := hdigits a List.mem_cons_self
      have hb : b.isDigit = true := hdigits b (List.mem_cons_of_mem a List.mem_cons_self)
      have hn : 10 * (a.toNat - '0'.toNat) + (b.toNat - '0'.toNat) = n := by
        rw [← hvalue, Nat.ofDigitChars_cons, Nat.ofDigitChars_cons, Nat.ofDigitChars_nil,
          Nat.mul_zero, Nat.zero_add]
      show two? (a :: b :: rest) = _
      rw [two?_cons, digit?_eq ha, digit?_eq hb, Option.bind_some, Option.bind_some, hn]

theorem two?_padNat {n : Nat} (h : n < 100) (rest : Text) :
    two? (padNat 2 n ++ rest) = some (n, rest) :=
  two?_append (isNumeral_padNat (by omega) h) rest

theorem date?_eq (s : Text) :
    date? s = (two? s).bind fun (century, s) => (two? s).bind fun (year, s) =>
      (dropStart? ['-'] s).bind fun s => (two? s).bind fun (month, s) =>
      (dropStart? ['-'] s).bind fun s => (two? s).bind fun (day, s) =>
      (Date.of? (100 * century + year) month day).bind fun date => some (date, s) := rfl

/-- **A date is taken off whole.** -/
theorem date?_iso (d : Date) (rest : Text) : date? (d.iso ++ rest) = some (d, rest) := by
  obtain ⟨hfirst, hlast, hday, hdays⟩ := d.exists_day
  have hmonth : d.month ≤ 12 := month_le_of_daysInMonth_pos (Nat.lt_of_lt_of_le hday hdays)
  have hdays' : daysInMonth d.year d.month ≤ 31 := daysInMonth_le _ _
  obtain ⟨century, year, front, back, hyear, hcentury, hrest, hvalue⟩ :=
    IsNumeral.split (isNumeral_padNat (show 0 < 2 + 2 by omega) (show d.year < 10000 by omega))
  have hiso : d.iso ++ rest =
      front ++ (back ++ ('-' :: (padNat 2 d.month ++ ('-' :: (padNat 2 d.day ++ rest))))) := by
    show padNat (2 + 2) d.year ++ ['-'] ++ padNat 2 d.month ++ ['-'] ++ padNat 2 d.day ++ rest = _
    rw [hyear]
    simp only [List.append_assoc, List.cons_append, List.nil_append]
  have hof : Date.of? (100 * century + year) d.month d.day = some d := by
    rw [← show d.year = 100 * century + year from hvalue]
    exact dif_pos d.exists_day
  rw [hiso, date?_eq]
  simp only [Option.bind_some, two?_append hcentury, two?_append hrest, dropStart?, if_true,
    two?_padNat (show d.month < 100 by omega), two?_padNat (show d.day < 100 by omega), hof]

/-! ## Places of a second -/

/-- The places of a second as they are written. -/
def placesText (micro : Nat) : Text := if micro = 0 then [] else '.' :: padNat 6 micro

/-- What stands behind the places of a second: no digit, and no point. -/
structure EndsPlaces (zone : Text) : Prop where
  /-- The places do not go on. -/
  noDigit : EndsAt isDigit zone
  /-- Nor do they begin. -/
  noPoint : zone.head? ≠ some '.'

theorem micros_padNat {micro : Nat} (h : micro < 1000000) : micros (padNat 6 micro) = micro := by
  obtain ⟨hlength, _, hvalue⟩ := isNumeral_padNat (show 0 < 6 by omega) h
  have htake : (padNat 6 micro).take 6 = padNat 6 micro := List.take_of_length_le (by omega)
  unfold micros
  simp only [htake, hlength, hvalue, Nat.sub_self]
  exact Nat.mul_one micro

theorem afterPlaces_eq (places : Text) {zone : Text} (hzone : EndsPlaces zone) :
    afterPlaces places zone = zone := by
  have hdrop : zone.dropWhile isDigit = zone := (span_append (List.forall_mem_nil _) hzone.noDigit).2
  unfold afterPlaces
  rw [hdrop]
  split
  · rfl
  · split <;> rfl

/-- Seconds are taken off with their places. -/
theorem seconds?_append {second micro : Nat} (hsecond : second < 100) (hmicro : micro < 1000000)
    {zone : Text} (hzone : EndsPlaces zone) :
    seconds? (':' :: (padNat 2 second ++ (placesText micro ++ zone))) =
      some (second, micro, zone) := by
  have hread := two?_padNat hsecond (placesText micro ++ zone)
  unfold seconds?
  simp only [hread, Option.bind_eq_bind, Option.bind_some]
  unfold placesText
  by_cases hzero : micro = 0
  · rw [if_pos hzero, hzero, List.nil_append]
    split
    · exact absurd rfl hzone.noPoint
    · rfl
  · obtain ⟨hlength, hdigits, _⟩ := isNumeral_padNat (show 0 < 6 by omega) hmicro
    have hends : EndsAt Char.isDigit zone := by
      intro c hc
      by_contra hdigit
      have hnot := hzone.noDigit c hc
      rw [isDigit_of_ascii (eq_true_of_ne_false hdigit)] at hnot
      cases hnot
    obtain ⟨htake, hdrop⟩ := span_append hdigits hends
    have hne : (padNat 6 micro).isEmpty = false := by
      rw [List.isEmpty_eq_false_iff, ← List.length_pos_iff, hlength]
      omega
    rw [if_neg hzero, List.cons_append]
    simp only [htake, hdrop, hne, Bool.false_eq_true, if_false, micros_padNat hmicro,
      afterPlaces_eq _ hzone]

/-! ## Offsets -/

theorem offset?_cons {sign : Char} (hsign : sign ≠ 'Z') (s : Text) :
    offset? (sign :: s) = (two? s).bind fun (hours, s) =>
      (two? (match s with | ':' :: rest => rest | s => s)).bind fun (minutes, s) =>
        let offset : Int := hours * 3600 + minutes * 60
        if !s.isEmpty then none
        else if sign = '+' then some (some offset)
        else if sign = '-' then some (some (-offset))
        else none := by
  unfold offset?
  split
  · next h => cases h
  · next h => exact absurd (List.cons.inj h).1 hsign
  · next h =>
      cases h
      rfl

/-- What is read for a sign, hours and minutes. -/
theorem offset?_sign {sign : Char} (hsign : sign = '+' ∨ sign = '-') {hours minutes : Nat}
    (hhours : hours < 100) (hminutes : minutes < 100) :
    offset? (sign :: (padNat 2 hours ++ ':' :: padNat 2 minutes)) =
      some (some (if sign = '+' then (hours * 3600 + minutes * 60 : Int)
        else -(hours * 3600 + minutes * 60))) := by
  have hzulu : sign ≠ 'Z' := by
    rintro rfl
    rcases hsign with h | h <;> cases h
  have hread := two?_padNat hminutes []
  rw [List.append_nil] at hread
  rw [offset?_cons hzulu, two?_padNat hhours]
  simp only [Option.bind_some, hread, List.isEmpty_nil, Bool.not_true, Bool.false_eq_true, if_false]
  rcases hsign with rfl | rfl <;> rfl

/-- **An offset without seconds is read back.** -/
theorem offset?_offsetText {offset : Int} (hday : offset.natAbs < 86400) (hminutes : offset % 60 = 0) :
    offset? (offsetText ":" offset) = some (some offset) := by
  have hseconds : offset.natAbs % 60 = 0 := by omega
  have htext : offsetText ":" offset = (if offset < 0 then '-' else '+') ::
      (padNat 2 (offset.natAbs / 3600) ++ ':' :: padNat 2 (offset.natAbs / 60 % 60)) := by
    unfold offsetText
    simp [hseconds]
  have hsum : offset.natAbs / 3600 * 3600 + offset.natAbs / 60 % 60 * 60 = offset.natAbs := by omega
  rw [htext, offset?_sign (by split <;> simp) (by omega) (by omega)]
  by_cases hneg : offset < 0
  · simp only [hneg, if_true, show ¬ '-' = '+' by decide, if_false]
    congr 2
    omega
  · simp only [hneg, if_false, if_true]
    congr 2
    omega

/-- The offset of a clock, if it has one, as it is written. -/
def zoneText : Option Int → Text
  | none => []
  | some offset => offsetText ":" offset

theorem offsetText_eq_cons (offset : Int) :
    ∃ sign rest, offsetText ":" offset = sign :: rest ∧ (sign = '+' ∨ sign = '-') := by
  refine ⟨if offset < 0 then '-' else '+', _, rfl, ?_⟩
  by_cases hneg : offset < 0
  · exact .inr (if_pos hneg)
  · exact .inl (if_neg hneg)

theorem endsPlaces_zoneText (offset : Option Int) : EndsPlaces (zoneText offset) := by
  cases offset with
  | none => exact ⟨nofun, nofun⟩
  | some offset =>
      obtain ⟨sign, rest, htext, hsign⟩ := offsetText_eq_cons offset
      show EndsPlaces (offsetText ":" offset)
      rw [htext]
      rcases hsign with rfl | rfl <;> exact ⟨endsAt_cons.mpr (by decide), by simp⟩

theorem isBlank_of_ascii {c : Char} (h : c.isDigit = true) : isBlank c = false :=
  isBlank_of_isDigit (isDigit_of_ascii h)

theorem isBlank_of_mem_offsetText {offset : Int} {c : Char} (h : c ∈ offsetText ":" offset) :
    isBlank c = false := by
  have hcolon : ∀ c ∈ [':'], isBlank c = false := List.forall_mem_singleton.mpr (by decide)
  have hdigits : ∀ n, ∀ c ∈ padNat 2 n, isBlank c = false := by
    intro n c hc
    exact isBlank_of_ascii (isDigit_of_mem_padNat hc)
  unfold offsetText at h
  simp only [List.cons_append, List.mem_cons, List.mem_append] at h
  rcases h with h | ((h | h) | h) | h
  · rw [h]
    split <;> decide
  · exact hdigits _ c h
  · exact hcolon c h
  · exact hdigits _ c h
  · split at h
    · cases h
    · rcases List.mem_append.mp h with h | h
      · exact hcolon c h
      · exact hdigits _ c h

theorem isBlank_of_mem_zoneText {offset : Option Int} {c : Char} (h : c ∈ zoneText offset) :
    isBlank c = false := by
  cases offset with
  | none => cases h
  | some offset => exact isBlank_of_mem_offsetText h

theorem isBlank_of_mem_placesText {micro : Nat} {c : Char} (h : c ∈ placesText micro) :
    isBlank c = false := by
  unfold placesText at h
  split at h
  · cases h
  · rcases List.mem_cons.mp h with rfl | h
    · decide
    · exact isBlank_of_ascii (isDigit_of_mem_padNat h)

theorem endsPlaces_zulu : EndsPlaces ['Z'] := ⟨endsAt_cons.mpr (by decide), by decide⟩

/-- The offset that a clock has is read back if it has no seconds. -/
theorem offset?_zoneText {offset : Option Int} (hday : (offset.getD 0).natAbs < 86400)
    (hminutes : offset.getD 0 % 60 = 0) : offset? (zoneText offset) = some offset := by
  cases offset with
  | none => rfl
  | some offset => exact offset?_offsetText hday hminutes

end Iso

/-! ## Points in time -/

namespace DateTime

/-- A point in time as it is written, with some text for the offset. -/
def written (t : DateTime) (sep : Char) (zone : Text) : Text :=
  t.date.iso ++ (sep :: (padNat 2 t.hour ++ (':' :: (padNat 2 t.minute ++
    (':' :: (padNat 2 t.second ++ (Iso.placesText t.micro ++ zone)))))))

theorem iso_eq (t : DateTime) (sep : Char) : t.iso sep = t.written sep (Iso.zoneText t.offset) := by
  unfold iso written Iso.placesText
  cases t.offset <;> simp [Iso.zoneText]

theorem readIso?_eq (s : Text) :
    readIso? s = (Iso.date? s).bind fun (date, s) =>
      match s with
      | [] => some (DateTime.midnight date)
      | sep :: s =>
        if sep = 'T' ∨ sep = ' ' then
          (Iso.two? s).bind fun (hour, s) => (dropStart? [':'] s).bind fun s =>
          (Iso.two? s).bind fun (minute, s) => (Iso.seconds? s).bind fun (second, micro, s) =>
          (Iso.offset? s).bind fun offset => DateTime.of? date hour minute second micro offset
        else none := rfl

/-- **A point in time is read back.** -/
theorem readIso?_written (t : DateTime) {sep : Char} (hsep : sep = 'T' ∨ sep = ' ') {zone : Text}
    (hzone : Iso.EndsPlaces zone) (hoffset : Iso.offset? zone = some t.offset) :
    readIso? (t.written sep zone) = some t := by
  obtain ⟨hhour, hminute, hsecond, hmicro, _⟩ := t.is_clock_time
  have hof : DateTime.of? t.date t.hour t.minute t.second t.micro t.offset = some t :=
    dif_pos t.is_clock_time
  rw [written, readIso?_eq, Iso.date?_iso]
  simp only [Option.bind_some, if_pos hsep, dropStart?, if_true, hoffset, hof,
    Iso.two?_padNat (show t.hour < 100 by omega), Iso.two?_padNat (show t.minute < 100 by omega),
    Iso.seconds?_append (show t.second < 100 by omega) hmicro hzone]

/-- The texts of a point in time. -/
inductive IsIsoText (t : DateTime) : Text → Prop where
  /-- The one that is written, with `T` or a blank between date and time. -/
  | written {sep : Char} (hsep : sep = 'T' ∨ sep = ' ') : IsIsoText t (t.iso sep)
  /-- The same with `Z` for an offset of zero. -/
  | zulu {sep : Char} (hsep : sep = 'T' ∨ sep = ' ') {front : Text} (hoffset : t.offset = some 0)
    (h : t.iso sep = front ++ ['+', '0', '0', ':', '0', '0']) : IsIsoText t (front ++ ['Z'])

/-- The texts of a point in time are alike up to the text for the offset. -/
theorem IsIsoText.exists_zone {t : DateTime} {s : Text} (h : t.IsIsoText s)
    (hminutes : t.offset.getD 0 % 60 = 0) :
    ∃ sep zone, (sep = 'T' ∨ sep = ' ') ∧ s = t.written sep zone ∧ Iso.EndsPlaces zone ∧
      Iso.offset? zone = some t.offset ∧ ∀ c ∈ zone, isBlank c = false := by
  cases h with
  | @written sep hsep =>
      exact ⟨sep, _, hsep, t.iso_eq sep, Iso.endsPlaces_zoneText _,
        Iso.offset?_zoneText t.is_clock_time.2.2.2.2 hminutes, fun c => Iso.isBlank_of_mem_zoneText⟩
  | @zulu sep hsep front hoffset h =>
      have hzone : Iso.zoneText t.offset = ['+', '0', '0', ':', '0', '0'] := by
        rw [hoffset]
        decide
      have hfront : front = t.written sep [] := by
        rw [iso_eq, hzone] at h
        refine List.append_cancel_right (h.symm.trans ?_)
        simp [DateTime.written]
      refine ⟨sep, ['Z'], hsep, ?_, Iso.endsPlaces_zulu, ?_,
        List.forall_mem_singleton.mpr (by decide)⟩
      · rw [hfront]
        simp [DateTime.written]
      · rw [hoffset]
        rfl

end DateTime

/-! ## The ends of a text -/

theorem Iso.exists_of_two? {s rest : Text} {n : Nat} (h : two? s = some (n, rest)) :
    ∃ a b, s = a :: b :: rest ∧ a.isDigit = true ∧ b.isDigit = true := by
  have hdigit : ∀ {c : Char} {m : Nat}, digit? c = some m → c.isDigit = true := by
    intro c m hc
    by_contra hnot
    unfold digit? at hc
    rw [if_neg hnot] at hc
    cases hc
  match s with
  | [] => cases h
  | [_] => cases h
  | a :: b :: s =>
      rw [two?_cons] at h
      obtain ⟨m, ha, h⟩ := Option.bind_eq_some_iff.mp h
      obtain ⟨k, hb, h⟩ := Option.bind_eq_some_iff.mp h
      cases h
      exact ⟨a, b, rfl, hdigit ha, hdigit hb⟩

/-- What is read begins with a year. -/
theorem exists_year_of_readIso? {s : Text} {t : DateTime} (h : readIso? s = some t) :
    ∃ year rest, s = year ++ '-' :: rest ∧ year ≠ [] ∧ ∀ c ∈ year, c.isDigit = true := by
  rw [DateTime.readIso?_eq, Iso.date?_eq] at h
  obtain ⟨_, hdate, _⟩ := Option.bind_eq_some_iff.mp h
  obtain ⟨⟨_, s₁⟩, hcentury, hdate⟩ := Option.bind_eq_some_iff.mp hdate
  obtain ⟨⟨_, s₂⟩, hyear, hdate⟩ := Option.bind_eq_some_iff.mp hdate
  obtain ⟨_, hsign, _⟩ := Option.bind_eq_some_iff.mp hdate
  obtain ⟨a, b, rfl, ha, hb⟩ := Iso.exists_of_two? hcentury
  obtain ⟨c, d, rfl, hc, hd⟩ := Iso.exists_of_two? hyear
  match s₂ with
  | [] => cases hsign
  | e :: rest =>
      by_cases he : '-' = e
      · refine ⟨[a, b, c, d], rest, he ▸ rfl, List.cons_ne_nil _ _, ?_⟩
        simp [ha, hb, hc, hd]
      · unfold dropStart? at hsign
        rw [if_neg he] at hsign
        cases hsign

/-- What is read is not stripped if it ends without a blank. -/
theorem strip_of_readIso? {t : DateTime} {front back : Text}
    (h : readIso? (front ++ back) = some t) (hne : back ≠ []) (hback : ∀ c ∈ back, isBlank c = false) :
    strip (front ++ back) = front ++ back := by
  obtain ⟨year, rest, hs, hyear, hdigits⟩ := exists_year_of_readIso? h
  obtain ⟨digit, year, rfl⟩ := List.exists_cons_of_ne_nil hyear
  refine strip_eq_self ?_ ?_
  · intro c hc
    rw [hs] at hc
    cases hc
    exact Iso.isBlank_of_ascii (hdigits digit List.mem_cons_self)
  · intro c hc
    rw [List.getLast?_append_of_ne_nil _ hne] at hc
    exact hback c (List.mem_of_getLast? hc)

theorem DateTime.strip_written {t : DateTime} {sep : Char} {zone : Text}
    (h : readIso? (t.written sep zone) = some t) (hzone : ∀ c ∈ zone, isBlank c = false) :
    strip (t.written sep zone) = t.written sep zone := by
  have hseconds := isNumeral_padNat (show 0 < 2 by omega)
    (show t.second < 100 from Nat.lt_of_lt_of_le t.is_clock_time.2.2.1 (by omega))
  have hwritten : t.written sep zone =
      (t.date.iso ++ (sep :: (padNat 2 t.hour ++ (':' :: (padNat 2 t.minute ++ [':']))))) ++
        (padNat 2 t.second ++ (Iso.placesText t.micro ++ zone)) := by
    simp [written]
  rw [hwritten] at h ⊢
  refine strip_of_readIso? h (List.append_ne_nil_of_left_ne_nil hseconds.ne_nil _) fun c hc => ?_
  rcases List.mem_append.mp hc with hc | hc
  · exact Iso.isBlank_of_ascii (hseconds.digits c hc)
  · rcases List.mem_append.mp hc with hc | hc
    · exact Iso.isBlank_of_mem_placesText hc
    · exact hzone c hc

/-! ## Dates -/

/-- **A date is read back as its midnight.** -/
theorem Date.readIso?_iso (d : Date) : readIso? d.iso = some (DateTime.midnight d) := by
  have hdate := Iso.date?_iso d []
  rw [List.append_nil] at hdate
  rw [DateTime.readIso?_eq, hdate]
  rfl

theorem Date.strip_iso (d : Date) : strip d.iso = d.iso := by
  obtain ⟨_, _, hday, hdays⟩ := d.exists_day
  have hdays' : daysInMonth d.year d.month ≤ 31 := daysInMonth_le _ _
  have hdigits := isNumeral_padNat (show 0 < 2 by omega) (show d.day < 100 by omega)
  exact strip_of_readIso? d.readIso?_iso hdigits.ne_nil fun c hc =>
    Iso.isBlank_of_ascii (hdigits.digits c hc)

/-! ## Frontmatter -/

/-- A text that is a date means that date. -/
theorem Value.ofText_of_readIso? {s : Text} {t : DateTime} (h : readIso? (strip s) = some t) :
    Value.ofText s = .ok (.date (.time t)) := by
  obtain ⟨year, rest, hs, hyear, hdigits⟩ := exists_year_of_readIso? h
  obtain ⟨digit, year, rfl⟩ := List.exists_cons_of_ne_nil hyear
  have hdigit := hdigits digit List.mem_cons_self
  have hmark : WikiLink.ofText? (strip s) = none := by
    rw [hs]
    refine WikiLink.ofText?_eq_none ?_ ?_ <;> rintro rfl <;> cases hdigit
  unfold Value.ofText
  simp only [onlyLink?_eq, hmark, Option.map_none, h]

/-- **ISO text is read back.** Every text of a point in time whose offset, if it has one, is whole
minutes is read as that point in time, and that of a date as its midnight on a clock without an
offset, which is equal to the date. In frontmatter these texts mean the same, whatever blanks
stand around them. -/
theorem DateTime.readIso?_roundTrips :
    (∀ (t : DateTime) (s front back : Text), t.offset.getD 0 % 60 = 0 → t.IsIsoText s →
      (∀ c ∈ front, isBlank c = true) → (∀ c ∈ back, isBlank c = true) →
        readIso? s = some t ∧
          Value.ofFrontmatter (.string (front ++ (s ++ back))) = .ok (.date (.time t))) ∧
    ∀ (d : Date) (front back : Text), (∀ c ∈ front, isBlank c = true) →
      (∀ c ∈ back, isBlank c = true) →
        readIso? d.iso = some (midnight d) ∧
          Value.ofFrontmatter (.string (front ++ (d.iso ++ back))) =
            .ok (.date (.time (midnight d))) ∧
          (Value.date (.time (midnight d))).equals (.date (.day d)) = .ok true := by
  constructor
  · intro t s front back hminutes hs hfront hback
    obtain ⟨sep, zone, hsep, rfl, hends, hoffset, hzone⟩ := hs.exists_zone hminutes
    have hread := t.readIso?_written hsep hends hoffset
    refine ⟨hread, Value.ofText_of_readIso? ?_⟩
    rw [strip_surrounded _ hfront hback, strip_written hread hzone, hread]
  · intro d front back hfront hback
    refine ⟨d.readIso?_iso, Value.ofText_of_readIso? ?_, ?_⟩
    · rw [strip_surrounded _ hfront hback, d.strip_iso, d.readIso?_iso]
    · exact (Value.equals_eq_true_iff rfl rfl).mpr (OrderKey.order_eq_iff.mpr rfl)

/-- A quarter of a millisecond before the end of the calendar, west of UTC. -/
def lastMoment : DateTime :=
  ⟨⟨9999, 12, 31, by decide⟩, 23, 59, 59, 999750, some (-19800), by decide⟩

/-- The beginning of the calendar in UTC. -/
def firstMoment : DateTime := ⟨⟨1, 1, 1, by decide⟩, 0, 0, 0, 0, some 0, by decide⟩

/-- The ends of the calendar, with blanks around. -/
theorem DateTime.readIso?_roundTrips_ends :
    (readIso? "9999-12-31 23:59:59.999750-05:30" = some lastMoment ∧
      Value.ofFrontmatter (.string "\t9999-12-31 23:59:59.999750-05:30 \n") =
        .ok (.date (.time lastMoment))) ∧
    (readIso? "0001-01-01T00:00:00Z" = some firstMoment ∧
      Value.ofFrontmatter (.string " 0001-01-01T00:00:00Z") = .ok (.date (.time firstMoment))) ∧
    readIso? "0001-01-01" = some (midnight firstMoment.date) ∧
    Value.ofFrontmatter (.string "0001-01-01\r") =
      .ok (.date (.time (midnight firstMoment.date))) ∧
    (Value.date (.time (midnight firstMoment.date))).equals (.date (.day firstMoment.date)) =
      .ok true := by
  obtain ⟨htime, hdate⟩ := readIso?_roundTrips
  have hlast : lastMoment.iso ' ' = "9999-12-31 23:59:59.999750-05:30" := by decide +kernel
  have hfirst : firstMoment.iso 'T' = ("0001-01-01T00:00:00" : Text) ++ "+00:00" := by
    decide +kernel
  have hday : firstMoment.date.iso = "0001-01-01" := by decide +kernel
  have hblanks : ['\t'] ++ (("9999-12-31 23:59:59.999750-05:30" : Text) ++ [' ', '\n']) =
      "\t9999-12-31 23:59:59.999750-05:30 \n" := by
    decide +kernel
  have hzulu : ("0001-01-01T00:00:00" : Text) ++ ['Z'] = "0001-01-01T00:00:00Z" := by decide +kernel
  have hblank : [' '] ++ (("0001-01-01T00:00:00Z" : Text) ++ []) =
      (" 0001-01-01T00:00:00Z" : Text) := by
    decide +kernel
  have hreturn : [] ++ (("0001-01-01" : Text) ++ ['\r']) = ("0001-01-01\r" : Text) := by
    decide +kernel
  refine ⟨?_, ?_, ?_⟩
  · have h := htime lastMoment _ ['\t'] [' ', '\n'] (by decide) (.written (.inr rfl))
      (List.all_eq_true.mp rfl) (List.all_eq_true.mp rfl)
    rw [hlast, hblanks] at h
    exact h
  · have h := htime firstMoment _ [' '] [] (by decide) (.zulu (.inl rfl) rfl hfirst)
      (List.all_eq_true.mp rfl) (List.forall_mem_nil _)
    rw [hzulu, hblank] at h
    exact h
  · have h := hdate firstMoment.date [] ['\r'] (List.forall_mem_nil _) (List.all_eq_true.mp rfl)
    rw [hday, hreturn] at h
    exact h

end NoteVault
