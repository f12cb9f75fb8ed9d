import NoteVault.Calendar.DurationText
import NoteVault.Proofs.Text.Span
import NoteVault.Proofs.Text.Strip

/-!
# The parts of a written duration

A part of a duration is a run of digits, perhaps blanks, and a word of ASCII letters; a
duration is written as parts with a separator behind each, which is blanks and at most one comma
and may be nothing at all. Digits, letters, blanks and commas are different characters, so each
run ends where the next one begins, and the reader finds exactly the parts that were written.

## Main definitions

* `DurationPart` — a part as it is written.
* `IsDurationText` — a text is some parts one after the other.

## Main results

* `takePart?_text` — a part is taken off whole, together with the separator behind it.
* `IsDurationText.durationParts?_eq` — the parts that are found are those that were written.
* `DurationPart.ofWord?_eq_some_iff` — the unit that the word of a part names.
-/

namespace NoteVault

open Text

/-! ## Kinds of characters -/

namespace Text

theorem toNat_lt_of_isAlpha {c : Char} (h : c.isAlpha = true) : c.toNat < 128 := by
  have hcases : (c.isUpper || c.isLower) = true := h
  rcases Bool.or_eq_true_iff.mp hcases with hupper | hlower
  · have hle : c.val ≤ 'Z'.val := (of_decide_eq_true hupper).2
    exact Nat.lt_of_le_of_lt (UInt32.le_iff_toNat_le.mp hle) (by decide)
  · have hrange : (decide (c.val ≥ 'a'.val) && decide (c.val ≤ 'z'.val)) = true := hlower
    have hle : c.val ≤ 'z'.val := of_decide_eq_true (Bool.and_eq_true_iff.mp hrange).2
    exact Nat.lt_of_le_of_lt (UInt32.le_iff_toNat_le.mp hle) (by decide)

/-- No letter is a digit, a blank or one of two marks, checked on the code points of letters. -/
theorem letters_apart : ∀ n < 128, (Char.ofNat n).isAlpha = true →
    isDigit (Char.ofNat n) = false ∧ isBlank (Char.ofNat n) = false ∧
      Char.ofNat n ≠ ',' ∧ Char.ofNat n ≠ '.' := by
  decide

/-- What can stand in a unit word is no digit, no blank and neither of two marks. -/
theorem apart_of_isUnitLetter {c : Char} (h : isUnitLetter c = true) :
    isDigit c = false ∧ isBlank c = false ∧ c ≠ ',' ∧ c ≠ '.' := by
  unfold isUnitLetter at h
  simp only [Bool.or_eq_true, decide_eq_true_eq] at h
  rcases h with (((h | rfl) | rfl) | rfl) | rfl
  · have hc := letters_apart c.toNat (toNat_lt_of_isAlpha h)
    rw [Char.ofNat_toNat] at hc
    exact hc h
  all_goals decide

theorem isUnitLetter_of_isAlpha {c : Char} (h : c.isAlpha = true) : isUnitLetter c = true := by
  unfold isUnitLetter
  rw [h]
  rfl

theorem isUnitLetter_of_isDigit {c : Char} (h : isDigit c = true) : isUnitLetter c = false := by
  by_contra hletter
  rw [(apart_of_isUnitLetter (eq_true_of_ne_false hletter)).1] at h
  cases h

theorem isUnitLetter_of_isBlank {c : Char} (h : isBlank c = true) : isUnitLetter c = false := by
  by_contra hletter
  rw [(apart_of_isUnitLetter (eq_true_of_ne_false hletter)).2.1] at h
  cases h

/-! ## Lower case -/

theorem lowerChar_ascii : ∀ n < 128, lowerChar (Char.ofNat n) = (Char.ofNat n).toLower := by
  decide

theorem lowerAfter_of_isAlpha {word : Text} (h : ∀ c ∈ word, c.isAlpha = true) (read : Text) :
    lowerAfter read word = word.map Char.toLower := by
  induction word generalizing read with
  | nil => rfl
  | cons c rest ih =>
      have hc : c.isAlpha = true := h c List.mem_cons_self
      have hlower := lowerChar_ascii c.toNat (toNat_lt_of_isAlpha hc)
      rw [Char.ofNat_toNat] at hlower
      have hdot : c ≠ 'İ' := by
        rintro rfl
        exact absurd hc (by decide)
      have hsigma : c ≠ 'Σ' := by
        rintro rfl
        exact absurd hc (by decide)
      unfold lowerAfter
      dsimp only
      rw [if_neg hdot, if_neg hsigma, hlower, ih fun d hd => h d (List.mem_cons_of_mem c hd)]
      rfl

/-- A word of ASCII letters is put into lower case letter by letter. -/
theorem lower_of_isAlpha {word : Text} (h : ∀ c ∈ word, c.isAlpha = true) :
    lower word = word.map Char.toLower :=
  lowerAfter_of_isAlpha h []

end Text

/-! ## Units -/

namespace DurationUnit

theorem mem_all (unit : DurationUnit) : unit ∈ all := by
  cases unit <;> decide

/-- No form belongs to two units. -/
theorem eq_of_mem_forms {form : Text} {u v : DurationUnit} (hu : form ∈ u.forms)
    (hv : form ∈ v.forms) : u = v := by
  have hall : ∀ u ∈ all, ∀ v ∈ all, ∀ form ∈ u.forms, form ∈ v.forms → u = v := by decide
  exact hall u u.mem_all v v.mem_all form hu hv

end DurationUnit

/-! ## Parts -/

/-- An amount with a unit word, perhaps with blanks between the two. -/
structure DurationPart where
  /-- The digits of the amount. -/
  digits : Text
  /-- What stands between the amount and the word. -/
  blanks : Text
  /-- The word. -/
  word : Text
  /-- There is an amount. -/
  digits_ne_nil : digits ≠ []
  /-- The digits are digits. -/
  isDigit_digits : ∀ c ∈ digits, isDigit c = true
  /-- The blanks are blanks. -/
  isBlank_blanks : ∀ c ∈ blanks, isBlank c = true
  /-- There is a word. -/
  word_ne_nil : word ≠ []
  /-- The word consists of ASCII letters. -/
  isAlpha_word : ∀ c ∈ word, c.isAlpha = true

namespace DurationPart

/-- The part as it is written. -/
def text (p : DurationPart) : Text := p.digits ++ (p.blanks ++ p.word)

/-- How many units there are. -/
def amount (p : DurationPart) : Nat := digitsValue p.digits

/-- The word is a form of the unit, its letters in either case. -/
def Names (p : DurationPart) (unit : DurationUnit) : Prop :=
  p.word.map Char.toLower ∈ unit.forms

instance (p : DurationPart) (unit : DurationUnit) : Decidable (p.Names unit) :=
  inferInstanceAs (Decidable (_ ∈ _))

theorem exists_digits_cons (p : DurationPart) :
    ∃ c rest, p.digits = c :: rest ∧ isDigit c = true := by
  obtain ⟨c, rest, hdigits⟩ := List.exists_cons_of_ne_nil p.digits_ne_nil
  exact ⟨c, rest, hdigits, p.isDigit_digits c (hdigits ▸ List.mem_cons_self)⟩

theorem exists_word_cons (p : DurationPart) :
    ∃ c rest, p.word = c :: rest ∧ isUnitLetter c = true := by
  obtain ⟨c, rest, hword⟩ := List.exists_cons_of_ne_nil p.word_ne_nil
  exact ⟨c, rest, hword, isUnitLetter_of_isAlpha (p.isAlpha_word c (hword ▸ List.mem_cons_self))⟩

/-- What no letter is ends where the word begins. -/
theorem endsAt_word (p : DurationPart) {kind : Char → Bool}
    (hletter : ∀ c, isUnitLetter c = true → kind c = false) (back : Text) :
    EndsAt kind (p.word ++ back) := by
  obtain ⟨c, rest, hword, hc⟩ := p.exists_word_cons
  rw [hword]
  exact endsAt_cons.mpr (hletter c hc)

/-- What neither a blank nor a letter is ends behind the amount. -/
theorem endsAt_blanks (p : DurationPart) {kind : Char → Bool}
    (hblank : ∀ c, isBlank c = true → kind c = false)
    (hletter : ∀ c, isUnitLetter c = true → kind c = false) (back : Text) :
    EndsAt kind (p.blanks ++ (p.word ++ back)) :=
  endsAt_append (fun c hc => hblank c (p.isBlank_blanks c hc)) (p.endsAt_word hletter back)

/-! ### Units -/

/-- **The unit that the word of a part names.** -/
theorem ofWord?_eq_some_iff {p : DurationPart} {unit : DurationUnit} :
    DurationUnit.ofWord? p.word = some unit ↔ p.Names unit := by
  unfold DurationUnit.ofWord?
  rw [lower_of_isAlpha p.isAlpha_word]
  constructor
  · intro h
    have hform := List.find?_some h
    exact List.contains_iff_mem.mp hform
  · intro h
    cases hfind : DurationUnit.all.find? fun u => u.forms.contains (p.word.map Char.toLower) with
    | none =>
        have hnot := List.find?_eq_none.mp hfind unit unit.mem_all
        exact absurd (List.contains_iff_mem.mpr h) hnot
    | some other =>
        have hother := List.find?_some hfind
        rw [DurationUnit.eq_of_mem_forms (List.contains_iff_mem.mp hother) h]

theorem ofWord?_eq_none_iff {p : DurationPart} :
    DurationUnit.ofWord? p.word = none ↔ ∀ unit, ¬ p.Names unit := by
  constructor
  · intro h unit hunit
    rw [ofWord?_eq_some_iff.mpr hunit] at h
    cases h
  · intro h
    cases hword : DurationUnit.ofWord? p.word with
    | none => rfl
    | some unit => exact absurd (ofWord?_eq_some_iff.mp hword) (h unit)

end DurationPart

/-! ## Separators -/

/-- What can stand behind a part: blanks, and at most one comma among them. -/
inductive IsSeparator : Text → Prop
  /-- Blanks, if any. -/
  | blanks {s : Text} (h : ∀ c ∈ s, isBlank c = true) : IsSeparator s
  /-- A comma, with blanks around it, if any. -/
  | comma {s t : Text} (hs : ∀ c ∈ s, isBlank c = true) (ht : ∀ c ∈ t, isBlank c = true) :
      IsSeparator (s ++ ',' :: t)

/-- A blank is a text of blanks. -/
theorem isBlank_of_mem_space : ∀ c ∈ [' '], isBlank c = true := List.all_eq_true.mp rfl

/-- A text is over or goes on with a digit. -/
def GoesOnWithDigit (back : Text) : Prop := ∀ c, back.head? = some c → isDigit c = true

/-- No unit word goes on with a separator. -/
theorem IsSeparator.endsAt_isUnitLetter {sep back : Text} (hsep : IsSeparator sep)
    (hback : GoesOnWithDigit back) : EndsAt isUnitLetter (sep ++ back) := by
  have hends : EndsAt isUnitLetter back := fun c hc => isUnitLetter_of_isDigit (hback c hc)
  cases hsep with
  | blanks h => exact endsAt_append (fun c hc => isUnitLetter_of_isBlank (h c hc)) hends
  | comma hs ht =>
      rw [List.append_assoc]
      refine endsAt_append (fun c hc => isUnitLetter_of_isBlank (hs c hc)) ?_
      exact endsAt_cons.mpr (by decide)

/-- What the reader does with a separator: it is gone. -/
theorem IsSeparator.skip {sep back : Text} (hsep : IsSeparator sep)
    (hback : GoesOnWithDigit back) :
    (match stripStart (sep ++ back) with
      | ',' :: rest => stripStart rest
      | rest => rest) = back := by
  have hends : EndsAt isBlank back := fun c hc => isBlank_of_isDigit (hback c hc)
  cases hsep with
  | blanks h =>
      have hstrip : stripStart (sep ++ back) = back := (span_append h hends).2
      rw [hstrip]
      split
      · next rest => exact absurd (hback ',' rfl) (by decide)
      · rfl
  | @comma s t hs ht =>
      have hcomma : EndsAt isBlank (',' :: (t ++ back)) := endsAt_cons.mpr (by decide)
      have hstrip : stripStart (s ++ ',' :: (t ++ back)) = ',' :: (t ++ back) :=
        (span_append hs hcomma).2
      have hrest : stripStart (t ++ back) = back := (span_append ht hends).2
      rw [List.append_assoc, List.cons_append, hstrip]
      exact hrest

/-! ## Taking parts off -/

/-- The amount of a part is taken off whole. -/
theorem takeAmount?_part (p : DurationPart) (back : Text) :
    takeAmount? (p.digits ++ (p.blanks ++ (p.word ++ back))) =
      some (p.digits, p.blanks ++ (p.word ++ back)) := by
  obtain ⟨d, digits, hdigits, -⟩ := p.exists_digits_cons
  have hends : EndsAt isDigit (p.blanks ++ (p.word ++ back)) :=
    p.endsAt_blanks (fun _ => isDigit_of_isBlank) (fun _ hc => (apart_of_isUnitLetter hc).1) back
  have hpoint : EndsAt (· = '.') (p.blanks ++ (p.word ++ back)) := by
    refine p.endsAt_blanks (fun c hc => decide_eq_false ?_) (fun c hc => decide_eq_false ?_) back
    · rintro rfl
      exact absurd hc (by decide)
    · exact (apart_of_isUnitLetter hc).2.2.2
  obtain ⟨htake, hdrop⟩ := span_append p.isDigit_digits hends
  generalize p.blanks ++ (p.word ++ back) = behind at *
  unfold takeAmount?
  rw [htake, hdrop, hdigits]
  split
  · next h => cases h
  · exact absurd (endsAt_cons.mp hpoint) (by decide)
  · rfl

/-- **A part is taken off whole**, together with the separator behind it. -/
theorem takePart?_text (p : DurationPart) {sep back : Text} (hsep : IsSeparator sep)
    (hback : GoesOnWithDigit back) :
    takePart? (p.text ++ (sep ++ back)) = some ((p.digits, p.word), back) := by
  obtain ⟨w, word, hword, -⟩ := p.exists_word_cons
  have hends : EndsAt isBlank (p.word ++ (sep ++ back)) :=
    p.endsAt_word (fun _ hc => (apart_of_isUnitLetter hc).2.1) (sep ++ back)
  have hstrip : stripStart (p.blanks ++ (p.word ++ (sep ++ back))) = p.word ++ (sep ++ back) :=
    (span_append p.isBlank_blanks hends).2
  obtain ⟨htake, hdrop⟩ := span_append
    (fun c hc => isUnitLetter_of_isAlpha (p.isAlpha_word c hc)) (hsep.endsAt_isUnitLetter hback)
  unfold takePart? DurationPart.text
  rw [List.append_assoc, List.append_assoc, takeAmount?_part]
  dsimp only [Option.bind_eq_bind, Option.bind_some]
  rw [hstrip, htake, hdrop, hword]
  exact congrArg (fun rest => some ((p.digits, w :: word), rest)) (hsep.skip hback)

/-! ## Whole texts -/

/-- A text is some parts one after the other, with a separator behind each. -/
inductive IsDurationText : List DurationPart → Text → Prop
  /-- No parts are written as nothing. -/
  | nil : IsDurationText [] []
  /-- A part, a separator, and further parts. -/
  | cons (p : DurationPart) {ps : List DurationPart} {sep s : Text} (hsep : IsSeparator sep)
      (h : IsDurationText ps s) : IsDurationText (p :: ps) (p.text ++ (sep ++ s))

namespace IsDurationText

variable {ps qs : List DurationPart} {s t : Text}

/-- Two texts one after the other. -/
theorem append (hs : IsDurationText ps s) (ht : IsDurationText qs t) :
    IsDurationText (ps ++ qs) (s ++ t) := by
  induction hs with
  | nil => exact ht
  | cons p hsep _ ih =>
      rw [List.append_assoc, List.append_assoc]
      exact .cons p hsep ih

/-- Parts with a comma and a blank between neighbours. -/
theorem joinWith (ps : List DurationPart) :
    IsDurationText ps (Text.joinWith ", " (ps.map DurationPart.text)) := by
  have hcomma : IsSeparator ", " := .comma (List.forall_mem_nil _) isBlank_of_mem_space
  have hnone : IsSeparator [] := .blanks (List.forall_mem_nil _)
  induction ps with
  | nil => exact .nil
  | cons p ps ih =>
      cases ps with
      | nil =>
          have hlast := IsDurationText.cons p hnone .nil
          rw [List.append_nil, List.append_nil] at hlast
          exact hlast
      | cons q ps =>
          have hmore := IsDurationText.cons p hcomma ih
          rw [← List.append_assoc] at hmore
          exact hmore

/-- What is written begins with a digit. -/
theorem goesOnWithDigit (h : IsDurationText ps s) : GoesOnWithDigit s := by
  intro c hc
  cases h with
  | nil => cases hc
  | cons p hsep h =>
      obtain ⟨d, rest, hdigits, hd⟩ := p.exists_digits_cons
      unfold DurationPart.text at hc
      rw [hdigits] at hc
      exact Option.some.inj hc ▸ hd

theorem ne_nil (h : IsDurationText ps s) (hne : ps ≠ []) : s ≠ [] := by
  cases h with
  | nil => exact absurd rfl hne
  | cons p hsep h =>
      obtain ⟨d, rest, hdigits, -⟩ := p.exists_digits_cons
      unfold DurationPart.text
      rw [hdigits]
      exact List.cons_ne_nil _ _

/-- With fuel for each character, all parts are taken off. -/
theorem takeParts?_eq (h : IsDurationText ps s) {fuel : Nat} (hfuel : s.length ≤ fuel) :
    takeParts? fuel s = some (ps.map fun p => (p.digits, p.word)) := by
  induction h generalizing fuel with
  | nil => cases fuel <;> rfl
  | @cons p ps sep s hsep h ih =>
      have hpart := takePart?_text p hsep h.goesOnWithDigit
      obtain ⟨c, rest, htext⟩ :=
        List.exists_cons_of_ne_nil ((IsDurationText.cons p hsep h).ne_nil (List.cons_ne_nil p ps))
      have hlength := congrArg List.length htext
      simp only [List.length_append, List.length_cons] at hlength hfuel
      rw [htext] at hpart ⊢
      cases fuel with
      | zero => omega
      | succ fuel =>
          have hpos : 0 < p.text.length := by
            unfold DurationPart.text
            have := List.length_pos_iff.mpr p.digits_ne_nil
            rw [List.length_append]
            omega
          unfold takeParts?
          rw [hpart]
          dsimp only [Option.bind_eq_bind, Option.bind_some]
          rw [ih (by omega)]
          rfl

/-- **The parts that are found are those that were written.** -/
theorem durationParts?_eq (h : IsDurationText ps s) (hne : ps ≠ []) :
    durationParts? s = some (ps.map fun p => (p.digits, p.word)) := by
  have hstrip : stripStart s = s :=
    stripStart_eq_self_of_head? fun c hc => isBlank_of_isDigit (h.goesOnWithDigit c hc)
  unfold durationParts?
  rw [hstrip]
  split
  · exact absurd rfl (h.ne_nil hne)
  · exact h.takeParts?_eq (Nat.le_refl _)

end IsDurationText
end NoteVault
