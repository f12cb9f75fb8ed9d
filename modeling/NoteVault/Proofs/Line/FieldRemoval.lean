import NoteVault.Proofs.Line.FieldsUnder
import NoteVault.Proofs.Text.Words

/-!
# Taking a field away

When a field is taken away, the spaces and tabs behind it go with it, and at the end of a line
also those in front of it. Nothing else is lost, so the line breaks stay as they are.

The spaces behind the field are taken to be one too many, because there are others in front of it.
A field that stands directly behind a word has none there: if it is followed by a space and a word
on the same line, the two words become one. This is the only way in which words are changed.

## Main results

* `words_closeGap_iff` — which gaps are closed without joining two words.
* `setField_none_words` — the words and line breaks of a text from which a field was taken away.
-/

namespace NoteVault

open Text

/-- The line breaks of a text, one after the other. -/
def lineBreaks (s : Text) : Text := s.filter fun c => c = '\n' || c = '\r'

section

variable {s key front back : Text} {f : Found InlineField}

/-! ## The two sides of a gap -/

/-- What stays in front of a gap, when `back` follows behind the blanks that are cut away. -/
def gapFront (front back : Text) : Text :=
  if endsLine back then dropEndWhile isLineBlank front else front

theorem closeGap_eq (front back : Text) :
    closeGap front back =
      gapFront front (back.dropWhile isLineBlank) ++ back.dropWhile isLineBlank := rfl

/-- Nothing but blanks is cut away in front. -/
theorem exists_gapFront_append (front back : Text) :
    ∃ cut, front = gapFront front back ++ cut ∧ ∀ c ∈ cut, isLineBlank c = true := by
  unfold gapFront
  split
  · exact exists_dropEndWhile_append isLineBlank front
  · exact ⟨[], (List.append_nil front).symm, nofun⟩

/-- The end of a line is a blank, or the end of the text. -/
theorem isBlank_of_endsLine {c : Char} (h : endsLine back = true) (hc : back.head? = some c) :
    isBlank c = true := by
  obtain ⟨rest, rfl⟩ := List.head?_eq_some_iff.mp hc
  have hbreak : c = '\n' ∨ c = '\r' := by simpa [endsLine] using h
  rcases hbreak with rfl | rfl <;> decide

/-- Cutting blanks away in front does not matter for the seam. -/
theorem apart_gapFront_iff (front back : Text) :
    Apart (gapFront front back) back ↔ Apart front back := by
  unfold gapFront
  split
  · next hends =>
      have hback : ∀ c, back.head? = some c → isBlank c = true := fun _ => isBlank_of_endsLine hends
      exact iff_of_true (.inr hback) (.inr hback)
  · exact Iff.rfl

theorem words_gapFront (front back : Text) : words (gapFront front back) = words front := by
  obtain ⟨cut, hcut, hblank⟩ := exists_gapFront_append front back
  have hwords : words (gapFront front back ++ cut) = words (gapFront front back) :=
    words_append_blank (fun c hc => isBlank_of_isLineBlank (hblank c hc)) _
  rw [← hcut] at hwords
  exact hwords.symm

theorem words_dropWhile_isLineBlank (back : Text) :
    words (back.dropWhile isLineBlank) = words back := by
  have hblank : ∀ c ∈ back.takeWhile isLineBlank, isBlank c = true := fun c hc =>
    isBlank_of_isLineBlank (List.mem_takeWhile_imp hc)
  rw [← words_blank_append hblank, List.takeWhile_append_dropWhile]

/-! ## The closed gap -/

/-- **Which gaps are closed without joining two words.** -/
theorem words_closeGap_iff (front back : Text) :
    words (closeGap front back) = words front ++ words back ↔
      Apart front (back.dropWhile isLineBlank) := by
  rw [closeGap_eq, ← words_gapFront front (back.dropWhile isLineBlank),
    ← words_dropWhile_isLineBlank back, words_append_iff, apart_gapFront_iff]

/-- Where two words are joined, the others stay as they are. -/
theorem words_closeGap_of_not_apart (h : ¬ Apart front (back.dropWhile isLineBlank)) :
    ∃ before word word' after, words front = before ++ [word] ∧ words back = word' :: after ∧
      words (closeGap front back) = before ++ (word ++ word') :: after := by
  rw [closeGap_eq, ← words_gapFront front (back.dropWhile isLineBlank),
    ← words_dropWhile_isLineBlank back]
  exact words_append_of_not_apart (mt (apart_gapFront_iff _ _).mp h)

/-- Characters other than spaces and tabs stay, and stay in order. -/
theorem filter_closeGap {p : Char → Bool} (h : ∀ c, isLineBlank c = true → p c = false)
    (front back : Text) : (closeGap front back).filter p = front.filter p ++ back.filter p := by
  have hcut : ∀ cut : Text, (∀ c ∈ cut, isLineBlank c = true) → cut.filter p = [] := by
    intro cut hcut
    exact List.filter_eq_nil_iff.mpr fun c hc => ne_true_of_eq_false (h c (hcut c hc))
  have hfront : (gapFront front (back.dropWhile isLineBlank)).filter p = front.filter p := by
    obtain ⟨cut, heq, hblank⟩ := exists_gapFront_append front (back.dropWhile isLineBlank)
    conv_rhs => rw [heq, List.filter_append, hcut cut hblank, List.append_nil]
  have hback : (back.dropWhile isLineBlank).filter p = back.filter p := by
    conv_rhs => rw [← List.takeWhile_append_dropWhile (p := isLineBlank) (l := back),
      List.filter_append, hcut _ fun c => List.mem_takeWhile_imp, List.nil_append]
  rw [closeGap_eq, List.filter_append, hfront, hback]

/-! ## The text without the field -/

/-- What a text has become when a field was taken away between `front` and `back`. -/
structure FieldGone (front back result : Text) : Prop where
  /-- The words are those in front and those behind exactly if the two sides do not meet inside
  a word, the spaces and tabs behind the field being gone. -/
  words_iff : words result = words front ++ words back ↔ Apart front (back.dropWhile isLineBlank)
  /-- Otherwise the last word in front and the first one behind become one word. -/
  joined : ¬ Apart front (back.dropWhile isLineBlank) → ∃ before word word' after,
    words front = before ++ [word] ∧ words back = word' :: after ∧
      words result = before ++ (word ++ word') :: after
  /-- The line breaks are those in front and those behind. -/
  breaks : lineBreaks result = lineBreaks front ++ lineBreaks back
  /-- Nothing is lost but spaces and tabs. -/
  others : result.filter (!isLineBlank ·) =
    front.filter (!isLineBlank ·) ++ back.filter (!isLineBlank ·)

theorem fieldGone_closeGap (front back : Text) : FieldGone front back (closeGap front back) where
  words_iff := words_closeGap_iff front back
  joined := words_closeGap_of_not_apart
  breaks := by
    refine filter_closeGap (fun c hc => ?_) front back
    have hblank : c = ' ' ∨ c = '\t' := by simpa [isLineBlank] using hc
    rcases hblank with rfl | rfl <;> rfl
  others := filter_closeGap (fun c hc => by rw [hc]; rfl) front back

theorem setField_none_eq (h : fieldsUnder s key = [f]) :
    setField s key none = closeGap (s.take f.start) (s.drop f.stop) := by
  unfold fieldsUnder at h
  unfold setField
  rw [h]
  rfl

/-- **The words and line breaks of a text from which the one field under a key was taken away.** -/
theorem setField_none_words (h : fieldsUnder s key = [f]) :
    FieldGone (s.take f.start) (s.drop f.stop) (setField s key none) := by
  rw [setField_none_eq h]
  exact fieldGone_closeGap _ _

end

/-- A field at the end of a line, between spaces and tabs, with another field behind it. -/
def tabbedFieldText : Text := "one \t(k:: v) \t\r\n [j:: w]two"

/-- The field is taken away with all the blanks around it, and the line break stays. -/
theorem setField_none_words_tabbed :
    fieldsUnder tabbedFieldText "k" = [⟨⟨"k", "v", '('⟩, 5, 12⟩] ∧
      setField tabbedFieldText "k" none = "one\r\n [j:: w]two".toList ∧
      FieldGone (tabbedFieldText.take 5) (tabbedFieldText.drop 12)
        (setField tabbedFieldText "k" none) := by
  have hfields : fieldsUnder tabbedFieldText "k" = [⟨⟨"k", "v", '('⟩, 5, 12⟩] := rfl
  exact ⟨hfields, by decide, setField_none_words hfields⟩

/-- A field that stands directly behind a word, with a space and another word behind it. -/
def attachedFieldText : Text := "a[k:: v] b"

/-- **Two words are joined** although a space stands behind the field. -/
theorem setField_none_joins_words :
    fieldsUnder attachedFieldText "k" = [⟨⟨"k", "v", '['⟩, 1, 8⟩] ∧
      Apart (attachedFieldText.take 1) (attachedFieldText.drop 8) ∧
      setField attachedFieldText "k" none = "ab".toList ∧
      words (setField attachedFieldText "k" none) ≠
        words (attachedFieldText.take 1) ++ words (attachedFieldText.drop 8) :=
  ⟨rfl, by decide, by decide, by decide⟩

end NoteVault
