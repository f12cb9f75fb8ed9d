import Mathlib.Data.List.Infix
import NoteVault.Note.Completion
import NoteVault.Proofs.Line.FieldsUnder
import NoteVault.Proofs.Text.BareEnds

/-!
# Completing and reopening a task

Completing a task changes the last line of its text, reopening it the whole text. On a text
without carriage returns and without blanks at its end both change nothing but the stamp: the
first puts it behind the text or puts another date into it, the second takes it away. So over a
whole run of calls the text is always the one it was, with the stamp of the last call.

The brackets of the text decide whether the stamp can be found again. A square bracket that
begins a field and is not closed would take the stamp for the end of its own field.

## Main results

* `setCompletion_some` — completing changes the last line.
* `oneField_stamp` — a stamp behind a text is the one field under its key.
* `completionRun_eq` — a run of calls leaves the text with the stamp of the last one.
-/

namespace NoteVault

open Text InlineField

/-- The text of a task after one call after another, each with its date if it completes the
task. -/
def completionRun (key s : Text) (calls : List (Option Date)) : Text :=
  calls.foldl (fun s call => setCompletion s key call) s

theorem completionRun_concat (key s : Text) (calls : List (Option Date))
    (call : Option Date) :
    completionRun key s (calls ++ [call]) = setCompletion (completionRun key s calls) key call := by
  simp [completionRun]

/-! ## The stamp -/

/-- The field with the date of completion. -/
def stamp (key : Text) (d : Date) : Text := bracketed key (completionText d)

theorem isDigit_or_of_mem_completionText {d : Date} {c : Char} (h : c ∈ completionText d) :
    c.isDigit = true ∨ c = '-' := by
  have hnat : ∀ n, c ∈ ofNat n → c.isDigit = true := fun n hc =>
    Nat.isDigit_of_mem_toDigits (by omega) (by omega) hc
  have hpad : ∀ n, c ∈ padNat 2 n → c.isDigit = true := by
    intro n hc
    rcases List.mem_append.mp hc with hc | hc
    · rw [List.eq_of_mem_replicate hc]
      rfl
    · exact hnat n hc
  simp only [completionText, List.mem_append, List.mem_cons] at h
  rcases h with (h | h | h) | h | h
  · exact Or.inl (hnat _ h)
  · exact Or.inr h
  · exact Or.inl (hpad _ h)
  · exact Or.inr h
  · exact Or.inl (hpad _ h)

theorem not_mem_completionText {d : Date} {c : Char} (hdigit : c.isDigit = false) (hc : c ≠ '-') :
    c ∉ completionText d := by
  intro h
  rcases isDigit_or_of_mem_completionText h with h | h
  · rw [hdigit] at h
    cases h
  · exact hc h

theorem completionText_ne_nil (d : Date) : completionText d ≠ [] := by
  simp [completionText]

theorem strip_completionText (d : Date) : strip (completionText d) = completionText d := by
  have hblank : ∀ c ∈ completionText d, isBlank c = false := by
    intro c hc
    rcases isDigit_or_of_mem_completionText hc with hc | rfl
    · exact isBlank_of_isDigit (isDigit_of_ascii hc)
    · decide
  have hstart : stripStart (completionText d) = completionText d :=
    stripStart_eq_self_of_head? fun c hc => hblank c (List.mem_of_mem_head? hc)
  unfold strip
  rw [hstart]
  exact dropEndWhile_eq_self_iff.mpr fun c hc => hblank c (List.mem_of_getLast? hc)

variable {key : Text}

theorem stamp_ne_nil (key : Text) (d : Date) : stamp key d ≠ [] := List.cons_ne_nil _ _

/-- The characters of a stamp. -/
theorem mem_stamp {d : Date} {c : Char} (h : c ∈ stamp key d) :
    c ∈ key ∨ c.isDigit = true ∨ c ∈ ['[', ']', ':', ' ', '-'] := by
  simp only [stamp, bracketed, List.mem_append, List.mem_cons] at h
  rcases h with ((rfl | h) | rfl | rfl | rfl | h) | h
  · simp
  · exact Or.inl h
  · simp
  · simp
  · simp
  · rcases isDigit_or_of_mem_completionText h with h | rfl
    · exact Or.inr (Or.inl h)
    · simp
  · simp_all

theorem InlineField.IsFieldKey.not_mem_stamp (hkey : IsFieldKey key) (d : Date) :
    '\n' ∉ stamp key d ∧ ')' ∉ stamp key d := by
  constructor
  · intro h
    rcases mem_stamp h with h | h | h
    · exact hkey.lf h
    · exact absurd h (by decide)
    · exact absurd h (by decide)
  · intro h
    rcases mem_stamp h with h | h | h
    · exact absurd (hkey.inKey _ h) (by decide)
    · exact absurd h (by decide)
    · exact absurd h (by decide)

/-- **A stamp is read back.** -/
theorem recognise_stamp (hkey : IsFieldKey key) (d : Date) (back : Text) :
    recognise (stamp key d ++ back) = some (⟨key, completionText d, '['⟩, back) :=
  recognise_written hkey.ne_nil hkey.strip_eq hkey.inKey (strip_completionText d)
    (not_mem_completionText rfl (by decide)) back

/-- A stamp behind a text does not make it open a field. -/
theorem InlineField.Opens.of_append_stamp {s back : Text} {d : Date}
    (h : Opens (s ++ (stamp key d ++ back))) : Opens s := by
  refine h.of_append_bracket fun c hc => ?_
  cases hc
  exact ⟨rfl, by decide⟩

theorem FieldsClose.before_blank {s : Text} (h : FieldsClose s []) : FieldsClose s [' '] :=
  h.of_opens (fun _ ht => ht.of_append_blank.append []) (by decide)

theorem FieldsClose.before_stamp {s : Text} (h : FieldsClose s []) (hkey : IsFieldKey key)
    (d : Date) : FieldsClose s ([' '] ++ (stamp key d ++ [])) := by
  refine h.of_opens (fun t ht => ?_) fun hmem => ?_
  · rw [← List.append_assoc] at ht
    exact ht.of_append_stamp.of_append_blank.append []
  · exact absurd hmem (by simp [(hkey.not_mem_stamp d).2])

/-- **A stamp behind a text is the one field under its key.** -/
theorem oneField_stamp {s : Text} (hkey : IsFieldKey key) (hclose : FieldsClose s [])
    (hfree : fieldsUnder s key = []) (d : Date) :
    OneField key (s ++ [' ']) (stamp key d) [] ⟨key, completionText d, '['⟩ where
  closes := (hclose.before_stamp hkey d).append (fieldsClose_of_inKey inKey_of_mem_blank _)
  ne_nil := stamp_ne_nil key d
  recognised := recognise_stamp hkey d []
  key_eq := rfl
  front_free := by rw [fieldsUnder_append_inKey inKey_of_mem_blank, hfree]
  back_free := rfl

/-! ## One call -/

theorem changeLast_concat (f : Text → Text) (lines : List Text) (line : Text) :
    changeLast f (lines ++ [line]) = lines ++ [f line] := by
  induction lines with
  | nil => rfl
  | cons first lines ih =>
      have hne : lines ++ [line] ≠ [] := by simp
      obtain ⟨next, rest, hnext⟩ := List.exists_cons_of_ne_nil hne
      rw [List.cons_append, hnext, changeLast, ← hnext, ih, List.cons_append]
      exact List.cons_ne_nil _ _

/-- **Completing changes the last line.** -/
theorem setCompletion_some {front last : Text} (hfront : AtLineStart front)
    (hlast : '\n' ∉ last) (key : Text) (d : Date) :
    setCompletion (front ++ last) key (some d) =
      bareEnds front ++ setField last key (some (completionText d)) := by
  obtain ⟨lines, _, hlines⟩ := exists_lines_append hfront
  have hbare : bareEnds front = lines.flatMap (· ++ ['\n']) := by
    have hnil := hlines []
    rw [List.append_nil] at hnil
    rw [← joinLines_splitLines_eq, hnil, joinLines_append_right (splitLines_ne_nil [])]
    exact List.append_nil _
  unfold setCompletion
  dsimp only
  rw [hlines, splitLines_of_not_mem hlast, changeLast_concat,
    joinLines_append_right (List.cons_ne_nil _ _), hbare]
  rfl

/-- The last line of a text is what stands behind the last line feed. -/
theorem getLast?_splitLines {front last : Text} (hfront : AtLineStart front)
    (hlast : '\n' ∉ last) : (splitLines (front ++ last)).getLast? = some last := by
  obtain ⟨lines, _, hlines⟩ := exists_lines_append hfront
  rw [hlines, splitLines_of_not_mem hlast, List.getLast?_concat]

/-! ## A run of calls -/

/-- A text to which stamps can be put and from which they can be taken, so that it stays as it
is. -/
structure Unstamped (key t : Text) : Prop where
  /-- It has no carriage returns. -/
  cr : '\r' ∉ t
  /-- It has no blanks at its end. -/
  stripEnd_eq : stripEnd t = t
  /-- Behind every opening square bracket comes a closing one. -/
  closed : ∀ back, '[' :: back <:+ t → ']' ∈ back
  /-- It has no field under the key. -/
  free : fieldsUnder t key = []
  /-- Nor has its last line, read on its own. -/
  last_free : ∀ line, (splitLines t).getLast? = some line → fieldsUnder line key = []

section

variable {t : Text}

theorem Unstamped.fieldsClose (h : Unstamped key t) : FieldsClose t [] where
  square back hback _ := h.closed back hback
  round _ _ _ := Or.inr List.not_mem_nil

theorem Unstamped.setCompletion_none (h : Unstamped key t) : setCompletion t key none = t := by
  unfold setCompletion
  dsimp only
  rw [setField_none_of_free h.free, trimEndingLines_eq_self h.cr h.stripEnd_eq]

/-- The last line of such a text. -/
theorem Unstamped.exists_last (h : Unstamped key t) :
    ∃ front last, t = front ++ last ∧ AtLineStart front ∧ '\n' ∉ last ∧ bareEnds front = front ∧
      stripEnd last = last ∧ FieldsClose last [] ∧ fieldsUnder last key = [] := by
  obtain ⟨front, last, rfl, hfront, hlast⟩ := exists_lastLine t
  have hcr : '\r' ∉ front := fun hmem => h.cr (List.mem_append_left _ hmem)
  have hstrip : stripEnd last = last := by
    refine dropEndWhile_eq_self_iff.mpr fun c hc => ?_
    refine dropEndWhile_eq_self_iff.mp h.stripEnd_eq c ?_
    rw [List.getLast?_append, hc]
    rfl
  exact ⟨front, last, rfl, hfront, hlast, bareEnds_of_not_mem_cr hcr, hstrip,
    h.fieldsClose.of_suffix (List.suffix_append _ _),
    h.last_free last (getLast?_splitLines hfront hlast)⟩

theorem Unstamped.setCompletion_some (h : Unstamped key t) (d : Date) :
    setCompletion t key (some d) = t ++ ' ' :: stamp key d := by
  obtain ⟨front, last, rfl, hfront, hlast, hbare, hstrip, _, hfree⟩ := h.exists_last
  rw [NoteVault.setCompletion_some hfront hlast, setField_of_free hfree (completionText_ne_nil d),
    hbare, hstrip, List.append_assoc]
  rfl

theorem Unstamped.setCompletion_stamp_some (h : Unstamped key t) (hkey : IsFieldKey key)
    (d d' : Date) :
    setCompletion (t ++ ' ' :: stamp key d) key (some d') = t ++ ' ' :: stamp key d' := by
  obtain ⟨front, last, rfl, hfront, hlast, hbare, _, hclose, hfree⟩ := h.exists_last
  have hstamped := oneField_stamp hkey hclose hfree d
  have hline : '\n' ∉ last ++ [' '] ++ (stamp key d ++ []) := by
    simp [hlast, (hkey.not_mem_stamp d).1]
  have htext : front ++ last ++ ' ' :: stamp key d =
      front ++ (last ++ [' '] ++ (stamp key d ++ [])) := by simp
  rw [htext, NoteVault.setCompletion_some hfront hline,
    hstamped.setField_some (completionText_ne_nil d'), hbare]
  simp [stamp]

theorem Unstamped.setCompletion_stamp_none (h : Unstamped key t) (hkey : IsFieldKey key)
    (d : Date) : setCompletion (t ++ ' ' :: stamp key d) key none = t := by
  have hstamped := oneField_stamp hkey h.fieldsClose h.free d
  have htext : t ++ ' ' :: stamp key d = t ++ [' '] ++ (stamp key d ++ []) := by simp
  have hgap : closeGap (t ++ [' ']) [] = t := by
    have hlast : dropEndWhile isLineBlank t = t := by
      refine dropEndWhile_eq_self_iff.mpr fun c hc => ?_
      have hblank := dropEndWhile_eq_self_iff.mp h.stripEnd_eq c hc
      by_contra hline
      rw [isBlank_of_isLineBlank (eq_true_of_ne_false hline)] at hblank
      cases hblank
    have hblank : ∀ c ∈ [' '], isLineBlank c = true := by
      intro c hc
      rw [List.mem_singleton.mp hc]
      rfl
    calc closeGap (t ++ [' ']) []
        = dropEndWhile isLineBlank (t ++ [' ']) ++ [] := rfl
      _ = t := by rw [dropEndWhile_append t hblank, hlast, List.append_nil]
  unfold setCompletion
  dsimp only
  rw [htext, hstamped.setField_none, hgap, trimEndingLines_eq_self h.cr h.stripEnd_eq]

/-- **A run of calls leaves a text with the stamp of the last one**: none if it reopens the task,
and its date if it completes it. -/
theorem completionRun_eq (hkey : IsFieldKey key) (ht : Unstamped key t)
    (calls : List (Option Date)) :
    completionRun key t calls =
      match calls.getLast? with
      | some (some d) => t ++ ' ' :: bracketed key (completionText d)
      | _ => t := by
  induction calls using List.reverseRecOn with
  | nil => rfl
  | append_singleton calls call ih =>
      rw [completionRun_concat, List.getLast?_concat, ih]
      -- the text has the stamp of the last call before, or it has none
      split
      · cases call with
        | none => exact ht.setCompletion_stamp_none hkey _
        | some d => exact ht.setCompletion_stamp_some hkey _ d
      · cases call with
        | none => exact ht.setCompletion_none
        | some d => exact ht.setCompletion_some d

/-- A text of two lines with fields and brackets of its own, completed twice, reopened and
completed again. -/
theorem completionRun_eq_twoLines :
    IsFieldKey "done" ∧ Unstamped "done" "- (a) [x:: [1]\n[b] (y:: 2" ∧
      completionRun "done" "- (a) [x:: [1]\n[b] (y:: 2"
          [some ⟨2024, 5, 6, by decide⟩, some ⟨2024, 5, 7, by decide⟩, none,
            some ⟨2024, 12, 31, by decide⟩] =
        "- (a) [x:: [1]\n[b] (y:: 2 [done:: 2024-12-31]".toList := by
  have hkey : IsFieldKey "done" := ⟨by decide, by decide, List.all_eq_true.mp rfl, by decide⟩
  have hclosed : ∀ u ∈ ("- (a) [x:: [1]\n[b] (y:: 2" : Text).tails,
      u.head? = some '[' → ']' ∈ u.tail := by decide
  have htext : Unstamped "done" "- (a) [x:: [1]\n[b] (y:: 2" := by
    refine ⟨by decide, by decide, fun back hback => ?_, rfl, fun line hline => ?_⟩
    · exact hclosed _ ((List.mem_tails _ _).mpr hback) rfl
    · cases hline
      rfl
  exact ⟨hkey, htext, completionRun_eq hkey htext _⟩

end

end NoteVault
