import NoteVault.Proofs.Note.Stamps

/-!
# Texts that are as completed as they look

The text of a completed task has one stamp and that of an open task has none. This is what the
edits of a task keep up: cutting off blanks leaves a stamp or no stamp where it was, completing an
open task puts one there, and reopening a completed one takes it away.

A completed text has something beside its stamp and blanks. Otherwise nothing would be left when
the stamp is gone, and an edit with an empty text keeps the text there is.

## Main results

* `Settled.fieldsUnder_ne_nil_iff` — a settled text has a stamp if it is completed.
* `Settled.of_togglable` — a text with a stamp exactly if it is completed is settled.
* `Settled.strip` — blanks around a settled text can go.
* `Settled.setCompletion` — completing or reopening a settled text.
-/

namespace NoteVault

open Text InlineField

variable {key s front mark back cut : Text} {f : InlineField}

/-! ## Blanks that go -/

/-- Less text behind lets no more fields begin. -/
theorem FieldsClose.of_prefix {behind : Text} (h : FieldsClose s back) (hfront : behind <+: back) :
    FieldsClose s behind := by
  obtain ⟨rest, rfl⟩ := hfront
  refine h.of_opens (fun t ht => ?_) fun hmem => List.mem_append_left _ hmem
  rw [← List.append_assoc]
  exact ht.append rest

theorem dropWhile_isPrefix (p : Char → Bool) (s cut : Text) :
    s.dropWhile p <+: (s ++ cut).dropWhile p := by
  rw [List.dropWhile_append]
  split
  · next h => rw [List.isEmpty_iff.mp h]; exact List.nil_prefix
  · exact List.prefix_append _ _

/-- Blanks behind a stamp can go. -/
theorem Apart.of_append_blank (h : Apart key front mark (back ++ cut) f)
    (hcut : ∀ c ∈ cut, isBlank c = true) : Apart key front mark back f := by
  have hinKey : ∀ c ∈ cut, inKey c = true := fun c hc => inKey_of_isBlank (hcut c hc)
  exact {
    closes := h.closes.of_prefix (by rw [← List.append_assoc]; exact List.prefix_append _ _)
    ne_nil := h.ne_nil
    recognised := (recognise_behind h.ne_nil h.recognised).1 back
    key_eq := h.key_eq
    front_free := h.front_free
    back_free := by
      rw [← fieldsUnder_append_inKey hinKey]
      exact h.back_free
    gap := h.gap.of_prefix (dropWhile_isPrefix isLineBlank back cut)
    behind := h.behind.of_append_inKey hinKey (by simp)
    front_lines := h.front_lines
    back_lines := h.back_lines.of_append_inKey hinKey }

/-! ## Settled texts -/

/-- A text with one stamp, and with something else than the stamp and blanks. -/
def Stamped (key s : Text) : Prop :=
  ∃ front mark back f, s = front ++ (mark ++ back) ∧ Apart key front mark back f ∧
    ∃ c ∈ front ++ back, isBlank c = false

/-- What a text carries: one stamp if the task is completed, and none if it is open. -/
def Settled (key : Text) (completed : Bool) (s : Text) : Prop :=
  match completed with
  | true => Stamped key s
  | false => NoStamp key s

/-- **A settled text has a stamp exactly if it is completed.** -/
theorem Settled.fieldsUnder_ne_nil_iff {completed : Bool} (h : Settled key completed s) :
    completed = true ↔ fieldsUnder s key ≠ [] := by
  cases completed with
  | false => simp [NoStamp.free h |>.fieldsUnder_eq]
  | true =>
      obtain ⟨front, mark, back, f, rfl, h, _⟩ := h
      simp [h.toOneField.fieldsUnder_eq]

/-- A text to which a stamp can be put, or from which the one it has can be taken and leaves
something. -/
structure Togglable (key s : Text) : Prop extends Stampable key s where
  /-- There is something beside a stamp. -/
  beside : ∀ f ∈ fieldsUnder s key, ∃ c ∈ s.take f.start ++ s.drop f.stop, isBlank c = false

/-- A text without brackets can be completed and reopened. -/
theorem togglable_of_inKey {s : Text} (h : ∀ c ∈ s, inKey c = true) : Togglable key s where
  once := by simp [fieldsUnder_of_inKey h]
  unstamped _ := ⟨fieldsClose_of_inKey h [], keyFree_of_inKey h⟩
  stamped := by simp [fieldsUnder_of_inKey h]
  beside := by simp [fieldsUnder_of_inKey h]

/-- **A text with a stamp exactly if it is completed is settled.** -/
theorem Settled.of_togglable {completed : Bool} (h : Togglable key s)
    (hstamp : completed = true ↔ fieldsUnder s key ≠ []) : Settled key completed s := by
  cases completed with
  | false =>
      refine h.unstamped ?_
      by_contra hne
      exact absurd (hstamp.mpr hne) (by decide)
  | true =>
      obtain ⟨f, hmem, mark, hmark, hapart⟩ := h.toStampable.exists_apart (hstamp.mp rfl)
      refine ⟨_, mark, _, f.value, ?_, hapart, h.beside f hmem⟩
      rw [← hmark, List.take_append_drop]

/-! ## Edits -/

/-- What is not to be cut off stays. -/
theorem mem_dropEndWhile {p : Char → Bool} {c : Char} (hc : c ∈ s) (hp : p c = false) :
    c ∈ dropEndWhile p s := by
  obtain ⟨cut, hcut, hall⟩ := exists_dropEndWhile_append p s
  rw [hcut] at hc
  refine (List.mem_append.mp hc).resolve_right fun hmem => ?_
  rw [hall c hmem] at hp
  cases hp

/-- A stamp is not cut off with the blanks behind it. -/
theorem Apart.stripEnd_eq (h : Apart key front mark back f) :
    stripEnd (front ++ (mark ++ back)) = front ++ (mark ++ stripEnd back) := by
  obtain ⟨cut, hcut, hblank⟩ := exists_dropEndWhile_append isBlank back
  obtain ⟨c, hlast, hc⟩ := (recognise_behind h.ne_nil h.recognised).2
  have hsplit : front ++ (mark ++ back) = front ++ (mark ++ stripEnd back) ++ cut := by
    conv_lhs => rw [hcut]
    simp [stripEnd]
  have hself : stripEnd (front ++ (mark ++ stripEnd back)) = front ++ (mark ++ stripEnd back) := by
    refine dropEndWhile_eq_self_iff.mpr fun d hd => ?_
    rw [List.getLast?_append, List.getLast?_append, hlast] at hd
    cases hback : (stripEnd back).getLast? with
    | none =>
        rw [hback] at hd
        cases hd
        exact hc
    | some e =>
        rw [hback] at hd
        cases hd
        exact dropEndWhile_eq_self_iff.mp (dropEndWhile_dropEndWhile isBlank back) d hback
  rw [hsplit]
  exact (dropEndWhile_append _ hblank).trans hself

/-- **Blanks around a settled text can go.** -/
theorem Settled.strip {completed : Bool} (h : Settled key completed s) (hs : stripStart s = s) :
    Settled key completed (Text.strip s) := by
  have hstrip : Text.strip s = stripEnd s := by
    unfold Text.strip
    rw [hs]
  rw [hstrip]
  cases completed with
  | false =>
      obtain ⟨cut, hcut, hblank⟩ := exists_dropEndWhile_append isBlank s
      have h : NoStamp key s := h
      rw [hcut] at h
      exact h.of_append_blank hblank
  | true =>
      obtain ⟨front, mark, back, f, rfl, h, c, hc, hnot⟩ := h
      obtain ⟨cut, hcut, hblank⟩ := exists_dropEndWhile_append isBlank back
      refine ⟨front, mark, stripEnd back, f, h.stripEnd_eq, ?_, c, ?_, hnot⟩
      · rw [hcut] at h
        exact h.of_append_blank hblank
      · rcases List.mem_append.mp hc with hc | hc
        · exact List.mem_append_left _ hc
        · exact List.mem_append_right _ (mem_dropEndWhile hc hnot)

/-- Blanks at the beginning of a text without stamp can go. -/
theorem NoStamp.stripStart (h : NoStamp key s) : NoStamp key (Text.stripStart s) where
  closes := h.closes.of_suffix (List.dropWhile_suffix _)
  free := by
    have hblanks : ∀ c ∈ s.takeWhile isBlank, inKey c = true := fun c hc =>
      inKey_of_isBlank (List.mem_takeWhile_imp hc)
    have hfree := h.free
    rw [← List.takeWhile_append_dropWhile (p := isBlank) (l := s)] at hfree
    exact hfree.of_inKey_append hblanks

/-- Completing a text of one line. -/
theorem setCompletion_some_line (hlf : '\n' ∉ s) (hfree : fieldsUnder s key = []) (d : Date) :
    setCompletion s key (some d) = stripEnd s ++ ' ' :: stamp key d := by
  have hline := setCompletion_some atLineStart_nil hlf key d
  rw [List.nil_append, setField_of_free hfree (completionText_ne_nil d)] at hline
  exact hline

theorem mem_of_mem_dropEndWhile {p : Char → Bool} {c : Char} (hc : c ∈ dropEndWhile p s) :
    c ∈ s := by
  obtain ⟨cut, hcut, _⟩ := exists_dropEndWhile_append p s
  rw [hcut]
  exact List.mem_append_left _ hc

/-- A gap is closed with characters of the texts around it. -/
theorem mem_of_mem_closeGap {c : Char} (hc : c ∈ closeGap front back) : c ∈ front ++ back := by
  unfold closeGap at hc
  rw [List.mem_append] at hc ⊢
  refine hc.imp (fun hc => ?_) fun hc => (List.dropWhile_suffix _).subset hc
  split at hc
  · exact mem_of_mem_dropEndWhile hc
  · exact hc

/-- Only blanks go when a gap is closed. -/
theorem mem_closeGap {c : Char} (hc : c ∈ front ++ back) (hnot : isBlank c = false) :
    c ∈ closeGap front back := by
  have hline : isLineBlank c = false := by
    by_contra hline
    rw [isBlank_of_isLineBlank (eq_true_of_ne_false hline)] at hnot
    cases hnot
  unfold closeGap
  rw [List.mem_append] at hc ⊢
  refine hc.imp (fun hc => ?_) fun hc => ?_
  · split
    · exact mem_dropEndWhile hc hline
    · exact hc
  · rw [← List.takeWhile_append_dropWhile (p := isLineBlank) (l := back)] at hc
    refine (List.mem_append.mp hc).resolve_left fun hmem => ?_
    rw [List.mem_takeWhile_imp hmem] at hline
    cases hline

/-- A text that begins with no blank has something else than blanks. -/
theorem exists_not_blank (hne : s ≠ []) (hs : stripStart s = s) : ∃ c ∈ s, isBlank c = false := by
  obtain ⟨c, rest, rfl⟩ := List.exists_cons_of_ne_nil hne
  exact ⟨c, List.mem_cons_self, head?_stripStart (by rw [hs]; rfl)⟩

/-- Such a text begins as before when its end is changed. -/
theorem stripStart_stripEnd_append (hne : s ≠ []) (hs : stripStart s = s) (behind : Text) :
    stripStart (stripEnd s ++ behind) = stripEnd s ++ behind := by
  have hstrip : stripEnd s = Text.strip s := by
    unfold Text.strip
    rw [hs]
  obtain ⟨c, rest, hc⟩ := List.exists_cons_of_ne_nil (strip_ne_nil hne hs)
  have hnot : isBlank c = false := head?_stripStart (by rw [stripStart_strip, hc]; rfl)
  rw [hstrip, hc]
  refine stripStart_eq_self_of_head? fun d hd => ?_
  cases hd
  exact hnot

theorem trimEndingLines_of_not_mem (h : '\n' ∉ s) : trimEndingLines s = s := by
  unfold trimEndingLines
  rw [splitLines_of_not_mem h]
  rfl

/-- **Completing or reopening a task** whose text is one line: the text gets a stamp if it has
none, and loses it if it has one. Something is left, and the text is still one line. -/
theorem Settled.setCompletion {call : Option Date} (h : Settled key (!call.isSome) s)
    (hkey : IsFieldKey key) (hlf : '\n' ∉ s) (hne : s ≠ []) (hs : stripStart s = s) :
    setCompletion s key call ≠ [] ∧ '\n' ∉ setCompletion s key call ∧
      ((setCompletion s key call).getLast? = some '\r' → '\r' ∈ s) ∧
      Settled key call.isSome (stripStart (setCompletion s key call)) := by
  cases call with
  | some d =>
      have hfree : NoStamp key s := h
      obtain ⟨c, hc, hnot⟩ := exists_not_blank hne hs
      have hmem : c ∈ stripEnd s := mem_dropEndWhile hc hnot
      obtain ⟨cut, hcut, hblank⟩ := exists_dropEndWhile_append isBlank s
      have hbody : NoStamp key (stripEnd s) := by
        rw [hcut] at hfree
        exact hfree.of_append_blank hblank
      rw [setCompletion_some_line hlf hfree.free.fieldsUnder_eq]
      refine ⟨by simp, ?_, fun hlast => ?_, ?_⟩
      · rw [List.mem_append, List.mem_cons]
        rintro (hmem | hmem | hmem)
        · exact hlf (mem_of_mem_dropEndWhile hmem)
        · cases hmem
        · exact (hkey.not_mem_stamp d).1 hmem
      · -- a stamp ends with its bracket
        unfold stamp bracketed at hlast
        rw [← List.cons_append, ← List.append_assoc, List.getLast?_concat] at hlast
        cases hlast
      · rw [stripStart_stripEnd_append hne hs]
        exact ⟨_, _, [], _, by simp, hbody.apart hkey d, c, by simp [hmem], hnot⟩
  | none =>
      obtain ⟨front, mark, back, f, rfl, hapart, c, hc, hnot⟩ := h
      have hgap : '\n' ∉ closeGap front back := fun hmem => hlf <| by
        rcases List.mem_append.mp (mem_of_mem_closeGap hmem) with hmem | hmem <;> simp [hmem]
      have hset : NoteVault.setCompletion (front ++ (mark ++ back)) key none =
          closeGap front back := by
        unfold NoteVault.setCompletion
        dsimp only
        rw [hapart.toOneField.setField_none, trimEndingLines_of_not_mem hgap]
      rw [hset]
      refine ⟨List.ne_nil_of_mem (mem_closeGap hc hnot), hgap, fun hlast => ?_,
        hapart.noStamp_closeGap.stripStart⟩
      have hends := mem_of_mem_closeGap (List.mem_of_getLast? hlast)
      rcases List.mem_append.mp hends with hmem | hmem <;> simp [hmem]

end NoteVault
