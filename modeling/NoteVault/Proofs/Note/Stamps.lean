import NoteVault.Proofs.Line.FieldLines
import NoteVault.Proofs.Note.Completion

/-!
# One stamp at a time

Completing a task looks for a stamp on the last line only and puts one there if it finds none,
whatever stands on the lines before. Reopening it takes a stamp away wherever it stands, but
only if there is no second one. So two stamps stay, once they are there, and they come to be
when a task with a stamp on an earlier line is completed.

A stamp on the last line is found, and one on an earlier line that is reopened first is gone.
Then the text has one stamp after a completion and none after a reopening, provided that no
bracket begins a field which a stamp, or taking one away, would close.

## Main results

* `NoStamp.setCompletion_none`, `Apart.setCompletion_none` — reopening a task.
* `NoStamp.carries_some`, `Apart.carries_some` — completing it.
* `Carries.setCompletion` — what a call leaves of what the text carried.
* `completionRun_stamps` — the stamps of a text after a run of calls.
* `completionRun_accumulates` — two stamps that no call takes away again.
-/

namespace NoteVault

open Text InlineField

/-! ## Texts without stamp and with one -/

/-- A text without stamp to which one can be put. -/
structure NoStamp (key s : Text) : Prop where
  /-- Its brackets close the fields they begin. -/
  closes : FieldsClose s []
  /-- It has no stamp, from whatever line on it is read. -/
  free : KeyFree key s

/-- A text in three parts, of which the middle one is its stamp. The others are texts without
stamp, as they stand and when the stamp is gone. -/
structure Apart (key front mark back : Text) (f : InlineField) : Prop
    extends OneField key front mark back f where
  /-- The brackets in front of the stamp close the fields they begin when it is gone. -/
  gap : FieldsClose front (back.dropWhile isLineBlank)
  /-- The brackets behind it close the fields they begin. -/
  behind : FieldsClose back []
  /-- There is no other stamp in front, from whatever line on that is read. -/
  front_lines : KeyFree key front
  /-- Nor is there one behind. -/
  back_lines : KeyFree key back

section

variable {key s front mark back : Text} {f : InlineField}

/-- Blanks at the end of a text can go. -/
theorem NoStamp.of_append_blank {blanks : Text} (h : NoStamp key (s ++ blanks))
    (hblanks : ∀ c ∈ blanks, isBlank c = true) : NoStamp key s where
  closes := h.closes.of_append_inKey (fun c hc => inKey_of_isBlank (hblanks c hc)) (by simp)
  free := h.free.of_append_inKey fun c hc => inKey_of_isBlank (hblanks c hc)

theorem NoStamp.bareEnds (h : NoStamp key s) (hkey : IsFieldKey key) :
    NoStamp key (Text.bareEnds s) :=
  ⟨h.closes.bareEnds, h.free.bareEnds hkey.lf⟩

theorem NoStamp.trimEndingLines (h : NoStamp key s) (hkey : IsFieldKey key) :
    NoStamp key (Text.trimEndingLines s) := by
  obtain ⟨cut, hcut, hblank⟩ := exists_trimEndingLines_append s
  have hbare := h.bareEnds hkey
  rw [hcut] at hbare
  exact hbare.of_append_blank hblank

/-- Behind a text without stamp there is room for one. -/
theorem NoStamp.apart (h : NoStamp key s) (hkey : IsFieldKey key) (d : Date) :
    Apart key (s ++ [' ']) (stamp key d) [] ⟨key, completionText d, '['⟩ where
  toOneField := oneField_stamp hkey h.closes h.free.fieldsUnder_eq d
  gap := h.closes.before_blank.append (fieldsClose_of_inKey inKey_of_mem_blank [])
  behind := fieldsClose_of_inKey (by simp) []
  front_lines := h.free.append (keyFree_of_inKey inKey_of_mem_blank) h.closes.before_blank
  back_lines := keyFree_of_inKey (by simp)

/-- The stamp can be another one, and the line ends in front of it can be bare. -/
theorem Apart.bareEnds_stamp (h : Apart key front mark back f) (hkey : IsFieldKey key)
    (d : Date) :
    Apart key (Text.bareEnds front) (stamp key d) back ⟨key, completionText d, '['⟩ where
  ne_nil := stamp_ne_nil key d
  recognised := recognise_stamp hkey d back
  key_eq := rfl
  closes := by
    refine FieldsClose.bareEnds (h.closes.of_opens (fun t ht => ?_) fun hmem => ?_)
    · exact ht.of_append_stamp.append _
    · rcases List.mem_append.mp hmem with hmem | hmem
      · exact absurd hmem (hkey.not_mem_stamp d).2
      · exact List.mem_append_right _ hmem
  front_free := (h.front_lines.bareEnds hkey.lf).fieldsUnder_eq
  back_free := h.back_free
  gap := h.gap.bareEnds
  behind := h.behind
  front_lines := h.front_lines.bareEnds hkey.lf
  back_lines := h.back_lines

/-- The text without the stamp. -/
theorem Apart.noStamp_closeGap (h : Apart key front mark back f) :
    NoStamp key (closeGap front back) := by
  have hblanks : ∀ c ∈ back.takeWhile isLineBlank, inKey c = true := fun c hc =>
    inKey_of_isBlank (isBlank_of_isLineBlank (List.mem_takeWhile_imp hc))
  have hback : NoStamp key (back.dropWhile isLineBlank) := by
    refine ⟨h.behind.of_suffix (List.dropWhile_suffix _), ?_⟩
    have hfree := h.back_lines
    rw [← List.takeWhile_append_dropWhile (p := isLineBlank) (l := back)] at hfree
    exact hfree.of_inKey_append hblanks
  have hjoin : ∀ part, FieldsClose part (back.dropWhile isLineBlank) → KeyFree key part →
      NoStamp key (part ++ back.dropWhile isLineBlank) := by
    intro part hcloses hfree
    refine ⟨FieldsClose.append ?_ hback.closes, hfree.append hback.free hcloses⟩
    rwa [List.append_nil]
  unfold closeGap
  dsimp only
  split
  · next hends =>
      obtain ⟨cut, hcut, hblank⟩ := exists_dropEndWhile_append isLineBlank front
      have hinKey : ∀ c ∈ cut, inKey c = true := fun c hc =>
        inKey_of_isBlank (isBlank_of_isLineBlank (hblank c hc))
      have hhead : (back.dropWhile isLineBlank).head? ≠ some ':' := by
        intro hhead
        obtain ⟨rest, hrest⟩ := List.head?_eq_some_iff.mp hhead
        rw [hrest] at hends
        cases hends
      have hgap := h.gap
      have hfree := h.front_lines
      rw [hcut] at hgap hfree
      exact hjoin _ (hgap.of_append_inKey hinKey hhead) (hfree.of_append_inKey hinKey)
  · exact hjoin front h.gap h.front_lines

/-! ## One call -/

/-- **Reopening a task without stamp.** -/
theorem NoStamp.setCompletion_none (h : NoStamp key s) (hkey : IsFieldKey key) :
    NoStamp key (setCompletion s key none) := by
  unfold setCompletion
  dsimp only
  rw [setField_none_of_free h.free.fieldsUnder_eq]
  exact h.trimEndingLines hkey

/-- **Reopening a task with a stamp.** -/
theorem Apart.setCompletion_none (h : Apart key front mark back f) (hkey : IsFieldKey key) :
    NoStamp key (setCompletion (front ++ (mark ++ back)) key none) := by
  unfold setCompletion
  dsimp only
  rw [h.toOneField.setField_none]
  exact h.noStamp_closeGap.trimEndingLines hkey

/-- What a text carries after a call: the stamp with its date, on the last line, or none. -/
def Carries (key : Text) : Option Date → Text → Prop
  | none, s => NoStamp key s
  | some d, s => ∃ front back, s = front ++ (stamp key d ++ back) ∧ '\n' ∉ back ∧
      Apart key front (stamp key d) back ⟨key, completionText d, '['⟩

/-- **Completing a task without stamp.** -/
theorem NoStamp.carries_some (h : NoStamp key s) (hkey : IsFieldKey key) (d : Date) :
    Carries key (some d) (setCompletion s key (some d)) := by
  obtain ⟨front, last, rfl, hfront, hlast⟩ := exists_lastLine s
  obtain ⟨cut, hcut, hblank⟩ := exists_dropEndWhile_append isBlank last
  have hfree : fieldsUnder last key = [] := h.free front last rfl hfront
  have hbody : NoStamp key (Text.bareEnds front ++ stripEnd last) := by
    have hbare := h.bareEnds hkey
    rw [bareEnds_append_of_not_mem hlast, hcut, ← List.append_assoc] at hbare
    exact hbare.of_append_blank hblank
  refine ⟨_, [], ?_, List.not_mem_nil, hbody.apart hkey d⟩
  rw [setCompletion_some hfront hlast, setField_of_free hfree (completionText_ne_nil d)]
  simp [stamp]

/-- **Completing a task with a stamp on its last line.** -/
theorem Apart.carries_some (h : Apart key front mark back f) (hkey : IsFieldKey key)
    (hline : '\n' ∉ mark ++ back) (d : Date) :
    Carries key (some d) (setCompletion (front ++ (mark ++ back)) key (some d)) := by
  have hback : '\n' ∉ back := fun hmem => hline (List.mem_append_right _ hmem)
  refine ⟨_, back, ?_, hback, h.bareEnds_stamp hkey d⟩
  obtain ⟨before, last, rfl, hbefore, hlast⟩ := exists_lastLine front
  have hstamped : OneField key last mark back f := {
    h.toOneField with
    closes := h.closes.of_suffix (List.suffix_append _ _)
    front_free := h.front_lines before last rfl hbefore }
  have hwhole : '\n' ∉ last ++ (mark ++ back) := fun hmem =>
    (List.mem_append.mp hmem).elim hlast hline
  rw [List.append_assoc, setCompletion_some hbefore hwhole,
    hstamped.setField_some (completionText_ne_nil d), bareEnds_append_of_not_mem hlast]
  simp [stamp]

/-- **What a call leaves of what the text carried.** -/
theorem Carries.setCompletion {call : Option Date} (h : Carries key call s)
    (hkey : IsFieldKey key) (next : Option Date) :
    Carries key next (setCompletion s key next) := by
  cases call with
  | none =>
      cases next with
      | none => exact NoStamp.setCompletion_none h hkey
      | some d => exact NoStamp.carries_some h hkey d
  | some d =>
      obtain ⟨front, back, rfl, hback, h⟩ := h
      cases next with
      | none => exact h.setCompletion_none hkey
      | some d' =>
          refine h.carries_some hkey (fun hmem => ?_) d'
          exact (List.mem_append.mp hmem).elim (hkey.not_mem_stamp d).1 hback

theorem Carries.valuesUnder_eq {call : Option Date} (h : Carries key call s) :
    valuesUnder s key = (call.map completionText).toList := by
  unfold valuesUnder
  cases call with
  | none =>
      rw [h.free.fieldsUnder_eq]
      rfl
  | some d =>
      obtain ⟨front, back, rfl, _, h⟩ := h
      rw [h.toOneField.fieldsUnder_eq]
      rfl

/-! ## A run of calls -/

/-- A stamp in a text that has no other, with the brackets on either side of it closed there. -/
structure StandsApart (key s : Text) (f : Found InlineField) : Prop where
  /-- The brackets in front of it close the fields they begin. -/
  closes : FieldsClose (s.take f.start) (s.drop f.start)
  /-- So they do when it is cut out, with the blanks behind it. -/
  gap : FieldsClose (s.take f.start) ((s.drop f.stop).dropWhile isLineBlank)
  /-- The brackets behind it close the fields they begin. -/
  behind : FieldsClose (s.drop f.stop) []
  /-- There is no other stamp in front, from whatever line on that is read. -/
  front_lines : KeyFree key (s.take f.start)
  /-- Nor is there one behind. -/
  back_lines : KeyFree key (s.drop f.stop)

/-- A text with at most one stamp, to which one can be put or from which it can be taken. -/
structure Stampable (key s : Text) : Prop where
  /-- There is at most one stamp. -/
  once : (fieldsUnder s key).length ≤ 1
  /-- If there is none, the text is ready for one. -/
  unstamped : fieldsUnder s key = [] → NoStamp key s
  /-- If there is one, it stands apart. -/
  stamped : ∀ f ∈ fieldsUnder s key, StandsApart key s f

/-- The one stamp of a text stands apart from the rest. -/
theorem Stampable.exists_apart (h : Stampable key s) (hstamp : fieldsUnder s key ≠ []) :
    ∃ f ∈ fieldsUnder s key, ∃ mark, s.drop f.start = mark ++ s.drop f.stop ∧
      Apart key (s.take f.start) mark (s.drop f.stop) f.value := by
  have hlength : (fieldsUnder s key).length = 1 := by
    have hpos := List.length_pos_iff.mpr hstamp
    have honce := h.once
    omega
  obtain ⟨f, hf⟩ := List.length_eq_one_iff.mp hlength
  have hmem : f ∈ fieldsUnder s key := hf ▸ List.mem_singleton_self f
  have hstands := h.stamped f hmem
  obtain ⟨mark, hmark, hstamped⟩ := exists_oneField hf hstands.closes
  exact ⟨f, hmem, mark, hmark, {
    hstamped with
    gap := hstands.gap
    behind := hstands.behind
    front_lines := hstands.front_lines
    back_lines := hstands.back_lines }⟩

/-- **The first call.** -/
theorem Stampable.carries (h : Stampable key s) (hkey : IsFieldKey key) (call : Option Date)
    (hline : call = none ∨ ∀ f ∈ fieldsUnder s key, '\n' ∉ s.drop f.start) :
    Carries key call (setCompletion s key call) := by
  by_cases hfree : fieldsUnder s key = []
  · have hnone : Carries key none s := h.unstamped hfree
    exact hnone.setCompletion hkey call
  · obtain ⟨f, hmem, mark, hmark, hapart⟩ := h.exists_apart hfree
    have hs : s = s.take f.start ++ (mark ++ s.drop f.stop) := by
      rw [← hmark, List.take_append_drop]
    rw [hs]
    cases call with
    | none => exact hapart.setCompletion_none hkey
    | some d =>
        refine hapart.carries_some hkey ?_ d
        rw [← hmark]
        exact hline.resolve_left (by simp) f hmem

/-- **The stamps of a text after a run of calls**: the one with the date of the last call if it
completes the task, and none if it reopens it. -/
theorem completionRun_stamps (hkey : IsFieldKey key) (hs : Stampable key s)
    (calls : List (Option Date)) (call : Option Date)
    (hline : (calls ++ [call]).head? = some none ∨
      ∀ f ∈ fieldsUnder s key, '\n' ∉ s.drop f.start) :
    valuesUnder (completionRun key s (calls ++ [call])) key =
      (call.map completionText).toList := by
  suffices hcarries : Carries key call (completionRun key s (calls ++ [call])) from
    hcarries.valuesUnder_eq
  induction calls using List.reverseRecOn generalizing call with
  | nil =>
      refine hs.carries hkey call (hline.imp_left fun hhead => ?_)
      exact Option.some.inj hhead
  | append_singleton calls before ih =>
      rw [completionRun_concat]
      refine (ih before (hline.imp_left fun hhead => ?_)).setCompletion hkey call
      cases calls with
      | nil => exact hhead
      | cons first rest => exact hhead

/-- A text of two lines with a stamp in round brackets on the last one. -/
def roundStampText : Text := "see (a [x:: y])\n[b] (done:: 2020-01-01) c"

/-- The text completed, reopened and completed again. -/
theorem completionRun_stamps_round :
    IsFieldKey "done" ∧ Stampable "done" roundStampText ∧
      (∀ f ∈ fieldsUnder roundStampText "done", '\n' ∉ roundStampText.drop f.start) ∧
      valuesUnder (completionRun "done" roundStampText
        ([some ⟨2024, 5, 6, by decide⟩, none] ++ [some ⟨2024, 12, 31, by decide⟩])) "done" =
        ["2024-12-31"] := by
  have hkey : IsFieldKey "done" := ⟨by decide, by decide, List.all_eq_true.mp rfl, by decide⟩
  have hfields : fieldsUnder roundStampText "done" =
      [⟨⟨"done", "2020-01-01", '('⟩, 20, 39⟩] := rfl
  have hclosed : ∀ u ∈ (roundStampText.take 20).tails,
      (u.head? = some '[' → ']' ∈ u.tail) ∧ (u.head? = some '(' → ')' ∈ u.tail) := by decide
  have hfree : ∀ u ∈ (roundStampText.take 20).tails, (fieldsUnder u "done").isEmpty = true := by
    decide
  have hbehind : ∀ c ∈ roundStampText.drop 39, inKey c = true := List.all_eq_true.mp rfl
  have hcloses : ∀ back, FieldsClose (roundStampText.take 20) back :=
    fieldsClose_of_closed (fun t ht => (hclosed _ ((List.mem_tails _ _).mpr ht)).1 rfl)
      fun t ht => (hclosed _ ((List.mem_tails _ _).mpr ht)).2 rfl
  have hapart : ∀ f ∈ fieldsUnder roundStampText "done", StandsApart "done" roundStampText f := by
    intro f hf
    rw [hfields, List.mem_singleton] at hf
    subst hf
    refine ⟨hcloses _, hcloses _, fieldsClose_of_inKey hbehind _, fun front back heq _ => ?_,
      keyFree_of_inKey hbehind⟩
    have hsuffix : back <:+ roundStampText.take 20 := ⟨front, heq.symm⟩
    exact List.isEmpty_iff.mp (hfree back ((List.mem_tails _ _).mpr hsuffix))
  have hstampable : Stampable "done" roundStampText := by
    refine ⟨by rw [hfields]; decide, fun hnone => ?_, hapart⟩
    rw [hfields] at hnone
    cases hnone
  have hline : ∀ f ∈ fieldsUnder roundStampText "done", '\n' ∉ roundStampText.drop f.start := by
    intro f hf
    rw [hfields, List.mem_singleton] at hf
    subst hf
    decide
  exact ⟨hkey, hstampable, hline,
    completionRun_stamps hkey hstampable _ (some ⟨2024, 12, 31, by decide⟩) (Or.inr hline)⟩

/-- Two stamps that no call takes away again, when a task with a stamp on an earlier line is
completed; and stamps that are not found, or that come to be, when a bracket is closed by another
field or by what follows a stamp that is taken away. -/
theorem completionRun_accumulates :
    valuesUnder "a [completion:: 2020-01-01]\nb" "completion" = ["2020-01-01"] ∧
      valuesUnder (completionRun "completion" "a [completion:: 2020-01-01]\nb"
        [some ⟨2024, 5, 6, by decide⟩]) "completion" = ["2020-01-01", "2024-05-06"] ∧
      valuesUnder (completionRun "completion" "a [completion:: 2020-01-01]\nb"
        [some ⟨2024, 5, 6, by decide⟩, none]) "completion" = ["2020-01-01", "2024-05-06"] ∧
      valuesUnder (completionRun "completion" "[x:: y" [some ⟨2024, 5, 6, by decide⟩])
        "completion" = [] ∧
      valuesUnder "[completion[completion:: 1]:: 2]" "completion" = ["1"] ∧
      valuesUnder (completionRun "completion" "[completion[completion:: 1]:: 2]" [none])
        "completion" = ["2"] ∧
      valuesUnder (completionRun "completion" "[x::\n[completion:: 1]"
        [some ⟨2024, 5, 6, by decide⟩]) "completion" = [] := by
  decide

end

end NoteVault
