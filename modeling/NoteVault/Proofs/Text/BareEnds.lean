import NoteVault.Proofs.Text.Lines
import NoteVault.Proofs.Text.Strip

/-!
# Bare line ends

A text that is split into lines and joined with line feeds has lost the carriage returns of
its line ends and nothing else. Every part of the new text therefore comes from a part of the
old one, and a part that begins a line from a part that begins a line.

Cutting off blank lines at the end does the same, and then takes away a run of blanks.

## Main results

* `joinLines_splitLines_eq` — what splitting and joining does to a text.
* `exists_of_bareEnds_eq_append` — where the parts of a text with bare ends come from.
* `exists_lines_append` — the lines before a place where a line begins.
* `exists_trimEndingLines_append` — what trimming takes away.
-/

namespace NoteVault.Text

/-- The text without the carriage returns of its line ends. -/
def bareEnds : Text → Text
  | [] => []
  | '\r' :: '\n' :: rest => '\n' :: bareEnds rest
  | c :: rest => c :: bareEnds rest

theorem bareEnds_cons {c : Char} {rest : Text} (h : c = '\r' → rest.head? ≠ some '\n') :
    bareEnds (c :: rest) = c :: bareEnds rest := by
  rw [bareEnds.eq_def]
  split
  · next h' => cases h'
  · next h' => cases h'; exact absurd rfl (h rfl)
  · next h' => cases h'; rfl

theorem bareEnds_cons_of_ne {c : Char} (hc : c ≠ '\r') (rest : Text) :
    bareEnds (c :: rest) = c :: bareEnds rest :=
  bareEnds_cons fun h => absurd h hc

/-- **What splitting and joining does to a text.** -/
theorem joinLines_splitLines_eq (s : Text) : joinLines ['\n'] (splitLines s) = bareEnds s := by
  fun_induction splitLines s with
  | case1 => rfl
  | case2 rest ih =>
      rw [joinLines_nil_cons (splitLines_ne_nil rest), ih]
      rfl
  | case3 rest ih =>
      rw [joinLines_nil_cons (splitLines_ne_nil rest), ih]
      rfl
  | case4 c rest hnil => exact absurd ‹_› (splitLines_ne_nil rest)
  | case5 c rest hlf hcrlf line lines hrest ih =>
      have hhead : c = '\r' → rest.head? ≠ some '\n' := fun hc hhead => by
        obtain ⟨tail, rfl⟩ := List.head?_eq_some_iff.mp hhead
        exact hcrlf tail hc rfl
      rw [joinLines_cons, List.cons_append, ← joinLines_cons, ← hrest, ih, bareEnds_cons hhead]

theorem mem_of_mem_bareEnds {s : Text} {c : Char} (h : c ∈ bareEnds s) : c ∈ s := by
  fun_induction bareEnds s with
  | case1 => exact h
  | case2 rest ih =>
      refine List.mem_cons_of_mem _ ?_
      rcases List.mem_cons.mp h with rfl | h
      · exact List.mem_cons_self
      · exact List.mem_cons_of_mem _ (ih h)
  | case3 d rest _ ih =>
      rcases List.mem_cons.mp h with rfl | h
      · exact List.mem_cons_self
      · exact List.mem_cons_of_mem _ (ih h)

theorem mem_bareEnds {s : Text} {c : Char} (hc : c ≠ '\r') (h : c ∈ s) : c ∈ bareEnds s := by
  fun_induction bareEnds s with
  | case1 => exact h
  | case2 rest ih =>
      rcases List.mem_cons.mp h with rfl | h
      · exact absurd rfl hc
      · exact List.mem_cons.mpr ((List.mem_cons.mp h).imp_right ih)
  | case3 d rest _ ih => exact List.mem_cons.mpr ((List.mem_cons.mp h).imp_right ih)

theorem bareEnds_append {front back : Text}
    (h : front.getLast? = some '\r' → back.head? ≠ some '\n') :
    bareEnds (front ++ back) = bareEnds front ++ bareEnds back := by
  fun_induction bareEnds front with
  | case1 => rfl
  | case2 rest ih =>
      rw [List.cons_append, List.cons_append, bareEnds, ih]
      · rfl
      · intro hlast
        exact h (by rw [List.getLast?_cons, List.getLast?_cons, hlast]; rfl)
  | case3 c rest hcrlf ih =>
      rw [List.cons_append, bareEnds_cons, ih, List.cons_append]
      · intro hlast
        exact h (by rw [List.getLast?_cons, hlast]; rfl)
      · intro hc hhead
        cases rest with
        | nil => exact h (by rw [hc]; rfl) hhead
        | cons d rest =>
            cases hhead
            exact hcrlf rest hc rfl

theorem bareEnds_of_not_mem_lf {s : Text} (h : '\n' ∉ s) : bareEnds s = s := by
  rw [← joinLines_splitLines_eq, splitLines_of_not_mem h]
  rfl

/-- The last line of a text has no ends. -/
theorem bareEnds_append_of_not_mem {front last : Text} (h : '\n' ∉ last) :
    bareEnds (front ++ last) = bareEnds front ++ last := by
  rw [bareEnds_append, bareEnds_of_not_mem_lf h]
  exact fun _ hhead => h (List.mem_of_mem_head? hhead)

theorem bareEnds_of_not_mem_cr {s : Text} (h : '\r' ∉ s) : bareEnds s = s := by
  rw [← joinLines_splitLines_eq, joinLines_splitLines_of_not_mem h]

theorem getLast?_bareEnds (s : Text) : (bareEnds s).getLast? = s.getLast? := by
  fun_induction bareEnds s with
  | case1 => rfl
  | case2 rest ih =>
      rw [List.getLast?_cons, List.getLast?_cons, List.getLast?_cons, ih]
      rfl
  | case3 c rest _ ih => rw [List.getLast?_cons, List.getLast?_cons, ih]

theorem bareEnds_eq_nil_iff {s : Text} : bareEnds s = [] ↔ s = [] := by
  rw [← List.getLast?_eq_none_iff, getLast?_bareEnds, List.getLast?_eq_none_iff]

/-- Only a line feed can come to the beginning of a text. -/
theorem head?_of_bareEnds_append {s back : Text} {c : Char} (hc : c ≠ '\n')
    (h : (bareEnds s ++ back).head? = some c) : (s ++ back).head? = some c := by
  rw [bareEnds.eq_def] at h
  split at h
  · exact h
  · exact absurd (Option.some.inj h).symm hc
  · exact h

/-- **Where the parts of a text with bare ends come from.** -/
theorem exists_of_bareEnds_eq_append {s front back : Text} (h : bareEnds s = front ++ back) :
    ∃ front' back', s = front' ++ back' ∧ bareEnds front' = front ∧ bareEnds back' = back := by
  cases front with
  | nil => exact ⟨[], s, rfl, rfl, h⟩
  | cons d front =>
      fun_induction bareEnds s generalizing d front with
      | case1 => cases h
      | case2 rest ih =>
          obtain ⟨rfl, hrest⟩ := List.cons.inj h
          cases front with
          | nil => exact ⟨['\r', '\n'], rest, rfl, rfl, hrest⟩
          | cons e front =>
              obtain ⟨front', back', rfl, hfront, hback⟩ := ih e front hrest
              exact ⟨'\r' :: '\n' :: front', back', rfl, by rw [bareEnds, hfront], hback⟩
      | case3 c rest hcrlf ih =>
          obtain ⟨rfl, hrest⟩ := List.cons.inj h
          cases front with
          | nil => exact ⟨[c], rest, rfl, bareEnds_cons fun _ => by simp, hrest⟩
          | cons e front =>
              obtain ⟨front', back', rfl, hfront, hback⟩ := ih e front hrest
              refine ⟨c :: front', back', rfl, ?_, hback⟩
              rw [bareEnds_cons, hfront]
              intro hc hhead
              obtain ⟨tail, rfl⟩ := List.head?_eq_some_iff.mp hhead
              exact hcrlf (tail ++ back') hc rfl

/-- A character other than a line feed comes from itself. -/
theorem exists_of_bareEnds_eq_append_cons {s front back : Text} {c : Char} (hc : c ≠ '\n')
    (h : bareEnds s = front ++ c :: back) :
    ∃ front' back', s = front' ++ c :: back' ∧ bareEnds front' = front ∧
      bareEnds back' = back := by
  obtain ⟨front', rest, rfl, hfront, hrest⟩ := exists_of_bareEnds_eq_append h
  cases rest with
  | nil => cases hrest
  | cons d rest =>
      rw [bareEnds.eq_def] at hrest
      split at hrest
      · cases hrest
      · exact absurd (List.cons.inj hrest).1.symm hc
      · next heq =>
          cases heq
          obtain ⟨rfl, hback⟩ := List.cons.inj hrest
          exact ⟨front', rest, rfl, hfront, hback⟩

/-! ## The beginning of a line -/

/-- Whether a line begins behind a text. -/
def AtLineStart (front : Text) : Prop := ∀ c, front.getLast? = some c → c = '\n'

theorem atLineStart_nil : AtLineStart [] := fun c h => absurd h (Option.some_ne_none c).symm

theorem AtLineStart.of_cons {c : Char} {rest : Text} (h : AtLineStart (c :: rest)) :
    AtLineStart rest := by
  intro d hd
  refine h d ?_
  rw [List.getLast?_cons, hd]
  rfl

/-- Only the end of a text says whether a line begins behind it. -/
theorem atLineStart_append_iff {front back : Text} (hback : back ≠ []) :
    AtLineStart (front ++ back) ↔ AtLineStart back := by
  unfold AtLineStart
  rw [List.getLast?_append, List.getLast?_eq_some_getLast hback]
  rfl

theorem AtLineStart.of_bareEnds {front : Text} (h : AtLineStart (bareEnds front)) :
    AtLineStart front := by
  unfold AtLineStart at h ⊢
  rw [getLast?_bareEnds] at h
  exact h

/-- A text is what stands before its last line, and the last line. -/
theorem exists_lastLine (s : Text) :
    ∃ front last, s = front ++ last ∧ AtLineStart front ∧ '\n' ∉ last := by
  induction s with
  | nil => exact ⟨[], [], rfl, atLineStart_nil, List.not_mem_nil⟩
  | cons c rest ih =>
      obtain ⟨front, last, rfl, hfront, hlast⟩ := ih
      by_cases hc : front = [] ∧ c ≠ '\n'
      · obtain ⟨rfl, hc⟩ := hc
        refine ⟨[], c :: last, rfl, atLineStart_nil, ?_⟩
        rw [List.mem_cons, not_or]
        exact ⟨Ne.symm hc, hlast⟩
      · refine ⟨c :: front, last, rfl, fun d hd => ?_, hlast⟩
        rw [List.getLast?_cons] at hd
        cases hcase : front.getLast? with
        | some e =>
            rw [hcase] at hd
            rw [← Option.some.inj hd]
            exact hfront e hcase
        | none =>
            rw [hcase] at hd
            rw [← Option.some.inj hd]
            by_contra hne
            exact hc ⟨List.getLast?_eq_none_iff.mp hcase, hne⟩

/-- **The lines before a place where a line begins.** -/
theorem exists_lines_append {front : Text} (h : AtLineStart front) :
    ∃ lines, (front ≠ [] → lines ≠ []) ∧
      ∀ back, splitLines (front ++ back) = lines ++ splitLines back := by
  fun_induction splitLines front with
  | case1 => exact ⟨[], fun hne => absurd rfl hne, fun back => rfl⟩
  | case2 rest ih =>
      obtain ⟨lines, _, hlines⟩ := ih h.of_cons
      exact ⟨[] :: lines, fun _ => List.cons_ne_nil _ _, fun back => by
        rw [List.cons_append, splitLines, hlines, List.cons_append]⟩
  | case3 rest ih =>
      obtain ⟨lines, _, hlines⟩ := ih h.of_cons.of_cons
      exact ⟨[] :: lines, fun _ => List.cons_ne_nil _ _, fun back => by
        rw [List.cons_append, List.cons_append, splitLines, hlines, List.cons_append]⟩
  | case4 c rest hnil => exact absurd ‹_› (splitLines_ne_nil rest)
  | case5 c rest hlf hcrlf line lines hrest ih =>
      have hne : rest ≠ [] := by
        rintro rfl
        exact hlf (h c rfl)
      obtain ⟨front, hfront, hlines⟩ := ih h.of_cons
      obtain ⟨first, others, rfl⟩ := List.exists_cons_of_ne_nil (hfront hne)
      refine ⟨(c :: first) :: others, fun _ => List.cons_ne_nil _ _, fun back => ?_⟩
      rw [List.cons_append, splitLines_cons hlf, hlines]
      · rfl
      · intro hc hhead
        obtain ⟨d, tail, rfl⟩ := List.exists_cons_of_ne_nil hne
        cases hhead
        exact hcrlf tail hc rfl

/-! ## Blank lines at the end -/

theorem exists_keepFrom_append (lines : List Text) :
    ∃ cut, lines = dropBlankEnd.keepFrom lines ++ cut ∧ ∀ line ∈ cut, allBlank line = true := by
  induction lines with
  | nil => exact ⟨[], rfl, fun _ h => absurd h List.not_mem_nil⟩
  | cons line lines ih =>
      obtain ⟨cut, hlines, hcut⟩ := ih
      rw [dropBlankEnd.keepFrom]
      cases hkeep : dropBlankEnd.keepFrom lines with
      | cons next kept =>
          refine ⟨cut, ?_, hcut⟩
          rw [List.cons_append, ← hkeep, ← hlines]
      | nil =>
          rw [hkeep, List.nil_append] at hlines
          dsimp only
          split
          · next hblank =>
              refine ⟨line :: lines, rfl, fun l hl => ?_⟩
              rcases List.mem_cons.mp hl with rfl | hl
              · exact hblank
              · exact hcut l (hlines ▸ hl)
          · exact ⟨cut, by rw [hlines]; rfl, hcut⟩

/-- **What trimming takes away**: the carriage returns of the line ends, and blanks. -/
theorem exists_trimEndingLines_append (s : Text) :
    ∃ cut, bareEnds s = trimEndingLines s ++ cut ∧ ∀ c ∈ cut, isBlank c = true := by
  obtain ⟨line, lines, hlines⟩ := List.exists_cons_of_ne_nil (splitLines_ne_nil s)
  obtain ⟨cut, hkeep, hcut⟩ := exists_keepFrom_append lines
  refine ⟨cut.flatMap (['\n'] ++ ·), ?_, fun c hc => ?_⟩
  · unfold trimEndingLines
    rw [← joinLines_splitLines_eq, hlines, dropBlankEnd,
      ← joinLines_append_left (List.cons_ne_nil _ _), List.cons_append, ← hkeep]
  · obtain ⟨blank, hblank, hc⟩ := List.mem_flatMap.mp hc
    rcases List.mem_append.mp hc with hc | hc
    · rw [List.mem_singleton.mp hc]
      decide
    · exact List.all_eq_true.mp (hcut blank hblank) c hc

/-- A text without carriage returns and without blanks at its end stays as it is. -/
theorem trimEndingLines_eq_self {s : Text} (hcr : '\r' ∉ s) (hend : stripEnd s = s) :
    trimEndingLines s = s := by
  obtain ⟨cut, hs, hcut⟩ := exists_trimEndingLines_append s
  rw [bareEnds_of_not_mem_cr hcr] at hs
  have hstrip : stripEnd (trimEndingLines s) = s := by
    calc stripEnd (trimEndingLines s)
        = stripEnd (trimEndingLines s ++ cut) := (dropEndWhile_append _ hcut).symm
      _ = s := by rw [← hs, hend]
  obtain ⟨rest, hrest, _⟩ := exists_dropEndWhile_append isBlank (trimEndingLines s)
  -- the text is the front of its trimmed text, which is not longer
  have hrest : trimEndingLines s = s ++ rest := by
    unfold stripEnd at hstrip
    rwa [hstrip] at hrest
  have hlength := congrArg List.length hs
  rw [hrest, List.length_append, List.length_append] at hlength
  have hnil : rest = [] := List.eq_nil_of_length_eq_zero (by omega)
  rw [hrest, hnil, List.append_nil]

end NoteVault.Text
