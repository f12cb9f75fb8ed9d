import NoteVault.Proofs.Note.Outcome
import NoteVault.Proofs.Note.Splice
import NoteVault.Proofs.Text.LineEnds

/-!
# Two edits of one task

Between two edits of a task nobody reads the note again: the task that the second edit
starts from is the one that the first edit was made of, with its new status, its new text and
as many lines as that text has. So what was written has to be found again from this
knowledge alone. It is: the line of the marker is a list item with the first line of the text
as its body, its indentation is the one of before, and the block ends where its last line
was put.

The two edits may need a different number of lines, and the second one cuts the note up
anew. It comes to the same text as if the first edit had not been made, provided that the
note is joined with the same line end both times. A note with carriage returns keeps one
only if there is a line outside the block, for the block is joined without any if it is the
whole note and gets a text of one line.

## Main results

* `rewriteTask_afterEdit` — the last edit is the one that counts.
-/

namespace NoteVault

open Text

/-- The task as it is known after an edit with a new status and a new text. -/
def TaskNode.afterEdit (n : TaskNode) (status text : Text) : TaskNode :=
  { n with status := some status, text, lineCount := (splitOn '\n' text).length }

/-! ## The line of the marker -/

theorem leadingBlanks_taskLine {indent symbol : Text}
    (hindent : ∀ c ∈ indent, isBlank c = true) (hsymbol : IsMarker symbol)
    (status text : Text) : leadingBlanks (taskLine indent symbol status text) = indent := by
  have hfront := markerFront_append hindent hsymbol (' ' :: '[' :: status ++ ']' :: ' ' :: text)
  have hline : taskLine indent symbol status text =
      indent ++ symbol ++ (' ' :: '[' :: status ++ ']' :: ' ' :: text) := by
    simp [taskLine]
  rw [leadingBlanks_eq_takeWhile, hline, hfront]
  exact List.takeWhile_eq_self_iff.mpr hindent

/-- The line written for a task with a text holds the task with that text, if the first line of
the text is not blank. -/
theorem skipReason?_taskLine {n : TaskNode} {indent symbol : Text} {c : Char}
    (hindent : ∀ d ∈ indent, isBlank d = true) (hsymbol : IsMarker symbol) (hc : c ≠ '\n')
    (hfirst : strip (firstLine n.text) ≠ []) :
    skipReason? n (taskLine indent symbol [c] (firstLine n.text)) = none := by
  have hitem := ListItem.ofLine?_taskLine hindent hsymbol hc (firstLine_not_mem n.text)
  refine skipReason?_eq_none.mpr ⟨_, hitem, ?_, ?_⟩
  · intro hnil
    rw [← strip_stripStart] at hfirst
    exact hfirst (congrArg strip hnil)
  · exact (strip_stripStart _).symm

/-! ## The block -/

theorem taskBlock_ne_nil (indent symbol status text : Text) :
    taskBlock indent symbol status text ≠ [] := by
  obtain ⟨first, rest, hparts⟩ :=
    List.exists_cons_of_ne_nil (show splitOn '\n' text ≠ [] from splitWhere_ne_nil _ text)
  rw [taskBlock_eq hparts]
  exact List.cons_ne_nil _ _

theorem length_taskBlock (indent symbol status text : Text) :
    (taskBlock indent symbol status text).length = (splitOn '\n' text).length := by
  obtain ⟨first, rest, hparts⟩ :=
    List.exists_cons_of_ne_nil (show splitOn '\n' text ≠ [] from splitWhere_ne_nil _ text)
  simp [taskBlock_eq hparts, hparts]

/-- The block of a task begins with the line of the marker. -/
theorem head?_taskBlock (indent symbol status text : Text) :
    (taskBlock indent symbol status text).head? =
      some (taskLine indent symbol status (firstLine text)) := by
  obtain ⟨first, rest, hparts⟩ :=
    List.exists_cons_of_ne_nil (show splitOn '\n' text ≠ [] from splitWhere_ne_nil _ text)
  have hfirst : firstLine text = first := takeWhile_eq_of_splitOn hparts
  rw [taskBlock_eq hparts, hfirst]
  rfl

/-- No line of a block has a carriage return if none of its parts has one. -/
theorem not_mem_taskBlock {indent symbol status text : Text} (hindent : '\r' ∉ indent)
    (hsymbol : '\r' ∉ symbol) (hstatus : '\r' ∉ status) (htext : '\r' ∉ text) :
    ∀ line ∈ taskBlock indent symbol status text, '\r' ∉ line := by
  obtain ⟨first, rest, hparts⟩ :=
    List.exists_cons_of_ne_nil (show splitOn '\n' text ≠ [] from splitWhere_ne_nil _ text)
  have hpart : ∀ part ∈ first :: rest, '\r' ∉ part := by
    intro part hmem hcr
    rw [← hparts] at hmem
    exact htext (mem_of_mem_splitOn hmem hcr).1
  rw [taskBlock_eq hparts]
  intro line hline
  rcases List.mem_cons.mp hline with rfl | hline
  · have hfirst := hpart first List.mem_cons_self
    simp [taskLine, hindent, hsymbol, hstatus, hfirst]
  · obtain ⟨part, hmem, rfl⟩ := List.mem_map.mp hline
    have hrest := hpart part (List.mem_cons_of_mem _ hmem)
    simp [hindent, hrest]

/-! ## Replacing twice -/

/-- A block that replaced another is replaced as that one would have been. -/
theorem replace_replace {α : Type} {lines block new : List α} {i k : Nat}
    (hi : i ≤ lines.length) :
    (lines.take i ++ block ++ lines.drop k).take i ++ new ++
        (lines.take i ++ block ++ lines.drop k).drop (i + block.length) =
      lines.take i ++ new ++ lines.drop k := by
  have hlength : (lines.take i).length = i := by simp [hi]
  have htake : (lines.take i ++ block ++ lines.drop k).take i = lines.take i := by
    rw [List.append_assoc, List.take_left' hlength]
  have hdrop : (lines.take i ++ block ++ lines.drop k).drop (i + block.length) =
      lines.drop k :=
    List.drop_left' (by rw [List.length_append, hlength])
  rw [htake, hdrop]

/-! ## The note in between -/

/-- The lines of a note with a new text of a task in the place of its block, which begins at
`i` with `line`. -/
def linesWith (n : TaskNode) (note : Text) (i : Nat) (line status text : Text) : List Text :=
  (splitLines note).take i ++ taskBlock (leadingBlanks line) n.symbol status text ++
    (splitLines note).drop (i + n.lineCount.toNat)

section Between

variable {n : TaskNode} {note line first : Text} {c : Char} {i : Nat}

/-- The plan of an edit with a new text. -/
theorem planRewrite_text {e : TaskEdit} {text : Text} (htext : e.text = some text)
    (hne : text ≠ []) (hline : n.line = i) (hget : (splitLines note)[i]? = some line)
    (hcount : 1 ≤ n.lineCount) (hskip : skipReason? n line = none) :
    planRewrite n e note =
      .ok (.replace (joinLines (lineEndOf note) (linesWith n note i line e.checkbox text))) := by
  obtain ⟨hi, rfl⟩ := List.getElem?_eq_some_iff.mp hget
  refine (planRewrite_eq_replace hline).mpr ⟨hi, hskip, ?_⟩
  rw [editLines_block _ htext hne hline hi hcount]
  rfl

/-- The block of a new text begins with the line of the marker. -/
theorem linesWith_getElem? (hget : (splitLines note)[i]? = some line) (status text : Text) :
    (linesWith n note i line status text)[i]? =
      some (taskLine (leadingBlanks line) n.symbol status (firstLine text)) := by
  obtain ⟨hi, _⟩ := List.getElem?_eq_some_iff.mp hget
  have hlength : ((splitLines note).take i).length = i := by simp; omega
  have hblock : 0 < (taskBlock (leadingBlanks line) n.symbol status text).length :=
    List.length_pos_iff.mpr (taskBlock_ne_nil _ _ _ _)
  unfold linesWith
  rw [List.append_assoc, List.getElem?_append_right (by omega), hlength, Nat.sub_self,
    List.getElem?_append_left hblock, ← List.head?_eq_getElem?, head?_taskBlock]

/-- The lines of the note in between come apart again. -/
theorem splitLines_linesWith (hget : (splitLines note)[i]? = some line)
    (hsymbol : IsMarker n.symbol) (hc : c ≠ '\n') (hne : first ≠ []) (hcr : '\r' ∉ first) :
    splitLines (joinLines (lineEndOf note) (linesWith n note i line [c] first)) =
      linesWith n note i line [c] first := by
  have hlf : '\n' ∉ line := not_mem_of_mem_splitLines (List.mem_of_getElem? hget)
  have hnew := TaskEdit.NewLines.of_taskBlock (n := n) (e := ⟨[c], some first⟩)
    (leadingBlanks line) rfl hne
  refine splitLines_joinLines_replace i _ (taskBlock_ne_nil _ _ _ _) ?_
  refine hnew.standsBefore note ?_ ?_ (hsymbol.not_mem (by decide)) ?_
  · exact fun hmem => hlf (mem_leadingBlanks hmem).2
  · exact fun hmem => hc (List.mem_singleton.mp hmem).symm
  · intro text htext
    rw [← Option.some.inj htext]
    exact hcr

/-- The note in between has the line end of the note. A note with carriage returns, in which a
line end is not inside the block, has two lines left to put one between. -/
theorem lineEndOf_linesWith (hget : (splitLines note)[i]? = some line)
    (hsymbol : IsMarker n.symbol) (hc : c ≠ '\r') (hcr : '\r' ∉ first)
    (hends : '\r' ∈ note → ∃ j < (lineEnds note).length, j < i ∨ i + n.lineCount ≤ j + 1) :
    lineEndOf (joinLines (lineEndOf note) (linesWith n note i line [c] first)) =
      lineEndOf note := by
  obtain ⟨hi, _⟩ := List.getElem?_eq_some_iff.mp hget
  refine lineEndOf_joinLines (fun hmem => ?_) (fun hnot => ?_)
  · obtain ⟨j, hj, hout⟩ := hends hmem
    have hlines := length_splitLines note
    have hblock : 0 < (taskBlock (leadingBlanks line) n.symbol [c] first).length :=
      List.length_pos_iff.mpr (taskBlock_ne_nil _ _ _ _)
    simp only [linesWith, List.length_append, List.length_take, List.length_drop]
    omega
  · have hold : ∀ l ∈ splitLines note, '\r' ∉ l := fun l hl hmem =>
      hnot (mem_of_mem_splitLines hl hmem).1
    have hnew : ∀ l ∈ taskBlock (leadingBlanks line) n.symbol [c] first, '\r' ∉ l := by
      refine not_mem_taskBlock ?_ (hsymbol.not_mem (by decide)) ?_ hcr
      · exact fun hmem => hold line (List.mem_of_getElem? hget) (mem_leadingBlanks hmem).2
      · exact fun hmem => hc (List.mem_singleton.mp hmem).symm
    intro l hl
    rcases List.mem_append.mp hl with hl | hl
    · rcases List.mem_append.mp hl with hl | hl
      · exact hold l (List.mem_of_mem_take hl)
      · exact hnew l hl
    · exact hold l (List.mem_of_mem_drop hl)

/-- A second new text takes the place of the first one. -/
theorem linesWith_linesWith {note₁ : Text} (hget : (splitLines note)[i]? = some line)
    (hsymbol : IsMarker n.symbol)
    (hsplit : splitLines note₁ = linesWith n note i line [c] first) (status second : Text) :
    linesWith (n.afterEdit [c] first) note₁ i
        (taskLine (leadingBlanks line) n.symbol [c] (firstLine first)) status second =
      linesWith n note i line status second := by
  obtain ⟨hi, _⟩ := List.getElem?_eq_some_iff.mp hget
  have hindent : ∀ b ∈ leadingBlanks line, isBlank b = true := fun b hb =>
    (mem_leadingBlanks hb).1
  have hcount : (n.afterEdit [c] first).lineCount.toNat =
      (taskBlock (leadingBlanks line) n.symbol [c] first).length := by
    rw [length_taskBlock]
    rfl
  unfold linesWith at hsplit ⊢
  rw [leadingBlanks_taskLine hindent hsymbol, hsplit, hcount]
  exact replace_replace (Nat.le_of_lt hi)

/-- **The plan of the second edit** is the plan it would have had without the first one. -/
theorem planRewrite_afterEdit {second : Text} {d : Char} (hline : n.line = i)
    (hget : (splitLines note)[i]? = some line) (hsymbol : IsMarker n.symbol)
    (hc : c ≠ '\n' ∧ c ≠ '\r') (hcr : '\r' ∉ first) (hfirst : strip (firstLine first) ≠ [])
    (hsecond : second ≠ [])
    (hends : '\r' ∈ note → ∃ j < (lineEnds note).length, j < i ∨ i + n.lineCount ≤ j + 1) :
    planRewrite (n.afterEdit [c] first) ⟨[d], some second⟩
        (joinLines (lineEndOf note) (linesWith n note i line [c] first)) =
      .ok (.replace (joinLines (lineEndOf note) (linesWith n note i line [d] second))) := by
  have hne : first ≠ [] := fun hnil => hfirst (by rw [hnil]; rfl)
  have hindent : ∀ b ∈ leadingBlanks line, isBlank b = true := fun b hb =>
    (mem_leadingBlanks hb).1
  have hsplit := splitLines_linesWith hget hsymbol hc.1 hne hcr
  have hmarker : (linesWith n note i line [c] first)[i]? =
      some (taskLine (leadingBlanks line) n.symbol [c] (firstLine first)) :=
    linesWith_getElem? hget [c] first
  have hcount : 1 ≤ (n.afterEdit [c] first).lineCount := by
    have hpos : 0 < (splitOn '\n' first).length :=
      List.length_pos_iff.mpr (splitWhere_ne_nil _ first)
    unfold TaskNode.afterEdit
    dsimp only
    omega
  have hplan := planRewrite_text (n := n.afterEdit [c] first) (e := ⟨[d], some second⟩) rfl
    hsecond hline (by rw [hsplit]; exact hmarker) hcount
    (skipReason?_taskLine hindent hsymbol hc.1 hfirst)
  have htwice := linesWith_linesWith hget hsymbol hsplit [d] second
  rw [hplan, lineEndOf_linesWith hget hsymbol hc.2 hcr hends]
  exact congrArg (fun lines => Except.ok (RewritePlan.replace (joinLines (lineEndOf note) lines)))
    htwice

end Between

/-! ## Two edits -/

/-- **The last edit is the one that counts.** Suppose an edit of a task with a new text is
written, and the task is edited again as it is known then, with another status or another text.
Then the second edit is written too, and it writes what it would have written without the
first one. If the note has a carriage return, a line end of it must not be inside the block of
the task; which kinds of line ends it has does not matter. -/
theorem rewriteTask_afterEdit {σ : Type} [DocumentStore σ] {store after written : σ}
    {n : TaskNode} {note first second : Text} {c d : Char} {i : Nat}
    (hread : DocumentStore.read store n.path = (.ok note, after))
    (hwritten : rewriteTask store n ⟨[c], some first⟩ = (.ok .written, written))
    (hline : n.line = i) (hcount : 1 ≤ n.lineCount) (hsymbol : IsMarker n.symbol)
    (hc : c ≠ '\n' ∧ c ≠ '\r') (hcr : '\r' ∉ first) (hfirst : strip (firstLine first) ≠ [])
    (hsecond : second ≠ [])
    (hends : '\r' ∈ note → ∃ j < (lineEnds note).length, j < i ∨ i + n.lineCount ≤ j + 1)
    (hagain : (d, second) ≠ (c, first)) (hnew : ¬ (n.status = some [d] ∧ n.text = second)) :
    ∃ note₁ note₂, planRewrite n ⟨[c], some first⟩ note = .ok (.replace note₁) ∧
      DocumentStore.write after n.path note₁ = (.ok (), written) ∧
      rewriteTask store n ⟨[d], some second⟩ = writeBack after n.path note₂ ∧
      ∀ store' after' : σ, DocumentStore.read store' n.path = (.ok note₁, after') →
        rewriteTask store' (n.afterEdit [c] first) ⟨[d], some second⟩ =
          writeBack after' n.path note₂ := by
  have hne : first ≠ [] := fun hnil => hfirst (by rw [hnil]; rfl)
  obtain ⟨note₁, hplan, hwrite⟩ := rewriteTask_eq_written hread hwritten
  obtain ⟨hi, hskip, _⟩ := (planRewrite_eq_replace hline).mp hplan
  have hget : (splitLines note)[i]? = some (splitLines note)[i] := List.getElem?_eq_getElem hi
  have hfirstPlan := planRewrite_text (e := ⟨[c], some first⟩) rfl hne hline hget hcount hskip
  have hsecondPlan :=
    planRewrite_text (e := ⟨[d], some second⟩) rfl hsecond hline hget hcount hskip
  obtain rfl : joinLines (lineEndOf note) (linesWith n note i (splitLines note)[i] [c] first) =
      note₁ := by
    rw [hplan] at hfirstPlan
    cases hfirstPlan
    rfl
  refine ⟨_, _, hplan, hwrite, rewriteTask_of_replace ?_ hread hsecondPlan, ?_⟩
  · rintro ⟨hstatus, htext | htext⟩
    · cases htext
    · exact hnew ⟨hstatus.symm, (Option.some.inj htext).symm⟩
  · intro store' after' hread'
    refine rewriteTask_of_replace ?_ hread'
      (planRewrite_afterEdit hline hget hsymbol hc hcr hfirst hsecond hends)
    rintro ⟨hstatus, htext | htext⟩
    · cases htext
    · cases hstatus
      cases htext
      exact hagain rfl

theorem rewriteTask_afterEdit_nested :
    ∃ note after written, DocumentStore.read nestedStore nestedTask.path = (.ok note, after) ∧
      rewriteTask nestedStore nestedTask ⟨['/'], some "c\n\n[d]"⟩ = (.ok .written, written) ∧
      nestedTask.line = (1 : Nat) ∧ 1 ≤ nestedTask.lineCount ∧ IsMarker nestedTask.symbol ∧
      ('/' ≠ '\n' ∧ '/' ≠ '\r') ∧ '\r' ∉ "c\n\n[d]".toList ∧
      strip (firstLine "c\n\n[d]") ≠ [] ∧ "e".toList ≠ [] ∧
      ('\r' ∈ note → ∃ j < (lineEnds note).length, j < 1 ∨ 1 + nestedTask.lineCount ≤ j + 1) ∧
      ('x', "e".toList) ≠ ('/', "c\n\n[d]".toList) ∧
      ¬ (nestedTask.status = some ['x'] ∧ nestedTask.text = "e".toList) ∧
      ∃ note₁ note₂,
        planRewrite nestedTask ⟨['/'], some "c\n\n[d]"⟩ note = .ok (.replace note₁) ∧
        DocumentStore.write after nestedTask.path note₁ = (.ok (), written) ∧
        rewriteTask nestedStore nestedTask ⟨['x'], some "e"⟩ =
          writeBack after nestedTask.path note₂ ∧
        ∀ store' after' : MemoryStore,
          DocumentStore.read store' nestedTask.path = (.ok note₁, after') →
          rewriteTask store' (nestedTask.afterEdit ['/'] "c\n\n[d]") ⟨['x'], some "e"⟩ =
            writeBack after' nestedTask.path note₂ := by
  have hread : DocumentStore.read nestedStore nestedTask.path =
      (.ok "- [ ] a\r\n  + [x] b\r\n\tmore\r\nend", nestedStore.afterRead ['n']) := rfl
  have hwritten : rewriteTask nestedStore nestedTask ⟨['/'], some "c\n\n[d]"⟩ =
      (.ok .written, (rewriteTask nestedStore nestedTask ⟨['/'], some "c\n\n[d]"⟩).2) := rfl
  have hsymbol : IsMarker nestedTask.symbol := .bullet '+' (by decide)
  have hends : ∃ j < (lineEnds "- [ ] a\r\n  + [x] b\r\n\tmore\r\nend").length,
      j < 1 ∨ 1 + nestedTask.lineCount ≤ j + 1 := ⟨0, by decide, by decide⟩
  exact ⟨_, _, _, hread, hwritten, rfl, by decide, hsymbol, by decide, by decide, by decide,
    by decide, fun _ => hends, by decide, by decide,
    rewriteTask_afterEdit hread hwritten rfl (by decide) hsymbol (by decide) (by decide)
      (by decide) (by decide) (fun _ => hends) (by decide) (by decide)⟩

end NoteVault
