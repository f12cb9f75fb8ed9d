import NoteVault.Proofs.Note.Outcome

/-!
# The lines that a new text replaces

A new text takes the place of as many lines as the text of the task is known to have. Whether
they still are the lines of the task is checked for the first of them only: the rest is counted
and not looked at. So what a rewrite removes is sure to belong to the task only if the task has
a single line. For every task with more lines there is a note that holds its first line, has a
foreign line behind it, and loses that line.

A task whose first line is blank is held by no note, since the body of a list item begins with
no blank. Nothing is ever written for it, so nothing is lost.

## Main results

* `exists_drifted_note` — the first line is all that is needed.
* `removes_own_lines_iff` — for which tasks no foreign line is ever removed.
* `rewriteTask_removes_foreign_line` — a line that was inserted below a task is lost.
-/

namespace NoteVault

open Text

/-! ## The block of a task -/

/-- The lines of a note that a new text of a task replaces are the lines of the task, as many
of them as the note has. -/
structure TaskNode.OwnsBlock (n : TaskNode) (note : Text) : Prop where
  /-- The line of the marker holds the first line of the text. -/
  first : n.HeldBy note
  /-- Every further line is the line of the text with the same number, apart from blanks. -/
  further : ∀ (i j : Nat) (line : Text), n.line = i → 1 ≤ j → j < n.lineCount →
    (splitLines note)[i + j]? = some line →
    ∃ own, (splitOn '\n' n.text)[j]? = some own ∧ strip line = strip own

theorem TaskNode.HeldBy.ownsBlock {n : TaskNode} {note : Text} (h : n.HeldBy note)
    (hcount : n.lineCount = 1) : n.OwnsBlock note where
  first := h
  further i j line hline hone hlt := by omega

/-! ## A note that has drifted -/

/-- A note with the first line of a task on the line `i` and another line below it. -/
def driftedNote (i : Nat) (first other : Text) : Text :=
  joinLines ['\n'] (List.replicate i [] ++ [taskLine [] ['-'] [' '] first, other])

theorem splitLines_driftedNote (i : Nat) {first other : Text}
    (hfirst : '\n' ∉ first) (hfirstcr : first.getLast? ≠ some '\r')
    (hother : '\n' ∉ other) (hothercr : other.getLast? ≠ some '\r') :
    splitLines (driftedNote i first other) =
      List.replicate i [] ++ [taskLine [] ['-'] [' '] first, other] := by
  unfold driftedNote
  refine splitLines_joinLines (by simp) fun line hline => ?_
  rcases List.mem_append.mp hline with hline | hline
  · rw [List.eq_of_mem_replicate hline]
    exact ⟨by simp, Or.inr ⟨rfl, by simp⟩⟩
  · have hline : line = taskLine [] ['-'] [' '] first ∨ line = other := by simpa using hline
    rcases hline with rfl | rfl
    · -- a text without carriage returns has a bare line feed as its line end
      have hstands : StandsBefore (lineEndOf []) (taskLine [] ['-'] [' '] first) :=
        standsBefore_taskLine (by simp) (by decide) (by decide) hfirst
          fun hlast => absurd hlast hfirstcr
      exact hstands
    · exact ⟨hother, Or.inr ⟨rfl, hothercr⟩⟩

/-- **The first line is all that is needed** for a note to hold a task, whatever stands on the
line below it. -/
theorem exists_drifted_note {n : TaskNode} {i : Nat} {other : Text} (hline : n.line = i)
    (hfirst : strip (firstLine n.text) ≠ []) (hother : '\n' ∉ other)
    (hothercr : other.getLast? ≠ some '\r') :
    ∃ note, n.HeldBy note ∧ (splitLines note)[i + 1]? = some other := by
  have hlf : '\n' ∉ strip (firstLine n.text) := fun hmem =>
    firstLine_not_mem _ (mem_of_mem_strip hmem)
  have hsplit := splitLines_driftedNote i hlf (getLast?_strip_ne (by decide)) hother hothercr
  have hitem := @ListItem.ofLine?_checkbox [] ['-'] _ ' ' (by simp) (.bullet '-' (by decide))
    (by decide) hlf (stripStart_strip (firstLine n.text))
  have hmarker : (splitLines (driftedNote i (strip (firstLine n.text)) other))[i]? =
      some (taskLine [] ['-'] [' '] (strip (firstLine n.text))) := by
    rw [hsplit]
    simp
  obtain ⟨hi, hget⟩ := List.getElem?_eq_some_iff.mp hmarker
  refine ⟨driftedNote i (strip (firstLine n.text)) other,
    ⟨i, hi, hline, ⟨['-'], some [' '], strip (firstLine n.text)⟩, ?_, hfirst, strip_strip _⟩, ?_⟩
  · rw [hget]
    exact hitem
  · rw [hsplit]
    simp

/-! ## What is removed -/

/-- A line that is not a given line of a text. -/
theorem exists_foreign_line (part : Option Text) :
    ∃ other : Text, '\n' ∉ other ∧ other.getLast? ≠ some '\r' ∧
      ∀ own, part = some own → strip other ≠ strip own := by
  by_cases h : ∃ own, part = some own ∧ strip own = ['x']
  · obtain ⟨own, rfl, hown⟩ := h
    refine ⟨['y'], by decide, by decide, fun own' hown' => ?_⟩
    rw [← Option.some.inj hown', hown]
    decide
  · refine ⟨['x'], by decide, by decide, fun own hown hstrip => h ⟨own, hown, ?_⟩⟩
    exact hstrip.symm

/-- A new text that is longer than that of the task asks for something, whatever the status. -/
theorem not_asksNothing_longer (n : TaskNode) (status : Text) :
    ¬ TaskEdit.AsksNothing ⟨status, some ('x' :: n.text)⟩ n := by
  rintro ⟨_, htext | htext⟩
  · cases htext
  · exact List.cons_ne_self _ _ (Option.some.inj htext)

/-- **A task of several lines loses a foreign line**: there is a note that holds its first line
and has another line below it, and in which the task is written nonetheless. -/
theorem exists_written_not_ownsBlock {n : TaskNode} (status : Text) (hline : 0 ≤ n.line)
    (hcount : 2 ≤ n.lineCount) (hfirst : strip (firstLine n.text) ≠ []) :
    ∃ (s : MemoryStore) (note text : Text), s.document? n.path = some note ∧ text ≠ [] ∧
      (rewriteTask s n ⟨status, some text⟩).1 = .ok .written ∧ ¬ n.OwnsBlock note := by
  obtain ⟨i, hi⟩ := Int.eq_ofNat_of_zero_le hline
  obtain ⟨other, hlf, hcr, hforeign⟩ := exists_foreign_line (splitOn '\n' n.text)[1]?
  obtain ⟨note, hheld, hbelow⟩ := exists_drifted_note hi hfirst hlf hcr
  have hdoc : MemoryStore.document? { documents := [(n.path, note)] } n.path = some note :=
    List.lookup_cons_self
  obtain ⟨_, _, hrun⟩ :=
    rewriteTask_memory_held hline (not_asksNothing_longer n status) hdoc hheld
  refine ⟨_, note, 'x' :: n.text, hdoc, List.cons_ne_nil _ _, by rw [hrun], fun howns => ?_⟩
  obtain ⟨own, hown, hstrip⟩ :=
    howns.further i 1 other hi (by omega) (by omega) hbelow
  exact hforeign own hown hstrip

/-- **For which tasks no foreign line is ever removed**: those with a single line, and those
for which nothing is ever written. Which status is asked for does not matter. -/
theorem removes_own_lines_iff {n : TaskNode} (status : Text) (hline : 0 ≤ n.line)
    (hcount : 1 ≤ n.lineCount) :
    (∀ (s : MemoryStore) (note text : Text), s.document? n.path = some note → text ≠ [] →
        (rewriteTask s n ⟨status, some text⟩).1 = .ok .written → n.OwnsBlock note) ↔
      n.lineCount = 1 ∨ strip (firstLine n.text) = [] := by
  constructor
  · intro hsafe
    by_contra hnot
    rw [not_or] at hnot
    obtain ⟨s, note, text, hdoc, htext, hwritten, howns⟩ :=
      exists_written_not_ownsBlock status hline (by omega) hnot.2
    exact howns (hsafe s note text hdoc htext hwritten)
  · rintro (hone | hblank) s note text hdoc _ hwritten
    · exact (heldBy_of_written hline hdoc hwritten).ownsBlock hone
    · exact absurd hblank (heldBy_of_written hline hdoc hwritten).first_ne_nil

/-- A task of two lines. -/
def plannedTask : TaskNode :=
  { path := ['n'], line := 0, lineCount := 2, text := "plan\ndetails", symbol := ['-'],
    status := some [' '], children := [], sectionLink := none, parent := none,
    blockId := none, tags := [] }

theorem removes_own_lines_iff_planned :
    0 ≤ plannedTask.line ∧ 1 ≤ plannedTask.lineCount ∧
      ((∀ (s : MemoryStore) (note text : Text), s.document? plannedTask.path = some note →
          text ≠ [] → (rewriteTask s plannedTask ⟨['X'], some text⟩).1 = .ok .written →
          plannedTask.OwnsBlock note) ↔
        plannedTask.lineCount = 1 ∨ strip (firstLine plannedTask.text) = []) :=
  ⟨by decide, by decide, removes_own_lines_iff ['X'] (by decide) (by decide)⟩

/-- The note of the task after a line was inserted in it. -/
def insertedNote : Text := "- [ ] plan\n- [ ] inserted\n\tdetails\n"

/-- The note in memory. -/
def insertedStore : MemoryStore := { documents := [(['n'], insertedNote)] }

/-- **A line that was inserted below the first line of a task is lost.** -/
theorem rewriteTask_removes_foreign_line :
    ∃ text after, rewriteTask insertedStore plannedTask ⟨['X'], some "plan\nnew details"⟩ =
        (.ok .written, after) ∧
      after.document? ['n'] = some text ∧
      "- [ ] inserted".toList ∈ splitLines insertedNote ∧
      "- [ ] inserted".toList ∉ splitLines text ∧
      ¬ plannedTask.OwnsBlock insertedNote := by
  refine ⟨"- [X] plan\n\tnew details\n\tdetails\n", _, rfl, rfl, by decide, by decide, ?_⟩
  intro howns
  obtain ⟨own, hown, hstrip⟩ := howns.further 0 1 "- [ ] inserted" rfl (by decide) (by decide) rfl
  cases hown
  exact absurd hstrip (by decide)

end NoteVault
