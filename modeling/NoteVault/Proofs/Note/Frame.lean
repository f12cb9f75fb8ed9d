import NoteVault.Proofs.Note.Outcome
import NoteVault.Proofs.Note.StatusEdit
import NoteVault.Proofs.Text.LineEnds

/-!
# What a change of status leaves as it is

A change of status is meant to touch one line of a note and nothing else, and of that line only
what stands behind the list marker. Both hold for most notes, and the exact conditions are
proved here.

The rest of the note stays as it is if all its line ends are the one with which the note is
joined again. In a note with bare line feeds and a carriage return anywhere, every bare line
feed gets a carriage return.

What stands in front of the marker stays as it is if it has no quote mark. The line grammar
allows blanks and quote marks there in any order, but only the blanks before the first quote
mark are written back, so a quoted task loses its quote.

## Main results

* `rewriteTask_keeps_rest_iff` — when the text around the line of a task is kept.
* `rewriteTask_changes_line_end` — a note with two kinds of line ends, in which it is not.
* `rewriteTask_keeps_front_iff` — when the front of the line is kept.
* `rewriteTask_drops_quote` — a quoted task that loses its quote.
-/

namespace NoteVault

open Text

/-! ## Around the line -/

theorem editLines_of_text_eq_none {n : TaskNode} {e : TaskEdit} (htext : e.text = none)
    (lines : List Text) (i : Nat) (line : Text) :
    editLines n e lines i line =
      lines.set i (taskLine (leadingBlanks line) n.symbol e.checkbox
        (strip (firstLine n.text))) := by
  unfold editLines
  rw [htext]

/-- **When the text around the line of a task is kept.** Without a new text, a rewrite that
writes puts one new line in the place of the line of the task. The text before that line and
from its end on, its own end included, is there as it was if and only if every line end of the
note is the one that the note is joined with. -/
theorem rewriteTask_keeps_rest_iff {σ : Type} [DocumentStore σ] {store after written : σ}
    {n : TaskNode} {e : TaskEdit} {note : Text} {i : Nat}
    (hread : DocumentStore.read store n.path = (.ok note, after))
    (hwritten : rewriteTask store n e = (.ok .written, written))
    (hline : n.line = i) (htext : e.text = none) :
    ∃ (hi : i < (splitLines note).length) (text new : Text),
      new = taskLine (leadingBlanks (splitLines note)[i]) n.symbol e.checkbox
        (strip (firstLine n.text)) ∧
      DocumentStore.write after n.path text = (.ok (), written) ∧
      text = joinLines (lineEndOf note) ((splitLines note).set i new) ∧
      note = beforeLine note i ++ (splitLines note)[i] ++ fromLineEnd note i ∧
      (text = beforeLine note i ++ new ++ fromLineEnd note i ↔
        ∀ lineEnd ∈ lineEnds note, lineEnd = lineEndOf note) := by
  obtain ⟨text, hplan, hwrite⟩ := rewriteTask_eq_written hread hwritten
  obtain ⟨hi, _, rfl⟩ := (planRewrite_eq_replace hline).mp hplan
  rw [editLines_of_text_eq_none htext] at hwrite
  exact ⟨hi, _, _, rfl, hwrite, rfl, (beforeLine_append_fromLineEnd hi).symm,
    joinLines_set_eq_iff hi _⟩

/-- The second task of a note. -/
def secondTask : TaskNode :=
  { path := ['n'], line := 1, lineCount := 1, text := "b", symbol := ['-'],
    status := some [' '], children := [], sectionLink := none, parent := none,
    blockId := none, tags := [] }

/-- A note with two kinds of line ends. -/
def mixedNote : Text := "- [ ] a\n- [ ] b\r\n"

/-- The note in memory. -/
def mixedStore : MemoryStore := { documents := [(['n'], mixedNote)] }

theorem rewriteTask_keeps_rest_iff_mixed :
    ∃ after written, DocumentStore.read mixedStore secondTask.path = (.ok mixedNote, after) ∧
      rewriteTask mixedStore secondTask ⟨['x'], none⟩ = (.ok .written, written) ∧
      secondTask.line = (1 : Nat) ∧
      ∃ (hi : 1 < (splitLines mixedNote).length) (text new : Text),
        new = taskLine (leadingBlanks (splitLines mixedNote)[1]) secondTask.symbol
          (TaskEdit.checkbox ⟨['x'], none⟩) (strip (firstLine secondTask.text)) ∧
        DocumentStore.write after secondTask.path text = (.ok (), written) ∧
        text = joinLines (lineEndOf mixedNote) ((splitLines mixedNote).set 1 new) ∧
        mixedNote = beforeLine mixedNote 1 ++ (splitLines mixedNote)[1] ++
          fromLineEnd mixedNote 1 ∧
        (text = beforeLine mixedNote 1 ++ new ++ fromLineEnd mixedNote 1 ↔
          ∀ lineEnd ∈ lineEnds mixedNote, lineEnd = lineEndOf mixedNote) := by
  have hread : DocumentStore.read mixedStore secondTask.path =
      (.ok mixedNote, mixedStore.afterRead ['n']) := rfl
  have hwritten : rewriteTask mixedStore secondTask ⟨['x'], none⟩ =
      (.ok .written, (rewriteTask mixedStore secondTask ⟨['x'], none⟩).2) := rfl
  exact ⟨_, _, hread, hwritten, rfl, rewriteTask_keeps_rest_iff hread hwritten rfl rfl⟩

/-- **A line end changes**: whatever line is put in the place of the second one, the text that
is written is not the note with that line. -/
theorem rewriteTask_changes_line_end :
    ∃ text after, rewriteTask mixedStore secondTask ⟨['x'], none⟩ = (.ok .written, after) ∧
      after.document? ['n'] = some text ∧
      mixedNote = "- [ ] a\n" ++ "- [ ] b".toList ++ "\r\n".toList ∧
      ∀ new, text ≠ "- [ ] a\n" ++ new ++ "\r\n".toList := by
  refine ⟨"- [ ] a\r\n- [x] b\r\n", _, rfl, rfl, by decide, fun new h => ?_⟩
  -- the first line ends with a carriage return in the text, and with a line feed in the note
  have hseventh := congrArg (fun s => s[7]?) h
  exact absurd hseventh (by simp)

/-! ## In front of the marker -/

/-- In front of the marker of the line written for a task stand the blanks at the beginning of
the old line. -/
theorem markerFront_statusLine {symbol : Text} (hsymbol : IsMarker symbol) (line body : Text)
    (c : Char) : markerFront (statusLine line symbol body c) = leadingBlanks line := by
  have hindent : ∀ d ∈ leadingBlanks line, isBlank d = true := fun d hd =>
    (mem_leadingBlanks hd).1
  have hfront := markerFront_append hindent hsymbol (' ' :: '[' :: c :: ']' :: ' ' :: strip body)
  unfold statusLine taskLine
  simpa using hfront

/-- **When the front of the line is kept.** For every store that holds the note, and every task
with a text that is found in it, giving the task another status writes a text with the task on
the same line. What stands in front of its marker there are the blanks at the beginning of the
old line, and this is what stood there before if and only if it has no quote mark. -/
theorem rewriteTask_keeps_front_iff {σ : Type} [DocumentStore σ] {store after : σ}
    {path note : Text} {n : TaskNode} {c : Char}
    (hread : DocumentStore.read store path = (.ok note, after))
    (hn : n ∈ collectTasks path note) (htext : n.text ≠ []) (hstatus : n.status ≠ some [c])
    (hc : c ≠ '\n') :
    ∃ (i : Nat) (old new note' rest rest' : Text),
      n.line = i ∧ (splitLines note)[i]? = some old ∧ (splitLines note')[i]? = some new ∧
      rewriteTask store n ⟨[c], none⟩ = writeBack after path note' ∧
      old = markerFront old ++ n.symbol ++ rest ∧ new = markerFront new ++ n.symbol ++ rest' ∧
      markerFront new = leadingBlanks old ∧
      (markerFront new = markerFront old ↔ '>' ∉ markerFront old) := by
  obtain ⟨i, hi, symbol, status, body, hitem, rfl⟩ := exists_line_of_mem_collectTasks hn
  have hlf := not_mem_of_mem_splitLines (List.getElem_mem hi)
  obtain ⟨hsymbol, _, _⟩ := ListItem.ofLine?_eq_some hlf hitem
  have hnothing : ¬ TaskEdit.AsksNothing ⟨[c], none⟩ (lineTask path i symbol status body) :=
    fun h => hstatus h.1.symm
  have hplan := planRewrite_status path c hi hitem htext
  have hstands : StandsBefore (lineEndOf note) (statusLine (splitLines note)[i] symbol body c) :=
    standsBefore_statusLine hlf hitem hc
  have hsplit := splitLines_joinLines_set hi hstands
  have hfront := markerFront_statusLine hsymbol (splitLines note)[i] body c
  obtain ⟨rest, hrest⟩ := ListItem.ofLine?_front hitem
  refine ⟨i, (splitLines note)[i], statusLine (splitLines note)[i] symbol body c, _, rest,
    ' ' :: '[' :: c :: ']' :: ' ' :: strip body, rfl, List.getElem?_eq_getElem hi, ?_,
    rewriteTask_of_replace hnothing hread hplan, hrest, ?_, hfront, ?_⟩
  · rw [hsplit, List.getElem?_set_self hi]
  · rw [hfront]
    unfold statusLine taskLine
    simp [lineTask]
  · rw [hfront]
    exact leadingBlanks_eq_markerFront_iff _

theorem rewriteTask_keeps_front_iff_quoted :
    ∃ note after, DocumentStore.read quotedStore ['n'] = (.ok note, after) ∧
      quotedTask ∈ collectTasks ['n'] note ∧ quotedTask.text ≠ [] ∧
      quotedTask.status ≠ some ['x'] ∧ 'x' ≠ '\n' ∧
      ∃ (i : Nat) (old new note' rest rest' : Text),
        quotedTask.line = i ∧ (splitLines note)[i]? = some old ∧
        (splitLines note')[i]? = some new ∧
        rewriteTask quotedStore quotedTask ⟨['x'], none⟩ = writeBack after ['n'] note' ∧
        old = markerFront old ++ quotedTask.symbol ++ rest ∧
        new = markerFront new ++ quotedTask.symbol ++ rest' ∧
        markerFront new = leadingBlanks old ∧
        (markerFront new = markerFront old ↔ '>' ∉ markerFront old) := by
  have hmem : quotedTask ∈ collectTasks ['n'] "- [ ] a\r\n> * [] [x] b \n\tc" :=
    List.mem_cons_of_mem _ List.mem_cons_self
  exact ⟨_, _, rfl, hmem, by decide, by decide, by decide,
    rewriteTask_keeps_front_iff rfl hmem (by decide) (by decide) (by decide)⟩

/-- The task of a note that consists of one quoted task. -/
def calloutTask : TaskNode :=
  { path := ['n'], line := 0, lineCount := 1, text := "a", symbol := ['-'],
    status := some [' '], children := [], sectionLink := none, parent := none,
    blockId := none, tags := [] }

/-- The note in memory. -/
def calloutStore : MemoryStore := { documents := [(['n'], "> - [ ] a\n")] }

/-- **A quoted task loses its quote.** -/
theorem rewriteTask_drops_quote :
    calloutTask ∈ collectTasks ['n'] "> - [ ] a\n" ∧
      ∃ text after, rewriteTask calloutStore calloutTask ⟨['x'], none⟩ = (.ok .written, after) ∧
        after.document? ['n'] = some text ∧
        (splitLines "> - [ ] a\n").map markerFront = [['>', ' '], []] ∧
        (splitLines text).map markerFront = [[], []] := by
  refine ⟨List.mem_cons_self, "- [x] a\n", _, rfl, rfl, by decide, by decide⟩

end NoteVault
