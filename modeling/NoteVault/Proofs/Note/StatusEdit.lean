import NoteVault.Proofs.Note.Rewrite
import NoteVault.Proofs.Note.Tasks
import NoteVault.Store.Memory

/-!
# Changing the status of one task

The nodes of a note are found by reading its lines, and a node is written back by putting a
line together. The two have nothing in common in their code, so what ties them is proved
here: the line that is written for a task found on a line holds that task again, with the
new status and the text without blanks at the end, and every other line of the note is
there as before. Listing the tasks of the changed note therefore gives the list of before
with one entry changed.

A task with no text is left out. Its line is a list item without a body, which a rewrite
takes for a line that holds no task.

## Main results

* `taskOn_taskLine` — the line of a task holds the task.
* `rewriteTask_changes_one_task` — a change of status changes one entry of the task list.
-/

namespace NoteVault

open Text

/-- **The line of a task holds the task.** -/
theorem taskOn_taskLine {path indent symbol text : Text} {line : Nat} {c : Char}
    (hindent : ∀ d ∈ indent, isBlank d = true) (hsymbol : IsMarker symbol) (hc : c ≠ '\n')
    (hlf : '\n' ∉ text) (htext : stripStart text = text) :
    taskOn path line (taskLine indent symbol [c] text) =
      some (lineTask path line symbol [c] text) := by
  refine taskOn_eq_some.mpr ⟨symbol, [c], text, ?_, rfl⟩
  rw [ListItem.ofLine?_taskLine hindent hsymbol hc hlf, htext]

/-- The line that is written for a task found on a line. -/
def statusLine (line symbol body : Text) (c : Char) : Text :=
  taskLine (leadingBlanks line) symbol [c] (strip body)

/-- A task found on a line is found again on the line written for it. -/
theorem taskOn_statusLine {path line : Text} {i : Nat} {item : ListItem} {c : Char}
    (hlf : '\n' ∉ line) (hitem : ListItem.ofLine? line = some item) (hc : c ≠ '\n') :
    taskOn path i (statusLine line item.symbol item.body c) =
      some (lineTask path i item.symbol [c] (strip item.body)) := by
  obtain ⟨hsymbol, hsuffix, _⟩ := ListItem.ofLine?_eq_some hlf hitem
  refine taskOn_taskLine (fun d hd => (mem_leadingBlanks hd).1) hsymbol hc ?_ (stripStart_strip _)
  intro hmem
  exact hlf (hsuffix.subset (mem_of_mem_strip hmem))

/-- The line written for a task can be joined with the line end of the note. -/
theorem standsBefore_statusLine {note line : Text} {item : ListItem} {c : Char}
    (hlf : '\n' ∉ line) (hitem : ListItem.ofLine? line = some item) (hc : c ≠ '\n') :
    StandsBefore (lineEndOf note) (statusLine line item.symbol item.body c) := by
  obtain ⟨hsymbol, hsuffix, _⟩ := ListItem.ofLine?_eq_some hlf hitem
  refine standsBefore_taskLine ?_ (hsymbol.not_mem (by decide)) ?_ ?_ ?_
  · exact fun hmem => hlf (mem_leadingBlanks hmem).2
  · exact fun hmem => hc (List.mem_singleton.mp hmem).symm
  · exact fun hmem => hlf (hsuffix.subset (mem_of_mem_strip hmem))
  · exact fun hlast => absurd hlast (getLast?_strip_ne (by decide))

/-- The plan that changes the status of a task found in a note. -/
theorem planRewrite_status (path : Text) (c : Char) {note symbol status body : Text} {i : Nat}
    (hi : i < (splitLines note).length)
    (hitem : ListItem.ofLine? (splitLines note)[i] = some ⟨symbol, some status, body⟩)
    (hbody : body ≠ []) :
    planRewrite (lineTask path i symbol status body) ⟨[c], none⟩ note =
      .ok (.replace (joinLines (lineEndOf note)
        ((splitLines note).set i (statusLine (splitLines note)[i] symbol body c)))) := by
  have hlf := not_mem_of_mem_splitLines (List.getElem_mem hi)
  obtain ⟨_, hsuffix, _⟩ := ListItem.ofLine?_eq_some hlf hitem
  -- the text of the task is one line, the body it was found with
  have hfirst : firstLine body = body := firstLine_eq_self fun hmem => hlf (hsuffix.subset hmem)
  refine (planRewrite_eq_replace rfl).mpr ⟨hi, ?_, ?_⟩
  · refine skipReason?_eq_none.mpr ⟨_, hitem, hbody, ?_⟩
    exact congrArg strip hfirst
  · unfold editLines statusLine
    dsimp only [lineTask]
    rw [hfirst]
    rfl

/-- **A change of status changes one entry of the task list.** For every store that holds the
note, and every task with a text that is found in it, giving the task another status comes to
one write of a text with as many lines. The tasks of that text are those of the note, except
that the entry of the line has the new status and its text without blanks at the ends. -/
theorem rewriteTask_changes_one_task {σ : Type} [DocumentStore σ] {store after : σ}
    {path note : Text} {n : TaskNode} {c : Char}
    (hread : DocumentStore.read store path = (.ok note, after))
    (hn : n ∈ collectTasks path note) (htext : n.text ≠ []) (hstatus : n.status ≠ some [c])
    (hc : c ≠ '\n') :
    ∃ note', planRewrite n ⟨[c], none⟩ note = .ok (.replace note') ∧
      rewriteTask store n ⟨[c], none⟩ = writeBack after path note' ∧
      (splitLines note').length = (splitLines note).length ∧
      collectTasks path note' = (collectTasks path note).map fun m =>
        if m.line = n.line then { n with status := some [c], text := strip n.text } else m := by
  obtain ⟨i, hi, htask⟩ := mem_tasksFrom hn
  rw [Nat.zero_add] at htask
  obtain ⟨symbol, status, body, hitem, rfl⟩ := taskOn_eq_some.mp htask
  have hlf := not_mem_of_mem_splitLines (List.getElem_mem hi)
  have hnew : StandsBefore (lineEndOf note) (statusLine (splitLines note)[i] symbol body c) :=
    standsBefore_statusLine hlf hitem hc
  have hsplit := splitLines_joinLines_set hi hnew
  have hvoid : TaskEdit.isVoid ⟨[c], none⟩ (lineTask path i symbol status body) = false := by
    unfold TaskEdit.isVoid
    rw [decide_eq_false (Ne.symm hstatus), Bool.false_and]
  have hplan := planRewrite_status path c hi hitem htext
  refine ⟨_, hplan, rewriteTask_eq_writeBack hvoid hread hplan, ?_, ?_⟩
  · rw [hsplit, List.length_set]
  · unfold collectTasks
    rw [hsplit]
    refine tasksFrom_set hi ?_ ?_
    · rw [Nat.zero_add]
      exact htask
    · rw [Nat.zero_add, taskOn_statusLine hlf hitem hc]
      rfl

/-- A quoted task with an empty checkbox, the text of which begins like a checkbox. -/
def quotedTask : TaskNode :=
  { path := ['n'], line := 1, lineCount := 1, text := "[x] b ", symbol := ['*'],
    status := some [' '], children := [], sectionLink := none, parent := none,
    blockId := none, tags := [] }

/-- A note in memory with line ends of both kinds. -/
def quotedStore : MemoryStore := { documents := [(['n'], "- [ ] a\r\n> * [] [x] b \n\tc")] }

theorem rewriteTask_changes_one_task_quoted :
    ∃ note after, DocumentStore.read quotedStore ['n'] = (.ok note, after) ∧
      quotedTask ∈ collectTasks ['n'] note ∧ quotedTask.text ≠ [] ∧
      quotedTask.status ≠ some ['x'] ∧ 'x' ≠ '\n' ∧
      ∃ note', planRewrite quotedTask ⟨['x'], none⟩ note = .ok (.replace note') ∧
        rewriteTask quotedStore quotedTask ⟨['x'], none⟩ = writeBack after ['n'] note' ∧
        (splitLines note').length = (splitLines note).length ∧
        collectTasks ['n'] note' = (collectTasks ['n'] note).map fun m =>
          if m.line = quotedTask.line then
            { quotedTask with status := some ['x'], text := strip quotedTask.text }
          else m := by
  have hmem : quotedTask ∈ collectTasks ['n'] "- [ ] a\r\n> * [] [x] b \n\tc" :=
    List.mem_cons_of_mem _ List.mem_cons_self
  exact ⟨_, _, rfl, hmem, by decide, by decide, by decide,
    rewriteTask_changes_one_task rfl hmem (by decide) (by decide) (by decide)⟩

end NoteVault
