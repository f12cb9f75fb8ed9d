import Mathlib.Data.List.Nodup
import NoteVault.Proofs.Note.Outcome
import NoteVault.Proofs.Note.StatusEdit

/-!
# Changing the status of many tasks

The tasks of a note are listed once, and then several of them get a new status, one after the
other, each rewrite reading what the ones before it have left. Nobody lists the tasks again
in between. That works in every order, and the note at the end is always the same.

What makes it work is that a change of status touches one line and keeps the number of lines.
So every task is still on its line when its turn comes, and the lines at the end are the lines
of the note with the line of each changed task replaced. The first change that is written also
gives every line end of the note the same form. Whether that has happened does not matter for
the lines, and the note at the end shows it as soon as any change has been written.

A change has no effect if the task has no text, or already has the status.

## Main results

* `changeStatuses_document` — what the note is after a run.
* `noteAfter_perm` — the order of a run does not matter.
* `changeStatuses_perm` — the note and the statuses at the end of a run, in any order.
-/

namespace NoteVault

open Text

/-- A task of a note and the character that its checkbox is to get. -/
structure StatusChange where
  /-- The task. -/
  task : TaskNode
  /-- The new character. -/
  status : Char

namespace StatusChange

/-- Whether anything is written for a change. -/
def hasEffect (x : StatusChange) : Bool :=
  !x.task.text.isEmpty && x.task.status != some [x.status]

/-- The index of the line of the task. -/
def index (x : StatusChange) : Nat := x.task.line.toNat

/-- The line that the task gets in a note. -/
def newLine (note : Text) (x : StatusChange) : Text :=
  statusLine ((splitLines note).getD x.index []) x.task.symbol x.task.text x.status

/-- The lines of a note with the line of the task replaced, if the change has an effect. -/
def setLine (note : Text) (lines : List Text) (x : StatusChange) : List Text :=
  if x.hasEffect then lines.set x.index (x.newLine note) else lines

end StatusChange

/-- The lines of a note after a run. -/
def linesAfter (note : Text) (changes : List StatusChange) : List Text :=
  changes.foldl (StatusChange.setLine note) (splitLines note)

/-- The note after a run. -/
def noteAfter (note : Text) (changes : List StatusChange) : Text :=
  if changes.any (·.hasEffect) then joinLines (lineEndOf note) (linesAfter note changes) else note

/-- A store after a run: the changes are made one after the other. -/
def changeStatuses (s : MemoryStore) (changes : List StatusChange) : MemoryStore :=
  changes.foldl (fun s x => (rewriteTask s x.task ⟨[x.status], none⟩).2) s

/-! ## The lines after a run -/

section Lines

variable {note : Text} {changes : List StatusChange}

theorem linesAfter_concat (note : Text) (changes : List StatusChange) (x : StatusChange) :
    linesAfter note (changes ++ [x]) = x.setLine note (linesAfter note changes) := by
  simp [linesAfter]

theorem StatusChange.length_setLine (note : Text) (lines : List Text) (x : StatusChange) :
    (x.setLine note lines).length = lines.length := by
  unfold StatusChange.setLine
  split <;> simp

/-- A run keeps the number of lines. -/
theorem length_linesAfter (note : Text) (changes : List StatusChange) :
    (linesAfter note changes).length = (splitLines note).length := by
  induction changes using List.reverseRecOn with
  | nil => rfl
  | append_singleton changes x ih => rw [linesAfter_concat, StatusChange.length_setLine, ih]

theorem StatusChange.newLine_eq {x : StatusChange} (hi : x.index < (splitLines note).length) :
    x.newLine note =
      statusLine (splitLines note)[x.index] x.task.symbol x.task.text x.status := by
  unfold StatusChange.newLine
  rw [List.getD_eq_getElem?_getD, List.getElem?_eq_getElem hi]
  rfl

/-- Changes on different lines may change places. -/
theorem StatusChange.setLine_comm {x y : StatusChange} (note : Text) (lines : List Text)
    (hne : x.index ≠ y.index) :
    y.setLine note (x.setLine note lines) = x.setLine note (y.setLine note lines) := by
  unfold StatusChange.setLine
  by_cases hx : x.hasEffect = true
  · by_cases hy : y.hasEffect = true
    · simp only [if_pos hx, if_pos hy]
      exact List.set_comm _ _ hne
    · simp only [if_neg hy]
  · simp only [if_neg hx]

/-- A line on which no task is changed stays as it is. -/
theorem getElem?_linesAfter_of_ne {i : Nat} (h : ∀ x ∈ changes, x.index ≠ i) :
    (linesAfter note changes)[i]? = (splitLines note)[i]? := by
  induction changes using List.reverseRecOn with
  | nil => rfl
  | append_singleton changes x ih =>
      have hx : x.index ≠ i := h x (by simp)
      rw [linesAfter_concat, StatusChange.setLine]
      split
      · rw [List.getElem?_set_ne hx]
        exact ih fun y hy => h y (by simp [hy])
      · exact ih fun y hy => h y (by simp [hy])

/-- What holds of the lines of a note and of the new lines holds of the lines after a run. -/
theorem forall_mem_linesAfter {P : Text → Prop} (hlines : ∀ line ∈ splitLines note, P line)
    (hnew : ∀ x ∈ changes, P (x.newLine note)) : ∀ line ∈ linesAfter note changes, P line := by
  induction changes using List.reverseRecOn with
  | nil => exact hlines
  | append_singleton changes x ih =>
      have hrest := ih fun y hy => hnew y (by simp [hy])
      intro line hline
      rw [linesAfter_concat, StatusChange.setLine] at hline
      split at hline
      · rcases List.mem_or_eq_of_mem_set hline with hline | rfl
        · exact hrest line hline
        · exact hnew x (by simp)
      · exact hrest line hline

theorem linesAfter_of_not_any (h : ¬ changes.any (·.hasEffect) = true) :
    linesAfter note changes = splitLines note := by
  induction changes using List.reverseRecOn with
  | nil => rfl
  | append_singleton changes x ih =>
      rw [List.any_append, Bool.or_eq_true, not_or] at h
      have hx : x.hasEffect = false := by simpa using h.2
      rw [linesAfter_concat, StatusChange.setLine, hx]
      exact ih h.1

end Lines

/-! ## Changes of tasks that were listed -/

/-- The changes of a run are made to different tasks of a note, and no status is the beginning
of a line end. -/
structure Listed (path note : Text) (changes : List StatusChange) : Prop where
  /-- Every task is one of the note. -/
  mem : ∀ x ∈ changes, x.task ∈ collectTasks path note
  /-- No task is changed twice. -/
  nodup : (changes.map (·.task)).Nodup
  /-- A status leaves a line in one piece. -/
  status : ∀ x ∈ changes, x.status ≠ '\n' ∧ x.status ≠ '\r'

namespace Listed

variable {path note : Text} {changes changes' : List StatusChange} {x y : StatusChange}

theorem perm (h : Listed path note changes) (hperm : changes'.Perm changes) :
    Listed path note changes' where
  mem x hx := h.mem x (hperm.subset hx)
  nodup := (hperm.map _).nodup_iff.mpr h.nodup
  status x hx := h.status x (hperm.subset hx)

theorem of_concat (h : Listed path note (changes ++ [x])) : Listed path note changes where
  mem y hy := h.mem y (by simp [hy])
  nodup := (List.nodup_append.mp (List.map_append ▸ h.nodup)).1
  status y hy := h.status y (by simp [hy])

/-- The task of a change is the list item on its line. -/
theorem exists_line (h : Listed path note changes) (hx : x ∈ changes) :
    ∃ (hi : x.index < (splitLines note).length) (symbol status body : Text),
      ListItem.ofLine? (splitLines note)[x.index] = some ⟨symbol, some status, body⟩ ∧
        lineTask path x.index symbol status body = x.task := by
  obtain ⟨i, hi, symbol, status, body, hitem, hnode⟩ :=
    exists_line_of_mem_collectTasks (h.mem x hx)
  have hindex : x.index = i := by
    unfold StatusChange.index
    rw [← hnode]
    rfl
  subst hindex
  exact ⟨hi, symbol, status, body, hitem, hnode⟩

/-- Different changes are made on different lines. -/
theorem index_ne (h : Listed path note changes) (hx : x ∈ changes) (hy : y ∈ changes)
    (hne : x.task ≠ y.task) : x.index ≠ y.index := by
  intro heq
  obtain ⟨_, _, _, _, _, hnode⟩ := h.exists_line hx
  obtain ⟨_, _, _, _, _, hnode'⟩ := h.exists_line hy
  refine hne (eq_of_line_eq (h.mem x hx) (h.mem y hy) ?_)
  rw [← hnode, ← hnode', heq]
  rfl

/-- The last change of a run is made on a line of its own. -/
theorem index_ne_last (h : Listed path note (changes ++ [x])) (hy : y ∈ changes) :
    y.index ≠ x.index := by
  have hnodup := h.nodup
  rw [List.map_append, List.nodup_append] at hnodup
  refine h.index_ne (by simp [hy]) (by simp) ?_
  exact hnodup.2.2 _ (List.mem_map_of_mem hy) _ (by simp)

/-- The new lines can be joined with the line end of the note. -/
theorem standsBefore_newLine (h : Listed path note changes) (hx : x ∈ changes) :
    StandsBefore (lineEndOf note) (x.newLine note) := by
  obtain ⟨hi, symbol, status, body, hitem, hnode⟩ := h.exists_line hx
  have hlf := not_mem_of_mem_splitLines (List.getElem_mem hi)
  rw [StatusChange.newLine_eq hi, ← hnode]
  exact standsBefore_statusLine hlf hitem (h.status x hx).1

/-- The new lines bring no carriage return into a note that has none. -/
theorem not_mem_newLine (h : Listed path note changes) (hcr : '\r' ∉ note) (hx : x ∈ changes) :
    '\r' ∉ x.newLine note := by
  obtain ⟨hi, symbol, status, body, hitem, hnode⟩ := h.exists_line hx
  have hlf := not_mem_of_mem_splitLines (List.getElem_mem hi)
  have hline : '\r' ∉ (splitLines note)[x.index] := fun hmem =>
    hcr (mem_of_mem_splitLines (List.getElem_mem hi) hmem).1
  obtain ⟨hsymbol, hsuffix, _⟩ := ListItem.ofLine?_eq_some hlf hitem
  have hindent : '\r' ∉ leadingBlanks (splitLines note)[x.index] := fun hmem =>
    hline (mem_leadingBlanks hmem).2
  have hbody : '\r' ∉ strip body := fun hmem => hline (hsuffix.subset (mem_of_mem_strip hmem))
  have hmarker : '\r' ∉ symbol := hsymbol.not_mem (by decide)
  have hstatus : x.status ≠ '\r' := (h.status x hx).2
  rw [StatusChange.newLine_eq hi, ← hnode]
  simp [statusLine, taskLine, lineTask, hindent, hbody, hmarker, hstatus.symm]

/-- **The lines after a run come apart again** when they are joined. -/
theorem splitLines_noteAfter (h : Listed path note changes) :
    splitLines (noteAfter note changes) = linesAfter note changes := by
  unfold noteAfter
  split
  · refine splitLines_joinLines ?_ ?_
    · refine List.ne_nil_of_length_pos ?_
      rw [length_linesAfter]
      exact List.length_pos_iff.mpr (splitLines_ne_nil note)
    · exact forall_mem_linesAfter (fun _ => standsBefore_of_mem_splitLines)
        fun x hx => h.standsBefore_newLine hx
  · next hnone => exact (linesAfter_of_not_any hnone).symm

/-- As long as a change of another task is to come, the note has the line end it had. -/
theorem lineEndOf_noteAfter (h : Listed path note (changes ++ [x])) :
    lineEndOf (noteAfter note changes) = lineEndOf note := by
  unfold noteAfter
  split
  · next hany =>
      refine lineEndOf_joinLines (fun _ => ?_) (fun hcr => ?_)
      · -- a change that was made is on another line than the one to come
        obtain ⟨y, hy, _⟩ := List.any_eq_true.mp hany
        have hne := h.index_ne_last hy
        obtain ⟨hi, _⟩ := h.exists_line (x := x) (by simp)
        obtain ⟨hj, _⟩ := h.exists_line (x := y) (by simp [hy])
        rw [length_linesAfter]
        omega
      · exact forall_mem_linesAfter
          (fun line hline hmem => hcr (mem_of_mem_splitLines hline hmem).1)
          fun y hy => h.of_concat.not_mem_newLine hcr hy
  · rfl

end Listed

/-! ## One change -/

section Step

variable {path note text : Text} {changes : List StatusChange} {x : StatusChange}
  {s : MemoryStore}

/-- A change without effect leaves every document as it is. -/
theorem rewriteTask_of_not_hasEffect (hx : x.hasEffect = false) (hline : 0 ≤ x.task.line)
    (hdoc : s.document? x.task.path = some text) :
    (rewriteTask s x.task ⟨[x.status], none⟩).2.document? x.task.path = some text := by
  by_cases hnothing : TaskEdit.AsksNothing ⟨[x.status], none⟩ x.task
  · rw [rewriteTask_of_asksNothing hnothing]
    exact hdoc
  · have hempty : x.task.text = [] := by
      by_contra hne
      have hstatus : x.task.status = some [x.status] := by
        simpa [StatusChange.hasEffect, hne] using hx
      exact hnothing ⟨hstatus.symm, Or.inl rfl⟩
    have hheld : ¬ x.task.HeldBy text := by
      intro hheld
      refine hheld.first_ne_nil ?_
      rw [hempty]
      rfl
    obtain ⟨reason, hrun⟩ := rewriteTask_memory_notHeld hline hnothing hdoc hheld
    rw [hrun]
    exact hdoc

/-- **The plan of a change in the midst of a run.** The task is on its line, as no change before
has touched it. -/
theorem planRewrite_noteAfter (h : Listed path note (changes ++ [x])) (hx : x.hasEffect = true) :
    planRewrite x.task ⟨[x.status], none⟩ (noteAfter note changes) =
      .ok (.replace (noteAfter note (changes ++ [x]))) := by
  obtain ⟨hi, symbol, status, body, hitem, hnode⟩ := h.exists_line (x := x) (by simp)
  have hsplit := h.of_concat.splitLines_noteAfter
  have hsame : (splitLines (noteAfter note changes))[x.index]? =
      some (splitLines note)[x.index] := by
    rw [hsplit, getElem?_linesAfter_of_ne fun y hy => h.index_ne_last hy,
      List.getElem?_eq_getElem hi]
  obtain ⟨hi', hget⟩ := List.getElem?_eq_some_iff.mp hsame
  have hbody : body ≠ [] := by
    rintro rfl
    rw [StatusChange.hasEffect, ← hnode] at hx
    cases hx
  have hplan := planRewrite_status path x.status hi' (by rw [hget]; exact hitem) hbody
  have hnote : noteAfter note (changes ++ [x]) =
      joinLines (lineEndOf note) ((linesAfter note changes).set x.index (x.newLine note)) := by
    unfold noteAfter
    rw [if_pos (by simp [hx]), linesAfter_concat, StatusChange.setLine, if_pos hx]
  rw [hnode, hget, hsplit, h.lineEndOf_noteAfter] at hplan
  rw [hplan, hnote, StatusChange.newLine_eq hi, ← hnode]
  rfl

/-- **What one change of a run does to the note.** -/
theorem rewriteTask_noteAfter (h : Listed path note (changes ++ [x]))
    (hdoc : s.document? path = some (noteAfter note changes)) :
    (rewriteTask s x.task ⟨[x.status], none⟩).2.document? path =
      some (noteAfter note (changes ++ [x])) := by
  obtain ⟨hi, symbol, status, body, hitem, hnode⟩ := h.exists_line (x := x) (by simp)
  have hpath : x.task.path = path := by rw [← hnode]; rfl
  have hline : 0 ≤ x.task.line := by rw [← hnode]; exact Int.natCast_nonneg _
  subst hpath
  by_cases hx : x.hasEffect = true
  · have hasks : ¬ TaskEdit.AsksNothing ⟨[x.status], none⟩ x.task := by
      rintro ⟨hstatus, _⟩
      simp [StatusChange.hasEffect, ← hstatus] at hx
    have hrun := rewriteTask_of_replace hasks (s.read_of_some hdoc) (planRewrite_noteAfter h hx)
    rw [hrun]
    exact MemoryStore.document?_write_self _ _ _
  · have hx : x.hasEffect = false := Bool.eq_false_iff.mpr hx
    have hsame : noteAfter note (changes ++ [x]) = noteAfter note changes := by
      unfold noteAfter
      rw [List.any_append, linesAfter_concat, StatusChange.setLine, hx]
      simp [hx]
    rw [rewriteTask_of_not_hasEffect hx hline hdoc, hsame]

end Step

/-! ## A whole run -/

section Run

variable {path note : Text} {changes changes' : List StatusChange} {s : MemoryStore}

/-- **What a run does to the note.** -/
theorem changeStatuses_document (h : Listed path note changes)
    (hdoc : s.document? path = some note) :
    (changeStatuses s changes).document? path = some (noteAfter note changes) := by
  induction changes using List.reverseRecOn with
  | nil => exact hdoc
  | append_singleton changes x ih =>
      have hrun : changeStatuses s (changes ++ [x]) =
          (rewriteTask (changeStatuses s changes) x.task ⟨[x.status], none⟩).2 := by
        simp [changeStatuses]
      rw [hrun]
      exact rewriteTask_noteAfter h (ih h.of_concat)

/-- The lines after a run do not depend on its order. -/
theorem linesAfter_perm (h : Listed path note changes) (hperm : changes'.Perm changes) :
    linesAfter note changes' = linesAfter note changes := by
  refine (hperm.symm.foldl_eq' ?_ _).symm
  intro x hx y hy lines
  by_cases htask : x.task = y.task
  · rw [List.inj_on_of_nodup_map h.nodup hx hy htask]
  · exact StatusChange.setLine_comm note lines (h.index_ne hx hy htask)

/-- **The order of a run does not matter.** -/
theorem noteAfter_perm (h : Listed path note changes) (hperm : changes'.Perm changes) :
    noteAfter note changes' = noteAfter note changes := by
  unfold noteAfter
  rw [linesAfter_perm h hperm, hperm.any_eq]

/-- A change with a text, if it is the last one of a run, leaves its status on its line. -/
theorem linesAfter_concat_task {x : StatusChange} (h : Listed path note (changes ++ [x]))
    (htext : x.task.text ≠ []) :
    ∃ line m, (linesAfter note (changes ++ [x]))[x.index]? = some line ∧
      taskOn path x.index line = some m ∧ m.status = some [x.status] := by
  obtain ⟨hi, symbol, status, body, hitem, hnode⟩ := h.exists_line (x := x) (by simp)
  have hlf := not_mem_of_mem_splitLines (List.getElem_mem hi)
  by_cases hx : x.hasEffect = true
  · refine ⟨x.newLine note, lineTask path x.index symbol [x.status] (strip body), ?_, ?_, rfl⟩
    · rw [linesAfter_concat, StatusChange.setLine, if_pos hx, List.getElem?_set_self]
      rw [length_linesAfter]
      exact hi
    · have hnew : x.newLine note =
          statusLine (splitLines note)[x.index] symbol body x.status := by
        rw [StatusChange.newLine_eq hi, ← hnode]
        rfl
      rw [hnew, taskOn_statusLine hlf hitem (h.status x (by simp)).1]
  · -- a task with a text is left alone only if it has the status already
    have hstatus : x.task.status = some [x.status] := by
      simpa [StatusChange.hasEffect, htext] using hx
    refine ⟨(splitLines note)[x.index], x.task, ?_, ?_, hstatus⟩
    · rw [linesAfter_concat, StatusChange.setLine, if_neg hx,
        getElem?_linesAfter_of_ne fun y hy => h.index_ne_last hy, List.getElem?_eq_getElem hi]
    · exact taskOn_eq_some.mpr ⟨symbol, status, body, hitem, hnode⟩

/-- **A run leaves every task with its new status.** -/
theorem exists_task_noteAfter {x : StatusChange} (h : Listed path note changes)
    (hx : x ∈ changes) (htext : x.task.text ≠ []) :
    ∃ m ∈ collectTasks path (noteAfter note changes),
      m.line = x.task.line ∧ m.status = some [x.status] := by
  -- put the change at the end, where its line is the last one that was set
  obtain ⟨front, back, rfl⟩ := List.append_of_mem hx
  have hperm : ((front ++ back) ++ [x]).Perm (front ++ x :: back) :=
    (List.perm_append_singleton x _).trans List.perm_middle.symm
  have hlast := h.perm hperm
  obtain ⟨line, m, hget, htask, hstatus⟩ := linesAfter_concat_task hlast htext
  obtain ⟨_, _, _, _, _, hnode⟩ := h.exists_line hx
  have hline : m.line = x.task.line := by
    rw [line_of_taskOn htask, ← hnode]
    rfl
  refine ⟨m, ?_, hline, hstatus⟩
  unfold collectTasks
  rw [h.splitLines_noteAfter, ← linesAfter_perm h hperm]
  refine mem_tasksFrom_of_taskOn hget ?_
  rw [Nat.zero_add]
  exact htask

/-- **Changes of status may be made in any order.** Tasks that were listed in a note get a new
status one after the other, and the tasks are not listed again in between. In every order this
leaves the same note, and in it every task with a text has its new status. -/
theorem changeStatuses_perm (h : Listed path note changes) (hperm : changes'.Perm changes)
    (hdoc : s.document? path = some note) :
    ∃ final, (changeStatuses s changes).document? path = some final ∧
      (changeStatuses s changes').document? path = some final ∧
      ∀ x ∈ changes, x.task.text ≠ [] →
        ∃ m ∈ collectTasks path final, m.line = x.task.line ∧ m.status = some [x.status] := by
  refine ⟨noteAfter note changes, changeStatuses_document h hdoc, ?_, ?_⟩
  · rw [changeStatuses_document (h.perm hperm) hdoc, noteAfter_perm h hperm]
  · exact fun x hx htext => exists_task_noteAfter h hx htext

end Run

/-- A note with line ends of both kinds, in which the second of two tasks is quoted. -/
def quotedNote : Text := "- [ ] a\r\n> * [] [x] b \n\tc"

/-- Changes of both tasks, the quoted one first. -/
def quotedChanges : List StatusChange :=
  [⟨quotedTask, 'x'⟩, ⟨lineTask ['n'] 0 ['-'] [' '] ['a'], '/'⟩]

theorem changeStatuses_perm_quoted :
    Listed ['n'] quotedNote quotedChanges ∧ quotedChanges.reverse.Perm quotedChanges ∧
      quotedStore.document? ['n'] = some quotedNote ∧
      ∃ final, (changeStatuses quotedStore quotedChanges).document? ['n'] = some final ∧
        (changeStatuses quotedStore quotedChanges.reverse).document? ['n'] = some final ∧
        ∀ x ∈ quotedChanges, x.task.text ≠ [] →
          ∃ m ∈ collectTasks ['n'] final,
            m.line = x.task.line ∧ m.status = some [x.status] := by
  have hlisted : Listed ['n'] quotedNote quotedChanges := by
    refine ⟨?_, ?_, ?_⟩
    · intro x hx
      rcases List.mem_cons.mp hx with rfl | hx
      · exact List.mem_cons_of_mem _ List.mem_cons_self
      · rw [List.mem_singleton.mp hx]
        exact List.mem_cons_self
    · refine List.nodup_cons.mpr ⟨fun hmem => ?_, List.nodup_singleton _⟩
      -- the tasks are on different lines
      exact absurd (congrArg TaskNode.line (List.mem_singleton.mp hmem)) (by decide)
    · decide
  exact ⟨hlisted, List.reverse_perm _, rfl,
    changeStatuses_perm hlisted (List.reverse_perm _) rfl⟩

end NoteVault
