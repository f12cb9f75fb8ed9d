import NoteVault.Proofs.Note.StatusEdit
import NoteVault.Proofs.Task.Forest
import NoteVault.Task.Markdown

/-!
# Shown tasks are listed again

Tasks are shown as lines that are list items with checkboxes, and the tasks of a note are listed
by reading its lines. For tasks that each take up one line the two are inverse to each other: the
lines shown for some nodes of a forest, read as a note, are the tasks met from the nodes that stay,
in the order of the walk.

The lines of a list of nodes stand to its walk in a relation that names no depth: each line shows
the node at its place in the walk, behind some number of tabs. That is the invariant of the
induction on the nodes, as a tab more in front of the children does not change it.

## Main results

* `shows_lines` — each line shows the node at its place in the walk.
* `tasksFrom_of_shows` — lines that show tasks are read as these tasks.
* `renderTasks_listed` — what is shown of a forest is listed again.
-/

namespace NoteVault

open Text TaskNode

/-- A task that one line shows: the checkbox holds one character that is no line feed, and the text
is one line, not empty and without blanks at its ends. -/
structure OneLineTask (n : TaskNode) : Prop where
  /-- The character in the checkbox. -/
  status : ∃ c, n.status = some [c] ∧ c ≠ '\n'
  /-- There is a text. -/
  text_ne : n.text ≠ []
  /-- The text is one line. -/
  one_line : '\n' ∉ n.text
  /-- The text begins and ends without blanks. -/
  bare : strip n.text = n.text

theorem OneLineTask.status_ne_lf {n : TaskNode} {c : Char} (h : OneLineTask n)
    (hc : n.status = some [c]) : c ≠ '\n' := by
  obtain ⟨d, hd, hlf⟩ := h.status
  obtain rfl : c = d := by simpa using hc.symm.trans hd
  exact hlf

/-- A line shows a task: it is the line of the task behind some tabs. -/
def Shows (n : TaskNode) (line : Text) : Prop :=
  ∃ depth c, n.status = some [c] ∧
    line = taskLine (List.replicate depth '\t') ['-'] [c] n.text

/-- What a task is shown with: its status and its text. -/
def shown (n : TaskNode) : Option Text × Text := (n.status, n.text)

/-! ## The lines of nodes -/

/-- A task that one line shows has one line. -/
theorem ownLines_eq {n : TaskNode} (h : OneLineTask n) (depth : Nat) :
    ∃ line, ownLines depth n.status n.text = [line] ∧ Shows n line := by
  obtain ⟨c, hstatus, _⟩ := h.status
  refine ⟨_, ?_, depth, c, hstatus, rfl⟩
  unfold ownLines taskLine
  rw [splitOn_of_not_mem h.one_line, hstatus]
  simp [itemMarker]

/-- The lines of the items that are not among the nested ones are those of each of them. -/
theorem keptLines_eq (nested : List Text) (depth : Nat) (items : List TaskNode) :
    keptLines nested depth items =
      (items.filter fun n => !nested.contains n.id).flatMap (itemLines depth) := by
  induction items with
  | nil => rfl
  | cons n rest ih =>
      rw [keptLines, ih, List.filter_cons]
      cases nested.contains n.id <;> rfl

theorem keptLines_nestedIds (depth : Nat) (items : List TaskNode) :
    keptLines (nestedIds items) depth items = (nestItems items).flatMap (itemLines depth) := by
  rw [keptLines_eq, nestItems_eq_filter]

theorem itemLines_eq (depth : Nat) (n : TaskNode) :
    itemLines depth n = ownLines depth n.status n.text ++
      (nestItems n.children).flatMap (itemLines (depth + 1)) := by
  rw [← keptLines_nestedIds]
  cases n
  rfl

/-- **Each line shows the node at its place in the walk.** -/
theorem shows_lines {trees : List TaskNode} (hforest : Forest trees)
    (htasks : ∀ n ∈ walkAll trees, OneLineTask n) (depth : Nat) :
    List.Forall₂ Shows (walkAll trees) (trees.flatMap (itemLines depth)) := by
  induction trees using forestInduction generalizing depth with
  | nil => exact .nil
  | cons n rest ihBelow ihRest =>
      have hself : n ∈ walkAll (n :: rest) := mem_walkAll_self List.mem_cons_self
      have hchildren := hforest.children hself
      obtain ⟨line, hline, hshows⟩ := ownLines_eq (htasks n hself) depth
      -- no child is dropped, so the children are shown as they are
      rw [walkAll_cons, List.flatMap_cons, itemLines_eq, hline, hchildren.nestItems_eq_self]
      refine List.rel_append (.cons hshows ?_) ?_
      · exact ihBelow hchildren (fun m hm => htasks m (walkAll_children_subset hself hm)) _
      · refine ihRest hforest.tail (fun m hm => htasks m ?_) _
        rw [walkAll_cons_eq_append]
        exact List.mem_append_right _ hm

/-- Every line shows one of the nodes. -/
theorem exists_shown_of_mem {nodes : List TaskNode} {lines : List Text} {line : Text}
    (h : List.Forall₂ Shows nodes lines) (hline : line ∈ lines) : ∃ n ∈ nodes, Shows n line := by
  induction h with
  | nil => cases hline
  | @cons n first nodes lines hshows _ ih =>
      rcases List.mem_cons.mp hline with rfl | hline
      · exact ⟨n, List.mem_cons_self, hshows⟩
      · obtain ⟨m, hm, hshows⟩ := ih hline
        exact ⟨m, List.mem_cons_of_mem n hm, hshows⟩

/-! ## Reading the lines -/

theorem Shows.ne_nil {n : TaskNode} {line : Text} (h : Shows n line) : line ≠ [] := by
  obtain ⟨depth, c, _, rfl⟩ := h
  unfold taskLine
  simp

/-- A line that shows a task is a line of the note. -/
theorem Shows.standsBefore {n : TaskNode} {line : Text} (h : Shows n line) (hn : OneLineTask n) :
    StandsBefore ['\n'] line := by
  obtain ⟨depth, c, hstatus, rfl⟩ := h
  have hlf := hn.status_ne_lf hstatus
  have hend : lineEndOf [] = ['\n'] := rfl
  rw [← hend]
  refine standsBefore_taskLine ?_ (by decide) ?_ hn.one_line ?_
  · intro hmem
    exact absurd (List.eq_of_mem_replicate hmem) (by decide)
  · exact fun hmem => hlf (List.mem_singleton.mp hmem).symm
  · intro hlast
    rw [← hn.bare] at hlast
    exact absurd hlast (getLast?_strip_ne (by decide))

/-- A line that shows a task is read as the task. -/
theorem Shows.taskOn {n : TaskNode} {line : Text} (h : Shows n line) (hn : OneLineTask n)
    (path : Text) (i : Nat) : (taskOn path i line).map shown = some (shown n) := by
  obtain ⟨depth, c, hstatus, rfl⟩ := h
  have hlf := hn.status_ne_lf hstatus
  have hindent : ∀ d ∈ List.replicate depth '\t', isBlank d = true := by
    intro d hd
    rw [List.eq_of_mem_replicate hd]
    decide
  have hbare : stripStart n.text = n.text := by
    rw [← hn.bare]
    exact stripStart_strip _
  rw [taskOn_taskLine hindent (.bullet '-' (Or.inl rfl)) hlf hn.one_line hbare]
  unfold shown
  rw [hstatus]
  rfl

/-- **Lines that show tasks are read as these tasks.** -/
theorem tasksFrom_of_shows (path : Text) {nodes : List TaskNode} {lines : List Text}
    (h : List.Forall₂ Shows nodes lines) (htasks : ∀ n ∈ nodes, OneLineTask n) (i : Nat) :
    (tasksFrom path i lines).map shown = nodes.map shown := by
  induction h generalizing i with
  | nil => rfl
  | @cons n line nodes lines hshows _ ih =>
      have hread := hshows.taskOn (htasks n List.mem_cons_self) path i
      obtain ⟨m, hm, hmn⟩ := Option.map_eq_some_iff.mp hread
      rw [tasksFrom_cons, hm, Option.toList_some, List.map_append, List.map_singleton, hmn,
        ih (fun k hk => htasks k (List.mem_cons_of_mem n hk))]
      rfl

/-! ## Empty lines at the end -/

/-- The last line is not empty. -/
def EndsFull (lines : List Text) : Prop := ∃ front line, lines = front ++ [line] ∧ line ≠ []

theorem endsFull_of_forall {lines : List Text} (hne : lines ≠ []) (h : ∀ line ∈ lines, line ≠ []) :
    EndsFull lines := by
  rcases List.eq_nil_or_concat lines with rfl | ⟨front, line, rfl⟩
  · exact absurd rfl hne
  · rw [List.concat_eq_append] at h ⊢
    exact ⟨front, line, rfl, h line (by simp)⟩

theorem EndsFull.dropEmptyEnd_eq {lines : List Text} (h : EndsFull lines) :
    dropEmptyEnd lines = lines := by
  obtain ⟨front, line, rfl, hline⟩ := h
  induction front with
  | nil => simp [dropEmptyEnd, hline]
  | cons first front ih =>
      rw [List.cons_append, dropEmptyEnd, ih]
      cases front <;> rfl

/-- A list without empty lines ends with none. -/
theorem dropEmptyEnd_eq_self {lines : List Text} (h : ∀ line ∈ lines, line ≠ []) :
    dropEmptyEnd lines = lines := by
  by_cases hne : lines = []
  · rw [hne]
    rfl
  · exact (endsFull_of_forall hne h).dropEmptyEnd_eq

/-! ## Shown and listed again -/

theorem mapM_asTask (items : List TaskNode) :
    (items.map Value.task).mapM asTask = .ok items := by
  induction items with
  | nil => rfl
  | cons n rest ih =>
      rw [List.map_cons, List.mapM_cons, ih]
      rfl

/-- A list of tasks is a flat result. -/
theorem renderTasks_list (settings : Settings) {items : List TaskNode} (hne : items ≠ []) :
    renderTasks settings (.list (items.map .task)) =
      .ok (joinLines ['\n'] (dropEmptyEnd ((nestItems items).flatMap (itemLines 0)))) := by
  rw [← keptLines_nestedIds]
  obtain ⟨n, rest, rfl⟩ := List.exists_cons_of_ne_nil hne
  have hflat : Grouping.ofValue (.list ((n :: rest).map .task)) =
      .ok (.flat ((n :: rest).map .task)) := rfl
  unfold renderTasks rowsMarkdown
  rw [hflat]
  dsimp only [liftRecord, bind, Except.bind, Grouping.mapM]
  rw [mapM_asTask]
  rfl

/-- **What is shown of a forest is listed again.** For some nodes of a forest of tasks that each
take up one line, wherever the nodes stand in it, the markdown shown for them and read as a note
has, in this order, the tasks met from the nodes that stay: each node that is given, or is below
a given one, is met once, and no other node is. -/
theorem renderTasks_listed (settings : Settings) (path : Text) {trees items : List TaskNode}
    (hforest : Forest trees) (htasks : ∀ n ∈ walkAll trees, OneLineTask n)
    (hne : items ≠ []) (hnodup : items.Nodup) (hsub : items ⊆ walkAll trees) :
    ∃ note, renderTasks settings (.list (items.map .task)) = .ok note ∧
      (collectTasks path note).map shown = (walkAll (nestItems items)).map shown ∧
      (walkAll (nestItems items)).Nodup ∧
      ∀ n, n ∈ walkAll (nestItems items) ↔ ∃ r ∈ items, n = r ∨ n ∈ r.walk := by
  have hkept := hforest.kept hnodup hsub
  have hmem : ∀ n, n ∈ walkAll (nestItems items) ↔ n ∈ walkAll items := fun n =>
    hforest.mem_walkAll_nestItems hsub
  have hone : ∀ n ∈ walkAll (nestItems items), OneLineTask n := fun n hn =>
    htasks n (walkAll_subset hsub ((hmem n).mp hn))
  have hshows := shows_lines hkept hone 0
  -- nothing is empty: there are lines, and there is text on each
  have hlines : (nestItems items).flatMap (itemLines 0) ≠ [] := by
    obtain ⟨n, rest, rfl⟩ := List.exists_cons_of_ne_nil hne
    have hn := (hmem n).mpr (mem_walkAll_self List.mem_cons_self)
    intro hnil
    rw [hnil, List.forall₂_nil_right_iff] at hshows
    rw [hshows] at hn
    cases hn
  have hfull : ∀ line ∈ (nestItems items).flatMap (itemLines 0), line ≠ [] := by
    intro line hline
    obtain ⟨n, _, hn⟩ := exists_shown_of_mem hshows hline
    exact hn.ne_nil
  refine ⟨_, renderTasks_list settings hne, ?_, hkept.nodup, fun n => ?_⟩
  · rw [dropEmptyEnd_eq_self hfull]
    unfold collectTasks
    rw [splitLines_joinLines hlines fun line hline => ?_]
    · exact tasksFrom_of_shows path hshows hone 0
    · obtain ⟨n, hn, hline⟩ := exists_shown_of_mem hshows hline
      exact hline.standsBefore (hone n hn)
  · rw [hmem, mem_walkAll]
    simp only [walk_eq]

/-- A task on a line of a note. -/
def boxedTask (line : Int) (c : Char) (text : Text) (children : List TaskNode) : TaskNode :=
  { path := ['n'], line, lineCount := 1, text, symbol := ['-'], status := some [c], children,
    sectionLink := none, parent := none, blockId := none, tags := [] }

theorem oneLineTask_boxedTask {line : Int} {c : Char} {text : Text} {children : List TaskNode}
    (hc : c ≠ '\n') (htext : text ≠ [] ∧ '\n' ∉ text ∧ strip text = text) :
    OneLineTask (boxedTask line c text children) where
  status := ⟨c, rfl, hc⟩
  text_ne := htext.1
  one_line := htext.2.1
  bare := htext.2.2

/-- A task with a bracket in its checkbox and a text like an item. -/
def innerTask : TaskNode := boxedTask 2 ']' "- [x] b" []

/-- A task with the other bracket, around it. -/
def outerTask : TaskNode := boxedTask 1 '[' "a" [innerTask]

/-- A task with a text like a numbered item. -/
def numberTask : TaskNode := boxedTask 3 'X' "1. [ ]" []

/-- A task that has all of them below it. -/
def bracketTask : TaskNode := boxedTask 0 ' ' "c" [outerTask, numberTask]

theorem renderTasks_listed_brackets :
    ∃ note, renderTasks {} (.list ([innerTask, numberTask, outerTask].map .task)) = .ok note ∧
      (collectTasks ['m'] note).map shown =
        [(some ['X'], ("1. [ ]" : Text)), (some ['['], ("a" : Text)),
          (some [']'], ("- [x] b" : Text))] := by
  have hforest : Forest [bracketTask] := by
    unfold Forest
    decide
  have hwalk : walkAll [bracketTask] = [bracketTask, outerTask, innerTask, numberTask] := rfl
  have htasks : ∀ n ∈ walkAll [bracketTask], OneLineTask n := by
    rw [hwalk]
    simp only [List.forall_mem_cons]
    refine ⟨?_, ?_, ?_, ?_, List.forall_mem_nil _⟩ <;>
      exact oneLineTask_boxedTask (by decide) (by decide)
  have hnodup : [innerTask, numberTask, outerTask].Nodup :=
    List.Nodup.of_map TaskNode.id (by decide)
  have hsub : [innerTask, numberTask, outerTask] ⊆ walkAll [bracketTask] := by
    rw [hwalk]
    simp
  obtain ⟨note, hnote, hlisted, _⟩ :=
    renderTasks_listed {} ['m'] hforest htasks (by decide) hnodup hsub
  exact ⟨note, hnote, hlisted⟩

end NoteVault
