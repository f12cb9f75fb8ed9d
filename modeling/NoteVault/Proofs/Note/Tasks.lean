import NoteVault.Note.Tasks
import NoteVault.Proofs.Line.ListItem

/-!
# The tasks among changed lines

The tasks of a note are found line by line, and each remembers its line. So a change to one
line, from one task to another, changes the list of tasks in the entry of that line and
nowhere else, whatever stands on the other lines.

## Main results

* `mem_tasksFrom`, `mem_tasksFrom_of_taskOn` — a task is the one on its own line.
* `eq_of_line_eq` — no two tasks are on one line.
* `tasksFrom_set` — the tasks when one line is replaced.
-/

namespace NoteVault

open Text

/-- The task on a line, if there is one. -/
def taskOn (path : Text) (line : Nat) (text : Text) : Option TaskNode :=
  (TaskNode.ofLine? path line text).filter (·.isTask)

theorem tasksFrom_cons (path : Text) (line : Nat) (text : Text) (rest : List Text) :
    tasksFrom path line (text :: rest) =
      (taskOn path line text).toList ++ tasksFrom path (line + 1) rest := by
  rw [tasksFrom]
  unfold taskOn
  cases TaskNode.ofLine? path line text with
  | none => rfl
  | some n =>
      dsimp only [Option.filter]
      split <;> rfl

/-- The node of a list item with a checkbox. -/
def lineTask (path : Text) (line : Nat) (symbol status body : Text) : TaskNode :=
  { path, line, lineCount := 1, text := body, symbol,
    status := some (if status.isEmpty then [' '] else status),
    children := [], sectionLink := none, parent := none, blockId := none, tags := [] }

/-- The task on a line is the list item that stands there, with its checkbox. -/
theorem taskOn_eq_some {path text : Text} {line : Nat} {n : TaskNode} :
    taskOn path line text = some n ↔
      ∃ symbol status body, ListItem.ofLine? text = some ⟨symbol, some status, body⟩ ∧
        lineTask path line symbol status body = n := by
  unfold taskOn TaskNode.ofLine?
  cases ListItem.ofLine? text with
  | none => simp
  | some item =>
      obtain ⟨symbol, status, body⟩ := item
      cases status with
      | none => simp [TaskNode.isTask, Option.filter]
      | some status =>
          change some (lineTask path line symbol status body) = some n ↔ _
          constructor
          · intro h
            exact ⟨symbol, status, body, rfl, Option.some.inj h⟩
          · rintro ⟨symbol', status', body', h, rfl⟩
            cases h
            rfl

theorem line_of_taskOn {path text : Text} {line : Nat} {n : TaskNode}
    (h : taskOn path line text = some n) : n.line = line := by
  obtain ⟨symbol, status, body, _, rfl⟩ := taskOn_eq_some.mp h
  rfl

/-- **A task is the one on its own line.** -/
theorem mem_tasksFrom {path : Text} {line : Nat} {lines : List Text} {n : TaskNode}
    (h : n ∈ tasksFrom path line lines) :
    ∃ i, ∃ hi : i < lines.length, taskOn path (line + i) lines[i] = some n := by
  induction lines generalizing line with
  | nil => cases h
  | cons text rest ih =>
      rw [tasksFrom_cons, List.mem_append] at h
      rcases h with h | h
      · exact ⟨0, Nat.succ_pos _, Option.mem_toList.mp h⟩
      · obtain ⟨i, hi, hn⟩ := ih h
        refine ⟨i + 1, Nat.succ_lt_succ hi, ?_⟩
        rw [List.getElem_cons_succ, ← hn]
        congr 1
        omega

/-- A task on a line is found among the tasks. -/
theorem mem_tasksFrom_of_taskOn {path text : Text} {line i : Nat} {lines : List Text}
    {n : TaskNode} (hget : lines[i]? = some text) (h : taskOn path (line + i) text = some n) :
    n ∈ tasksFrom path line lines := by
  induction lines generalizing line i with
  | nil => cases hget
  | cons first rest ih =>
      rw [tasksFrom_cons, List.mem_append]
      cases i with
      | zero =>
          cases hget
          exact Or.inl (Option.mem_toList.mpr h)
      | succ i =>
          refine Or.inr (ih hget ?_)
          rw [← h]
          congr 1
          omega

/-- The nodes found in a note are those of its lines. -/
theorem exists_line_of_mem_collectTasks {path note : Text} {n : TaskNode}
    (hn : n ∈ collectTasks path note) :
    ∃ (i : Nat) (hi : i < (splitLines note).length) (symbol status body : Text),
      ListItem.ofLine? (splitLines note)[i] = some ⟨symbol, some status, body⟩ ∧
        lineTask path i symbol status body = n := by
  obtain ⟨i, hi, htask⟩ := mem_tasksFrom hn
  rw [Nat.zero_add] at htask
  obtain ⟨symbol, status, body, hitem, hnode⟩ := taskOn_eq_some.mp htask
  exact ⟨i, hi, symbol, status, body, hitem, hnode⟩

theorem le_line_of_mem_tasksFrom {path : Text} {line : Nat} {lines : List Text} {n : TaskNode}
    (h : n ∈ tasksFrom path line lines) : (line : Int) ≤ n.line := by
  obtain ⟨i, hi, hn⟩ := mem_tasksFrom h
  rw [line_of_taskOn hn]
  omega

/-- **No two tasks of a note are on one line.** -/
theorem eq_of_line_eq {path note : Text} {n m : TaskNode} (hn : n ∈ collectTasks path note)
    (hm : m ∈ collectTasks path note) (h : n.line = m.line) : n = m := by
  obtain ⟨i, hi, hni⟩ := mem_tasksFrom hn
  obtain ⟨j, hj, hmj⟩ := mem_tasksFrom hm
  have hin := line_of_taskOn hni
  have hjm := line_of_taskOn hmj
  obtain rfl : i = j := by omega
  rw [hni] at hmj
  exact Option.some.inj hmj

/-- An entry is put in the place of none where no task has its line. -/
theorem map_replace_of_ne {tasks : List TaskNode} {line : Int} (n' : TaskNode)
    (h : ∀ m ∈ tasks, m.line ≠ line) :
    tasks.map (fun m => if m.line = line then n' else m) = tasks := by
  have hsame : ∀ m ∈ tasks, (if m.line = line then n' else m) = id m := fun m hm =>
    if_neg (h m hm)
  rw [List.map_congr_left hsame, List.map_id]

/-- **The tasks when one line is replaced**: only the entry of that line changes. -/
theorem tasksFrom_set {path new : Text} {line i : Nat} {lines : List Text} {n n' : TaskNode}
    (hi : i < lines.length) (hold : taskOn path (line + i) lines[i] = some n)
    (hnew : taskOn path (line + i) new = some n') :
    tasksFrom path line (lines.set i new) =
      (tasksFrom path line lines).map fun m => if m.line = n.line then n' else m := by
  have hline := line_of_taskOn hold
  induction lines generalizing line i with
  | nil => cases hi
  | cons text rest ih =>
      cases i with
      | zero =>
          -- every later task stands on a later line
          have hrest : ∀ m ∈ tasksFrom path (line + 1) rest, m.line ≠ n.line := by
            intro m hm
            have := le_line_of_mem_tasksFrom hm
            omega
          have hold : taskOn path line text = some n := hold
          have hnew : taskOn path line new = some n' := hnew
          rw [List.set_cons_zero, tasksFrom_cons, tasksFrom_cons, hold, hnew, List.map_append,
            map_replace_of_ne n' hrest]
          simp
      | succ i =>
          have hfirst : ∀ m ∈ (taskOn path line text).toList, m.line ≠ n.line := by
            intro m hm
            have := line_of_taskOn (Option.mem_toList.mp hm)
            omega
          have hstep : line + 1 + i = line + (i + 1) := by omega
          rw [List.set_cons_succ, tasksFrom_cons, tasksFrom_cons, List.map_append,
            map_replace_of_ne n' hfirst]
          congr 1
          refine ih (Nat.lt_of_succ_lt_succ hi) ?_ ?_ ?_
          · rw [hstep]
            exact hold
          · rw [hstep]
            exact hnew
          · rw [hstep]
            exact hline

end NoteVault
