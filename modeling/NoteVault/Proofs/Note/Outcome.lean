import NoteVault.Proofs.Note.Rewrite
import NoteVault.Proofs.Store.Memory

/-!
# How a rewrite ends

A rewrite can end in six places: before it reads, because nothing is asked of it; at a store
that has no such document; at a note that is too short; at a line that is no list item with a
body; at a line with another text; and at the write. Only the last of them changes a document,
and which of them is reached is decided by three questions: whether the edit asks for
anything, whether there is a document at the path, and whether the document still holds the
task.

The plan of a rewrite cannot fail for a line that is not negative, so a task that is not held
is skipped, and never an error.

## Main results

* `TaskNode.HeldBy.first_ne_nil` — no note holds a task with a blank first line.
* `planRewrite_eq_replace_iff_heldBy` — a plan replaces the text exactly if the note holds the
  task.
* `rewriteTask_effect` — what a rewrite does to documents in memory.
-/

namespace NoteVault

open Text

/-! ## The three questions -/

/-- An edit that asks for what the task already is. -/
def TaskEdit.AsksNothing (e : TaskEdit) (n : TaskNode) : Prop :=
  some e.status = n.status ∧ (e.text = none ∨ e.text = some n.text)

instance (e : TaskEdit) (n : TaskNode) : Decidable (e.AsksNothing n) := by
  unfold TaskEdit.AsksNothing
  infer_instance

theorem TaskEdit.isVoid_iff {e : TaskEdit} {n : TaskNode} :
    e.isVoid n = true ↔ e.AsksNothing n := by
  simp [TaskEdit.isVoid, TaskEdit.AsksNothing]

/-- A note holds a task if it has the line of the task, that line is a list item with a body,
and the body is the first line of the text of the task, apart from blanks at the ends. -/
def TaskNode.HeldBy (n : TaskNode) (note : Text) : Prop :=
  ∃ (i : Nat) (hi : i < (splitLines note).length), n.line = i ∧
    ∃ item, ListItem.ofLine? (splitLines note)[i] = some item ∧ item.body ≠ [] ∧
      strip item.body = strip (firstLine n.text)

section Plan

variable {n : TaskNode} {e : TaskEdit} {note : Text}

theorem TaskNode.heldBy_iff {i : Nat} (hline : n.line = i) :
    n.HeldBy note ↔
      ∃ hi : i < (splitLines note).length, skipReason? n (splitLines note)[i] = none := by
  constructor
  · rintro ⟨j, hj, hline', item, hitem, hbody, htext⟩
    obtain rfl : i = j := by omega
    exact ⟨hj, skipReason?_eq_none.mpr ⟨item, hitem, hbody, htext.symm⟩⟩
  · rintro ⟨hi, hskip⟩
    obtain ⟨item, hitem, hbody, htext⟩ := skipReason?_eq_none.mp hskip
    exact ⟨i, hi, hline, item, hitem, hbody, htext.symm⟩

/-- **No note holds a task with a blank first line.** -/
theorem TaskNode.HeldBy.first_ne_nil (h : n.HeldBy note) :
    strip (firstLine n.text) ≠ [] := by
  obtain ⟨i, hi, _, item, hitem, hbody, htext⟩ := h
  have hlf := not_mem_of_mem_splitLines (List.getElem_mem hi)
  obtain ⟨_, _, hstart⟩ := ListItem.ofLine?_eq_some hlf hitem
  rw [← htext]
  exact strip_ne_nil hbody hstart

/-- **A plan replaces the text exactly if the note holds the task.** -/
theorem planRewrite_eq_replace_iff_heldBy (hline : 0 ≤ n.line) :
    (∃ text, planRewrite n e note = .ok (.replace text)) ↔ n.HeldBy note := by
  obtain ⟨i, hi⟩ := Int.eq_ofNat_of_zero_le hline
  rw [TaskNode.heldBy_iff hi]
  constructor
  · rintro ⟨text, hplan⟩
    obtain ⟨hlt, hskip, _⟩ := (planRewrite_eq_replace hi).mp hplan
    exact ⟨hlt, hskip⟩
  · rintro ⟨hlt, hskip⟩
    exact ⟨_, (planRewrite_eq_replace hi).mpr ⟨hlt, hskip, rfl⟩⟩

/-- The line of a task is looked up only where there is one. -/
theorem planRewrite_ne_error (hline : 0 ≤ n.line) (error : RewriteError) :
    planRewrite n e note ≠ .error error := by
  obtain ⟨i, hi⟩ := Int.eq_ofNat_of_zero_le hline
  unfold planRewrite
  rw [hi]
  by_cases hlt : i < (splitLines note).length
  · have hbound : ¬ ((splitLines note).length : Int) ≤ i := by omega
    simp only [if_neg hbound, lineIndex?_natCast hlt]
    split <;> simp
  · have hbound : ((splitLines note).length : Int) ≤ i := by omega
    simp [hbound]

theorem planRewrite_eq_skip_of_not_heldBy (hline : 0 ≤ n.line) (hheld : ¬ n.HeldBy note) :
    ∃ reason, planRewrite n e note = .ok (.skip reason) := by
  cases hplan : planRewrite n e note with
  | error error => exact absurd hplan (planRewrite_ne_error hline error)
  | ok plan =>
      cases plan with
      | skip reason => exact ⟨reason, rfl⟩
      | replace text =>
          exact absurd ((planRewrite_eq_replace_iff_heldBy hline).mp ⟨text, hplan⟩) hheld

end Plan

/-! ## The ends of a rewrite -/

section Ends

variable {σ : Type} [DocumentStore σ] {store after : σ} {n : TaskNode} {e : TaskEdit}

theorem rewriteTask_of_asksNothing (h : e.AsksNothing n) :
    rewriteTask store n e = (.ok .unchanged, store) := by
  unfold rewriteTask
  rw [if_pos (TaskEdit.isVoid_iff.mpr h)]

theorem rewriteTask_of_read_error {error : StoreError} (h : ¬ e.AsksNothing n)
    (hread : DocumentStore.read store n.path = (.error error, after)) :
    rewriteTask store n e = (.error (.store error), after) := by
  unfold rewriteTask
  rw [if_neg fun hvoid => h (TaskEdit.isVoid_iff.mp hvoid), hread]

theorem rewriteTask_of_skip {note : Text} {reason : SkipReason} (h : ¬ e.AsksNothing n)
    (hread : DocumentStore.read store n.path = (.ok note, after))
    (hplan : planRewrite n e note = .ok (.skip reason)) :
    rewriteTask store n e = (.ok (.skipped reason), after) := by
  unfold rewriteTask
  rw [if_neg fun hvoid => h (TaskEdit.isVoid_iff.mp hvoid), hread]
  simp only [hplan]

theorem rewriteTask_of_replace {note text : Text} (h : ¬ e.AsksNothing n)
    (hread : DocumentStore.read store n.path = (.ok note, after))
    (hplan : planRewrite n e note = .ok (.replace text)) :
    rewriteTask store n e = writeBack after n.path text :=
  rewriteTask_eq_writeBack (Bool.eq_false_iff.mpr fun hvoid => h (TaskEdit.isVoid_iff.mp hvoid))
    hread hplan

end Ends

/-! ## Documents in memory -/

section Memory

variable {s : MemoryStore} {n : TaskNode} {e : TaskEdit} {note : Text}

theorem rewriteTask_memory_missing (h : ¬ e.AsksNothing n) (hdoc : s.document? n.path = none) :
    rewriteTask s n e = (.error (.store (.missing n.path)), s.afterRead n.path) :=
  rewriteTask_of_read_error h (s.read_of_none hdoc)

/-- A task for which something is asked is written if the note holds it. -/
theorem rewriteTask_memory_held (hline : 0 ≤ n.line) (h : ¬ e.AsksNothing n)
    (hdoc : s.document? n.path = some note) (hheld : n.HeldBy note) :
    ∃ text, planRewrite n e note = .ok (.replace text) ∧
      rewriteTask s n e = (.ok .written, (s.afterRead n.path).afterWrite n.path text) := by
  obtain ⟨text, hplan⟩ := (planRewrite_eq_replace_iff_heldBy (e := e) hline).mpr hheld
  exact ⟨text, hplan, rewriteTask_of_replace h (s.read_of_some hdoc) hplan⟩

/-- A task that the note does not hold is skipped. -/
theorem rewriteTask_memory_notHeld (hline : 0 ≤ n.line) (h : ¬ e.AsksNothing n)
    (hdoc : s.document? n.path = some note) (hheld : ¬ n.HeldBy note) :
    ∃ reason, rewriteTask s n e = (.ok (.skipped reason), s.afterRead n.path) := by
  obtain ⟨reason, hplan⟩ := planRewrite_eq_skip_of_not_heldBy (e := e) hline hheld
  exact ⟨reason, rewriteTask_of_skip h (s.read_of_some hdoc) hplan⟩

/-- **Only a task that the note holds is written.** -/
theorem heldBy_of_written (hline : 0 ≤ n.line) (hdoc : s.document? n.path = some note)
    (hwritten : (rewriteTask s n e).1 = .ok .written) : n.HeldBy note := by
  by_contra hheld
  by_cases h : e.AsksNothing n
  · rw [rewriteTask_of_asksNothing h] at hwritten
    cases hwritten
  · obtain ⟨reason, hskip⟩ := rewriteTask_memory_notHeld hline h hdoc hheld
    rw [hskip] at hwritten
    cases hwritten

/-- The store that a rewrite leaves behind differs from the one it found by one read, or by one
read and one write. -/
theorem rewriteTask_memory_store (hline : 0 ≤ n.line) (h : ¬ e.AsksNothing n) :
    (rewriteTask s n e).2 = s.afterRead n.path ∨
      ∃ text, (rewriteTask s n e).2 = (s.afterRead n.path).afterWrite n.path text := by
  cases hdoc : s.document? n.path with
  | none =>
      rw [rewriteTask_memory_missing h hdoc]
      exact Or.inl rfl
  | some note =>
      by_cases hheld : n.HeldBy note
      · obtain ⟨text, _, hrun⟩ := rewriteTask_memory_held hline h hdoc hheld
        rw [hrun]
        exact Or.inr ⟨text, rfl⟩
      · obtain ⟨reason, hrun⟩ := rewriteTask_memory_notHeld hline h hdoc hheld
        rw [hrun]
        exact Or.inl rfl

end Memory

/-- What a rewrite does to documents in memory, `result` being what it returns and `after` the
store it leaves behind. -/
structure RewriteEffect (s : MemoryStore) (n : TaskNode) (e : TaskEdit)
    (result : Except RewriteError RewriteOutcome) (after : MemoryStore) : Prop where
  /-- An edit that asks for nothing leaves the store as it is, with no read added to it. -/
  nothing : e.AsksNothing n → result = .ok .unchanged ∧ after = s
  /-- Any other edit reads once, at the path of the task. -/
  reads : ¬ e.AsksNothing n → after.reads = s.reads ++ [n.path]
  /-- If there is no document, the error of the read is the result. -/
  missing : ¬ e.AsksNothing n → s.document? n.path = none →
    result = .error (.store (.missing n.path)) ∧
      after.documents = s.documents ∧ after.writes = s.writes
  /-- If the document holds the task, it is written once. -/
  held : ¬ e.AsksNothing n → ∀ note, s.document? n.path = some note → n.HeldBy note →
    result = .ok .written ∧ ∃ text, planRewrite n e note = .ok (.replace text) ∧
      after.writes = s.writes ++ [(n.path, text)] ∧ after.document? n.path = some text
  /-- If the document does not hold the task, nothing is written. -/
  notHeld : ¬ e.AsksNothing n → ∀ note, s.document? n.path = some note → ¬ n.HeldBy note →
    (∃ reason, result = .ok (.skipped reason)) ∧
      after.documents = s.documents ∧ after.writes = s.writes
  /-- No other document changes. -/
  others : ∀ path, path ≠ n.path → after.document? path = s.document? path

/-- **What a rewrite does to documents in memory.** -/
theorem rewriteTask_effect (s : MemoryStore) {n : TaskNode} (e : TaskEdit)
    (hline : 0 ≤ n.line) :
    RewriteEffect s n e (rewriteTask s n e).1 (rewriteTask s n e).2 where
  nothing h := by
    rw [rewriteTask_of_asksNothing h]
    exact ⟨rfl, rfl⟩
  reads h := by
    rcases rewriteTask_memory_store (s := s) hline h with hafter | ⟨text, hafter⟩
    · rw [hafter]
      rfl
    · rw [hafter]
      rfl
  missing h hdoc := by
    rw [rewriteTask_memory_missing h hdoc]
    exact ⟨rfl, rfl, rfl⟩
  held h note hdoc hheld := by
    obtain ⟨text, hplan, hrun⟩ := rewriteTask_memory_held hline h hdoc hheld
    rw [hrun]
    exact ⟨rfl, text, hplan, rfl, MemoryStore.document?_write_self _ n.path text⟩
  notHeld h note hdoc hheld := by
    obtain ⟨reason, hrun⟩ := rewriteTask_memory_notHeld hline h hdoc hheld
    rw [hrun]
    exact ⟨⟨reason, rfl⟩, rfl, rfl⟩
  others path hpath := by
    by_cases h : e.AsksNothing n
    · rw [rewriteTask_of_asksNothing h]
    · rcases rewriteTask_memory_store (s := s) hline h with hafter | ⟨text, hafter⟩
      · rw [hafter, MemoryStore.document?_afterRead]
      · rw [hafter, MemoryStore.document?_write_of_ne _ text hpath,
          MemoryStore.document?_afterRead]

/-- A numbered task in the second of two notes. -/
def numberedTask : TaskNode :=
  { path := ['n'], line := 1, lineCount := 1, text := "b", symbol := "1)",
    status := some [' '], children := [], sectionLink := none, parent := none,
    blockId := none, tags := [] }

/-- Two notes in memory, one of which was read before. -/
def numberedStore : MemoryStore :=
  { documents := [(['m'], "- [ ] b"), (['n'], "a\r\n1) [ ]  b \n")], reads := [['m']] }

theorem rewriteTask_effect_numbered :
    0 ≤ numberedTask.line ∧
      RewriteEffect numberedStore numberedTask ⟨[' '], some "c"⟩
        (rewriteTask numberedStore numberedTask ⟨[' '], some "c"⟩).1
        (rewriteTask numberedStore numberedTask ⟨[' '], some "c"⟩).2 :=
  ⟨by decide, rewriteTask_effect numberedStore ⟨[' '], some "c"⟩ (by decide)⟩

end NoteVault
