import NoteVault.Note.Rewrite
import NoteVault.Proofs.Line.ListItem
import NoteVault.Proofs.Text.Lines

/-!
# What a rewrite does

A rewrite reads the note, makes a plan and writes at most once. Whatever the store is, the
text that is written is the text of the plan, and the plan depends on the note alone. So
everything said about a written note is said about plans, and plans come apart into three
questions: which line is meant, whether it still holds the task, and which lines take its
place.

## Main results

* `rewriteTask_eq_writeBack`, `rewriteTask_eq_written` — a rewrite writes the text of its plan.
* `planRewrite_eq_replace` — when a plan replaces the text of the note, and by what.
* `skipReason?_eq_none` — when a line holds a task.
* `standsBefore_taskLine` — the line of a task can be joined with the line end of the note.
-/

namespace NoteVault

open Text

/-! ## On a store -/

section Store

variable {σ : Type} [DocumentStore σ] {store after written : σ} {n : TaskNode} {e : TaskEdit}
  {note text : Text}

/-- A rewrite that comes to putting a text at a path: the write is tried once, and the store is
as the write leaves it. -/
def writeBack (store : σ) (path text : Text) : Except RewriteError RewriteOutcome × σ :=
  match DocumentStore.write store path text with
  | (.error error, store) => (.error (.store error), store)
  | (.ok (), store) => (.ok .written, store)

/-- **A plan that replaces the text is carried out by one write.** -/
theorem rewriteTask_eq_writeBack (hvoid : e.isVoid n = false)
    (hread : DocumentStore.read store n.path = (.ok note, after))
    (hplan : planRewrite n e note = .ok (.replace text)) :
    rewriteTask store n e = writeBack after n.path text := by
  unfold rewriteTask
  rw [hvoid, hread]
  simp only [Bool.false_eq_true, if_false]
  rw [hplan]
  rfl

/-- **What is written is the text of the plan.** -/
theorem rewriteTask_eq_written (hread : DocumentStore.read store n.path = (.ok note, after))
    (h : rewriteTask store n e = (.ok .written, written)) :
    ∃ text, planRewrite n e note = .ok (.replace text) ∧
      DocumentStore.write after n.path text = (.ok (), written) := by
  unfold rewriteTask at h
  split at h
  · cases h
  · rw [hread] at h
    dsimp only at h
    cases hplan : planRewrite n e note with
    | error error => rw [hplan] at h; cases h
    | ok plan =>
        cases plan with
        | skip reason => rw [hplan] at h; cases h
        | replace text =>
            rw [hplan] at h
            dsimp only at h
            refine ⟨text, rfl, ?_⟩
            cases hwrite : DocumentStore.write after n.path text with
            | mk result store' =>
                cases result with
                | error error => rw [hwrite] at h; cases h
                | ok _ => rw [hwrite] at h; cases h; rfl

end Store

/-! ## The plan -/

/-- A line holds a task if it is a list item with a body, and its body and the first line of
the text of the task are the same apart from blanks at the ends. -/
theorem skipReason?_eq_none {n : TaskNode} {line : Text} :
    skipReason? n line = none ↔ ∃ item, ListItem.ofLine? line = some item ∧ item.body ≠ [] ∧
      strip (firstLine n.text) = strip item.body := by
  unfold skipReason?
  cases ListItem.ofLine? line with
  | none => simp
  | some item =>
      by_cases hbody : item.body = []
      · simp [hbody]
      · by_cases htext : strip (firstLine n.text) = strip item.body
        · simp [hbody, htext]
        · simp [hbody, htext]

theorem lineIndex?_natCast {count i : Nat} (h : i < count) : lineIndex? count i = some i := by
  unfold lineIndex?
  rw [if_neg (show ¬ (i : Int) < 0 by omega), if_pos ⟨by omega, by omega⟩]
  rfl

/-- **When a plan replaces the text of the note, and by what.** -/
theorem planRewrite_eq_replace {n : TaskNode} {e : TaskEdit} {note text : Text} {i : Nat}
    (hline : n.line = i) :
    planRewrite n e note = .ok (.replace text) ↔
      ∃ hi : i < (splitLines note).length,
        skipReason? n (splitLines note)[i] = none ∧
        text = joinLines (lineEndOf note)
          (editLines n e (splitLines note) i (splitLines note)[i]) := by
  unfold planRewrite
  rw [hline]
  by_cases hi : i < (splitLines note).length
  · have hbound : ¬ ((splitLines note).length : Int) ≤ i := by omega
    have hget : (splitLines note).getD i [] = (splitLines note)[i] := by
      rw [List.getD_eq_getElem?_getD, List.getElem?_eq_getElem hi]
      rfl
    simp only [if_neg hbound, lineIndex?_natCast hi, hget]
    cases hskip : skipReason? n (splitLines note)[i] with
    | some reason =>
        constructor
        · intro h
          cases h
        · rintro ⟨_, h, _⟩
          cases hskip.symm.trans h
    | none =>
        constructor
        · intro h
          cases h
          exact ⟨hi, hskip, rfl⟩
        · rintro ⟨_, _, rfl⟩
          rfl
  · have hbound : ((splitLines note).length : Int) ≤ i := by omega
    simp only [if_pos hbound]
    constructor
    · intro h
      cases h
    · rintro ⟨hi', _⟩
      exact absurd hi' hi

/-! ## The line of a task -/

theorem firstLine_not_mem (s : Text) : '\n' ∉ firstLine s := by
  intro h
  exact absurd (List.mem_takeWhile_imp h) (by decide)

theorem firstLine_eq_self {s : Text} (h : '\n' ∉ s) : firstLine s = s :=
  List.takeWhile_eq_self_iff.mpr fun _ hc => bne_iff_ne.mpr fun heq => h (heq ▸ hc)

theorem TaskEdit.not_mem_checkbox {e : TaskEdit} (h : '\n' ∉ e.status) : '\n' ∉ e.checkbox := by
  unfold TaskEdit.checkbox
  split
  · decide
  · exact h

/-- The line of a task is read back, the text without the blanks at its beginning. -/
theorem ListItem.ofLine?_taskLine {indent symbol text : Text} {c : Char}
    (hindent : ∀ d ∈ indent, isBlank d = true) (hsymbol : IsMarker symbol) (hc : c ≠ '\n')
    (hlf : '\n' ∉ text) :
    ListItem.ofLine? (taskLine indent symbol [c] text) =
      some ⟨symbol, some [c], stripStart text⟩ := by
  have hline := ListItem.ofLine?_checkbox_stripStart hindent hsymbol hc hlf
  unfold taskLine
  simpa using hline

/-- The line of a task can be joined with the line end of the note, unless its text ends with a
carriage return and the note has none. -/
theorem standsBefore_taskLine {note indent symbol status text : Text} (hindent : '\n' ∉ indent)
    (hsymbol : '\n' ∉ symbol) (hstatus : '\n' ∉ status) (htext : '\n' ∉ text)
    (hcr : text.getLast? = some '\r' → '\r' ∈ note) :
    StandsBefore (lineEndOf note) (taskLine indent symbol status text) := by
  have hline : taskLine indent symbol status text =
      (indent ++ symbol ++ ' ' :: '[' :: status ++ [']']) ++ ' ' :: text := by
    unfold taskLine
    simp
  rw [hline]
  refine standsBefore_append_cons ?_ (by decide) htext hcr
  simp [hindent, hsymbol, hstatus]

end NoteVault
