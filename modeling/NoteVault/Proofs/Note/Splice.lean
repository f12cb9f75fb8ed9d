import NoteVault.Proofs.Note.Rewrite
import NoteVault.Store.Memory

/-!
# The text that a rewrite writes

A rewrite replaces a block of lines. What is said here about the text it writes is exact:
which lines there are, that they come apart again as they were put together, and, where all
ends of the note are of one kind, that nothing before the block and nothing behind it is
changed by a single character.

The new lines are described by `TaskEdit.NewLines`, which does not speak of how a text is
cut up: the parts of a new text are the pieces without line feeds that, with line feeds
between them, are the text.

A new text must be free of carriage returns. One at the end of a part would become part of
a bare line feed behind it, and the lines would come apart without it.

## Main results

* `editLines_eq` — a block of lines is replaced by the new lines.
* `TaskEdit.NewLines.standsBefore` — the new lines can be joined with the line end of the note.
* `rewriteTask_splices` — the text that is written.
-/

namespace NoteVault

open Text

/-! ## The new lines -/

/-- The lines that an edit puts in the place of some lines of the note, how many it replaces
being the first argument. The line of the marker keeps the indentation and the marker. -/
inductive TaskEdit.NewLines (n : TaskNode) (e : TaskEdit) (indent : Text) :
    Nat → List Text → Prop
  /-- Without a new text, one line with the first line of the text of the task. -/
  | marker (h : e.text = none ∨ e.text = some []) :
      NewLines n e indent 1
        [indent ++ n.symbol ++ ' ' :: '[' :: e.checkbox ++ ']' :: ' ' :: strip (firstLine n.text)]
  /-- With a new text, its lines, the further ones one tab deeper. -/
  | block (first : Text) (rest : List Text)
      (h : e.text = some (joinLines ['\n'] (first :: rest)))
      (hne : joinLines ['\n'] (first :: rest) ≠ [])
      (hlf : ∀ part ∈ first :: rest, '\n' ∉ part) :
      NewLines n e indent n.lineCount.toNat
        ((indent ++ n.symbol ++ ' ' :: '[' :: e.checkbox ++ ']' :: ' ' :: first) ::
          rest.map fun part => indent ++ '\t' :: part)

namespace TaskEdit.NewLines

variable {n : TaskNode} {e : TaskEdit} {indent : Text} {k : Nat} {block : List Text}

theorem ne_nil (h : e.NewLines n indent k block) : block ≠ [] := by
  cases h <;> exact List.cons_ne_nil _ _

theorem count_pos (h : e.NewLines n indent k block) (hcount : 1 ≤ n.lineCount) : 1 ≤ k := by
  cases h with
  | marker h => exact Nat.le_refl 1
  | block first rest h hne hlf => omega

/-- **The new lines can be joined with the line end of the note.** -/
theorem standsBefore (h : e.NewLines n indent k block) (note : Text) (hindent : '\n' ∉ indent)
    (hstatus : '\n' ∉ e.status) (hsymbol : '\n' ∉ n.symbol)
    (htext : ∀ text, e.text = some text → '\r' ∉ text) :
    ∀ line ∈ block, StandsBefore (lineEndOf note) line := by
  have hbox := TaskEdit.not_mem_checkbox hstatus
  cases h with
  | marker h =>
      intro line hline
      rw [List.mem_singleton.mp hline]
      refine standsBefore_taskLine hindent hsymbol hbox ?_ ?_
      · exact fun hmem => firstLine_not_mem _ (mem_of_mem_strip hmem)
      · exact fun hlast => absurd hlast (getLast?_strip_ne (by decide))
  | block first rest h hne hlf =>
      -- every part is a piece of the new text, which has no carriage return
      have hcr : ∀ part ∈ first :: rest, part.getLast? = some '\r' → '\r' ∈ note := by
        intro part hpart hlast
        have hmem : '\r' ∈ joinLines ['\n'] (first :: rest) :=
          mem_joinLines hpart (List.mem_of_getLast? hlast)
        exact absurd hmem (htext _ h)
      intro line hline
      rcases List.mem_cons.mp hline with rfl | hline
      · exact standsBefore_taskLine hindent hsymbol hbox (hlf first List.mem_cons_self)
          (hcr first List.mem_cons_self)
      · obtain ⟨part, hpart, rfl⟩ := List.mem_map.mp hline
        exact standsBefore_append_cons hindent (by decide)
          (hlf part (List.mem_cons_of_mem _ hpart)) (hcr part (List.mem_cons_of_mem _ hpart))

end TaskEdit.NewLines

/-! ## Replacing lines -/

theorem spliceLines_natCast {lines new : List Text} {i : Nat} (hi : i ≤ lines.length) (k : Nat) :
    spliceLines lines i (i + k) new = lines.take i ++ new ++ lines.drop (i + k) := by
  have hstart : clipIndex lines.length i = i := by
    unfold clipIndex
    rw [if_neg (show ¬ (i : Int) < 0 by omega)]
    omega
  have hstop : clipIndex lines.length (i + k) = min lines.length (i + k) := by
    unfold clipIndex
    rw [if_neg (show ¬ (i : Int) + k < 0 by omega)]
    congr 1
  unfold spliceLines
  simp only [hstart, hstop]
  congr 1
  -- a block that runs past the end of the note is clipped to it
  by_cases hk : i + k ≤ lines.length
  · congr 1
    omega
  · rw [List.drop_eq_nil_of_le (by omega), List.drop_eq_nil_of_le (by omega)]

theorem taskBlock_eq {indent symbol status text first : Text} {rest : List Text}
    (h : splitOn '\n' text = first :: rest) :
    taskBlock indent symbol status text =
      taskLine indent symbol status first :: rest.map fun part => indent ++ '\t' :: part := by
  unfold taskBlock
  rw [h]

/-- A new text that is not empty takes the place of the whole block of the task. -/
theorem editLines_block {n : TaskNode} {e : TaskEdit} {lines : List Text} {i : Nat}
    {text : Text} (line : Text) (htext : e.text = some text) (hne : text ≠ [])
    (hline : n.line = i) (hi : i < lines.length) (hcount : 1 ≤ n.lineCount) :
    editLines n e lines i line = lines.take i ++
      taskBlock (leadingBlanks line) n.symbol e.checkbox text ++
      lines.drop (i + n.lineCount.toNat) := by
  have hstop : n.line + n.lineCount = (i : Int) + n.lineCount.toNat := by omega
  unfold editLines
  rw [htext]
  cases text with
  | nil => exact absurd rfl hne
  | cons c text =>
      dsimp only
      rw [hstop, hline, spliceLines_natCast (Nat.le_of_lt hi)]

/-- The lines of a new text are those that an edit puts in the place of the block. -/
theorem TaskEdit.NewLines.of_taskBlock {n : TaskNode} {e : TaskEdit} {text : Text}
    (indent : Text) (htext : e.text = some text) (hne : text ≠ []) :
    e.NewLines n indent n.lineCount.toNat (taskBlock indent n.symbol e.checkbox text) := by
  have hjoin := joinLines_splitOn text
  obtain ⟨first, rest, hparts⟩ :=
    List.exists_cons_of_ne_nil (show splitOn '\n' text ≠ [] from splitWhere_ne_nil _ text)
  rw [hparts] at hjoin
  rw [taskBlock_eq hparts]
  refine .block first rest ?_ ?_ ?_
  · rw [htext, hjoin]
  · rw [hjoin]
    exact hne
  · intro part hpart hmem
    rw [← hparts] at hpart
    exact (mem_of_mem_splitOn hpart hmem).2 rfl

/-- An empty new text is none. -/
theorem TaskEdit.text_cases (e : TaskEdit) :
    (e.text = none ∨ e.text = some []) ∨ ∃ text, e.text = some text ∧ text ≠ [] := by
  cases h : e.text with
  | none => exact Or.inl (Or.inl rfl)
  | some text =>
      by_cases hne : text = []
      · exact Or.inl (Or.inr (by rw [hne]))
      · exact Or.inr ⟨text, rfl, hne⟩

/-- **A block of lines is replaced by the new lines.** -/
theorem editLines_eq {n : TaskNode} {lines : List Text} {i : Nat} (e : TaskEdit) (line : Text)
    (hline : n.line = i) (hi : i < lines.length) (hcount : 1 ≤ n.lineCount) :
    ∃ k block, e.NewLines n (leadingBlanks line) k block ∧
      editLines n e lines i line = lines.take i ++ block ++ lines.drop (i + k) := by
  rcases e.text_cases with htext | ⟨text, htext, hne⟩
  · refine ⟨1, _, .marker htext, ?_⟩
    rw [← set_eq_replace hi]
    unfold editLines
    rcases htext with htext | htext <;> rw [htext] <;> rfl
  · exact ⟨_, _, .of_taskBlock _ htext hne, editLines_block line htext hne hline hi hcount⟩

/-! ## The written text -/

/-- The text of a note before one of its lines. -/
def textBefore (note : Text) (i : Nat) : Text :=
  ((splitLines note).take i).flatMap (· ++ lineEndOf note)

/-- The text of a note from the end of the line before a line on. -/
def textBehind (note : Text) (i : Nat) : Text :=
  ((splitLines note).drop i).flatMap (lineEndOf note ++ ·)

/-- A text whose lines are those of a note with a block replaced is the text of the note
before the block, the new lines, and the text of the note behind the block. -/
theorem joinLines_replaceLines {note : Text} {i k : Nat} {block : List Text} (h : block ≠ []) :
    joinLines (lineEndOf note)
        ((splitLines note).take i ++ block ++ (splitLines note).drop (i + k)) =
      textBefore note i ++ joinLines (lineEndOf note) block ++ textBehind note (i + k) :=
  joinLines_splice h

/-- A note with line ends of one kind is its text before a block of lines, the block, and its
text behind the block. -/
theorem eq_before_block_behind {note : Text} (h : UniformEnds note) {i k : Nat}
    (hi : i < (splitLines note).length) (hk : 1 ≤ k) :
    note = textBefore note i ++
      joinLines (lineEndOf note) (((splitLines note).drop i).take k) ++
      textBehind note (i + k) := by
  have hne : ((splitLines note).drop i).take k ≠ [] := by
    intro hnil
    have hlength := congrArg List.length hnil
    rw [List.length_take, List.length_drop, List.length_nil] at hlength
    omega
  have hlines : (splitLines note).take i ++ ((splitLines note).drop i).take k ++
      (splitLines note).drop (i + k) = splitLines note := by
    rw [List.append_assoc, ← List.drop_drop, List.take_append_drop, List.take_append_drop]
  rw [← joinLines_replaceLines hne, hlines, joinLines_splitLines h]

/-- **The text that is written.** If a rewrite of a task on the line `i` writes, then what it
writes are the lines of the note with the new lines in the place of `k` of them, joined with
the line end of the note. These come apart again as just these lines. If all line ends of the
note are of one kind, the text of the note before the line `i` and behind the `k` lines is
there as it was. -/
theorem rewriteTask_splices {σ : Type} [DocumentStore σ] {store after written : σ}
    {n : TaskNode} {e : TaskEdit} {note : Text} {i : Nat}
    (hread : DocumentStore.read store n.path = (.ok note, after))
    (hwritten : rewriteTask store n e = (.ok .written, written))
    (hline : n.line = i) (hcount : 1 ≤ n.lineCount)
    (hstatus : '\n' ∉ e.status) (hsymbol : '\n' ∉ n.symbol)
    (htext : ∀ text, e.text = some text → '\r' ∉ text) :
    ∃ hi : i < (splitLines note).length, ∃ k block text,
      e.NewLines n (leadingBlanks (splitLines note)[i]) k block ∧
      planRewrite n e note = .ok (.replace text) ∧
      DocumentStore.write after n.path text = (.ok (), written) ∧
      text = joinLines (lineEndOf note)
        ((splitLines note).take i ++ block ++ (splitLines note).drop (i + k)) ∧
      splitLines text = (splitLines note).take i ++ block ++ (splitLines note).drop (i + k) ∧
      (UniformEnds note →
        note = textBefore note i ++
          joinLines (lineEndOf note) (((splitLines note).drop i).take k) ++
          textBehind note (i + k) ∧
        text = textBefore note i ++ joinLines (lineEndOf note) block ++
          textBehind note (i + k)) := by
  obtain ⟨text, hplan, hwrite⟩ := rewriteTask_eq_written hread hwritten
  obtain ⟨hi, _, rfl⟩ := (planRewrite_eq_replace hline).mp hplan
  obtain ⟨k, block, hnew, hedit⟩ := editLines_eq e (splitLines note)[i] hline hi hcount
  have hindent : '\n' ∉ leadingBlanks (splitLines note)[i] := fun hmem =>
    not_mem_of_mem_splitLines (List.getElem_mem hi) (mem_leadingBlanks hmem).2
  have hblock := hnew.standsBefore note hindent hstatus hsymbol htext
  have hsplit := splitLines_joinLines_replace i (i + k) hnew.ne_nil hblock
  rw [hedit] at hplan hwrite
  refine ⟨hi, k, block, _, hnew, hplan, hwrite, rfl, hsplit, ?_⟩
  intro huniform
  exact ⟨eq_before_block_behind huniform hi (hnew.count_pos hcount),
    joinLines_replaceLines hnew.ne_nil⟩

/-- A task that takes up two lines. -/
def nestedTask : TaskNode :=
  { path := ['n'], line := 1, lineCount := 2, text := "b\nmore", symbol := ['+'],
    status := some ['x'], children := [], sectionLink := none, parent := none,
    blockId := none, tags := [] }

/-- The note of the task in memory. -/
def nestedStore : MemoryStore :=
  { documents := [(['n'], "- [ ] a\r\n  + [x] b\r\n\tmore\r\nend")] }

/-- A new text of two lines for an open task. -/
def nestedEdit : TaskEdit := { status := [], text := some "c\n[d]" }

theorem rewriteTask_splices_nested :
    ∃ note after written, DocumentStore.read nestedStore nestedTask.path = (.ok note, after) ∧
      rewriteTask nestedStore nestedTask nestedEdit = (.ok .written, written) ∧
      nestedTask.line = (1 : Nat) ∧ 1 ≤ nestedTask.lineCount ∧ '\n' ∉ nestedEdit.status ∧
      '\n' ∉ nestedTask.symbol ∧ (∀ text, nestedEdit.text = some text → '\r' ∉ text) ∧
      ∃ hi : 1 < (splitLines note).length, ∃ k block text,
        nestedEdit.NewLines nestedTask (leadingBlanks (splitLines note)[1]) k block ∧
        planRewrite nestedTask nestedEdit note = .ok (.replace text) ∧
        DocumentStore.write after nestedTask.path text = (.ok (), written) ∧
        text = joinLines (lineEndOf note)
          ((splitLines note).take 1 ++ block ++ (splitLines note).drop (1 + k)) ∧
        splitLines text = (splitLines note).take 1 ++ block ++ (splitLines note).drop (1 + k) ∧
        (UniformEnds note →
          note = textBefore note 1 ++
            joinLines (lineEndOf note) (((splitLines note).drop 1).take k) ++
            textBehind note (1 + k) ∧
          text = textBefore note 1 ++ joinLines (lineEndOf note) block ++
            textBehind note (1 + k)) := by
  have htext : ∀ text, nestedEdit.text = some text → '\r' ∉ text := by
    intro text h
    rw [← Option.some.inj h]
    decide
  have hread : DocumentStore.read nestedStore nestedTask.path =
      (.ok "- [ ] a\r\n  + [x] b\r\n\tmore\r\nend", { nestedStore with reads := [['n']] }) := rfl
  have hwritten : rewriteTask nestedStore nestedTask nestedEdit =
      (.ok .written, (rewriteTask nestedStore nestedTask nestedEdit).2) := rfl
  exact ⟨_, _, _, hread, hwritten, rfl, by decide, by decide, by decide, htext,
    rewriteTask_splices hread hwritten rfl (by decide) (by decide) (by decide) htext⟩

end NoteVault
