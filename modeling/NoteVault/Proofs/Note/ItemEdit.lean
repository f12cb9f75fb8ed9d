import NoteVault.Proofs.Note.Settled
import NoteVault.Proofs.Note.Splice
import NoteVault.Proofs.Note.Tasks

/-!
# Edits of one line

Every line of a note is a list item or none, and an edit of an item on one line to a text on one
line puts one line in the place of another. So it leaves the items of all other lines, and the
item on the line becomes the one with the new status and the new text.

## Main results

* `itemAt?_of_planRewrite` — the items of a note after such an edit.
* `settled_lineText` — the text of a settled item after it was completed, reopened or neither.
-/

namespace NoteVault

open Text InlineField

/-! ## The items of a note -/

/-- The list item on a line of a note, the lines counted from 0. -/
def itemAt? (path note : Text) (i : Nat) : Option TaskNode :=
  (splitLines note)[i]?.bind (TaskNode.ofLine? path i)

variable {key path note note' : Text} {i : Nat} {n : TaskNode}

/-- What is known of the item on a line. -/
theorem exists_item_of_itemAt? (h : itemAt? path note i = some n) :
    ∃ (hi : i < (splitLines note).length) (item : ListItem),
      ListItem.ofLine? (splitLines note)[i] = some item ∧ n.path = path ∧ n.line = i ∧
        n.lineCount = 1 ∧ n.text = item.body ∧ n.symbol = item.symbol := by
  obtain ⟨line, hline, hnode⟩ := Option.bind_eq_some_iff.mp h
  obtain ⟨hi, rfl⟩ := List.getElem?_eq_some_iff.mp hline
  obtain ⟨item, hitem, rfl⟩ := Option.map_eq_some_iff.mp hnode
  exact ⟨hi, item, hitem, rfl, rfl, rfl, rfl, rfl⟩

/-! ## One line for another -/

/-- The text on the line of a task when an edit is made on one line. -/
def TaskEdit.lineText (e : TaskEdit) (n : TaskNode) : Text :=
  match e.text with
  | none | some [] => strip (firstLine n.text)
  | some text => text

/-- An edit of a task on one line to a text on one line puts one line in the place of another. -/
theorem editLines_lineText {e : TaskEdit} {lines : List Text} (line : Text) (hline : n.line = i)
    (hcount : n.lineCount = 1) (hi : i < lines.length) (hlf : '\n' ∉ e.lineText n) :
    editLines n e lines i line =
      lines.set i (taskLine (leadingBlanks line) n.symbol e.checkbox (e.lineText n)) := by
  rcases e.text_cases with htext | ⟨text, htext, hne⟩
  · unfold editLines TaskEdit.lineText
    rcases htext with htext | htext <;> rw [htext]
  · have hlineText : e.lineText n = text := by
      unfold TaskEdit.lineText
      rw [htext]
      cases text with
      | nil => exact absurd rfl hne
      | cons c text => rfl
    rw [hlineText] at hlf ⊢
    have hblock : taskBlock (leadingBlanks line) n.symbol e.checkbox text =
        [taskLine (leadingBlanks line) n.symbol e.checkbox text] :=
      taskBlock_eq (splitOn_of_not_mem hlf)
    rw [editLines_block line htext hne hline hi (by omega), hblock, hcount, set_eq_replace hi]
    rfl

/-- What an edit on one line leaves of the note: the item on the line has the new status and the
new text, and all other items are as they were. -/
theorem itemAt?_of_planRewrite {e : TaskEdit} {c : Char} (hitem : itemAt? path note i = some n)
    (hstatus : e.status = [c]) (hc : c ≠ '\n') (hlf : '\n' ∉ e.lineText n)
    (hcr : (e.lineText n).getLast? = some '\r' → '\r' ∈ note)
    (hplan : planRewrite n e note = .ok (.replace note')) (j : Nat) :
    itemAt? path note' j = if j = i then
      some (lineTask path i n.symbol [c] (stripStart (e.lineText n))) else itemAt? path note j := by
  obtain ⟨hi, item, hline, _, hnumber, hcount, _, hsymbol⟩ := exists_item_of_itemAt? hitem
  obtain ⟨_, _, rfl⟩ := (planRewrite_eq_replace hnumber).mp hplan
  have hlineLf := not_mem_of_mem_splitLines (List.getElem_mem hi)
  obtain ⟨hmarker, _, _⟩ := ListItem.ofLine?_eq_some hlineLf hline
  have hbox : e.checkbox = [c] := by
    unfold TaskEdit.checkbox
    rw [hstatus]
    rfl
  have hnew : StandsBefore (lineEndOf note)
      (taskLine (leadingBlanks (splitLines note)[i]) n.symbol [c] (e.lineText n)) := by
    refine standsBefore_taskLine ?_ ?_ ?_ hlf hcr
    · exact fun hmem => hlineLf (mem_leadingBlanks hmem).2
    · rw [hsymbol]
      exact hmarker.not_mem (by decide)
    · exact fun hmem => hc (List.mem_singleton.mp hmem).symm
  have hread : TaskNode.ofLine? path i
      (taskLine (leadingBlanks (splitLines note)[i]) n.symbol [c] (e.lineText n)) =
        some (lineTask path i n.symbol [c] (stripStart (e.lineText n))) := by
    unfold TaskNode.ofLine?
    rw [hsymbol, ListItem.ofLine?_taskLine (fun d hd => (mem_leadingBlanks hd).1) hmarker hc hlf]
    rfl
  rw [editLines_lineText _ hnumber hcount hi hlf, hbox]
  unfold itemAt?
  rw [splitLines_joinLines_set hi hnew, List.getElem?_set]
  by_cases hj : j = i
  · rw [if_pos hj, if_pos hj.symm, if_pos hi, hj, Option.bind_some, hread]
  · rw [if_neg hj, if_neg (Ne.symm hj)]

/-! ## Settled items -/

/-- The text that such an edit leaves on the line of a settled item. -/
theorem settled_lineText {e : TaskEdit} {completes : Bool} {today : Date}
    (h : Settled key n.completed n.text) (hkey : IsFieldKey key) (hlf : '\n' ∉ n.text)
    (hne : n.text ≠ []) (hbare : stripStart n.text = n.text)
    (htext : e.text = if completes != n.completed then
      some (setCompletion n.text key (if completes then some today else none)) else none) :
    '\n' ∉ e.lineText n ∧ ((e.lineText n).getLast? = some '\r' → '\r' ∈ n.text) ∧
      Settled key completes (stripStart (e.lineText n)) := by
  by_cases hsame : completes = n.completed
  · have hstrip : e.lineText n = strip n.text := by
      unfold TaskEdit.lineText
      rw [htext, hsame, bne_self_eq_false, if_neg (by decide), firstLine_eq_self hlf]
    rw [hstrip, stripStart_strip, hsame]
    refine ⟨fun hmem => hlf (mem_of_mem_strip hmem), fun hlast => ?_, h.strip hbare⟩
    exact absurd hlast (getLast?_strip_ne (by decide))
  · have hcall : (if completes then some today else none).isSome = completes := by
      cases completes <;> rfl
    have hopposite : n.completed = !(if completes then some today else none).isSome := by
      rw [hcall]
      exact Bool.eq_not.mpr (Ne.symm hsame)
    rw [hopposite] at h
    obtain ⟨hleft, hline, hcr, hsettled⟩ := h.setCompletion hkey hlf hne hbare
    have hlineText : e.lineText n =
        setCompletion n.text key (if completes then some today else none) := by
      unfold TaskEdit.lineText
      rw [htext, if_pos (bne_iff_ne.mpr hsame)]
      split
      · next hnone => cases hnone
      · next hnil => exact absurd (Option.some.inj hnil) hleft
      · next hsome => exact (Option.some.inj hsome).symm
    rw [hlineText]
    rw [hcall] at hsettled
    exact ⟨hline, hcr, hsettled⟩

theorem completed_lineTask (path : Text) (i : Nat) (symbol : Text) (c : Char) (body : Text) :
    (lineTask path i symbol [c] body).completed = (c != ' ') := by
  unfold lineTask TaskNode.completed
  simp [bne]

end NoteVault
