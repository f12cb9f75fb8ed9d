import NoteVault.Line.ListItem
import NoteVault.Text.Lines

/-!
# The tasks of a note

Every line of a note that is a list item with a checkbox is a task of its own, from
top to bottom.
-/

namespace NoteVault

/-- The tasks on some lines, the first of which has the number `line`. -/
def tasksFrom (path : Text) (line : Nat) : List Text → List TaskNode
  | [] => []
  | text :: rest =>
    match TaskNode.ofLine? path line text with
    | some n => if n.isTask then n :: tasksFrom path (line + 1) rest else tasksFrom path (line + 1) rest
    | none => tasksFrom path (line + 1) rest

/-- The tasks of a note. -/
def collectTasks (path note : Text) : List TaskNode := tasksFrom path 0 (Text.splitLines note)

end NoteVault
